import Handover.Proofs.Server.Bearing
import Handover.Proofs.Service.Timing

namespace Handover.Lifecycle

/-- The service has that drain timeout, and without one it is not watched. -/
structure Limited (limit : Option Span) (l : Lifecycle) : Prop where
  given : l.drainTimeout = limit
  unwatched : limit = none → l.Unwatched

/-- A stop that takes effect sets the watchdog exactly if there is a drain timeout; without one it is never set. -/
structure Arms (limit : Option Span) (l : Lifecycle) : Prop where
  given : l.drainTimeout = limit
  stopped : ∀ now, (l.shutdown now).1 = true → (l.shutdown now).2.watchdog = limit.map (Clock.due now)
  returned : ∀ now e l', l.step? now e = some l' → l.returns e = true → l'.watchdog = limit.map (Clock.due now)
  never : limit = none → l.watchdog = none

variable {limit : Option Span} {l l' : Lifecycle} {now : Nat}

theorem Unwatched.of_quiet (unwatched : l.Unwatched) (same : l.Untimed l') : l'.Unwatched :=
  ⟨same.watchdog.trans unwatched.watchdog, same.forcing.trans unwatched.forcing, same.forced.trans unwatched.forced⟩

namespace Limited

theorem onListener (listener : Listener) (given : Option Span) :
    Limited (positive? given) (onListener listener given) :=
  ⟨rfl, fun _ => ⟨rfl, rfl, rfl⟩⟩

theorem untimed (limited : Limited limit l) (same : l.Untimed l') : Limited limit l' :=
  ⟨same.limit.trans limited.given, fun unlimited => (limited.unwatched unlimited).of_quiet same⟩

theorem step? {e : Event} (limited : Limited limit l) (run : l.step? now e = some l') : Limited limit l' :=
  ⟨(timing_of_step? run).1.trans limited.given, fun unlimited =>
    (limited.unwatched unlimited).step? run (Or.inl (limited.given.trans unlimited))⟩

theorem leads (limited : Limited limit l) (leads : l.Leads l') : Limited limit l' := by
  induction leads with
  | refl => exact limited
  | tail _ last ih =>
    obtain ⟨_, _, run⟩ := last
    exact ih.step? run

theorem arm (limited : Limited limit l) (now : Nat) :
    Limited limit (l.arm now) ∧ (l.arm now).watchdog = limit.map (Clock.due now) := by
  obtain ⟨given, unwatched⟩ := limited
  rcases l.arm_eq now with ⟨unlimited, same⟩ | ⟨span, some_, armed⟩
  · rw [given] at unlimited
    rw [same, unlimited]
    exact ⟨⟨given.trans unlimited, fun _ => unwatched unlimited⟩, (unwatched unlimited).watchdog⟩
  · rw [given] at some_
    rw [armed, some_]
    exact ⟨⟨given.trans some_, nofun⟩, rfl⟩

/-- A stop at once sets the watchdog, if it takes effect. -/
theorem shutdown (limited : Limited limit l) (now : Nat) :
    Limited limit (l.shutdown now).2 ∧
      ((l.shutdown now).1 = true → (l.shutdown now).2.watchdog = limit.map (Clock.due now)) := by
  rcases l.beginStop_cases with ⟨_, late⟩ | ⟨_, taken⟩
  · rw [Lifecycle.shutdown, late]
    exact ⟨limited, fun stopped => absurd stopped Bool.false_ne_true⟩
  · rw [Lifecycle.shutdown, taken]
    have draining : Limited limit { l with phase := .draining } := limited.untimed ⟨rfl, rfl, rfl, rfl⟩
    have closed := draining.untimed (quiet_closeListener _).toUntimed
    exact ⟨(closed.arm now).1, fun _ => (closed.arm now).2⟩

/-- A watchdog that is not set does not look. -/
theorem fireWatchdog? {notices : List Notice} (limited : Limited limit l)
    (run : l.fireWatchdog? now = some (l', notices)) : Limited limit l' := by
  obtain ⟨given, unwatched⟩ := limited
  refine ⟨?_, fun unlimited => ?_⟩
  · unfold Lifecycle.fireWatchdog? at run
    split at run
    · split at run
      · split at run
        · cases run
          exact (quiet_terminate _).limit.trans given
        · cases run
          exact given
      · cases run
    · cases run
  · rw [Lifecycle.fireWatchdog?, (unwatched unlimited).watchdog] at run
    cases run

theorem bears {p : Server} {o : Nat} {m : Move} (limited : Limited limit l) (bears : Server.Bears now p o m l l') :
    Limited limit l' := by
  cases bears with
  | keep => exact limited
  | event _ _ run => exact limited.step? run
  | watchdog _ run => exact limited.fireWatchdog? run
  | close => exact limited.untimed l.quiet_closeListener.toUntimed
  | stop => exact (limited.shutdown now).1

/-- The task of a stop returns with the watchdog set. -/
theorem stopping {stop stop' : StopPlace} {next : Lifecycle} (limited : Limited limit l)
    (step : Stopping now l stop stop' next) (arming : stop = .arming) :
    next.watchdog = limit.map (Clock.due now) := by
  subst arming
  cases step
  exact (limited.arm now).2

theorem arms (limited : Limited limit l) : Arms limit l := by
  refine ⟨limited.given, fun now => (limited.shutdown now).2, fun now e l' run returns => ?_, fun unlimited =>
    (limited.unwatched unlimited).watchdog⟩
  cases occurs_of_step? run with
  | stopping atStop step =>
    rw [Lifecycle.returns, atStop] at returns
    have armed := limited.stopping step (Option.some.inj (of_decide_eq_true returns))
    exact armed
  | loop atLoop step =>
    rw [Lifecycle.returns, atLoop] at returns
    have place := Option.some.inj (of_decide_eq_true returns)
    cases step with
    | stop atPlace step =>
      have armed := limited.stopping step (LoopPlace.stopping.inj (atPlace.symm.trans place))
      exact armed
    | start atPlace | wait atPlace | refuse atPlace | accept atPlace | pause atPlace | wake atPlace | resume atPlace
    | stopped atPlace | drained atPlace | finish atPlace => cases atPlace.symm.trans place
  | start | run | stop | close | expire | lapse | force | finish | connection | arrive | trouble => cases returns

end Limited

end Handover.Lifecycle
