import Handover.Proofs.Service.Safety

namespace Handover

theorem Phase.eq_draining_of_next {p q : Phase} (next : p.Next q) (before : p.isPast = false)
    (after : q.isPast = true) : q = draining := by
  cases next with
  | start => cases after
  | cancel | stop => rfl
  | finish => cases before

theorem Phase.eq_of_isPast {p : Phase} (past : p.isPast = true) : p = draining ∨ p = terminated := by
  cases p with
  | initializing | running => cases past
  | draining => exact Or.inl rfl
  | terminated => exact Or.inr rfl

namespace Lifecycle

/-- How an event bears on the watchdog and on the use of force. -/
inductive Timing (now : Nat) (l : Lifecycle) (e : Event) (l' : Lifecycle) : Prop
  | keep : l.drainTimeout = none ∨ l.returns e = false → l'.watchdog = l.watchdog → l'.forcing = l.forcing →
      l'.forced = l.forced → Timing now l e l'
  | arm {limit} : l.drainTimeout = some limit → l.returns e = true → l'.watchdog = some (Clock.due now limit) →
      l'.forcing = l.forcing → l'.forced = l.forced → Timing now l e l'
  | expire {due} : e = .look → l.watchdog = some due → due ≤ now → l.phase = .draining → l'.watchdog = none →
      l'.forcing = some .forcing → l'.forced = l.forced → Timing now l e l'
  | lapse {due} : l.watchdog = some due → l.phase ≠ .draining → l'.watchdog = none → l'.forcing = l.forcing →
      l'.forced = l.forced → Timing now l e l'
  | force : l.forcing = some .forcing → l'.watchdog = l.watchdog → l'.forcing = some .ending → Timing now l e l'
  | finish : l.forcing = some .ending → l'.watchdog = l.watchdog → l'.phase = l.terminate.phase → l'.forcing = none →
      l'.forced = l.forced → Timing now l e l'

/-- What an event leaves as it is that is no matter of the watchdog. -/
structure Untimed (l l' : Lifecycle) : Prop where
  limit : l'.drainTimeout = l.drainTimeout
  watchdog : l'.watchdog = l.watchdog
  forcing : l'.forcing = l.forcing
  forced : l'.forced = l.forced

/-- Nor is it a matter of the connections. -/
structure Quiet (l l' : Lifecycle) : Prop extends Untimed l l' where
  connections : l'.connections = l.connections

theorem quiet_start (l : Lifecycle) : l.Quiet l.start.2 := by
  rcases l.start_eq with same | ⟨_, started⟩
  · rw [same]
    exact ⟨⟨rfl, rfl, rfl, rfl⟩, rfl⟩
  · rw [started]
    exact ⟨⟨rfl, rfl, rfl, rfl⟩, rfl⟩

theorem quiet_terminate (l : Lifecycle) : l.Quiet l.terminate := by
  rcases l.terminate_eq with ⟨same, _⟩ | ⟨_, ended⟩
  · rw [same]
    exact ⟨⟨rfl, rfl, rfl, rfl⟩, rfl⟩
  · rw [ended]
    exact ⟨⟨rfl, rfl, rfl, rfl⟩, rfl⟩

theorem quiet_closeListener (l : Lifecycle) : l.Quiet l.closeListener := by
  obtain ⟨loops, closed, _⟩ := l.closeListener_eq
  rw [closed]
  exact ⟨⟨rfl, rfl, rfl, rfl⟩, rfl⟩

theorem quiet_nudge (l : Lifecycle) : l.Quiet l.nudge := by
  obtain ⟨loops, nudged, _⟩ := l.nudge_eq
  rw [nudged]
  exact ⟨⟨rfl, rfl, rfl, rfl⟩, rfl⟩

theorem Untimed.timing {l l' : Lifecycle} (same : l.Untimed l') (now : Nat) {e : Event} (other : l.returns e = false) :
    l'.drainTimeout = l.drainTimeout ∧ Timing now l e l' :=
  ⟨same.limit, .keep (Or.inr other) same.watchdog same.forcing same.forced⟩

/-- A task that stops the service sets the watchdog as it returns, and not before. -/
theorem Stopping.timing {l next l' : Lifecycle} {now : Nat} {stop stop' : StopPlace} {e : Event}
    (step : Stopping now l stop stop' next) (same : next.Untimed l')
    (returning : l.returns e = decide (stop = .arming)) :
    l'.drainTimeout = l.drainTimeout ∧ Timing now l e l' := by
  cases step with
  | take =>
    refine Untimed.timing ?_ now returning
    exact ⟨same.limit, same.watchdog, same.forcing, same.forced⟩
  | late => exact same.timing now returning
  | close =>
    have shut := l.quiet_closeListener
    refine Untimed.timing ?_ now returning
    exact ⟨same.limit.trans shut.limit, same.watchdog.trans shut.watchdog,
      same.forcing.trans shut.forcing, same.forced.trans shut.forced⟩
  | arm =>
    rcases l.arm_eq now with ⟨unlimited, kept⟩ | ⟨limit, limited, armed⟩
    · rw [kept] at same
      exact ⟨same.limit, .keep (Or.inl unlimited) same.watchdog same.forcing same.forced⟩
    · rw [armed] at same
      exact ⟨same.limit, .arm limited returning same.watchdog same.forcing same.forced⟩

theorem Looping.timing {l l' : Lifecycle} {now i : Nat} {loop : AcceptLoop} (atLoop : l.loops[i]? = some loop)
    (step : Looping now l i loop l') : l'.drainTimeout = l.drainTimeout ∧ Timing now l (.loop i) l' := by
  have returning : l.returns (.loop i) = decide (loop.place = .stopping .arming) := by
    rw [returns, atLoop]
    exact decide_eq_decide.2 Option.some_inj
  have elsewhere : ∀ {place}, loop.place = place → place.isUnderway = false → l.returns (.loop i) = false := by
    intro place atPlace idle
    rw [returning, decide_eq_false_iff_not]
    intro arming
    rw [← atPlace, arming] at idle
    cases idle
  cases step with
  | start starting =>
    have same := l.quiet_start
    refine Untimed.timing ?_ now (elsewhere starting rfl)
    exact ⟨same.limit, same.watchdog, same.forcing, same.forced⟩
  | wait calling | refuse calling | accept calling | pause calling =>
    refine Untimed.timing ?_ now (elsewhere calling rfl)
    exact ⟨rfl, rfl, rfl, rfl⟩
  | wake place | resume place | stopped place | drained place =>
    refine Untimed.timing ?_ now (elsewhere place rfl)
    exact ⟨rfl, rfl, rfl, rfl⟩
  | stop atPlace step =>
    refine step.timing ⟨rfl, rfl, rfl, rfl⟩ ?_
    rw [returning, atPlace]
    exact decide_eq_decide.2 ⟨LoopPlace.stopping.inj, congrArg _⟩
  | finish ending =>
    have same := l.quiet_terminate
    refine Untimed.timing ?_ now (elsewhere ending rfl)
    exact ⟨same.limit, same.watchdog, same.forcing, same.forced⟩

/-- Every event bears on the watchdog and on the use of force in one of these ways. -/
theorem timing_of_step? {l l' : Lifecycle} {now : Nat} {e : Event} (run : l.step? now e = some l') :
    l'.drainTimeout = l.drainTimeout ∧ Timing now l e l' := by
  cases occurs_of_step? run with
  | start => exact l.quiet_start.toUntimed.timing now rfl
  | run | stop =>
    refine Untimed.timing ?_ now rfl
    exact ⟨rfl, rfl, rfl, rfl⟩
  | stopping atStop step =>
    refine step.timing ⟨rfl, rfl, rfl, rfl⟩ ?_
    rw [returns, atStop]
    exact decide_eq_decide.2 Option.some_inj
  | close => exact l.quiet_closeListener.toUntimed.timing now rfl
  | loop atLoop step => exact step.timing atLoop
  | expire set time draining => exact ⟨rfl, .expire rfl set time draining rfl rfl rfl⟩
  | lapse set finished => exact ⟨rfl, .lapse set finished rfl rfl rfl⟩
  | force place => exact ⟨rfl, .force place rfl rfl⟩
  | finish place =>
    have same := l.quiet_terminate
    exact ⟨same.limit, .finish place same.watchdog rfl rfl same.forced⟩
  | connection step =>
    refine Untimed.timing ?_ now rfl
    cases step <;> exact ⟨rfl, rfl, rfl, rfl⟩
  | @arrive _ listener | @trouble _ listener =>
    have same := ({ l with listener } : Lifecycle).quiet_nudge
    refine Untimed.timing ?_ now rfl
    exact ⟨same.limit, same.watchdog, same.forcing, same.forced⟩

/-- Before a stop takes effect there is nothing to watch. -/
structure Unwatched (l : Lifecycle) : Prop where
  watchdog : l.watchdog = none
  forcing : l.forcing = none
  forced : l.forced = false

theorem Sound.unwatched {l : Lifecycle} (sound : l.Sound) (before : l.phase.isPast = false) : l.Unwatched := by
  have not_past : ¬ l.phase.isPast = true := by simp [before]
  refine ⟨Option.eq_none_iff_forall_ne_some.2 fun due set => ?_,
    Option.eq_none_iff_forall_ne_some.2 fun place at_ => ?_, Bool.eq_false_iff.2 fun on => ?_⟩
  · exact not_past (sound.watchdog due set).2
  · exact not_past (sound.forcing place at_).2.1
  · exact not_past (sound.forced on).2

/-- The watchdog is only set by a stop that returns, where there is a drain timeout. -/
theorem Unwatched.step? {l l' : Lifecycle} {now : Nat} {e : Event} (unwatched : l.Unwatched)
    (run : l.step? now e = some l') (idle : l.drainTimeout = none ∨ l.returns e = false) : l'.Unwatched := by
  obtain ⟨watchdog, forcing, forced⟩ := unwatched
  cases (timing_of_step? run).2 with
  | keep _ watchdog' forcing' forced' => exact ⟨watchdog'.trans watchdog, forcing'.trans forcing, forced'.trans forced⟩
  | arm limited returns =>
    rcases idle with unlimited | other
    · rw [unlimited] at limited
      cases limited
    · rw [other] at returns
      cases returns
  | expire _ set => rw [watchdog] at set; cases set
  | lapse set => rw [watchdog] at set; cases set
  | force at_ => rw [forcing] at at_; cases at_
  | finish at_ => rw [forcing] at at_; cases at_

theorem draining_start {l : Lifecycle} (draining : l.phase = .draining) : l.start.2.phase = .draining := by
  rcases l.start_eq with same | ⟨first, _⟩
  · rw [same, draining]
  · rw [draining] at first
    cases first

theorem Stopping.draining {l next : Lifecycle} {now : Nat} {stop stop' : StopPlace}
    (step : Stopping now l stop stop' next) (draining : l.phase = .draining) : next.phase = .draining := by
  cases step with
  | take => rfl
  | late => exact draining
  | close =>
    obtain ⟨loops, closed, _⟩ := l.closeListener_eq
    rw [closed]
    exact draining
  | arm =>
    rcases l.arm_eq now with ⟨_, same⟩ | ⟨limit, _, armed⟩
    · rw [same, draining]
    · rw [armed]
      exact draining

theorem draining_nudge {l : Lifecycle} (draining : l.phase = .draining) : l.nudge.phase = .draining := by
  obtain ⟨loops, nudged, _⟩ := l.nudge_eq
  rw [nudged]
  exact draining

/-- A service only leaves its drain when a loop is done with it or the watchdog forces the end. -/
theorem ending_of_step? {l l' : Lifecycle} {now : Nat} {e : Event} (run : l.step? now e = some l')
    (draining : l.phase = .draining) (finished : l'.phase ≠ .draining) :
    (∃ i loop, e = .loop i ∧ l.loops[i]? = some loop ∧ loop.place = .ending) ∨ l.forcing = some .ending := by
  cases occurs_of_step? run with
  | loop atLoop step =>
    cases step with
    | finish ending => exact Or.inl ⟨_, _, rfl, atLoop, ending⟩
    | start => exact absurd (draining_start draining) finished
    | stop _ stop => exact absurd (stop.draining draining) finished
    | wait | refuse | accept | pause | wake | resume | stopped | drained => exact absurd draining finished
  | finish place => exact Or.inr place
  | start => exact absurd (draining_start draining) finished
  | run | stop | expire | lapse | force => exact absurd draining finished
  | stopping _ step => exact absurd (step.draining draining) finished
  | close => exact absurd ((.close : Stopping now l _ _ _).draining draining) finished
  | connection step => cases step <;> exact absurd draining finished
  | @arrive _ listener | @trouble _ listener =>
    exact absurd (draining_nudge (l := { l with listener }) draining) finished

theorem Stopping.connections {l next : Lifecycle} {now : Nat} {stop stop' : StopPlace}
    (step : Stopping now l stop stop' next) : next.connections = l.connections := by
  cases step with
  | take | late => rfl
  | close => exact l.quiet_closeListener.connections
  | arm =>
    rcases l.arm_eq now with ⟨_, same⟩ | ⟨limit, _, armed⟩
    · rw [same]
    · rw [armed]

/-- A connection is only closed by force where that is called for. -/
theorem forced_of_closing {l l' : Lifecycle} {now i : Nat} {e : Event} (run : l.step? now e = some l')
    (before : l.connections[i]? ≠ some (.ended .forced)) (after : l'.connections[i]? = some (.ended .forced)) :
    l.forced = true := by
  have kept : l'.connections = l.connections → l.forced = true := fun same => absurd (same ▸ after) before
  cases occurs_of_step? run with
  | @connection j _ _ step =>
    have replaced : ∀ {place : ConnectionPlace}, (l.connections.set j place)[i]? = some (.ended .forced) →
        place = .ended .forced := by
      intro place after
      rw [List.getElem?_set] at after
      split at after
      · split at after
        · exact Option.some.inj after
        · cases after
      · exact absurd after before
    cases step with
    | proceed _ _ live =>
      rw [replaced after] at live
      cases live
    | finish _ _ same => exact same.1 (ConnectionPlace.ended.inj (replaced after))
  | loop _ step =>
    cases step with
    | accept =>
      rw [getElem?_append_last] at after
      split at after
      · cases after
      · exact absurd after before
    | start => exact kept l.quiet_start.connections
    | stop _ stop => exact kept stop.connections
    | finish => exact kept l.quiet_terminate.connections
    | wait | refuse | pause | wake | resume | stopped | drained => exact kept rfl
  | start => exact kept l.quiet_start.connections
  | run | stop | expire | lapse | force => exact kept rfl
  | stopping _ step => exact kept step.connections
  | close => exact kept l.quiet_closeListener.connections
  | finish => exact kept l.quiet_terminate.connections
  | arrive | trouble => exact kept (quiet_nudge _).connections

end Lifecycle

end Handover
