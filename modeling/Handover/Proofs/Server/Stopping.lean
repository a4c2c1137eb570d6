import Handover.Proofs.Restart.Mapping
import Handover.Proofs.Server.Bearing
import Handover.Proofs.Server.Steering
import Handover.Proofs.Service.Timing

namespace Handover

namespace CallPlace

/-- The service is recorded, and the call is still to look whether the process is stopping. -/
def unchecked? : CallPlace → Option Nat
  | attached o | started o | completing o | counted o => some o
  | _ => none

/-- The service is recorded, and the call has not returned. -/
def recorded? : CallPlace → Option Nat
  | attached o | started o | completing o | counted o | ready o | serving o => some o
  | _ => none

end CallPlace

/-- The handling of signals is still to stop the service at the ordinal. -/
def SignalPlace.Awaits (o : Nat) : SignalPlace → Prop
  | listing _ => True
  | closing _ rest => o ∈ rest
  | _ => False

namespace Lifecycle

/-- A stop has taken effect, and nothing is accepted any longer. -/
structure IsStopped (l : Lifecycle) : Prop where
  past : l.phase = .draining ∨ l.phase = .terminated
  closed : l.isClosed = true

theorem IsStopped.onward {l l' : Lifecycle} (stopped : l.IsStopped) (onward : l.Onward l') : l'.IsStopped := by
  have past : l.phase.isPast = true := by
    rcases stopped.past with draining | ended
    · rw [draining]
      rfl
    · rw [ended]
      rfl
  exact ⟨Phase.eq_of_isPast (onward.past past), onward.closed stopped.closed⟩

/-- A service is alive until its listener is closed. -/
def LiveUntilClosed (l : Lifecycle) : Prop := l.isClosed = true ∨ l.IsLive

/-- Stopping a service closes its listener, unless that is closed already. -/
theorem isStopped_shutdown {l : Lifecycle} (lives : l.LiveUntilClosed) (now : Nat) : (l.shutdown now).2.IsStopped := by
  obtain ⟨onward, past⟩ := l.onward_shutdown now
  refine ⟨Phase.eq_of_isPast past, ?_⟩
  rcases lives with closed | live
  · exact onward.closed closed
  · rcases l.beginStop_cases with ⟨before, _⟩ | ⟨_, taken⟩
    · rcases live.phase with first | running
      · rw [first] at before
        cases before
      · rw [running] at before
        cases before
    · rw [shutdown_of_beginStop now taken, isClosed, listener_arm, listener_closeListener]
      rfl

/-- Nothing runs that could accept a connection, and none was accepted. -/
structure IsIdle (l : Lifecycle) : Prop where
  loops : l.loops = []
  connections : l.connections = []

namespace IsIdle

theorem woken {l : Lifecycle} (idle : l.IsIdle) {loops : List AcceptLoop} (woken : Woken l.loops loops) : loops = [] := by
  have same := woken.underway
  rw [idle.loops] at same
  exact List.map_eq_nil_iff.1 same

theorem closeListener {l : Lifecycle} (idle : l.IsIdle) : l.closeListener.IsIdle := by
  obtain ⟨loops, closed, woken⟩ := l.closeListener_eq
  rw [closed]
  exact ⟨idle.woken woken, idle.connections⟩

theorem arm {l : Lifecycle} (idle : l.IsIdle) (now : Nat) : (l.arm now).IsIdle := by
  rcases l.arm_eq now with ⟨_, same⟩ | ⟨limit, _, armed⟩
  · rw [same]
    exact idle
  · rw [armed]
    exact ⟨idle.loops, idle.connections⟩

theorem shutdown {l : Lifecycle} (idle : l.IsIdle) (now : Nat) : (l.shutdown now).2.IsIdle := by
  rcases l.beginStop_cases with ⟨_, late⟩ | ⟨_, taken⟩
  · rw [Lifecycle.shutdown, late]
    exact idle
  · rw [shutdown_of_beginStop now taken]
    have begun : ({ l with phase := .draining } : Lifecycle).IsIdle := ⟨idle.loops, idle.connections⟩
    exact begun.closeListener.arm now

theorem start {l : Lifecycle} (idle : l.IsIdle) : l.start.2.IsIdle := by
  rcases l.start_eq with same | ⟨_, started⟩
  · rw [same]
    exact idle
  · rw [started]
    exact ⟨idle.loops, idle.connections⟩

theorem fireWatchdog? {l l' : Lifecycle} (idle : l.IsIdle) {now : Nat} {notices : List Notice}
    (run : l.fireWatchdog? now = some (l', notices)) : l'.IsIdle := by
  unfold Lifecycle.fireWatchdog? at run
  split at run
  · split at run
    · split at run
      · cases run
        rcases terminate_eq { l with watchdog := none, forced := true } with ⟨same, _⟩ | ⟨_, ended⟩
        · rw [same]
          exact ⟨idle.loops, idle.connections⟩
        · rw [ended]
          exact ⟨idle.loops, idle.connections⟩
      · cases run
        exact ⟨idle.loops, idle.connections⟩
    · cases run
  · cases run

theorem arrive {l : Lifecycle} (idle : l.IsIdle) (arrival : Arrival) : (l.arrive arrival).IsIdle := by
  obtain ⟨loops, nudged, woken⟩ := ({ l with listener := l.listener.arrive arrival } : Lifecycle).nudge_eq
  rw [Lifecycle.arrive, nudged]
  exact ⟨idle.woken woken, idle.connections⟩

end IsIdle

end Lifecycle

namespace Server

section

variable {site : Site} {now o : Nat} {p p' : Server} {m : Move} {l l' : Lifecycle}

theorem Bears.liveUntilClosed (bears : Bears now p o m l l') (lives : l.LiveUntilClosed) : l'.LiveUntilClosed := by
  rcases lives with closed | live
  · exact Or.inl (bears.onward.closed closed)
  · by_cases stops : p.Stops o m
    · left
      cases bears with
      | keep going | event going | watchdog going => exact absurd stops going
      | close =>
        rw [Lifecycle.isClosed, Lifecycle.listener_closeListener]
        rfl
      | stop => exact (Lifecycle.isStopped_shutdown (Or.inr live) now).closed
    · exact Or.inr (bears.live stops live)

/-- Only the call that has recorded a service starts a loop for it. -/
theorem Touches.idle (touches : Touches now p o l m l') (idle : l.IsIdle) :
    l'.IsIdle ∨ ∃ i c, m = .call i ∧ p.calls[i]? = some c ∧ c.place = .ready o := by
  cases touches with
  | keep => exact Or.inl idle
  | start => exact Or.inl idle.start
  | run atCall atPlace => exact Or.inr ⟨_, _, rfl, atCall, atPlace⟩
  | late | signal | shutdown => exact Or.inl (idle.shutdown now)
  | loop step =>
    rw [Lifecycle.stepLoop?, idle.loops] at step
    cases step
  | watchdog step => exact Or.inl (idle.fireWatchdog? step)
  | connection step =>
    rw [Lifecycle.stepConnection?, idle.connections] at step
    cases step
  | arrive => exact Or.inl (idle.arrive _)
  | close => exact Or.inl idle.closeListener

/-- Every service is alive until its listener is closed. -/
def LiveUntilClosed (p : Server) : Prop :=
  ∀ {o : Nat} {s : Service}, p.registry.service? o = some s → s.life.LiveUntilClosed

theorem LiveUntilClosed.move? (lives : p.LiveUntilClosed) (claims : p.Claims)
    (run : p.move? site now m = some p') : p'.LiveUntilClosed := by
  intro o s' there'
  cases there : p.registry.service? o with
  | none =>
    obtain ⟨i, c, l, _, _, _, life⟩ := appears_of_move? claims there run there'
    rw [life]
    cases closed : l.isClosed with
    | true => exact Or.inl closed
    | false => exact Or.inr (Lifecycle.isLive_onListener closed _)
  | some s =>
    obtain ⟨s'', same, bears⟩ := continues_of_move? claims there run
    rw [there'] at same
    cases same
    exact bears.liveUntilClosed (lives there)

/-- What a call has recorded is there. -/
def Recorded (p : Server) : Prop :=
  ∀ {i : Nat} {c : Call} {o : Nat}, p.calls[i]? = some c → c.place.recorded? = some o →
    ∃ s, p.registry.service? o = some s

theorem Advance.recorded {c : Call} {place : CallPlace} {q : Server} (advance : Advance site now p c place q)
    (recorded : place.recorded? = some o) :
    c.place.recorded? = some o ∨ ∃ l, c.place = .opened o l ∧
      p.registry.attach o (.onListener c.address c.options l p.settings.drainTimeout) = .ok q.registry := by
  cases advance with
  | attach atPlace attached =>
    cases recorded
    exact Or.inr ⟨_, atPlace, attached⟩
  | start atPlace | count atPlace | countAdoption atPlace | complete atPlace | notify atPlace | stop atPlace
  | stay atPlace | run atPlace =>
    left
    rw [atPlace]
    exact recorded
  | refuse | pass | repeated | claim | unready | ready | unbound | bind | beyond | unusable | adopt | lose | finish
  | release => cases recorded

theorem Recorded.move? (there : p.Recorded) (claims : p.Claims) (run : p.move? site now m = some p') :
    p'.Recorded := by
  intro i d o after recorded
  have kept : (∃ s, p.registry.service? o = some s) → ∃ s, p'.registry.service? o = some s := by
    rintro ⟨s, before⟩
    obtain ⟨s', later, _⟩ := (Onward.move? claims run).service? before
    exact ⟨s', later⟩
  rcases call_before_move? run after with before | entered | ⟨c, q, rfl, atCall, advance, rfl⟩
  · exact kept (there before recorded)
  · rw [entered] at recorded
    cases recorded
  · rcases advance.recorded recorded with before | ⟨l, atPlace, attached⟩
    · exact kept (there atCall before)
    · obtain ⟨_, _, _, service, _⟩ :=
        Registry.attach_eq_ok attached (claims.address atCall (o := o) (by rw [atPlace]; rfl))
      exact ⟨_, (service o).trans (if_pos rfl)⟩

/-- The service at the ordinal is stopped, or its call is still to see that the process is stopping. -/
def Caught (p : Server) (o : Nat) : Prop :=
  (∀ s, p.registry.service? o = some s → s.life.IsStopped) ∨
    ∃ (i : Nat) (c : Call), p.calls[i]? = some c ∧ c.place.unchecked? = some o

theorem Advance.unchecked {c : Call} {place : CallPlace} {q : Server} (advance : Advance site now p c place q)
    (stopping : p.stopping = true) (unchecked : c.place.unchecked? = some o) :
    place.unchecked? = some o ∨ c.place = .counted o := by
  have elsewhere : ∀ {place' : CallPlace}, c.place = place' → place'.unchecked? = none → False := by
    intro place' atPlace none_
    rw [atPlace, none_] at unchecked
    cases unchecked
  cases advance with
  | start atPlace | count atPlace | countAdoption atPlace | complete atPlace | notify atPlace =>
    left
    rw [atPlace] at unchecked
    exact unchecked
  | stop atPlace =>
    right
    rw [atPlace] at unchecked
    cases unchecked
    exact atPlace
  | stay _ going =>
    rw [going] at stopping
    cases stopping
  | refuse atPlace | pass atPlace | repeated atPlace | claim atPlace | unready atPlace | ready atPlace | unbound atPlace
  | bind atPlace | beyond atPlace | unusable atPlace | adopt atPlace | lose atPlace | attach atPlace | run atPlace
  | finish atPlace | release atPlace => exact (elsewhere atPlace rfl).elim

/-- A call that looks whether the process is stopping, and finds that it is, stops its service. -/
theorem Touches.stopped {i : Nat} {c : Call} (touches : Touches now p o l (.call i) l') (atCall : p.calls[i]? = some c)
    (counted : c.place = .counted o) (stopping : p.stopping = true) (lives : l.LiveUntilClosed) : l'.IsStopped := by
  have elsewhere : ∀ {d : Call}, p.calls[i]? = some d → d.place = .counted o := by
    intro d atOther
    rw [atCall] at atOther
    cases atOther
    exact counted
  cases touches with
  | keep going => exact absurd (.late atCall counted stopping) going
  | start atOther atPlace | run atOther atPlace =>
    rw [elsewhere atOther] at atPlace
    cases atPlace
  | late => exact Lifecycle.isStopped_shutdown lives now

theorem Caught.move? (caught : p.Caught o) (stopping : p.stopping = true) (claims : p.Claims)
    (lives : p.LiveUntilClosed) (run : p.move? site now m = some p') : p'.Caught o := by
  cases there : p.registry.service? o with
  | none =>
    cases there' : p'.registry.service? o with
    | none => exact Or.inl fun s some_ => nomatch there'.symm.trans some_
    | some s =>
      obtain ⟨i, c, _, _, _, after, _⟩ := appears_of_move? claims there run there'
      exact Or.inr ⟨i, _, after, rfl⟩
  | some s =>
    obtain ⟨s', there', touches⟩ := touched_of_move? claims there run
    have stopped_ : s'.life.IsStopped → p'.Caught o := by
      intro stopped
      refine Or.inl fun t some_ => ?_
      rw [there'] at some_
      cases some_
      exact stopped
    rcases caught with stopped | ⟨i, c, atCall, unchecked⟩
    · exact stopped_ ((stopped s there).onward touches.bears.onward)
    · rcases call_of_move? run atCall with still | ⟨place, q, rfl, advance, _, after⟩
      · exact Or.inr ⟨i, c, still, unchecked⟩
      · rcases advance.unchecked stopping unchecked with next | counted
        · exact Or.inr ⟨i, _, after, next⟩
        · exact stopped_ (touches.stopped atCall counted stopping (lives there))

/-- The services are listed, and each on the list is stopped in its turn. -/
theorem caught_or_awaits (awaits : p.signals.Awaits o) (claims : p.Claims) (lives : p.LiveUntilClosed)
    (step : p.stepSignals? site now = some p') : p'.Caught o ∨ p'.signals.Awaits o := by
  unfold stepSignals? at step
  cases place : p.signals with
  | listing turn =>
    rw [place] at step
    cases step
    cases there : p.registry.service? o with
    | none => exact Or.inl (Or.inl fun s some_ => nomatch there.symm.trans some_)
    | some s => exact Or.inr (List.mem_map_of_mem (Registry.mem_attached.2 ⟨claims.service there, there⟩))
  | closing turn rest =>
    rw [place] at step awaits
    cases rest with
    | nil => cases awaits
    | cons o' rest =>
      cases step
      rcases List.mem_cons.1 awaits with rfl | later
      · refine Or.inl (Or.inl fun s' there' => ?_)
        change (p.shutdown now o).registry.service? o = some s' at there'
        cases there : p.registry.service? o with
        | none =>
          rw [shutdown, alter, there] at there'
          exact nomatch there.symm.trans there'
        | some s =>
          rw [shutdown, service?_alter there, if_pos rfl] at there'
          cases there'
          exact Lifecycle.isStopped_shutdown (lives there) now
      · exact Or.inr later
  | idle | before | acting | capturing | launching | after | ended =>
    rw [place] at awaits
    cases awaits

/-- While the process is stopping, no service is missed. -/
def Sweeping (p : Server) : Prop := p.stopping = true → ∀ o, p.Caught o ∨ p.signals.Awaits o

theorem Sweeping.move? (sweeping : p.Sweeping) (claims : p.Claims) (lives : p.LiveUntilClosed)
    (run : p.move? site now m = some p') : p'.Sweeping := by
  intro stopping' o
  cases stopping : p.stopping with
  | true =>
    rcases sweeping stopping o with caught | awaits
    · exact Or.inl (caught.move? stopping claims lives run)
    · rcases move?_apart run with apart | ⟨_, step⟩ | ⟨d, _, rfl⟩ | ⟨serial, _, rfl⟩
      · exact Or.inr (apart.signals ▸ awaits)
      · exact caught_or_awaits awaits claims lives step
      · exact Or.inr ((p.trigger_frame d).2.1 ▸ awaits)
      · exact Or.inr (p.signals_replacementEnds serial ▸ awaits)
  | false =>
    have same : p'.stopping = p.stopping → p'.Caught o ∨ p'.signals.Awaits o := by
      intro same
      rw [same, stopping] at stopping'
      cases stopping'
    rcases move?_apart run with apart | ⟨_, step⟩ | ⟨d, _, rfl⟩ | ⟨serial, _, rfl⟩
    · exact same apart.stopping
    · cases (stepSignals?_eq_some step).handled with
      | stop => exact Or.inr trivial
      | calm _ _ kept => exact same kept
      | begin_ | capture | fail | launch => exact same rfl
    · exact same (p.trigger_frame d).1
    · exact same (p.stopping_replacementEnds serial)

/-- Nothing is ever accepted for the service at the ordinal. -/
structure Barred (p : Server) (o : Nat) : Prop where
  stopping : p.stopping = true
  idle : ∀ s, p.registry.service? o = some s →
    s.life.connections = [] ∧ (s.life.loops = [] ∨ s.life.isClosed = true)
  ready : ∀ (i : Nat) (c : Call), p.calls[i]? = some c → c.place = .ready o →
    ∀ s, p.registry.service? o = some s → s.life.isClosed = true

theorem Advance.of_ready {c : Call} {q : Server} (advance : Advance site now p c (.ready o) q)
    (stopping : p.stopping = true) : c.place = .counted o := by
  cases advance with
  | stop atPlace => exact atPlace
  | stay _ going =>
    rw [going] at stopping
    cases stopping

theorem Barred.move? (barred : p.Barred o) (claims : p.Claims) (lives : p.LiveUntilClosed) (recorded : p.Recorded)
    (run : p.move? site now m = some p') : p'.Barred o := by
  have stopping := barred.stopping
  refine ⟨stopping_of_move? run stopping, fun s' there' => ?_, fun i d after atReady s' there' => ?_⟩
  · cases there : p.registry.service? o with
    | none =>
      obtain ⟨_, _, _, _, _, _, life⟩ := appears_of_move? claims there run there'
      rw [life]
      exact ⟨rfl, Or.inl rfl⟩
    | some s =>
      obtain ⟨s'', same, touches⟩ := touched_of_move? claims there run
      rw [there'] at same
      cases same
      have onward := touches.bears.onward
      obtain ⟨none_, quiet⟩ := barred.idle s there
      have closed_ : s.life.isClosed = true → s'.life.connections = [] ∧
          (s'.life.loops = [] ∨ s'.life.isClosed = true) := by
        intro closed
        have accepted := onward.accepted closed
        rw [none_] at accepted
        exact ⟨List.eq_nil_of_length_eq_zero accepted, Or.inr (onward.closed closed)⟩
      rcases quiet with loops | closed
      · rcases touches.idle ⟨loops, none_⟩ with idle | ⟨i, c, _, atCall, atReady⟩
        · exact ⟨idle.connections, Or.inl idle.loops⟩
        · exact closed_ (barred.ready i c atCall atReady s there)
      · exact closed_ closed
  · have there : ∃ s, p.registry.service? o = some s := by
      rcases call_before_move? run after with before | entered | ⟨c, q, _, atCall, advance, _⟩
      · exact recorded before (by rw [atReady]; rfl)
      · rw [entered] at atReady
        cases atReady
      · rw [atReady] at advance
        exact recorded atCall (by rw [advance.of_ready stopping]; rfl)
    obtain ⟨s, there⟩ := there
    obtain ⟨s'', same, touches⟩ := touched_of_move? claims there run
    rw [there'] at same
    cases same
    rcases call_before_move? run after with before | entered | ⟨c, q, rfl, atCall, advance, _⟩
    · exact touches.bears.onward.closed (barred.ready i d before atReady s there)
    · rw [entered] at atReady
      cases atReady
    · rw [atReady] at advance
      exact (touches.stopped atCall (advance.of_ready stopping) stopping (lives there)).closed

/-- A call that first looks when the process is stopping ends at once. -/
theorem move?_of_entered {i : Nat} {c : Call} (atCall : p.calls[i]? = some c) (entered : c.place = .entered)
    (stopping : p.stopping = true) : p.move? site now (.call i) = some (p.endCall i c (some .shuttingDown)) := by
  simp [Server.move?, stepCall?, atCall, entered, stopping]

/-- The call has yet to look whether the process is stopping, which it is, or has looked and is over. -/
structure Refused (p : Server) (i : Nat) (c : Call) : Prop where
  stopping : p.stopping = true
  call : p.calls[i]? = some c ∨ p.calls[i]? = some { c with place := .returned (some .shuttingDown) }

theorem Refused.move? {i : Nat} {c : Call} (refused : p.Refused i c) (entered : c.place = .entered)
    (run : p.move? site now m = some p') : p'.Refused i c := by
  have stopping := refused.stopping
  refine ⟨stopping_of_move? run stopping, ?_⟩
  rcases refused.call with atCall | returned
  · rcases call_of_move? run atCall with still | ⟨_, _, rfl, _, _, _⟩
    · exact Or.inl still
    · rw [move?_of_entered atCall entered stopping] at run
      cases run
      right
      change (p.moveCall i _).calls[i]? = _
      rw [calls_moveCall, if_pos rfl, atCall]
      rfl
  · rcases call_of_move? run returned with still | ⟨_, _, rfl, _, _, _⟩
    · exact Or.inr still
    · simp [Server.move?, stepCall?, returned] at run

end

section

variable {markers : Markers} {settings : Settings} {arguments : List OsText} {files : List (Option OpenFile)}
  {parent nextSocket start : Nat} {p : Server}

theorem Run.liveUntilClosed (run : Reach (Server.start markers settings arguments files parent nextSocket start) p) :
    p.LiveUntilClosed := by
  refine @Run.keep_of_claims _ LiveUntilClosed (fun claims lives move => lives.move? claims move) _ _ run
    (.start _ _ _ _ _ _ _) ?_
  intro o s there
  rw [(Blank.start _ _ _ _ _ _ _).service] at there
  cases there

theorem Run.recorded (run : Reach (Server.start markers settings arguments files parent nextSocket start) p) :
    p.Recorded := by
  refine @Run.keep_of_claims _ Recorded (fun claims recorded move => recorded.move? claims move) _ _ run
    (.start _ _ _ _ _ _ _) ?_
  intro i c o atCall
  rw [(Blank.start _ _ _ _ _ _ _).calls] at atCall
  cases atCall

theorem Run.sweeping (run : Reach (Server.start markers settings arguments files parent nextSocket start) p) :
    p.Sweeping := by
  induction run with
  | start =>
    intro stopping
    rw [(Blank.start _ _ _ _ _ _ _).stopping] at stopping
    cases stopping
  | next earlier _ move ih =>
    exact ih.move? (earlier.claims (.start _ _ _ _ _ _ _)) earlier.liveUntilClosed move

end

/-- What a process that is stopping keeps to. -/
structure StopsAll (q : Server) : Prop where
  swept : ∀ turn, q.signals = .closing turn [] → ∀ p, Reach q p → ∀ o s, p.registry.service? o = some s →
    (∀ (i : Nat) (c : Call), p.calls[i]? = some c → c.place.unchecked? ≠ some o) → s.life.IsStopped
  barred : ∀ o, q.registry.service? o = none → ∀ p, Reach q p → ∀ s, p.registry.service? o = some s →
    s.life.connections = []
  refused : ∀ (i : Nat) (c : Call), q.calls[i]? = some c → c.place = .entered →
    (∀ site now, q.move? site now (.call i) = some
      { q with
        calls := q.calls.modify i fun call => { call with place := .returned (some .shuttingDown) }
        journal := q.journal ++ [.returned c.address (some .shuttingDown)] }) ∧
      ∀ p, Reach q p → p.calls[i]? = some c ∨ p.calls[i]? = some { c with place := .returned (some .shuttingDown) }

/-- No service escapes a stop. -/
theorem stopsAll_of_stopping {markers : Markers} {settings : Settings} {arguments : List OsText}
    {files : List (Option OpenFile)} {parent nextSocket start : Nat} {q : Server}
    (run : Reach (Server.start markers settings arguments files parent nextSocket start) q)
    (stopping : q.stopping = true) : q.StopsAll := by
  have claims : ∀ {p}, Reach q p → p.Claims := fun later => (run.trans later).claims (.start _ _ _ _ _ _ _)
  have marked : ∀ {p}, Reach q p → p.stopping = true := by
    intro p later
    exact later.keep (fun marked _ move => stopping_of_move? move marked) stopping
  refine ⟨?swept, ?barred, ?refused⟩
  case swept =>
    intro turn swept p later o s there checked
    have caught : p.Caught o := by
      clear there checked
      induction later with
      | start =>
        refine (run.sweeping stopping o).resolve_right ?_
        rw [swept]
        exact List.not_mem_nil
      | next earlier _ move ih =>
        exact ih.move? (marked earlier) (claims earlier) (run.trans earlier).liveUntilClosed move
    rcases caught with stopped | ⟨i, c, atCall, unchecked⟩
    · exact stopped s there
    · exact absurd unchecked (checked i c atCall)
  case barred =>
    intro o vacant p later s there
    have barred : p.Barred o := by
      clear there
      induction later with
      | start =>
        refine ⟨stopping, fun s some_ => ?_, fun i c _ _ s some_ => ?_⟩ <;>
        · rw [vacant] at some_
          cases some_
      | next earlier _ move ih =>
        exact ih.move? (claims earlier) (run.trans earlier).liveUntilClosed (run.trans earlier).recorded move
    exact (barred.idle s there).1
  case refused =>
    intro i c atCall entered
    refine ⟨fun site now => move?_of_entered atCall entered stopping, fun p later => ?_⟩
    have refused : p.Refused i c := by
      induction later with
      | start => exact ⟨stopping, Or.inl atCall⟩
      | next _ _ move ih => exact ih.move? entered move
    exact refused.call

end Server

namespace Sample

/-- A process serves one address and has a listener for a second when a stop lists its services. -/
def listed : Server :=
  after fresh (serving "127.0.0.1:80" 0 9 ++ serving "127.0.0.1:81" 1 4 ++ .trigger { number := 15 } ::
    List.replicate 4 .signals)

/-- The second service is recorded, a connection arrives for it, a third call begins, and the stop goes on. -/
def sweeping : List Move := [.call 1, .arrive 1 .connection, .serve "127.0.0.1:82" {}, .signals]

/-- The second call runs its service, which finds the listener closed. -/
def finishing : List Move := List.replicate 4 (.call 1) ++ List.replicate 3 (.loop 1 0) ++ [.call 2]

theorem reach_listed : Server.Reach fresh listed :=
  Server.Run.start.moves site 0 (serving "127.0.0.1:80" 0 9 ++ serving "127.0.0.1:81" 1 4 ++
    .trigger { number := 15 } :: List.replicate 4 .signals) rfl

end Sample

/-- A service that is recorded after the stop has listed the services, with a connection that waits to be accepted. -/
theorem late_service_is_stopped :
    ∃ swept p s₀ s₁, Server.Reach Sample.listed swept ∧ Server.Reach swept p ∧
      Sample.listed.registry.service? 1 = none ∧ Sample.listed.StopsAll ∧
      (∃ turn, Sample.listed.signals = .closing turn [0] ∧ swept.signals = .closing turn []) ∧ swept.StopsAll ∧
      p.registry.service? 0 = some s₀ ∧ s₀.life.IsStopped ∧ p.registry.service? 1 = some s₁ ∧ s₁.life.IsStopped ∧
      s₁.life.connections = [] ∧ (p.calls.map (·.place)) =
        [.serving 0, .serving 1, .returned (some .shuttingDown)] := by
  have later : Server.Reach Sample.listed (Sample.after Sample.listed Sample.sweeping) :=
    Server.Run.start.moves Sample.site 0 Sample.sweeping rfl
  have last : Server.Reach (Sample.after Sample.listed Sample.sweeping)
      (Sample.after (Sample.after Sample.listed Sample.sweeping) Sample.finishing) :=
    Server.Run.start.moves Sample.site 0 Sample.finishing rfl
  have listed := Server.stopsAll_of_stopping Sample.reach_listed rfl
  have swept := Server.stopsAll_of_stopping (Sample.reach_listed.trans later) rfl
  exact ⟨_, _, _, _, later, last, rfl, listed, ⟨_, rfl, rfl⟩, swept, rfl, ⟨Or.inl rfl, rfl⟩, rfl, ⟨Or.inl rfl, rfl⟩, rfl,
    rfl⟩

end Handover
