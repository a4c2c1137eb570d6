import Handover.Proofs.Server.Bearing
import Handover.Proofs.Service.Connections

namespace Handover

/-- The handler has the connection, or has had it. -/
def ConnectionPlace.isPassed : ConnectionPlace → Bool
  | serving | ended .served | ended .failed => true
  | _ => false

/-- The record says that a connection was passed to a handler. -/
def Record.isPassed : Record → Bool
  | passed .. => true
  | _ => false

namespace Lifecycle

/-- The handler of the service has connection `i`, or has had it. -/
def hasPassed (l : Lifecycle) (i : Nat) : Bool := l.connections[i]?.any ConnectionPlace.isPassed

variable {l l' : Lifecycle} {i j now : Nat}

theorem hasPassed_of_same (same : l'.connections = l.connections) : l'.hasPassed i = l.hasPassed i := by
  rw [hasPassed, same, hasPassed]

/-- The handler gets a connection only by a step of its task that makes it ready. -/
theorem passes_of_stepConnection? {ok : Bool} (run : l.stepConnection? j ok = some l') :
    ∃ place place', l.connections[j]? = some place ∧ l'.connections = l.connections.set j place' ∧
      (place'.isPassed = true → place.isPassed = true ∨ ok = true ∧ l.isReadying j = true) := by
  unfold stepConnection? at run
  split at run
  · cases run
  · cases run
  rename_i place notEnded at_
  have ends {how : ConnectionEnd} (run : l.endConnection? j how = some l') :
      l'.connections = l.connections.set j (.ended how) := by
    obtain ⟨tracker, rfl⟩ := endConnection?_eq_some run
    rfl
  split at run
  · exact ⟨place, _, at_, ends run, nofun⟩
  rename_i unforced
  split at run
  · cases run
    exact ⟨_, .readying, at_, rfl, nofun⟩
  · split at run
    · rename_i succeeds
      cases run
      refine ⟨_, .serving, at_, rfl, fun _ => .inr ⟨succeeds, ?_⟩⟩
      rw [isReadying, at_, Bool.eq_false_iff.2 unforced]
      rfl
    · exact ⟨_, _, at_, ends run, nofun⟩
  · rename_i notSpawned notReadying
    refine ⟨place, _, at_, ends run, fun _ => .inl ?_⟩
    cases place with
    | spawned => exact absurd rfl notSpawned
    | readying => exact absurd rfl notReadying
    | serving => rfl
    | ended how => exact absurd rfl (notEnded how)

theorem ready_of_hasPassed {ok : Bool} (run : l.stepConnection? j ok = some l') (passed : l'.hasPassed i = true) :
    l.hasPassed i = true ∨ j = i ∧ ok = true ∧ l.isReadying j = true := by
  obtain ⟨place, place', at_, set, passes⟩ := passes_of_stepConnection? run
  rw [hasPassed, set, any_getElem?_set at_] at passed
  split at passed
  · rename_i here
    rcases passes passed with before | ready
    · left
      rw [hasPassed, ← here, at_]
      exact before
    · exact .inr ⟨here, ready⟩
  · exact .inl passed

theorem connections_shutdown (l : Lifecycle) (now : Nat) : (l.shutdown now).2.connections = l.connections := by
  rcases l.beginStop_cases with ⟨_, late⟩ | ⟨_, taken⟩
  · rw [shutdown, late]
  · rw [shutdown, taken]
    dsimp only
    rcases Lifecycle.arm_eq (closeListener { l with phase := .draining }) now with ⟨_, same⟩ | ⟨limit, _, armed⟩
    · rw [same]
      exact (quiet_closeListener _).connections
    · rw [armed]
      exact (quiet_closeListener _).connections

theorem connections_fireWatchdog? {notices : List Notice} (run : l.fireWatchdog? now = some (l', notices)) :
    l'.connections = l.connections := by
  unfold fireWatchdog? at run
  split at run
  · split at run
    · split at run
      · cases run
        exact (quiet_terminate _).connections
      · cases run
        rfl
    · cases run
  · cases run

theorem hasPassed_of_stepLoop? {notices : List Notice} (run : l.stepLoop? now j = some (l', notices))
    (passed : l'.hasPassed i = true) : l.hasPassed i = true := by
  have step : l.step? now (.loop j) = some l' := by rw [step?, run]; rfl
  cases counting_of_step? step with
  | keep _ _ same => rwa [← hasPassed_of_same same]
  | accept _ _ more =>
    rw [hasPassed, more, getElem?_append_last] at passed
    split at passed
    · cases passed
    · exact passed

end Lifecycle

namespace Server

variable {site : Site} {now o i : Nat} {p p' q : Server} {m : Move} {l l' : Lifecycle}

/-- But for the task of the connection itself nobody passes it to the handler. -/
theorem Touches.hasPassed (touches : Touches now p o l m l') (passed : l'.hasPassed i = true) :
    l.hasPassed i = true ∨ ∃ peer ok, m = .connection o i peer ok := by
  have kept (same : l'.connections = l.connections) : l.hasPassed i = true :=
    Lifecycle.hasPassed_of_same same ▸ passed
  cases touches with
  | keep => exact .inl passed
  | start => exact .inl (kept l.quiet_start.connections)
  | run => exact .inl (kept rfl)
  | late | signal | shutdown => exact .inl (kept (l.connections_shutdown now))
  | loop step => exact .inl (Lifecycle.hasPassed_of_stepLoop? step passed)
  | watchdog step => exact .inl (kept (Lifecycle.connections_fireWatchdog? step))
  | @connection j peer ok _ _ step =>
    rcases Lifecycle.ready_of_hasPassed step passed with before | ⟨rfl, _⟩
    · exact .inl before
    · exact .inr ⟨peer, ok, rfl⟩
  | arrive => exact .inl (kept (Lifecycle.quiet_nudge _).connections)
  | close => exact .inl (kept l.quiet_closeListener.connections)

/-- Nothing new in the journal says that a connection was passed to a handler. -/
abbrev Withholds : Server → Server → Prop := Omits Record.isPassed

namespace Withholds

theorem alter (p : Server) (o : Nat) (f : Lifecycle → Lifecycle × List Notice) : p.Withholds (p.alter o f) := by
  unfold Server.alter
  split
  · exact .of_eq rfl
  · refine ⟨_, rfl, fun r member => ?_⟩
    obtain ⟨notice, _, rfl⟩ := List.mem_map.1 member
    rfl

theorem of_alter? {f : Lifecycle → Option (Lifecycle × List Notice)} (run : p.alter? o f = some p') :
    p.Withholds p' := by
  obtain ⟨_, _, _, _, _, rfl⟩ := alter?_eq_some run
  exact .alter p o _

theorem answer (p : Server) (ticket : Option Nat) (outcome : Outcome) : p.Withholds (p.answer ticket outcome) := by
  cases ticket with
  | none => exact .of_eq rfl
  | some ticket => exact .record p rfl

theorem breakOff (p : Server) (ticket : Option Nat) : p.Withholds (p.breakOff ticket) := by
  refine ⟨_, rfl, fun r member => ?_⟩
  obtain ⟨waiting, _, rfl⟩ := List.mem_map.1 member
  rfl

theorem trigger (p : Server) (d : Dispatch) : p.Withholds (p.trigger d) := by
  unfold Server.trigger
  split
  · exact .record p rfl
  · exact .of_eq rfl
  · exact .of_eq rfl

theorem replacementEnds (p : Server) (serial : Nat) : p.Withholds (p.replacementEnds serial) := by
  unfold Server.replacementEnds
  dsimp only
  split
  · exact .of_eq rfl
  · exact .record p (r := .notice .replacementExited) rfl

theorem handling (step : Handling site now p p') : p.Withholds p' := by
  cases step with
  | take | turn | stop | begin_ | list | capture => exact .of_eq rfl
  | before | after => exact .record p (r := .hook _ _) rfl
  | skip | closed => exact .record p (r := .handled _ _) rfl
  | ignore =>
    refine Omits.trans ?_ (answer _ _ _)
    exact (Omits.record p (r := .notice _) rfl).trans (.record _ (r := .handled _ _) rfl)
  | breakOff => exact (Omits.record p (r := .hook _ _) rfl).trans (breakOff _ _)
  | close => exact .alter p _ _
  | refuse | empty | fail =>
    exact (Omits.record p (r := .notice _) rfl).trans (.record _ (r := .handled _ _) rfl)
  | launch => exact (Omits.record p (r := .launched _) rfl).trans (.record _ (r := .handled _ _) rfl)
  | rest => exact .answer p _ _

theorem of_advance {c : Call} {place : CallPlace} (advance : Advance site now p c place q) (i : Nat) :
    p.Withholds (q.moveCall i place) := by
  cases advance with
  | start | run | stop => exact .alter p _ _
  | notify =>
    unfold notifyParent
    split
    · exact .record p rfl
    · exact .record p rfl
  | refuse | repeated | lose | finish | release => exact .record p (r := .returned _ _) rfl
  | _ => exact .of_eq rfl

end Withholds

/-- A move passes no connection to a handler unless it is a step of its task, which has made it ready. -/
theorem withholds_or_passes (run : p.move? site now m = some p') :
    p.Withholds p' ∨ ∃ o i peer ok s c q, m = .connection o i peer ok ∧ p.registry.service? o = some s ∧
      s.establish site.provider peer = .ok c ∧ p.Withholds q ∧ p' = q.record (.passed o i c) := by
  cases m with
  | call i =>
    obtain ⟨c, place, q, _, advance, rfl⟩ := stepCall?_eq_some run
    exact .inl (.of_advance advance i)
  | signals => exact .inl (.handling (stepSignals?_eq_some run))
  | loop | watchdog | arrive =>
    simp only [Server.move?] at run
    exact .inl (.of_alter? run)
  | connection o i peer ok =>
    cases connects_of_stepConnection? run with
    | ready there _ made step => exact .inr ⟨o, i, peer, ok, _, _, _, rfl, there, made, .of_alter? step, rfl⟩
    | unready _ _ _ step | other _ _ step => exact .inl (.of_alter? step)
  | closeListener | shutdown =>
    cases run
    exact .inl (.alter p _ _)
  | review =>
    rcases review?_eq_some run with rfl | ⟨_, _, rfl⟩
    · exact .inl (.of_eq rfl)
    · exact .inl (.record _ (r := .notice _) rfl)
  | serve | listen =>
    cases run
    exact .inl (.of_eq rfl)
  | trigger d =>
    cases run
    exact .inl (.trigger p d)
  | deliver number =>
    obtain ⟨_, _, rfl⟩ := deliver?_eq_some run
    exact .inl (.trigger p _)
  | register =>
    obtain ⟨hooks, _, rfl⟩ := register_eq_some run
    exact .inl (.of_eq rfl)
  | replacementEnds serial =>
    cases run
    exact .inl (.replacementEnds p serial)

/-- A connection that is passed to the handler of a service in a move is recorded as passed, as what was made of it. -/
theorem recorded_of_hasPassed {s s' : Service} (claims : p.Claims) (there : p.registry.service? o = some s)
    (run : p.move? site now m = some p') (there' : p'.registry.service? o = some s')
    (passed : s'.life.hasPassed i = true) : s.life.hasPassed i = true ∨ ∃ c, Record.passed o i c ∈ p'.journal := by
  obtain ⟨_, atSame, touches⟩ := touched_of_move? claims there run
  cases there'.symm.trans atSame
  rcases touches.hasPassed passed with before | ⟨peer, ok, rfl⟩
  · exact .inl before
  have unmade {ok' : Bool} {q : Server} (step : p.advanceConnection? o i ok' = some q)
      (after : q.registry.service? o = some s') (unready : ok' = false ∨ s.life.isReadying i = false) :
      s.life.hasPassed i = true := by
    obtain ⟨_, life, _, atBefore, taken, rfl⟩ := alter?_eq_some step
    cases there.symm.trans atBefore
    obtain ⟨next, advanced, same⟩ := Option.map_eq_some_iff.1 taken
    cases same
    rw [service?_alter there, if_pos rfl] at after
    cases after
    rcases Lifecycle.ready_of_hasPassed advanced passed with before | ⟨_, succeeds, readying⟩
    · exact before
    · rcases unready with failed | other
      · cases succeeds.symm.trans failed
      · cases readying.symm.trans other
  cases connects_of_stepConnection? run with
  | ready => exact .inr ⟨_, List.mem_append_right _ (List.mem_singleton_self _)⟩
  | unready _ _ _ step => exact .inl (unmade step there' (.inl rfl))
  | other atBefore other step =>
    cases there.symm.trans atBefore
    exact .inl (unmade step there' (.inr other))

end Server

end Handover
