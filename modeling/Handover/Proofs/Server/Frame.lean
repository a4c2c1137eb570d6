import Handover.Proofs.Registry.Slots
import Handover.Proofs.Service.Lifecycle
import Handover.Server.Move

namespace Handover

/-- What can have become of the service at an ordinal. -/
inductive Service.Later : Option Service → Option Service → Prop
  | none : Later none none
  | some {s s' : Service} (address : s'.address = s.address) (options : s'.options = s.options)
      (listener : s.life.listener.Later s'.life.listener) : Later (some s) (some s')

namespace Service.Later

theorem refl (s : Option Service) : Later s s := by
  cases s with
  | none => exact .none
  | some s => exact .some rfl rfl (.refl _)

theorem trans {s s' s'' : Option Service} (first : Later s s') (second : Later s' s'') : Later s s'' := by
  cases first with
  | none => exact second
  | some address options listener =>
    cases second with
    | some address' options' listener' =>
      exact .some (address'.trans address) (options'.trans options) (listener.trans listener')

theorem of_some {s : Service} {s' : Option Service} (later : Later (.some s) s') :
    ∃ t, s' = .some t ∧ t.address = s.address ∧ s.life.listener.Later t.life.listener := by
  cases later with
  | some address _ listener => exact ⟨_, rfl, address, listener⟩

theorem of_some_right {s : Option Service} {s' : Service} (later : Later s (.some s')) :
    ∃ t, s = .some t ∧ s'.address = t.address ∧ t.life.listener.Later s'.life.listener := by
  cases later with
  | some address _ listener => exact ⟨_, rfl, address, listener⟩

theorem options_of_some_right {s : Option Service} {s' : Service} (later : Later s (.some s')) :
    ∃ t, s = .some t ∧ s'.options = t.options ∧ t.life.listener.Later s'.life.listener := by
  cases later with
  | some _ options listener => exact ⟨_, rfl, options, listener⟩

theorem eq_none_iff {s s' : Option Service} (later : Later s s') : s' = .none ↔ s = .none := by
  cases later <;> simp

end Service.Later

/-- What can have become of a registry in which no address was claimed, given up or got a service. -/
structure Registry.Aged (r r' : Registry Service) : Prop where
  address? : ∀ o, r'.address? o = r.address? o
  isClaimed : ∀ o, r'.isClaimed o = r.isClaimed o
  service? : ∀ o, Service.Later (r.service? o) (r'.service? o)
  served : r'.served = r.served

namespace Registry.Aged

theorem of_slots {r r' : Registry Service} (slots : r'.slots = r.slots) : Aged r r' where
  address? o := by rw [Registry.address?, Registry.address?, slots]
  isClaimed o := by rw [Registry.isClaimed, Registry.isClaimed, slots]
  service? o := by
    rw [Registry.service?, Registry.service?, slots]
    exact .refl _
  served := by rw [Registry.served, Registry.served, slots]

theorem trans {r r' r'' : Registry Service} (first : Aged r r') (second : Aged r' r'') : Aged r r'' where
  address? o := (second.address? o).trans (first.address? o)
  isClaimed o := (second.isClaimed o).trans (first.isClaimed o)
  service? o := (first.service? o).trans (second.service? o)
  served := second.served.trans first.served

end Registry.Aged

/-- The record says that a process was told to stop. -/
def Record.isTelling : Record → Bool
  | .told _ => true
  | _ => false

/-- The record says that the parent was looked up after a completed takeover: it was told to stop, or taken to be gone. -/
def Record.isNotification : Record → Bool
  | .told _ | .notice .parentGone => true
  | _ => false

namespace Server

/-- How often a process was told to stop. -/
def tellings (p : Server) : Nat := p.journal.countP Record.isTelling

/-- How often the parent was looked up after a completed takeover. -/
def notifications (p : Server) : Nat := p.journal.countP Record.isNotification

/-- The part of a process that only calls change, without the lives of its services. -/
def core (p : Server) : Server :=
  { p with
    hooks := {}, queue := [], signals := .idle, listens := false, stopping := false, replacements := [], launches := 0
    review := none, journal := [], registry := p.registry.clearRestart }

/-- The journal has gone on, and nothing new in it is of a kind. -/
def Omits (kind : Record → Bool) (p p' : Server) : Prop :=
  ∃ records, p'.journal = p.journal ++ records ∧ ∀ r ∈ records, kind r = false

namespace Omits

variable {kind : Record → Bool} {p p' q : Server}

theorem of_eq (journal : p'.journal = p.journal) : Omits kind p p' :=
  ⟨[], journal.trans (List.append_nil _).symm, fun _ member => absurd member List.not_mem_nil⟩

theorem trans (first : Omits kind p q) (second : Omits kind q p') : Omits kind p p' := by
  obtain ⟨records, journal, silent⟩ := first
  obtain ⟨records', journal', silent'⟩ := second
  refine ⟨records ++ records', by rw [journal', journal, List.append_assoc], ?_⟩
  intro record member
  rcases List.mem_append.1 member with before | after
  · exact silent record before
  · exact silent' record after

theorem record (p : Server) {r : Record} (other : kind r = false) : Omits kind p (p.record r) :=
  ⟨_, rfl, fun r' member => by rw [List.mem_singleton.1 member, other]⟩

theorem journal (omits : Omits kind p p') : p.journal <+: p'.journal := by
  obtain ⟨records, journal, _⟩ := omits
  exact ⟨records, journal.symm⟩

theorem of_mem (omits : Omits kind p p') {r : Record} (member : r ∈ p'.journal) (same : kind r = true) :
    r ∈ p.journal := by
  obtain ⟨records, journal, silent⟩ := omits
  rw [journal] at member
  refine (List.mem_append.1 member).resolve_right fun new => ?_
  rw [silent r new] at same
  cases same

end Omits

/-- Nothing new in the journal says that the parent was looked up. -/
abbrev Hushed : Server → Server → Prop := Omits Record.isNotification

theorem Hushed.notifications {p p' : Server} (hushed : p.Hushed p') : p'.notifications = p.notifications := by
  obtain ⟨records, journal, silent⟩ := hushed
  have none_ : records.countP Record.isNotification = 0 := by
    rw [List.countP_eq_zero]
    intro r member
    rw [silent r member]
    exact Bool.false_ne_true
  rw [Server.notifications, journal, List.countP_append, none_]
  rfl

/-- A move that was not made by a call. -/
structure Frame (p p' : Server) : Prop where
  role : p'.role = p.role
  inherited : p'.inherited = p.inherited
  settings : p'.settings = p.settings
  arguments : p'.arguments = p.arguments
  handed : p'.handed = p.handed
  parent : p'.parent = p.parent
  adopted : p'.adopted = p.adopted
  calls : p'.calls = p.calls
  nextSocket : p'.nextSocket = p.nextSocket
  registry : p.registry.Aged p'.registry
  hushed : p.Hushed p'

theorem Frame.of_core {p p' : Server} (same : p'.core = p.core) (hushed : p.Hushed p') : Frame p p' := by
  have each {α : Type} (f : Server → α) : f p'.core = f p.core := congrArg f same
  exact {
    role := each Server.role
    inherited := each Server.inherited
    settings := each Server.settings
    arguments := each Server.arguments
    handed := each Server.handed
    parent := each Server.parent
    adopted := each Server.adopted
    calls := each Server.calls
    nextSocket := each Server.nextSocket
    registry := .of_slots (each fun q => q.registry.slots)
    hushed }

theorem Frame.refl (p : Server) : Frame p p := .of_core rfl (.of_eq rfl)

theorem Frame.trans {p q r : Server} (first : Frame p q) (second : Frame q r) : Frame p r where
  role := second.role.trans first.role
  inherited := second.inherited.trans first.inherited
  settings := second.settings.trans first.settings
  arguments := second.arguments.trans first.arguments
  handed := second.handed.trans first.handed
  parent := second.parent.trans first.parent
  adopted := second.adopted.trans first.adopted
  calls := second.calls.trans first.calls
  nextSocket := second.nextSocket.trans first.nextSocket
  registry := first.registry.trans second.registry
  hushed := first.hushed.trans second.hushed

theorem Frame.notifications {p p' : Server} (same : Frame p p') : p'.notifications = p.notifications :=
  same.hushed.notifications

theorem silent_notices {notices : List Notice} (quiet : Notice.parentGone ∉ notices) :
    ∀ r ∈ notices.map Record.notice, r.isNotification = false := by
  intro r member
  obtain ⟨notice, among, rfl⟩ := List.mem_map.1 member
  cases notice with
  | parentGone => exact absurd among quiet
  | _ => rfl

theorem Frame.alter {p : Server} {o : Nat} {f : Lifecycle → Lifecycle × List Notice}
    (later : ∀ s, p.registry.service? o = some s → s.life.listener.Later (f s.life).1.listener)
    (quiet : ∀ s, p.registry.service? o = some s → Notice.parentGone ∉ (f s.life).2) : Frame p (p.alter o f) := by
  unfold Server.alter
  split
  · exact .refl p
  · rename_i s there
    obtain ⟨address, claimed, service, served, _⟩ :=
      p.registry.views_update o fun _ => { s with life := (f s.life).1 }
    refine ⟨rfl, rfl, rfl, rfl, rfl, rfl, rfl, rfl, rfl, ⟨address, claimed, ?_, served⟩, ?_⟩
    · intro o'
      dsimp only
      rw [service]
      split
      · rename_i same
        subst same
        rw [there]
        exact .some rfl rfl (later s there)
      · exact .refl _
    · exact ⟨_, rfl, silent_notices (quiet s there)⟩

theorem alter?_eq_some {p p' : Server} {o : Nat} {f : Lifecycle → Option (Lifecycle × List Notice)}
    (run : p.alter? o f = some p') :
    ∃ s life notices, p.registry.service? o = some s ∧ f s.life = some (life, notices) ∧
      p' = p.alter o fun _ => (life, notices) := by
  obtain ⟨s, there, next⟩ := Option.bind_eq_some_iff.1 run
  obtain ⟨⟨life, notices⟩, step, same⟩ := Option.bind_eq_some_iff.1 next
  exact ⟨s, life, notices, there, step, (Option.some.inj same).symm⟩

theorem Frame.of_alter? {p p' : Server} {o : Nat} {f : Lifecycle → Option (Lifecycle × List Notice)}
    (later : ∀ l l' notices, f l = some (l', notices) →
      l.listener.Later l'.listener ∧ Notice.parentGone ∉ notices)
    (run : p.alter? o f = some p') : Frame p p' := by
  obtain ⟨s, life, notices, there, step, rfl⟩ := alter?_eq_some run
  obtain ⟨listener, quiet⟩ := later s.life life notices step
  refine .alter ?_ fun _ _ => quiet
  intro s' there'
  obtain rfl := Option.some.inj (there.symm.trans there')
  exact listener

theorem Frame.shutdown (p : Server) (now o : Nat) : Frame p (p.shutdown now o) :=
  .alter (fun s _ => s.life.later_shutdown now) fun _ _ => List.not_mem_nil

theorem Frame.startService (p : Server) (o : Nat) : Frame p (p.alter o fun life => (life.start.2, [])) := by
  refine .alter (fun s _ => ?_) fun _ _ => List.not_mem_nil
  rw [Lifecycle.start, Lifecycle.listener_enter]
  exact .refl _

theorem Frame.runService (p : Server) (o : Nat) : Frame p (p.alter o fun life => (life.run, [])) :=
  .alter (fun _ _ => .refl _) fun _ _ => List.not_mem_nil

theorem Frame.record (p : Server) {r : Record} (silent : r.isNotification = false) : Frame p (p.record r) :=
  .of_core rfl (.record p silent)

theorem Frame.moveSignals (p : Server) (place : SignalPlace) : Frame p (p.moveSignals place) := .of_core rfl (.of_eq rfl)

theorem Frame.conclude (p : Server) (turn : Turn) (outcome : Outcome) : Frame p (p.conclude turn outcome) :=
  (Frame.record p rfl).trans (.moveSignals _ _)

theorem Frame.answer (p : Server) (ticket : Option Nat) (outcome : Outcome) : Frame p (p.answer ticket outcome) := by
  cases ticket with
  | none => exact .refl p
  | some ticket => exact .record p rfl

theorem Frame.runHook (p : Server) (hook : Hook) (ticket : Option Nat) (rest : SignalPlace) :
    Frame p (p.runHook hook ticket rest) := by
  unfold Server.runHook
  refine (Frame.record p (r := .hook hook p.stopping) rfl).trans ?_
  dsimp only
  split
  · refine .of_core rfl ⟨_, rfl, ?_⟩
    intro r member
    obtain ⟨waiting, _, rfl⟩ := List.mem_map.1 member
    rfl
  · exact .moveSignals _ _

theorem Frame.failRestart (p : Server) (turn : Turn) (fault : Fault) : Frame p (p.failRestart turn fault) := by
  have cleared : Frame p { p with registry := p.registry.clearRestart } := .of_core rfl (.of_eq rfl)
  exact (cleared.trans (.record _ rfl)).trans (.conclude _ _ _)

theorem Frame.takeUp (p : Server) (d : Dispatch) (rest : List Dispatch) : Frame p (p.takeUp d rest) := by
  have taken : Frame p { p with queue := rest } := .of_core rfl (.of_eq rfl)
  unfold Server.takeUp
  dsimp only
  split
  · exact taken.trans (.moveSignals _ _)
  · exact ((taken.trans (.record _ rfl)).trans (.record _ rfl)).trans (.answer _ _ _)

theorem Frame.act (p : Server) (turn : Turn) : Frame p (p.act turn) := by
  unfold Server.act
  split
  · exact .of_core rfl (.of_eq rfl)
  · split
    · exact .conclude _ _ _
    · split
      · exact .conclude _ _ _
      · rename_i begun
        unfold Registry.beginRestart? at begun
        split at begun
        · cases begun
        · cases begun
          exact .of_core rfl (.of_eq rfl)

theorem Frame.capture (p : Server) (turn : Turn) : Frame p (p.capture turn) := by
  unfold Server.capture
  split
  · exact .failRestart _ _ _
  · exact .failRestart _ _ _
  · exact .moveSignals _ _

theorem Frame.launch (site : Site) (p : Server) (turn : Turn) (captured : List Restart.Captured) :
    Frame p (p.launch site turn captured) := by
  unfold Server.launch
  split
  · exact .failRestart _ _ _
  · rename_i r _
    have counted : Frame p { p with replacements := p.replacements ++ [r], launches := p.launches + 1 } :=
      .of_core rfl (.of_eq rfl)
    exact (counted.trans (.record _ rfl)).trans (.conclude _ _ _)

/-- Handling signals changes nothing that calls change, but for services that are stopped. -/
theorem Frame.stepSignals? {site : Site} {now : Nat} {p p' : Server} (run : p.stepSignals? site now = some p') :
    Frame p p' := by
  unfold Server.stepSignals? at run
  split at run
  · split at run
    · cases run
    · cases run
      exact .takeUp _ _ _
  · cases run
    exact .moveSignals _ _
  · cases run
    exact .runHook _ _ _ _
  · cases run
    exact .act _ _
  · cases run
    exact .moveSignals _ _
  · cases run
    exact .conclude _ _ _
  · cases run
    exact (Frame.shutdown _ _ _).trans (.moveSignals _ _)
  · cases run
    exact .capture _ _
  · cases run
    exact .launch _ _ _ _
  · cases run
    exact (Frame.answer _ _ _).trans (.moveSignals _ _)
  · cases run
    exact .runHook _ _ _ _
  · cases run

theorem deliver?_eq_some {p p' : Server} {number : Int} (run : p.deliver? number = some p') :
    p.listens = true ∧ (Signal.ofNumber? number).isSome ∧ p' = p.trigger { number } := by
  unfold deliver? at run
  split at run
  · rename_i handled
    obtain ⟨listens, named⟩ := Bool.and_eq_true_iff.1 handled
    cases run
    exact ⟨listens, named, rfl⟩
  · cases run

theorem register_eq_some {p p' : Server} {phase : HookPhase} {number : Int} {hook : Hook}
    (run : (p.register phase number hook).toOption = some p') :
    ∃ hooks, p.hooks.register phase number hook = .ok hooks ∧ p' = { p with hooks } := by
  unfold register at run
  cases registered : p.hooks.register phase number hook with
  | error fault =>
    rw [registered] at run
    cases run
  | ok hooks =>
    rw [registered] at run
    cases run
    exact ⟨hooks, rfl, rfl⟩

/-- Whether everything handed over is adopted is looked at once, and only logged. -/
theorem review?_eq_some {now : Nat} {p p' : Server} (run : p.review? now = some p') :
    p' = { p with review := none } ∨ p.adopted < p.inherited ∧ p.stopping = false ∧
      p' = ({ p with review := none } : Server).record (.notice (.notServed p.adopted p.inherited p.pending)) := by
  unfold review? at run
  split at run
  · cases run
  · split at run
    · dsimp only at run
      split at run
      · cases run
        exact Or.inl rfl
      · rename_i unserved
        rw [Bool.or_eq_true, decide_eq_true_eq, not_or, Bool.not_eq_true] at unserved
        cases run
        exact Or.inr ⟨Nat.lt_of_not_le unserved.1, unserved.2, rfl⟩
    · cases run

theorem Frame.trigger (p : Server) (d : Dispatch) : Frame p (p.trigger d) := by
  unfold Server.trigger
  split
  · exact .record _ rfl
  · exact .refl p
  · exact .of_core rfl (.of_eq rfl)

theorem Frame.replacementEnds (p : Server) (serial : Nat) : Frame p (p.replacementEnds serial) := by
  unfold Server.replacementEnds
  dsimp only
  split
  · exact .of_core rfl (.of_eq rfl)
  · exact .of_core rfl ⟨_, rfl, fun r member => by rw [List.mem_singleton.1 member]; rfl⟩

theorem Frame.review? {now : Nat} {p p' : Server} (run : p.review? now = some p') : Frame p p' := by
  have looked : Frame p { p with review := none } := .of_core rfl (.of_eq rfl)
  rcases review?_eq_some run with rfl | ⟨_, _, rfl⟩
  · exact looked
  · exact looked.trans (.record _ rfl)

/-- How a process has become another by a step of the task of connection `i`: what was made ready is passed to the handler
and recorded, it could not be made ready, or the step was another one. -/
inductive Connects (site : Site) (p : Server) (o i : Nat) (peer : Endpoint) : Server → Prop
  | ready {s c q} : p.registry.service? o = some s → s.life.isReadying i = true →
      s.establish site.provider peer = .ok c → p.advanceConnection? o i true = some q →
      Connects site p o i peer (q.record (.passed o i c))
  | unready {s failure q} : p.registry.service? o = some s → s.life.isReadying i = true →
      s.establish site.provider peer = .error failure → p.advanceConnection? o i false = some q → Connects site p o i peer q
  | other {s ok q} : p.registry.service? o = some s → s.life.isReadying i = false →
      p.advanceConnection? o i ok = some q → Connects site p o i peer q

theorem connects_of_stepConnection? {site : Site} {p p' : Server} {o i : Nat} {peer : Endpoint} {ok : Bool}
    (run : p.stepConnection? site o i peer ok = some p') : Connects site p o i peer p' := by
  unfold stepConnection? at run
  split at run
  · cases run
  · rename_i s there
    split at run
    · rename_i readying
      split at run
      · rename_i refused
        exact .unready there readying refused run
      · rename_i c made
        obtain ⟨q, step, rfl⟩ := Option.map_eq_some_iff.1 run
        exact .ready there readying made step
    · rename_i other
      exact .other there (Bool.eq_false_iff.2 other) run

theorem stepConnection?_of_readying {site : Site} {p q : Server} {o i : Nat} {peer : Endpoint} {s : Service}
    {c : Connection} (there : p.registry.service? o = some s) (readying : s.life.isReadying i = true)
    (made : s.establish site.provider peer = .ok c) (advanced : p.advanceConnection? o i true = some q)
    (ok : Bool) :
    p.stepConnection? site o i peer ok = some (q.record (.passed o i c)) := by
  simp only [stepConnection?, there, readying, if_true, made, advanced, Option.map_some]

/-- But for what it records, a step of the task of a connection is one of the life of its service. -/
theorem Connects.advance {site : Site} {p p' : Server} {o i : Nat} {peer : Endpoint}
    (connects : Connects site p o i peer p') :
    ∃ ok q, p.advanceConnection? o i ok = some q ∧ (p' = q ∨ ∃ c, p' = q.record (.passed o i c)) := by
  cases connects with
  | ready _ _ _ step => exact ⟨_, _, step, Or.inr ⟨_, rfl⟩⟩
  | unready _ _ _ step | other _ _ step => exact ⟨_, _, step, Or.inl rfl⟩

theorem Frame.advanceConnection? {p p' : Server} {o i : Nat} {ok : Bool} (run : p.advanceConnection? o i ok = some p') :
    Frame p p' := by
  refine .of_alter? (fun l l' notices step => ?_) run
  obtain ⟨next, taken, same⟩ := Option.map_eq_some_iff.1 step
  cases same
  exact ⟨l.later_stepConnection? taken, List.not_mem_nil⟩

/-- Every move that is not that of a call, or its beginning, leaves what calls change as it is. -/
theorem Frame.move? {site : Site} {now : Nat} {p p' : Server} {m : Move} (run : p.move? site now m = some p')
    (noCall : ∀ i, m ≠ .call i) (noServe : ∀ address options, m ≠ .serve address options) : Frame p p' := by
  cases m with
  | call i => exact absurd rfl (noCall i)
  | signals => exact .stepSignals? run
  | loop o i =>
    refine .of_alter? (fun l l' notices step => ⟨l.later_stepLoop? step, fun member => ?_⟩) run
    exact Bool.false_ne_true (l.notices_stepLoop? step _ member)
  | watchdog o =>
    refine .of_alter? (fun l l' notices step => ⟨l.later_fireWatchdog? step, fun member => ?_⟩) run
    exact Bool.false_ne_true (l.notices_fireWatchdog? step _ member)
  | connection o i peer ok =>
    obtain ⟨_, q, step, rfl | ⟨c, rfl⟩⟩ := (connects_of_stepConnection? run).advance
    · exact .advanceConnection? step
    · exact (Frame.advanceConnection? step).trans (.record q rfl)
  | review => exact .review? run
  | serve address options => exact absurd rfl (noServe address options)
  | trigger d =>
    cases run
    exact .trigger _ _
  | deliver number =>
    obtain ⟨_, _, rfl⟩ := deliver?_eq_some run
    exact .trigger _ _
  | listen =>
    cases run
    exact .of_core rfl (.of_eq rfl)
  | register phase number hook =>
    obtain ⟨hooks, _, rfl⟩ := register_eq_some run
    exact .of_core rfl (.of_eq rfl)
  | arrive o arrival =>
    simp only [Server.move?] at run
    refine .of_alter? (fun l l' notices step => ?_) run
    cases step
    exact ⟨l.later_arrive arrival, List.not_mem_nil⟩
  | closeListener o =>
    cases run
    exact .alter (fun s _ => s.life.later_closeListener) fun _ _ => List.not_mem_nil
  | shutdown o =>
    cases run
    exact .shutdown _ _ _
  | replacementEnds serial =>
    cases run
    exact .replacementEnds _ _

end Server

end Handover
