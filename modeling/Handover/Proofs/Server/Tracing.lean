import Handover.Proofs.Server.Handling
import Mathlib.Data.List.Induction

namespace Handover

/-- The record is part of the trace. -/
def Record.isOfSignals : Record → Bool
  | .hook .. | .handled .. | .answered .. | .launched _ => true
  | .notice _ | .told _ | .passed .. | .returned .. => false

namespace Move

/-- The signal that arrives. -/
def arrival? : Move → Option Dispatch
  | .trigger d => some d
  | .deliver number => some { number }
  | _ => none

/-- The hook that is registered for a phase of a signal. -/
def hook? (phase : HookPhase) (signal : Signal) : Move → Option Hook
  | .register phase' number hook =>
    if phase' = phase ∧ Signal.ofNumber? number = some signal then some hook else none
  | _ => none

/-- A hook is registered that panics. -/
def panics : Move → Bool
  | .register _ _ hook => hook.panics
  | _ => false

/-- The signals that arrive, in order. -/
def arrivals (ms : List Move) : List Dispatch := ms.filterMap arrival?

/-- The hooks that are registered for a phase of a signal, in order. -/
def registered (ms : List Move) (phase : HookPhase) (signal : Signal) : List Hook := ms.filterMap (hook? phase signal)

@[simp] theorem arrivals_append (ms : List Move) (m : Move) :
    arrivals (ms ++ [m]) = arrivals ms ++ m.arrival?.toList := by
  simp only [arrivals, List.filterMap_append]
  cases arrived : m.arrival? <;> simp [arrived]

@[simp] theorem registered_append (ms : List Move) (m : Move) (phase : HookPhase) (signal : Signal) :
    registered (ms ++ [m]) phase signal = registered ms phase signal ++ (m.hook? phase signal).toList := by
  simp only [registered, List.filterMap_append]
  cases added : m.hook? phase signal <;> simp [added]

theorem mem_registered_of_prefix {ms ms' : List Move} {phase : HookPhase} {signal : Signal} {hook : Hook}
    (earlier : ms <+: ms') (member : hook ∈ registered ms phase signal) : hook ∈ registered ms' phase signal := by
  obtain ⟨later, rfl⟩ := earlier
  rw [registered, List.filterMap_append]
  exact List.mem_append_left _ member

theorem panics_of_mem_registered {ms : List Move} {phase : HookPhase} {signal : Signal} {hook : Hook}
    (calm : ∀ m ∈ ms, m.panics = false) (member : hook ∈ registered ms phase signal) : hook.panics = false := by
  obtain ⟨m, made, added⟩ := List.mem_filterMap.1 member
  cases m with
  | register phase' number hook' =>
    rw [hook?] at added
    split at added
    · cases added
      exact calm _ made
    · cases added
  | _ => cases added

theorem arrivals_signals (ms : List Move) (n : Nat) : arrivals (ms ++ List.replicate n .signals) = arrivals ms := by
  rw [arrivals, List.filterMap_append, List.filterMap_replicate_of_none rfl, List.append_nil, arrivals]

end Move

namespace Server

/-- What was done about signals, in order. -/
def trace (p : Server) : List Record := p.journal.filter Record.isOfSignals

@[simp] theorem trace_record (p : Server) (r : Record) :
    (p.record r).trace = p.trace ++ if r.isOfSignals then [r] else [] := by
  simp only [trace, record, List.filter_append, List.filter_cons, List.filter_nil]

@[simp] theorem trace_answer (p : Server) (ticket : Option Nat) (outcome : Outcome) :
    (p.answer ticket outcome).trace = p.trace ++ ticket.toList.map (.answered · (some outcome)) := by
  cases ticket with
  | none => exact (List.append_nil _).symm
  | some ticket => exact trace_record p _

theorem trace_breakOff (p : Server) (ticket : Option Nat) : (p.breakOff ticket).trace =
    p.trace ++ (ticket.toList ++ p.queue.filterMap (·.ticket)).map (.answered · none) := by
  have kept : ∀ tickets : List Nat, (tickets.map (Record.answered · none)).filter Record.isOfSignals =
      tickets.map (.answered · none) := by
    intro tickets
    rw [List.filter_eq_self]
    intro r member
    obtain ⟨_, _, rfl⟩ := List.mem_map.1 member
    rfl
  rw [trace, breakOff, List.filter_append, kept, trace]

theorem filter_notices (notices : List Notice) : (notices.map Record.notice).filter Record.isOfSignals = [] := by
  rw [List.filter_eq_nil_iff]
  intro r member
  obtain ⟨notice, _, rfl⟩ := List.mem_map.1 member
  exact Bool.false_ne_true

/-- A move that changes nothing that the handling of signals reads or writes, but for the end of a restart. -/
structure Unheard (p p' : Server) : Prop where
  signals : p'.signals = p.signals
  queue : p'.queue = p.queue
  stopping : p'.stopping = p.stopping
  hooks : p'.hooks = p.hooks
  trace : p'.trace = p.trace
  restarting : p'.registry.restarting = true → p.registry.restarting = true

theorem Unheard.of_apart {p p' : Server} (apart : Apart p p') (hooks : p'.hooks = p.hooks) (trace : p'.trace = p.trace) :
    Unheard p p' :=
  ⟨apart.signals, apart.queue, apart.stopping, hooks, trace, fun restarting => apart.restarting ▸ restarting⟩

theorem Unheard.alter (p : Server) (o : Nat) (f : Lifecycle → Lifecycle × List Notice) : Unheard p (p.alter o f) := by
  refine .of_apart (.alter p o f) ?_ ?_
  · unfold Server.alter
    split <;> rfl
  · unfold Server.alter
    split
    · rfl
    · simp only [Server.trace, List.filter_append, filter_notices, List.append_nil]

theorem Unheard.passed {p q : Server} (unheard : Unheard p q) (o i : Nat) (c : Connection) :
    Unheard p (q.record (.passed o i c)) :=
  ⟨unheard.signals, unheard.queue, unheard.stopping, unheard.hooks,
    ((trace_record q _).trans (List.append_nil _)).trans unheard.trace, unheard.restarting⟩

theorem Unheard.of_alter? {p p' : Server} {o : Nat} {f : Lifecycle → Option (Lifecycle × List Notice)}
    (run : p.alter? o f = some p') : Unheard p p' := by
  obtain ⟨s, life, notices, _, _, rfl⟩ := alter?_eq_some run
  exact .alter p o _

theorem Unheard.of_advance {site : Site} {now : Nat} {p q : Server} {c : Call} {place : CallPlace}
    (advance : Advance site now p c place q) (i : Nat) : Unheard p (q.moveCall i place) := by
  have moved : Unheard p q → Unheard p (q.moveCall i place) := fun unheard =>
    ⟨unheard.signals, unheard.queue, unheard.stopping, unheard.hooks, unheard.trace, unheard.restarting⟩
  refine .of_apart (.of_advance advance i) ?_ ?_
  · cases advance with
    | start | run | stop => exact (moved (.alter p _ _)).hooks
    | notify =>
      unfold notifyParent
      split <;> rfl
    | _ => rfl
  · cases advance with
    | start | run | stop => exact (moved (.alter p _ _)).trace
    | notify =>
      unfold notifyParent
      split <;> exact (trace_record p _).trans (List.append_nil _)
    | refuse | repeated | lose | finish | release => exact (trace_record _ _).trans (List.append_nil _)
    | _ => rfl

theorem Unheard.replacementEnds (p : Server) (serial : Nat) : Unheard p (p.replacementEnds serial) := by
  refine ⟨by simp, by simp, by simp, ?_, ?_, ?_⟩
  · unfold Server.replacementEnds
    dsimp only
    split <;> rfl
  · unfold Server.replacementEnds
    dsimp only
    split
    · rfl
    · exact (trace_record p _).trans (List.append_nil _)
  · rw [registry_replacementEnds]
    exact fun both => (Bool.and_eq_true_iff.1 both).1

/-- A move is made, or a registration is rejected and nothing happens. -/
def attempt? (site : Site) (now : Nat) (p : Server) : Move → Option Server
  | .register phase number hook =>
    match p.register phase number hook with
    | .ok p' => some p'
    | .error _ => some p
  | m => p.move? site now m

/-- What a process has become by moves and rejected registrations, each at a site and a time of its own. -/
inductive Path (first : Server) : List Move → Server → Prop
  | start : Path first [] first
  | next {ms : List Move} {p p' : Server} {site : Site} {now : Nat} {m : Move} : Path first ms p →
      p.attempt? site now m = some p' → Path first (ms ++ [m]) p'

/-- What a move is to the handling of signals. -/
inductive Meets (site : Site) (now : Nat) (p : Server) : Move → Server → Prop
  | unheard {m p'} : m.arrival? = none → (∀ phase signal, m.hook? phase signal = none) → Unheard p p' →
      Meets site now p m p'
  | arrive {m d} : m.arrival? = some d → (∀ phase signal, m.hook? phase signal = none) →
      Meets site now p m (p.trigger d)
  | register {phase number hook hooks} : p.hooks.register phase number hook = .ok hooks →
      Meets site now p (.register phase number hook) { p with hooks }
  | handle {p'} : Handling site now p p' → Meets site now p .signals p'

theorem register_eq_error_iff {hooks : Hooks Hook} {phase : HookPhase} {number : Int} {hook : Hook} {fault : Fault} :
    hooks.register phase number hook = .error fault ↔
      Signal.ofNumber? number = none ∧ fault = .unsupportedSignal number := by
  unfold Hooks.register
  cases named : Signal.ofNumber? number with
  | none => simp [eq_comm]
  | some signal => simp

theorem meets_of_attempt? {site : Site} {now : Nat} {p p' : Server} {m : Move}
    (run : p.attempt? site now m = some p') : Meets site now p m p' := by
  cases m with
  | register phase number hook =>
    simp only [attempt?, register] at run
    cases registered : p.hooks.register phase number hook with
    | error fault =>
      rw [registered] at run
      cases run
      refine .unheard rfl ?_ (.of_apart (.refl p) rfl rfl)
      intro phase' signal
      simp [Move.hook?, (register_eq_error_iff.1 registered).1]
    | ok hooks =>
      rw [registered] at run
      cases run
      exact .register registered
  | call i =>
    obtain ⟨c, place, q, _, advance, rfl⟩ := stepCall?_eq_some run
    exact .unheard rfl (fun _ _ => rfl) (.of_advance advance i)
  | signals => exact .handle (stepSignals?_eq_some run)
  | loop | watchdog | arrive =>
    simp only [attempt?, move?] at run
    exact .unheard rfl (fun _ _ => rfl) (.of_alter? run)
  | connection =>
    obtain ⟨_, q, step, rfl | ⟨c, rfl⟩⟩ := (connects_of_stepConnection? run).advance
    · exact .unheard rfl (fun _ _ => rfl) (.of_alter? step)
    · exact .unheard rfl (fun _ _ => rfl) (.passed (.of_alter? step) _ _ c)
  | review =>
    refine .unheard rfl (fun _ _ => rfl) ?_
    rcases review?_eq_some run with rfl | ⟨_, _, rfl⟩
    · exact .of_apart ⟨rfl, rfl, rfl, rfl, rfl, rfl⟩ rfl rfl
    · exact .of_apart ⟨rfl, rfl, rfl, rfl, rfl, rfl⟩ rfl ((trace_record _ _).trans (List.append_nil _))
  | serve | listen =>
    cases run
    exact .unheard rfl (fun _ _ => rfl) (.of_apart ⟨rfl, rfl, rfl, rfl, rfl, rfl⟩ rfl rfl)
  | trigger d =>
    cases run
    exact .arrive rfl fun _ _ => rfl
  | deliver number =>
    obtain ⟨_, _, rfl⟩ := deliver?_eq_some run
    exact .arrive rfl fun _ _ => rfl
  | closeListener | shutdown =>
    cases run
    exact .unheard rfl (fun _ _ => rfl) (.alter _ _ _)
  | replacementEnds serial =>
    cases run
    exact .unheard rfl (fun _ _ => rfl) (.replacementEnds p serial)

/-- From `p`, when the moves `ms` have been made, the process becomes `p'` by more moves, with which `ms'` have been made. -/
def Since (ms : List Move) (p : Server) (ms' : List Move) (p' : Server) : Prop :=
  ∃ later, ms' = ms ++ later ∧ Path p later p'

theorem Since.refl (ms : List Move) (p : Server) : Since ms p ms p := ⟨[], (List.append_nil _).symm, .start⟩

theorem Since.next {ms ms' : List Move} {p p' q : Server} (since : Since ms p ms' p') {site : Site} {now : Nat} {m : Move}
    (run : p'.attempt? site now m = some q) : Since ms p (ms' ++ [m]) q := by
  obtain ⟨later, rfl, path⟩ := since
  exact ⟨later ++ [m], List.append_assoc _ _ _, path.next run⟩

theorem Since.le {ms ms' : List Move} {p p' : Server} (since : Since ms p ms' p') : ms <+: ms' := by
  obtain ⟨later, rfl, _⟩ := since
  exact List.prefix_append _ _

theorem Path.append_iff {first q : Server} {ms : List Move} {m : Move} :
    Path first (ms ++ [m]) q ↔ ∃ p site now, Path first ms p ∧ p.attempt? site now m = some q := by
  constructor
  · intro path
    generalize whole : ms ++ [m] = made at path
    cases path with
    | start => exact absurd whole (by simp)
    | next earlier move =>
      obtain ⟨rfl, same⟩ := List.append_inj' whole rfl
      cases same
      exact ⟨_, _, _, earlier, move⟩
  · rintro ⟨p, site, now, earlier, move⟩
    exact earlier.next move

theorem attempt?_of_move? {site : Site} {now : Nat} {p p' : Server} {m : Move} (move : p.move? site now m = some p') :
    p.attempt? site now m = some p' := by
  cases m with
  | register phase number hook =>
    rw [move?] at move
    rw [attempt?]
    cases registered : p.register phase number hook with
    | error fault =>
      rw [registered] at move
      cases move
    | ok q =>
      rw [registered] at move
      exact move
  | _ => exact move

theorem Path.moves {first p q : Server} {ms : List Move} (path : Path first ms p) (site : Site) (now : Nat)
    (ms' : List Move) (made : p.moves? site now ms' = some q) : Path first (ms ++ ms') q := by
  induction ms' generalizing ms p with
  | nil =>
    cases made
    rwa [List.append_nil]
  | cons m rest ih =>
    obtain ⟨p', move, made'⟩ := Option.bind_eq_some_iff.1 made
    rw [List.append_cons]
    exact ih (path.next (attempt?_of_move? move)) made'

theorem register_of_unhandled (p : Server) (phase : HookPhase) {number : Int} (hook : Hook)
    (unnamed : Signal.ofNumber? number = none) : p.register phase number hook = .error (.unsupportedSignal number) := by
  rw [register, register_eq_error_iff.2 ⟨unnamed, rfl⟩]
  rfl

/-- A registration that is rejected can be left out. -/
theorem Path.iff_of_rejected {first : Server} {phase : HookPhase} {number : Int} {hook : Hook}
    (unnamed : Signal.ofNumber? number = none) (earlier later : List Move) (q : Server) :
    Path first (earlier ++ .register phase number hook :: later) q ↔ Path first (earlier ++ later) q := by
  have rejected : ∀ site now (p : Server), p.attempt? site now (.register phase number hook) = some p := by
    intro site now p
    rw [attempt?, p.register_of_unhandled phase hook unnamed]
  have site : Site := ⟨.isolated, fun _ => .error .notFound, .isolated, fun _ => none⟩
  induction later using List.reverseRecOn generalizing q with
  | nil =>
    rw [append_iff, List.append_nil]
    constructor
    · rintro ⟨p, site, now, path, move⟩
      rw [rejected] at move
      cases move
      exact path
    · exact fun path => ⟨q, site, 0, path, rejected site 0 q⟩
  | append_singleton later m ih =>
    rw [← List.append_assoc, append_iff, ← List.cons_append, ← List.append_assoc, append_iff]
    simp only [ih]

end Server

namespace SignalPlace

/-- How many steps are left for the signal in hand, at most, with so many hooks and so many ordinals. -/
def work (hooks ordinals : Nat) : SignalPlace → Nat
  | idle | ended => 0
  | after _ _ rest => rest.length + 1
  | launching .. => hooks + 2
  | capturing _ => hooks + 3
  | closing _ rest => rest.length + hooks + 2
  | listing _ => ordinals + hooks + 3
  | acting _ => ordinals + hooks + 4
  | before _ rest => rest.length + ordinals + hooks + 5

end SignalPlace

namespace Server

/-- How many steps are left for the signals that have arrived, at most. -/
def work (p : Server) : Nat :=
  p.signals.work p.hooks.entries.length p.registry.size +
    p.queue.length * (2 * p.hooks.entries.length + p.registry.size + 6)

theorem length_toRun_le (hooks : Hooks Hook) (phase : HookPhase) (signal : Signal) :
    (hooks.toRun phase signal).length ≤ hooks.entries.length := by
  rw [Hooks.toRun, List.length_map]
  exact List.length_filter_le _ _

theorem size_alter (p : Server) (o : Nat) (f : Lifecycle → Lifecycle × List Notice) :
    (p.alter o f).registry.size = p.registry.size := by
  unfold alter
  split
  · rfl
  · simp [Registry.update, Registry.modify, Registry.size]

theorem length_attached_le (r : Registry Service) : r.attached.length ≤ r.size := by
  have fewer := List.length_filterMap_le (fun p : Nat × Slot Service => p.2.service.map fun s => (p.1, p.2.address, s))
    r.numbered
  rwa [Registry.numbered, List.length_map, List.length_zipIdx] at fewer

theorem work_lt_of_place {p q : Server} (hooks : q.hooks = p.hooks) (size : q.registry.size = p.registry.size)
    (queue : q.queue = p.queue)
    (less : q.signals.work p.hooks.entries.length p.registry.size <
      p.signals.work p.hooks.entries.length p.registry.size) : q.work < p.work := by
  rw [work, work, hooks, size, queue]
  exact Nat.add_lt_add_right less _

theorem work_conclude_lt {p q : Server} (hooks : q.hooks = p.hooks) (size : q.registry.size = p.registry.size)
    (queue : q.queue = p.queue) (turn : Turn) (outcome : Outcome)
    (less : p.hooks.entries.length + 1 < p.signals.work p.hooks.entries.length p.registry.size) :
    (q.conclude turn outcome).work < p.work := by
  refine work_lt_of_place hooks size queue (Nat.lt_of_le_of_lt ?_ less)
  exact Nat.succ_le_succ (hooks ▸ length_toRun_le q.hooks .after turn.signal)

/-- Every step of the handling leaves less to do. -/
theorem Handling.work_lt {site : Site} {now : Nat} {p p' : Server} (step : Handling site now p p') : p'.work < p.work := by
  cases step with
  | @take d rest signal place queue named =>
    have few := length_toRun_le p.hooks .before signal
    simp only [work, place, queue, SignalPlace.work, List.length_cons, Nat.succ_mul]
    omega
  | ignore place queue =>
    simp only [work, place, queue, queue_answer, hooks_answer, signals_answer, registry_answer, record, SignalPlace.work,
      List.length_cons, Nat.succ_mul]
    omega
  | before place | after place =>
    refine work_lt_of_place rfl rfl rfl ?_
    simp only [place, moveSignals, SignalPlace.work, List.length_cons]
    omega
  | @breakOff turn hook next =>
    have least : 0 < p.signals.work p.hooks.entries.length p.registry.size := by
      rcases SignalPlace.hook?_eq_some next with ⟨rest, place⟩ | ⟨outcome, rest, place⟩ <;>
        simp only [place, SignalPlace.work] <;> omega
    have nothing : ((p.record (.hook hook p.stopping)).breakOff turn.ticket).work = 0 := by
      change 0 + 0 * _ = 0
      rw [Nat.zero_mul]
    rw [nothing, work]
    omega
  | turn place | stop place | capture place =>
    refine work_lt_of_place rfl rfl rfl ?_
    simp only [place, moveSignals, SignalPlace.work, List.length_nil]
    omega
  | begin_ place =>
    refine work_lt_of_place rfl rfl rfl ?_
    simp only [place, SignalPlace.work]
    omega
  | list place =>
    have few := length_attached_le p.registry
    refine work_lt_of_place rfl rfl rfl ?_
    simp only [place, moveSignals, SignalPlace.work, List.length_map]
    omega
  | close place =>
    refine work_lt_of_place (Unheard.alter p _ _).hooks (size_alter p _ _) (Unheard.alter p _ _).queue ?_
    simp only [place, moveSignals, SignalPlace.work, List.length_cons]
    omega
  | skip place | closed place | refuse place | empty place | launch place | fail place =>
    refine work_conclude_lt (p := p) rfl rfl rfl _ _ ?_
    simp only [place, SignalPlace.work]
    omega
  | @rest turn outcome place =>
    refine work_lt_of_place (hooks_answer p _ _) (congrArg Registry.size (registry_answer p turn.ticket outcome))
      (queue_answer p _ _) ?_
    simp only [place, moveSignals, SignalPlace.work]
    omega

/-- The handling can go on unless no signal is left or a hook has broken it off. -/
theorem stepSignals?_eq_none {site : Site} {now : Nat} {p : Server} (waits : p.stepSignals? site now = none) :
    p.signals = .idle ∧ p.queue = [] ∨ p.signals = .ended := by
  unfold stepSignals? at waits
  split at waits <;> first | cases waits | skip
  · rename_i place
    split at waits
    · rename_i queue
      exact Or.inl ⟨place, queue⟩
    · cases waits
  · rename_i place
    exact Or.inr place

/-- By itself, the handling comes to an end. -/
theorem settles (site : Site) (now : Nat) (p : Server) :
    ∃ n q, p.moves? site now (List.replicate n .signals) = some q ∧
      (q.signals = .idle ∧ q.queue = [] ∨ q.signals = .ended) := by
  induction left : p.work using Nat.strongRecOn generalizing p with
  | ind n ih =>
    cases step : p.stepSignals? site now with
    | none => exact ⟨0, p, rfl, stepSignals?_eq_none step⟩
    | some p' =>
      have less := (stepSignals?_eq_some step).work_lt
      obtain ⟨k, q, made, rests⟩ := ih p'.work (by omega) p' rfl
      refine ⟨k + 1, q, ?_, rests⟩
      rw [List.replicate_succ, moves?]
      change (p.stepSignals? site now).bind _ = some q
      rw [step]
      exact made

end Server

end Handover
