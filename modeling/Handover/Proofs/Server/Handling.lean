import Handover.Proofs.Server.Advance

namespace Handover

namespace SignalPlace

/-- The signal that is being handled. -/
def turn? : SignalPlace → Option Turn
  | before turn _ | acting turn | listing turn | closing turn _ | capturing turn | launching turn _ | after turn _ _ =>
    some turn
  | idle | ended => none

def isClosing : SignalPlace → Bool
  | listing _ | closing _ _ => true
  | _ => false

def isInFlight : SignalPlace → Bool
  | capturing _ | launching _ _ => true
  | _ => false

/-- What is captured for the replacement that is about to be started. -/
def captured? : SignalPlace → Option (List Restart.Captured)
  | launching _ captured => some captured
  | _ => none

/-- The hook that runs next, and the signal it runs for. -/
def hook? : SignalPlace → Option (Turn × Hook)
  | before turn (hook :: _) | after turn _ (hook :: _) => some (turn, hook)
  | _ => none

theorem isInFlight_of_hook? {place : SignalPlace} {turn : Turn} {hook : Hook}
    (next : place.hook? = some (turn, hook)) : place.isInFlight = false := by
  cases place <;> first | rfl | cases next

theorem hook?_eq_some {place : SignalPlace} {turn : Turn} {hook : Hook} (next : place.hook? = some (turn, hook)) :
    (∃ rest, place = .before turn (hook :: rest)) ∨ ∃ outcome rest, place = .after turn outcome (hook :: rest) := by
  unfold hook? at next
  split at next
  · cases next
    exact Or.inl ⟨_, rfl⟩
  · cases next
    exact Or.inr ⟨_, _, rfl⟩
  · cases next

end SignalPlace

namespace Server

/-- A move apart from the handling of signals. -/
structure Apart (p p' : Server) : Prop where
  stopping : p'.stopping = p.stopping
  signals : p'.signals = p.signals
  queue : p'.queue = p.queue
  replacements : p'.replacements = p.replacements
  launches : p'.launches = p.launches
  restarting : p'.registry.restarting = p.registry.restarting

theorem Apart.refl (p : Server) : Apart p p := ⟨rfl, rfl, rfl, rfl, rfl, rfl⟩

theorem Apart.alter (p : Server) (o : Nat) (f : Lifecycle → Lifecycle × List Notice) : Apart p (p.alter o f) := by
  unfold Server.alter
  split
  · exact .refl p
  · exact ⟨rfl, rfl, rfl, rfl, rfl, rfl⟩

theorem Apart.moveCall {p q : Server} (apart : Apart p q) (i : Nat) (place : CallPlace) :
    Apart p (q.moveCall i place) :=
  ⟨apart.stopping, apart.signals, apart.queue, apart.replacements, apart.launches, apart.restarting⟩

theorem Apart.record {p q : Server} (apart : Apart p q) (r : Record) : Apart p (q.record r) :=
  ⟨apart.stopping, apart.signals, apart.queue, apart.replacements, apart.launches, apart.restarting⟩

theorem Apart.of_alter? {p p' : Server} {o : Nat} {f : Lifecycle → Option (Lifecycle × List Notice)}
    (run : p.alter? o f = some p') : Apart p p' := by
  obtain ⟨s, life, notices, _, _, rfl⟩ := alter?_eq_some run
  exact .alter p o _

theorem Apart.of_advance {site : Site} {now : Nat} {p q : Server} {c : Call} {place : CallPlace}
    (advance : Advance site now p c place q) (i : Nat) : Apart p (q.moveCall i place) := by
  cases advance with
  | start => exact (Apart.alter p _ _).moveCall i _
  | run => exact (Apart.alter p _ _).moveCall i _
  | stop => exact (Apart.alter p _ _).moveCall i _
  | notify =>
    unfold notifyParent
    split <;> exact ⟨rfl, rfl, rfl, rfl, rfl, rfl⟩
  | claim _ reserved =>
    obtain ⟨_, _, _, _, _, _, restarting⟩ := Registry.reserve_eq_ok reserved
    exact ⟨rfl, rfl, rfl, rfl, rfl, restarting⟩
  | attach _ attached =>
    unfold Registry.attach at attached
    split at attached
    · cases attached
    · cases attached
      exact ⟨rfl, rfl, rfl, rfl, rfl, rfl⟩
  | _ => exact ⟨rfl, rfl, rfl, rfl, rfl, rfl⟩

/-- Every move is apart from the handling of signals, but its own steps, the arrival of a signal and the observation
that a replacement has ended. -/
theorem move?_apart {site : Site} {now : Nat} {p p' : Server} {m : Move} (run : p.move? site now m = some p') :
    Apart p p' ∨ m = .signals ∧ p.stepSignals? site now = some p' ∨
      (∃ d, (m = .trigger d ∨ m = .deliver d.number) ∧ p' = p.trigger d) ∨
      ∃ serial, m = .replacementEnds serial ∧ p' = p.replacementEnds serial := by
  cases m with
  | call i =>
    obtain ⟨c, place, q, _, advance, rfl⟩ := stepCall?_eq_some run
    exact Or.inl (.of_advance advance i)
  | signals => exact Or.inr (Or.inl ⟨rfl, run⟩)
  | loop | watchdog | arrive =>
    simp only [Server.move?] at run
    exact Or.inl (.of_alter? run)
  | connection =>
    obtain ⟨_, q, step, rfl | ⟨c, rfl⟩⟩ := (connects_of_stepConnection? run).advance
    · exact Or.inl (.of_alter? step)
    · exact Or.inl (.record (.of_alter? step) _)
  | review =>
    left
    rcases review?_eq_some run with rfl | ⟨_, _, rfl⟩
    · exact ⟨rfl, rfl, rfl, rfl, rfl, rfl⟩
    · exact ⟨rfl, rfl, rfl, rfl, rfl, rfl⟩
  | serve address options =>
    cases run
    exact Or.inl ⟨rfl, rfl, rfl, rfl, rfl, rfl⟩
  | trigger d =>
    cases run
    exact Or.inr (Or.inr (Or.inl ⟨d, Or.inl rfl, rfl⟩))
  | deliver number =>
    obtain ⟨_, _, rfl⟩ := deliver?_eq_some run
    exact Or.inr (Or.inr (Or.inl ⟨{ number }, Or.inr rfl, rfl⟩))
  | listen =>
    cases run
    exact Or.inl ⟨rfl, rfl, rfl, rfl, rfl, rfl⟩
  | register phase number hook =>
    obtain ⟨hooks, _, rfl⟩ := register_eq_some run
    exact Or.inl ⟨rfl, rfl, rfl, rfl, rfl, rfl⟩
  | closeListener =>
    cases run
    exact Or.inl (.alter _ _ _)
  | shutdown =>
    cases run
    exact Or.inl (.alter _ _ _)
  | replacementEnds serial =>
    cases run
    exact Or.inr (Or.inr (Or.inr ⟨serial, rfl, rfl⟩))

/-- A step of the handling takes the task on from its place, and says what becomes of the process. -/
inductive Handling (site : Site) (now : Nat) (p : Server) : Server → Prop
  | take {d rest signal} : p.signals = .idle → p.queue = d :: rest → Signal.ofNumber? d.number = some signal →
      Handling site now p
        { p with queue := rest, signals := .before ⟨signal, d.ticket⟩ (p.hooks.toRun .before signal) }
  | ignore {d rest} : p.signals = .idle → p.queue = d :: rest → Signal.ofNumber? d.number = none →
      Handling site now p (((({ p with queue := rest } : Server).record (.notice (.unsupportedSignal d.number))).record
        (.handled d.number .ignored)).answer d.ticket .ignored)
  | before {turn hook rest} : p.signals = .before turn (hook :: rest) → hook.panics = false →
      Handling site now p ((p.record (.hook hook p.stopping)).moveSignals (.before turn rest))
  | after {turn outcome hook rest} : p.signals = .after turn outcome (hook :: rest) → hook.panics = false →
      Handling site now p ((p.record (.hook hook p.stopping)).moveSignals (.after turn outcome rest))
  | breakOff {turn hook} : p.signals.hook? = some (turn, hook) → hook.panics = true →
      Handling site now p ((p.record (.hook hook p.stopping)).breakOff turn.ticket)
  | turn {turn} : p.signals = .before turn [] → Handling site now p (p.moveSignals (.acting turn))
  | stop {turn} : p.signals = .acting turn → turn.signal.isStop = true →
      Handling site now p { p with stopping := true, signals := .listing turn }
  | skip {turn} : p.signals = .acting turn → turn.signal.isStop = false →
      p.stopping = true ∨ p.registry.restarting = true → Handling site now p (p.conclude turn .skipped)
  | begin_ {turn} : p.signals = .acting turn → turn.signal.isStop = false → p.stopping = false →
      p.registry.restarting = false →
      Handling site now p { p with registry := { p.registry with restarting := true }, signals := .capturing turn }
  | list {turn} : p.signals = .listing turn →
      Handling site now p (p.moveSignals (.closing turn (p.registry.attached.map (·.1))))
  | close {turn ordinal rest} : p.signals = .closing turn (ordinal :: rest) →
      Handling site now p ((p.shutdown now ordinal).moveSignals (.closing turn rest))
  | closed {turn} : p.signals = .closing turn [] → Handling site now p (p.conclude turn .stopping)
  | capture {turn captured t} : p.signals = .capturing turn →
      Restart.snapshot p.registry p.table = .ok (captured, t) → captured ≠ [] →
      Handling site now p (p.moveSignals (.launching turn captured))
  | refuse {turn cause} : p.signals = .capturing turn → Restart.snapshot p.registry p.table = .error cause →
      Handling site now p (p.failRestart turn (.system cause))
  | empty {turn t} : p.signals = .capturing turn → Restart.snapshot p.registry p.table = .ok ([], t) →
      Handling site now p (p.failRestart turn .noListeners)
  | launch {turn captured r} : p.signals = .launching turn captured → p.replacement site captured = .ok r →
      Handling site now p ((({ p with replacements := p.replacements ++ [r], launches := p.launches + 1 } :
        Server).record (.launched r)).conclude turn .restarted)
  | fail {turn captured cause} : p.signals = .launching turn captured →
      p.replacement site captured = .error cause → Handling site now p (p.failRestart turn (.restart cause))
  | rest {turn outcome} : p.signals = .after turn outcome [] →
      Handling site now p ((p.answer turn.ticket outcome).moveSignals .idle)

theorem handling_of_runHook {site : Site} {now : Nat} {p : Server} {turn : Turn} {hook : Hook} {rest : SignalPlace}
    (next : p.signals.hook? = some (turn, hook))
    (passes : hook.panics = false → Handling site now p ((p.record (.hook hook p.stopping)).moveSignals rest)) :
    Handling site now p (p.runHook hook turn.ticket rest) := by
  unfold runHook
  dsimp only
  split
  · rename_i panics
    exact .breakOff next panics
  · rename_i panics
    exact passes (Bool.eq_false_iff.2 panics)

theorem handling_of_takeUp {site : Site} {now : Nat} {p : Server} {d : Dispatch} {rest : List Dispatch}
    (place : p.signals = .idle) (queue : p.queue = d :: rest) : Handling site now p (p.takeUp d rest) := by
  unfold takeUp
  dsimp only
  split
  · rename_i signal named
    exact .take place queue named
  · rename_i unnamed
    exact .ignore place queue unnamed

theorem handling_of_act {site : Site} {now : Nat} {p : Server} {turn : Turn} (place : p.signals = .acting turn) :
    Handling site now p (p.act turn) := by
  unfold act
  cases isStop : turn.signal.isStop with
  | true => exact .stop place isStop
  | false =>
    rw [if_neg Bool.false_ne_true]
    by_cases stopping : p.stopping = true
    · rw [if_pos stopping]
      exact .skip place isStop (Or.inl stopping)
    · rw [if_neg stopping]
      unfold Registry.beginRestart?
      by_cases restarting : p.registry.restarting = true
      · rw [if_pos restarting]
        exact .skip place isStop (Or.inr restarting)
      · rw [if_neg restarting]
        exact .begin_ place isStop (Bool.eq_false_iff.2 stopping) (Bool.eq_false_iff.2 restarting)

theorem handling_of_capture {site : Site} {now : Nat} {p : Server} {turn : Turn}
    (place : p.signals = .capturing turn) : Handling site now p (p.capture turn) := by
  unfold capture
  split
  · rename_i cause refused
    exact .refuse place refused
  · rename_i t none_
    exact .empty place none_
  · rename_i captured t nonempty snapshot
    exact .capture place snapshot nonempty

theorem handling_of_launch {site : Site} {now : Nat} {p : Server} {turn : Turn} {captured : List Restart.Captured}
    (place : p.signals = .launching turn captured) : Handling site now p (p.launch site turn captured) := by
  unfold launch
  split
  · rename_i cause refused
    exact .fail place refused
  · rename_i r launched
    exact .launch place launched

/-- Every step of the handling is one of these. -/
theorem stepSignals?_eq_some {site : Site} {now : Nat} {p p' : Server} (run : p.stepSignals? site now = some p') :
    Handling site now p p' := by
  unfold stepSignals? at run
  split at run
  · rename_i place
    split at run
    · cases run
    · rename_i d rest queue
      cases run
      exact handling_of_takeUp place queue
  · rename_i place
    cases run
    exact .turn place
  · rename_i place
    cases run
    exact handling_of_runHook (by rw [place]; rfl) (.before place)
  · rename_i place
    cases run
    exact handling_of_act place
  · rename_i place
    cases run
    exact .list place
  · rename_i place
    cases run
    exact .closed place
  · rename_i place
    cases run
    exact .close place
  · rename_i place
    cases run
    exact handling_of_capture place
  · rename_i place
    cases run
    exact handling_of_launch place
  · rename_i place
    cases run
    exact .rest place
  · rename_i place
    cases run
    exact handling_of_runHook (by rw [place]; rfl) (.after place)
  · cases run

@[simp] theorem signals_answer (p : Server) (ticket : Option Nat) (outcome : Outcome) :
    (p.answer ticket outcome).signals = p.signals := by
  cases ticket <;> rfl

@[simp] theorem queue_answer (p : Server) (ticket : Option Nat) (outcome : Outcome) :
    (p.answer ticket outcome).queue = p.queue := by
  cases ticket <;> rfl

@[simp] theorem hooks_answer (p : Server) (ticket : Option Nat) (outcome : Outcome) :
    (p.answer ticket outcome).hooks = p.hooks := by
  cases ticket <;> rfl

@[simp] theorem stopping_answer (p : Server) (ticket : Option Nat) (outcome : Outcome) :
    (p.answer ticket outcome).stopping = p.stopping := by
  cases ticket <;> rfl

@[simp] theorem registry_answer (p : Server) (ticket : Option Nat) (outcome : Outcome) :
    (p.answer ticket outcome).registry = p.registry := by
  cases ticket <;> rfl

/-- A step of the handling does nothing to restarts and stops, or it makes a stop take effect, begins a restart,
captures the listeners for it, gives it up, or starts its replacement. -/
inductive Handled (site : Site) (p : Server) : Server → Prop
  | calm {p'} : p.signals.isInFlight = false → p'.signals.isInFlight = false → p'.stopping = p.stopping →
      p'.replacements = p.replacements → p'.launches = p.launches →
      p'.registry.restarting = p.registry.restarting →
      (p'.signals.isClosing = true → p.signals.isClosing = true) → Handled site p p'
  | stop {turn} : p.signals = .acting turn → turn.signal.isStop = true →
      Handled site p { p with stopping := true, signals := .listing turn }
  | begin_ {turn} : p.signals = .acting turn → turn.signal.isStop = false → p.stopping = false →
      p.registry.restarting = false →
      Handled site p { p with registry := { p.registry with restarting := true }, signals := .capturing turn }
  | capture {turn captured t} : p.signals = .capturing turn →
      Restart.snapshot p.registry p.table = .ok (captured, t) → captured ≠ [] →
      Handled site p (p.moveSignals (.launching turn captured))
  | fail {turn fault} : p.signals.isInFlight = true → Handled site p (p.failRestart turn fault)
  | launch {turn captured r} : p.signals = .launching turn captured → p.replacement site captured = .ok r →
      Handled site p ((({ p with replacements := p.replacements ++ [r], launches := p.launches + 1 } : Server).record
        (.launched r)).conclude turn .restarted)

/-- What is handled came from the queue. -/
theorem Handling.turn_of {site : Site} {now : Nat} {p p' : Server} (step : Handling site now p p') :
    (∀ d ∈ p'.queue, d ∈ p.queue) ∧ ∀ turn, p'.signals.turn? = some turn →
      p.signals.turn? = some turn ∨ ∃ d ∈ p.queue, Signal.ofNumber? d.number = some turn.signal := by
  have go_on : ∀ {q : Server} {t : Turn}, q.queue = p.queue → q.signals.turn? = some t → p.signals.turn? = some t →
      (∀ d ∈ q.queue, d ∈ p.queue) ∧ ∀ turn, q.signals.turn? = some turn →
        p.signals.turn? = some turn ∨ ∃ d ∈ p.queue, Signal.ofNumber? d.number = some turn.signal := by
    intro q t queue next before
    refine ⟨fun d member => queue ▸ member, fun turn has => Or.inl ?_⟩
    exact before.trans (next.symm.trans has)
  cases step with
  | @take d rest signal _ queue named =>
    refine ⟨fun e member => ?_, fun turn has => ?_⟩
    · rw [queue]
      exact List.mem_cons_of_mem _ member
    · cases has
      exact Or.inr ⟨d, by rw [queue]; exact List.mem_cons_self, named⟩
  | @ignore d rest place queue =>
    refine ⟨fun e member => ?_, fun turn has => ?_⟩
    · rw [queue_answer] at member
      rw [queue]
      exact List.mem_cons_of_mem _ member
    · rw [signals_answer] at has
      change p.signals.turn? = some turn at has
      rw [place] at has
      cases has
  | breakOff => exact ⟨fun d member => absurd member List.not_mem_nil, fun t has => nomatch has⟩
  | close place => exact go_on (Apart.alter p _ _).queue rfl (by rw [place]; rfl)
  | rest =>
    refine ⟨fun d member => ?_, fun t has => nomatch has⟩
    change d ∈ (p.answer _ _).queue at member
    rw [queue_answer] at member
    exact member
  | before place | after place | turn place | stop place | skip place | begin_ place | list place | closed place
  | capture place | refuse place | empty place | launch place | fail place =>
    exact go_on rfl rfl (by rw [place]; rfl)

/-- Handling signals touches the services only to stop them. -/
theorem Handling.slots {site : Site} {now : Nat} {p p' : Server} (step : Handling site now p p') :
    p'.registry.slots = p.registry.slots ∨ p.signals.isClosing = true := by
  cases step with
  | ignore =>
    left
    rw [registry_answer]
    rfl
  | close place => exact Or.inr (by rw [place]; rfl)
  | rest =>
    left
    change (p.answer _ _).registry.slots = _
    rw [registry_answer]
  | _ => exact Or.inl rfl

theorem Handling.handled {site : Site} {now : Nat} {p p' : Server} (step : Handling site now p p') :
    Handled site p p' := by
  cases step with
  | take place => exact .calm (by rw [place]; rfl) rfl rfl rfl rfl rfl nofun
  | @ignore d _ place =>
    have idle : p.signals.isInFlight = false := by rw [place]; rfl
    cases d.ticket with
    | none => exact .calm idle idle rfl rfl rfl rfl id
    | some ticket => exact .calm idle idle rfl rfl rfl rfl id
  | before place | after place => exact .calm (by rw [place]; rfl) rfl rfl rfl rfl rfl nofun
  | breakOff next => exact .calm (SignalPlace.isInFlight_of_hook? next) rfl rfl rfl rfl rfl nofun
  | turn place => exact .calm (by rw [place]; rfl) rfl rfl rfl rfl rfl nofun
  | stop place isStop => exact .stop place isStop
  | skip place => exact .calm (by rw [place]; rfl) rfl rfl rfl rfl rfl nofun
  | begin_ place isStop going idle => exact .begin_ place isStop going idle
  | list place => exact .calm (by rw [place]; rfl) rfl rfl rfl rfl rfl fun _ => by rw [place]; rfl
  | close place =>
    obtain ⟨stopping, _, _, replacements, launches, restarting⟩ := Apart.alter p _ _
    exact .calm (by rw [place]; rfl) rfl stopping replacements launches restarting fun _ => by rw [place]; rfl
  | closed place => exact .calm (by rw [place]; rfl) rfl rfl rfl rfl rfl nofun
  | capture place snapshot nonempty => exact .capture place snapshot nonempty
  | refuse place | empty place => exact .fail (by rw [place]; rfl)
  | launch place launched => exact .launch place launched
  | fail place => exact .fail (by rw [place]; rfl)
  | @rest turn _ place =>
    have calm : p.signals.isInFlight = false := by rw [place]; rfl
    cases turn.ticket with
    | none => exact .calm calm rfl rfl rfl rfl rfl nofun
    | some ticket => exact .calm calm rfl rfl rfl rfl rfl nofun

/-- The arrival of a signal changes nothing but the queue. -/
theorem trigger_frame (p : Server) (d : Dispatch) :
    (p.trigger d).stopping = p.stopping ∧ (p.trigger d).signals = p.signals ∧
      (p.trigger d).replacements = p.replacements ∧ (p.trigger d).launches = p.launches ∧
      (p.trigger d).registry = p.registry ∧ ∀ e ∈ (p.trigger d).queue, e ∈ p.queue ∨ e = d := by
  unfold trigger
  split
  · exact ⟨rfl, rfl, rfl, rfl, rfl, fun e member => Or.inl member⟩
  · exact ⟨rfl, rfl, rfl, rfl, rfl, fun e member => Or.inl member⟩
  · refine ⟨rfl, rfl, rfl, rfl, rfl, ?_⟩
    intro e member
    rcases List.mem_append.1 member with before | last
    · exact Or.inl before
    · exact Or.inr (List.mem_singleton.1 last)

section End

variable (p : Server) (serial : Nat)

@[simp] theorem stopping_replacementEnds : (p.replacementEnds serial).stopping = p.stopping := by
  unfold replacementEnds
  dsimp only
  split <;> rfl

@[simp] theorem signals_replacementEnds : (p.replacementEnds serial).signals = p.signals := by
  unfold replacementEnds
  dsimp only
  split <;> rfl

@[simp] theorem queue_replacementEnds : (p.replacementEnds serial).queue = p.queue := by
  unfold replacementEnds
  dsimp only
  split <;> rfl

@[simp] theorem calls_replacementEnds : (p.replacementEnds serial).calls = p.calls := by
  unfold replacementEnds
  dsimp only
  split <;> rfl

@[simp] theorem launches_replacementEnds : (p.replacementEnds serial).launches = p.launches := by
  unfold replacementEnds
  dsimp only
  split <;> rfl

@[simp] theorem replacements_replacementEnds :
    (p.replacementEnds serial).replacements = p.replacements.filter fun r => r.serial != serial := by
  unfold replacementEnds
  dsimp only
  split <;> rfl

/-- In a process that is stopping the guard of restarts stays as it is. -/
@[simp] theorem registry_replacementEnds : (p.replacementEnds serial).registry =
    { p.registry with restarting := p.registry.restarting && p.stopping } := by
  unfold replacementEnds
  dsimp only
  split
  · rename_i stopping
    dsimp only at stopping ⊢
    rw [stopping, Bool.and_true]
  · rename_i going
    dsimp only at going ⊢
    rw [Bool.not_eq_true] at going
    rw [going, Bool.and_false]
    rfl

end End

/-- A stop is never taken back. -/
theorem stopping_of_move? {site : Site} {now : Nat} {p p' : Server} {m : Move} (run : p.move? site now m = some p')
    (stopping : p.stopping = true) : p'.stopping = true := by
  rcases move?_apart run with apart | ⟨_, step⟩ | ⟨d, _, rfl⟩ | ⟨serial, _, rfl⟩
  · exact apart.stopping.trans stopping
  · cases (stepSignals?_eq_some step).handled with
    | calm _ _ same => exact same.trans stopping
    | stop => rfl
    | begin_ => exact stopping
    | capture => exact stopping
    | fail => exact stopping
    | launch => exact stopping
  · exact (p.trigger_frame d).1.trans stopping
  · rw [stopping_replacementEnds]
    exact stopping

end Server

end Handover
