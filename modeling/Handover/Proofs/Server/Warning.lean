import Handover.Proofs.Server.Claims
import Handover.Proofs.Server.Handling

namespace Handover

/-- It is warned that not everything handed over is served. -/
def Record.isWarning : Record → Bool
  | .notice (.notServed ..) => true
  | _ => false

namespace Server

/-- The warnings that not everything is served, in order. -/
def warnings (p : Server) : List Record := p.journal.filter Record.isWarning

theorem warnings_record (p : Server) {r : Record} (other : r.isWarning = false) :
    (p.record r).warnings = p.warnings := by
  rw [warnings, record, List.filter_append, List.filter_cons_of_neg (by rw [other]; exact Bool.false_ne_true)]
  exact List.append_nil _

theorem warnings_answer (p : Server) (ticket : Option Nat) (outcome : Outcome) :
    (p.answer ticket outcome).warnings = p.warnings := by
  cases ticket with
  | none => rfl
  | some ticket => exact warnings_record p rfl

theorem warnings_conclude (p : Server) (turn : Turn) (outcome : Outcome) :
    (p.conclude turn outcome).warnings = p.warnings := warnings_record p rfl

theorem warnings_failRestart (p : Server) (turn : Turn) (fault : Fault) :
    (p.failRestart turn fault).warnings = p.warnings :=
  (warnings_conclude _ _ _).trans (warnings_record _ rfl)

theorem warnings_breakOff (p : Server) (ticket : Option Nat) : (p.breakOff ticket).warnings = p.warnings := by
  have none_ : ∀ tickets : List Nat, (tickets.map (Record.answered · none)).filter Record.isWarning = [] := by
    intro tickets
    rw [List.filter_eq_nil_iff]
    intro r member
    obtain ⟨_, _, rfl⟩ := List.mem_map.1 member
    exact Bool.false_ne_true
  rw [warnings, breakOff, List.filter_append, none_, List.append_nil, warnings]

theorem warnings_alter {p : Server} {o : Nat} {f : Lifecycle → Lifecycle × List Notice}
    (own : ∀ s, p.registry.service? o = some s → ∀ notice ∈ (f s.life).2, notice.isOfService = true) :
    (p.alter o f).warnings = p.warnings := by
  unfold alter
  split
  · rfl
  · rename_i s there
    have none_ : ((f s.life).2.map Record.notice).filter Record.isWarning = [] := by
      rw [List.filter_eq_nil_iff]
      intro r member
      obtain ⟨notice, among, rfl⟩ := List.mem_map.1 member
      have kind := own s there notice among
      cases notice with
      | acceptFailed | drainExpired => exact Bool.false_ne_true
      | _ => cases kind
    rw [warnings, List.filter_append, none_, List.append_nil, warnings]

theorem warnings_of_alter? {p p' : Server} {o : Nat} {f : Lifecycle → Option (Lifecycle × List Notice)}
    (own : ∀ l l' notices, f l = some (l', notices) → ∀ notice ∈ notices, notice.isOfService = true)
    (run : p.alter? o f = some p') : p'.warnings = p.warnings := by
  obtain ⟨s, life, notices, _, step, rfl⟩ := alter?_eq_some run
  exact warnings_alter fun _ _ => own s.life life notices step

theorem warnings_shutdown (p : Server) (now o : Nat) : (p.shutdown now o).warnings = p.warnings :=
  warnings_alter fun _ _ _ member => absurd member List.not_mem_nil

theorem warnings_trigger (p : Server) (d : Dispatch) : (p.trigger d).warnings = p.warnings := by
  unfold trigger
  split
  · exact warnings_record p rfl
  · rfl
  · rfl

theorem warnings_replacementEnds (p : Server) (serial : Nat) : (p.replacementEnds serial).warnings = p.warnings := by
  unfold replacementEnds
  dsimp only
  split
  · rfl
  · exact warnings_record p rfl

theorem Handling.warnings {site : Site} {now : Nat} {p p' : Server} (step : Handling site now p p') :
    p'.warnings = p.warnings := by
  cases step with
  | take | turn | stop | begin_ | list | capture => rfl
  | ignore => exact (warnings_answer _ _ _).trans ((warnings_record _ rfl).trans (warnings_record _ rfl))
  | before | after => exact warnings_record p rfl
  | breakOff => exact (warnings_breakOff _ _).trans (warnings_record p rfl)
  | skip | closed => exact warnings_conclude p _ _
  | close => exact warnings_shutdown p now _
  | refuse | empty | fail => exact warnings_failRestart p _ _
  | launch => exact (warnings_conclude _ _ _).trans (warnings_record _ rfl)
  | rest => exact warnings_answer p _ _

theorem Advance.warnings {site : Site} {now : Nat} {p q : Server} {c : Call} {place : CallPlace}
    (advance : Advance site now p c place q) : q.warnings = p.warnings := by
  cases advance with
  | start | run | stop => exact warnings_alter fun _ _ _ member => absurd member List.not_mem_nil
  | notify =>
    unfold notifyParent
    split <;> exact warnings_record p rfl
  | refuse | repeated | lose | finish | release => exact warnings_record _ rfl
  | _ => rfl

/-- Only when it is looked whether everything is adopted it is warned that something is not. -/
theorem warnings_of_move? {site : Site} {now : Nat} {p p' : Server} {m : Move} (run : p.move? site now m = some p') :
    p'.warnings = p.warnings ∨ m = .review ∧ p.adopted < p.inherited ∧ p.stopping = false ∧
      p'.warnings = p.warnings ++ [.notice (.notServed p.adopted p.inherited p.pending)] := by
  cases m with
  | review =>
    rcases review?_eq_some run with rfl | ⟨fewer, going, rfl⟩
    · exact Or.inl rfl
    · exact Or.inr ⟨rfl, fewer, going, List.filter_append _ _⟩
  | call i =>
    obtain ⟨c, place, q, _, advance, rfl⟩ := stepCall?_eq_some run
    exact Or.inl advance.warnings
  | signals => exact Or.inl (stepSignals?_eq_some run).warnings
  | loop => exact Or.inl (warnings_of_alter? (fun l _ _ step => l.notices_stepLoop? step) run)
  | watchdog => exact Or.inl (warnings_of_alter? (fun l _ _ step => l.notices_fireWatchdog? step) run)
  | connection o i peer =>
    have kept {ok : Bool} {q : Server} (step : p.advanceConnection? o i ok = some q) : q.warnings = p.warnings := by
      refine warnings_of_alter? (fun l l' notices step notice member => ?_) step
      obtain ⟨_, _, same⟩ := Option.map_eq_some_iff.1 step
      cases same
      cases member
    obtain ⟨_, q, step, rfl | ⟨c, rfl⟩⟩ := (connects_of_stepConnection? run).advance
    · exact Or.inl (kept step)
    · exact Or.inl ((warnings_record q rfl).trans (kept step))
  | arrive =>
    simp only [move?] at run
    refine Or.inl (warnings_of_alter? (fun l l' notices step notice member => ?_) run)
    cases step
    cases member
  | serve | listen =>
    cases run
    exact Or.inl rfl
  | trigger d =>
    cases run
    exact Or.inl (warnings_trigger p d)
  | deliver number =>
    obtain ⟨_, _, rfl⟩ := deliver?_eq_some run
    exact Or.inl (warnings_trigger p _)
  | register phase number hook =>
    obtain ⟨hooks, _, rfl⟩ := register_eq_some run
    exact Or.inl rfl
  | closeListener | shutdown =>
    cases run
    exact Or.inl (warnings_alter fun _ _ _ member => absurd member List.not_mem_nil)
  | replacementEnds serial =>
    cases run
    exact Or.inl (warnings_replacementEnds p serial)

theorem warnings_start (markers : Markers) (settings : Settings) (arguments : List OsText)
    (handed : List (Option OpenFile)) (parent nextSocket now : Nat) :
    (Server.start markers settings arguments handed parent nextSocket now).warnings = [] := by
  unfold Server.start
  dsimp only
  split
  · rfl
  · rw [warnings, List.filter_eq_nil_iff]
    intro r member
    obtain ⟨notice, among, rfl⟩ := List.mem_map.1 member
    obtain ⟨address, _, rfl⟩ := List.mem_map.1 among
    exact Bool.false_ne_true

/-- A warning says how many adoptions are counted and which addresses are pending at the time, and it is given only if
something is not counted and the process is not stopping. -/
theorem Run.warned {first p : Server} (run : Reach first p) (atStart : first.warnings = []) {r : Record}
    (given : r ∈ p.warnings) :
    ∃ q, Reach first q ∧ Reach q p ∧ q.adopted < q.inherited ∧ q.stopping = false ∧
      r = .notice (.notServed q.adopted q.inherited q.pending) := by
  induction run with
  | start =>
    rw [atStart] at given
    cases given
  | @next p p' site now m earlier allowed move ih =>
    have goOn : r ∈ p.warnings → ∃ q, Reach first q ∧ Reach q p' ∧ q.adopted < q.inherited ∧ q.stopping = false ∧
        r = .notice (.notServed q.adopted q.inherited q.pending) := by
      intro before
      obtain ⟨q, reached, later, now⟩ := ih before
      exact ⟨q, reached, later.next allowed move, now⟩
    rcases warnings_of_move? move with same | ⟨_, fewer, going, more⟩
    · exact goOn (same ▸ given)
    · rw [more] at given
      rcases List.mem_append.1 given with before | last
      · exact goOn before
      · exact ⟨p, earlier, Run.start.next allowed move, fewer, going, List.mem_singleton.1 last⟩

end Server

end Handover
