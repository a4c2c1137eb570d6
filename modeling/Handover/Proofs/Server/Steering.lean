import Handover.Proofs.Server.Living

namespace Handover.Server

/-- No stop has arrived. -/
structure Unstopped (p : Server) : Prop where
  going : p.stopping = false
  queue : ∀ d ∈ p.queue, Signal.stops d.number = false
  turn : ∀ turn, p.signals.turn? = some turn → turn.signal.isStop = false
  open_ : p.signals.isClosing = false

theorem Unstopped.of_blank {p : Server} (blank : p.Blank) : p.Unstopped := by
  refine ⟨blank.stopping, ?_, ?_, ?_⟩
  · rw [blank.queue]
    exact fun d member => absurd member List.not_mem_nil
  · rw [blank.signals]
    exact fun turn has => nomatch has
  · rw [blank.signals]
    rfl

/-- A stop can only come from outside. -/
theorem Unstopped.move? {site : Site} {now : Nat} {p p' : Server} {m : Move} (unstopped : p.Unstopped)
    (quiet : m.isQuiet = true) (run : p.move? site now m = some p') : p'.Unstopped := by
  rcases move?_apart run with apart | ⟨_, step⟩ | ⟨d, arrives, rfl⟩ | ⟨serial, _, rfl⟩
  · refine ⟨apart.stopping.trans unstopped.going, ?_, ?_, ?_⟩
    · rw [apart.queue]
      exact unstopped.queue
    · rw [apart.signals]
      exact unstopped.turn
    · rw [apart.signals]
      exact unstopped.open_
  · obtain ⟨queue, turns⟩ := (stepSignals?_eq_some step).turn_of
    have turn : ∀ turn, p'.signals.turn? = some turn → turn.signal.isStop = false := by
      intro turn has
      rcases turns turn has with before | ⟨d, member, named⟩
      · exact unstopped.turn turn before
      · have := unstopped.queue d member
        rw [Signal.stops, named] at this
        exact this
    have waiting : ∀ d ∈ p'.queue, Signal.stops d.number = false := fun d member => unstopped.queue d (queue d member)
    cases (stepSignals?_eq_some step).handled with
    | calm _ _ stopping _ _ _ closing =>
      refine ⟨stopping.trans unstopped.going, waiting, turn, ?_⟩
      refine Bool.eq_false_iff.2 fun still => ?_
      have := closing still
      rw [unstopped.open_] at this
      cases this
    | stop place isStop =>
      have := unstopped.turn _ (by rw [place]; rfl)
      rw [isStop] at this
      cases this
    | begin_ => exact ⟨unstopped.going, waiting, turn, rfl⟩
    | capture => exact ⟨unstopped.going, waiting, turn, rfl⟩
    | fail => exact ⟨unstopped.going, waiting, turn, rfl⟩
    | launch => exact ⟨unstopped.going, waiting, turn, rfl⟩
  · obtain ⟨stopping, signals, _, _, _, queue⟩ := p.trigger_frame d
    have harmless : Signal.stops d.number = false := by
      rcases arrives with rfl | rfl
      · exact Bool.not_eq_true' _ ▸ quiet
      · exact Bool.not_eq_true' _ ▸ quiet
    refine ⟨stopping.trans unstopped.going, ?_, ?_, ?_⟩
    · intro e member
      rcases queue e member with before | rfl
      · exact unstopped.queue e before
      · exact harmless
    · rw [signals]
      exact unstopped.turn
    · rw [signals]
      exact unstopped.open_
  · exact ⟨by simpa using unstopped.going, by simpa using unstopped.queue, by simpa using unstopped.turn,
      by simpa using unstopped.open_⟩

/-- Services are stopped only by a process that is stopping, and a restart is prepared only by one that is not. -/
structure Steered (p : Server) : Prop where
  closing : p.signals.isClosing = true → p.stopping = true
  inFlight : p.signals.isInFlight = true → p.stopping = false

theorem Steered.of_blank {p : Server} (blank : p.Blank) : p.Steered := by
  refine ⟨?_, ?_⟩ <;> rw [blank.signals] <;> exact nofun

theorem Steered.move? {site : Site} {now : Nat} {p p' : Server} {m : Move} (steered : p.Steered)
    (run : p.move? site now m = some p') : p'.Steered := by
  rcases move?_apart run with apart | ⟨_, step⟩ | ⟨d, _, rfl⟩ | ⟨serial, _, rfl⟩
  · refine ⟨?_, ?_⟩ <;> rw [apart.signals, apart.stopping]
    · exact steered.closing
    · exact steered.inFlight
  · cases (stepSignals?_eq_some step).handled with
    | calm _ calm stopping _ _ _ closing =>
      refine ⟨fun still => stopping.trans (steered.closing (closing still)), fun flying => ?_⟩
      rw [calm] at flying
      cases flying
    | stop => exact ⟨fun _ => rfl, nofun⟩
    | begin_ _ _ going => exact ⟨nofun, fun _ => going⟩
    | capture place => exact ⟨nofun, fun _ => steered.inFlight (by rw [place]; rfl)⟩
    | fail => exact ⟨nofun, nofun⟩
    | launch => exact ⟨nofun, nofun⟩
  · obtain ⟨stopping, signals, _, _, _, _⟩ := p.trigger_frame d
    refine ⟨?_, ?_⟩ <;> rw [signals, stopping]
    · exact steered.closing
    · exact steered.inFlight
  · exact ⟨by simpa using steered.closing, by simpa using steered.inFlight⟩

theorem Run.steered {may : Server → Site → Move → Prop} {first p : Server} (run : Run may first p)
    (steered : first.Steered) : p.Steered :=
  run.keep (fun steered _ move => steered.move? move) steered

/-- There is one restart at a time: it is prepared, or its replacement has not been seen to end. -/
def Guarded (p : Server) : Prop :=
  p.stopping = false →
    p.registry.restarting = true ∧ p.replacements.length + p.signals.isInFlight.toNat = 1 ∨
      p.registry.restarting = false ∧ p.replacements = [] ∧ p.signals.isInFlight = false

theorem Guarded.of_blank {p : Server} (blank : p.Blank) : p.Guarded := by
  refine fun _ => Or.inr ⟨blank.restarting, blank.replacements, ?_⟩
  rw [blank.signals]
  rfl

/-- The guard holds as long as only ends of replacements are observed that were there. -/
theorem Guarded.move? {site : Site} {now : Nat} {p p' : Server} {m : Move} (guarded : p.Guarded)
    (known : ∀ serial, m = .replacementEnds serial → ∃ r ∈ p.replacements, r.serial = serial)
    (run : p.move? site now m = some p') : p'.Guarded := by
  rcases move?_apart run with apart | ⟨_, step⟩ | ⟨d, _, rfl⟩ | ⟨serial, same, rfl⟩
  · rw [Guarded, apart.stopping, apart.restarting, apart.replacements, apart.signals]
    exact guarded
  · intro going
    cases (stepSignals?_eq_some step).handled with
    | calm calm calm' stopping replacements _ restarting =>
      have before := guarded (stopping.symm.trans going)
      rw [calm] at before
      rw [restarting, replacements, calm']
      exact before
    | stop => cases going
    | begin_ _ _ going idle =>
      rcases guarded going with ⟨restarting, _⟩ | ⟨_, none_, _⟩
      · rw [idle] at restarting
        cases restarting
      · refine Or.inl ⟨rfl, ?_⟩
        change p.replacements.length + 1 = 1
        rw [none_]
        rfl
    | capture place =>
      have before := guarded going
      rw [place] at before
      exact before
    | fail inFlight =>
      rcases guarded going with ⟨_, count⟩ | ⟨_, _, calm⟩
      · rw [inFlight] at count
        change _ + 1 = 1 at count
        exact Or.inr ⟨rfl, List.eq_nil_of_length_eq_zero (by change p.replacements.length = 0; omega), rfl⟩
      · rw [inFlight] at calm
        cases calm
    | @launch _ _ r place =>
      rcases guarded going with ⟨restarting, count⟩ | ⟨_, _, calm⟩
      · rw [place] at count
        change _ + 1 = 1 at count
        refine Or.inl ⟨restarting, ?_⟩
        change (p.replacements ++ [r]).length + 0 = 1
        rw [List.length_append, List.length_singleton]
        omega
      · rw [place] at calm
        cases calm
  · obtain ⟨stopping, signals, replacements, _, registry, _⟩ := p.trigger_frame d
    rw [Guarded, stopping, signals, replacements, registry]
    exact guarded
  · obtain ⟨r, member, rfl⟩ := known serial same
    have some_ : 0 < p.replacements.length := List.length_pos_of_mem member
    intro going
    rw [stopping_replacementEnds] at going
    rcases guarded going with ⟨_, count⟩ | ⟨_, none_, _⟩
    -- The replacement that has ended was the only one, and nothing else was in flight.
    · obtain ⟨only, all⟩ : ∃ only, p.replacements = [only] := List.length_eq_one_iff.1 (by omega)
      rw [all] at member count
      rw [List.mem_singleton] at member
      subst member
      refine Or.inr ⟨?_, ?_, ?_⟩
      · simp [going]
      · simp [all]
      · rw [signals_replacementEnds]
        cases flying : p.signals.isInFlight with
        | false => rfl
        | true =>
          rw [flying] at count
          cases count
    · rw [none_] at member
      cases member

end Handover.Server
