import Handover.Proofs.Restart.Household

namespace Handover

/-- The number of replacements that were started for the signal that is being handled. -/
def SignalPlace.spawned : SignalPlace → Nat
  | after _ outcome _ => if outcome = .restarted then 1 else 0
  | _ => 0

namespace Server

/-- Only the end of a replacement that is there is observed. -/
def Observes (p : Server) (_ : Site) (m : Move) : Prop :=
  ∀ serial, m = .replacementEnds serial → ∃ r ∈ p.replacements, r.serial = serial

/-- The signal is being handled. -/
def Handles (turn : Turn) (p : Server) (_ : Site) (_ : Move) : Prop := p.signals.turn? = some turn

/-- No replacement is there while another is prepared, and never two. -/
def Lone (p : Server) : Prop := p.replacements.length + p.signals.isInFlight.toNat ≤ 1

theorem Lone.move? {site : Site} {now : Nat} {p p' : Server} {m : Move} (lone : p.Lone) (guarded : p.Guarded)
    (run : p.move? site now m = some p') : p'.Lone := by
  unfold Lone at *
  rcases move?_apart run with apart | ⟨_, step⟩ | ⟨d, _, rfl⟩ | ⟨serial, _, rfl⟩
  · rw [apart.replacements, apart.signals]
    exact lone
  · cases (stepSignals?_eq_some step).handled with
    | calm calm calm' _ replacements =>
      rw [replacements, calm']
      rw [calm] at lone
      exact lone
    | stop place | capture place =>
      rw [place] at lone
      exact lone
    | begin_ _ _ going idle =>
      rcases guarded going with ⟨restarting, _⟩ | ⟨_, none_, _⟩
      · rw [idle] at restarting
        cases restarting
      · change p.replacements.length + 1 ≤ 1
        rw [none_]
        exact Nat.le_refl _
    | fail => exact Nat.le_trans (Nat.le_add_right _ _) lone
    | @launch _ _ r place =>
      rw [place] at lone
      change _ + 1 ≤ 1 at lone
      change (p.replacements ++ [r]).length + 0 ≤ 1
      rw [List.length_append, List.length_singleton]
      omega
  · obtain ⟨_, signals, replacements, _, _, _⟩ := p.trigger_frame d
    rw [signals, replacements]
    exact lone
  · have fewer := List.length_filter_le (fun r : Replacement => r.serial != serial) p.replacements
    rw [replacements_replacementEnds, signals_replacementEnds]
    omega

/-- A process that is stopping starts no replacement. -/
theorem launches_of_stopping {site : Site} {now : Nat} {p p' : Server} {m : Move} (steered : p.Steered)
    (stopping : p.stopping = true) (run : p.move? site now m = some p') : p'.launches = p.launches := by
  rcases move?_apart run with apart | ⟨_, step⟩ | ⟨d, _, rfl⟩ | ⟨serial, _, rfl⟩
  · exact apart.launches
  · cases (stepSignals?_eq_some step).handled with
    | calm _ _ _ _ launches => exact launches
    | stop | begin_ | capture | fail => rfl
    | launch place =>
      have going := steered.inFlight (by rw [place]; rfl)
      rw [stopping] at going
      cases going
  · exact (p.trigger_frame d).2.2.2.1
  · exact p.launches_replacementEnds serial

/-- What a process started before it took up a signal, and what it has started for it, is all that it started. -/
theorem launches_of_handles {site : Site} {now n : Nat} {p p' : Server} {m : Move} {turn : Turn}
    (started : p.launches = n + p.signals.spawned) (handles : p.signals.turn? = some turn)
    (still : p'.signals.turn? = some turn) (run : p.move? site now m = some p') :
    p'.launches = n + p'.signals.spawned := by
  rcases move?_apart run with apart | ⟨_, step⟩ | ⟨d, _, rfl⟩ | ⟨serial, _, rfl⟩
  · rw [apart.launches, apart.signals]
    exact started
  · cases stepSignals?_eq_some step with
    | take place | ignore place =>
      rw [place] at handles
      cases handles
    | breakOff | rest => cases still
    | close place =>
      rw [place] at started
      exact (Apart.alter p _ _).launches.trans started
    | launch place =>
      rw [place] at started
      exact congrArg (· + 1) started
    | before place | after place | turn place | stop place | skip place | begin_ place | list place | closed place
    | capture place | refuse place | empty place | fail place =>
      rw [place] at started
      exact started
  · obtain ⟨_, signals, _, launches, _, _⟩ := p.trigger_frame d
    rw [launches, signals]
    exact started
  · rw [launches_replacementEnds, signals_replacementEnds]
    exact started

/-- A process and its replacements between two signals. -/
structure OneReplacement (p : Server) : Prop where
  one : p.replacements.length ≤ 1
  guard : p.stopping = false → p.signals.isInFlight = false → (p.isRestarting = true ↔ p.replacements.length = 1)
  spawns : ∀ d rest signal, p.signals = .idle → p.queue = d :: rest → Signal.ofNumber? d.number = some signal →
    ∀ site now p' q outcome hooks, p.move? site now .signals = some p' → Run (Handles ⟨signal, d.ticket⟩) p' q →
      q.signals = .after ⟨signal, d.ticket⟩ outcome hooks →
        q.launches = p.launches + (if outcome = .restarted then 1 else 0) ∧
          (hooks = [] → ∀ site now, q.move? site now .signals = some ((q.answer d.ticket outcome).moveSignals .idle))
  ends : ∀ r ∈ p.replacements, p.stopping = false →
    (p.replacementEnds r.serial).replacements = [] ∧ (p.replacementEnds r.serial).isRestarting = false
  acts : ∀ turn, p.signals = .acting turn → turn.signal.isStop = false → p.stopping = false → ∀ site now,
    p.move? site now .signals = some
      (if p.replacements = [] then
        { p with registry := { p.registry with restarting := true }, signals := .capturing turn }
      else p.conclude turn .skipped)
  stopped : p.stopping = true → ∀ q, Reach p q → q.launches = p.launches

/-- There is at most one replacement at a time. -/
theorem one_replacement {markers : Markers} {settings : Settings} {arguments : List OsText}
    {files : List (Option OpenFile)} {parent nextSocket start : Nat} {p : Server}
    (run : Run Observes (Server.start markers settings arguments files parent nextSocket start) p) :
    p.OneReplacement := by
  have blank := Blank.start markers settings arguments files parent nextSocket start
  have kept : p.Guarded ∧ p.Lone := by
    induction run with
    | start =>
      refine ⟨.of_blank blank, ?_⟩
      rw [Lone, blank.replacements, blank.signals]
      exact Nat.zero_le _
    | next _ known move ih => exact ⟨ih.1.move? known move, ih.2.move? ih.1 move⟩
  obtain ⟨guarded, lone⟩ := kept
  have steered := run.steered (.of_blank blank)
  unfold Lone at lone
  have guard : p.stopping = false → p.signals.isInFlight = false →
      (p.isRestarting = true ↔ p.replacements.length = 1) := by
    intro going calm
    unfold isRestarting
    rcases guarded going with ⟨restarting, count⟩ | ⟨restarting, none_, _⟩
    · rw [calm] at count
      simp only [restarting, true_iff]
      exact count
    · simp [restarting, none_]
  refine ⟨by omega, guard, ?spawns, ?ends, ?acts, ?stopped⟩
  case spawns =>
    intro d rest signal idle queue named site now p' q outcome hooks taken handled after
    have kept : q.signals.turn? = some ⟨signal, d.ticket⟩ → q.launches = p.launches + q.signals.spawned := by
      clear after
      induction handled with
      | start =>
        have first : p' = { p with
            queue := rest, signals := .before ⟨signal, d.ticket⟩ (p.hooks.toRun .before signal) } := by
          simp only [Server.move?, stepSignals?, idle, queue, takeUp, named, Option.some.injEq] at taken
          exact taken.symm
        rw [first]
        exact fun _ => rfl
      | next _ handles move ih => exact fun still => launches_of_handles (ih handles) handles still move
    rw [after] at kept
    refine ⟨kept rfl, fun empty site now => ?_⟩
    rw [Server.move?, stepSignals?, after, empty]
  case ends =>
    intro r member going
    have some_ : 0 < p.replacements.length := List.length_pos_of_mem member
    obtain ⟨only, all⟩ : ∃ only, p.replacements = [only] := List.length_eq_one_iff.1 (by omega)
    rw [all, List.mem_singleton] at member
    subst member
    simp [replacementEnds, isRestarting, Registry.clearRestart, going, all]
  case acts =>
    intro turn place harmless going site now
    have guard := guard going (by rw [place]; rfl)
    unfold isRestarting at guard
    by_cases none_ : p.replacements = []
    · have idle : p.registry.restarting = false := Bool.eq_false_iff.2 fun on => by simpa [none_] using guard.1 on
      simp [Server.move?, stepSignals?, place, act, harmless, going, Registry.beginRestart?, idle, none_]
    · have some_ := List.length_pos_iff.2 none_
      have restarting : p.registry.restarting = true := guard.2 (by omega)
      simp [Server.move?, stepSignals?, place, act, harmless, going, Registry.beginRestart?, restarting, none_]
  case stopped =>
    intro stopping q later
    have kept : q.stopping = true ∧ q.launches = p.launches := by
      induction later with
      | start => exact ⟨stopping, rfl⟩
      | next earlier _ move ih =>
        obtain ⟨stopping, launches⟩ := ih
        have none_ := launches_of_stopping (earlier.steered steered) stopping move
        exact ⟨stopping_of_move? move stopping, none_.trans launches⟩
    exact kept.2

end Server

namespace Sample

/-- An address is served, and two restarts are triggered. -/
def twice : List Move :=
  serving "127.0.0.1:80" 0 9 ++
    [.trigger { number := 1, ticket := some 5 }, .trigger { number := 1, ticket := some 6 }] ++
    List.replicate 10 .signals

/-- One more restart is triggered. -/
def once : List Move := .trigger { number := 1, ticket := some 7 } :: List.replicate 6 .signals

/-- A stop is triggered, and a restart behind it. -/
def quitting : List Move :=
  [.trigger { number := 15 }, .trigger { number := 1, ticket := some 8 }] ++ List.replicate 11 .signals

def replaced : Server := after fresh twice

/-- The next restart is triggered when the replacement has ended. -/
def replacedAgain : Server := after (replaced.replacementEnds 0) once

def halted : Server := after replacedAgain quitting

theorem run_observes {p p' : Server} (ms : List Move) (quiet : ∀ m ∈ ms, m.observes = false)
    (made : p.moves? site 0 ms = some p') : Server.Run Server.Observes p p' := by
  refine Server.Run.start.makes (fun m member q serial same => ?_) made
  have other := quiet m member
  rw [same] at other
  cases other

theorem run_replaced : Server.Run Server.Observes fresh replaced := run_observes twice (by decide) rfl

theorem run_ended : Server.Run Server.Observes replaced (replaced.replacementEnds 0) := by
  have move : replaced.move? site 0 (.replacementEnds 0) = some (replaced.replacementEnds 0) := rfl
  refine Server.Run.start.next (fun serial same => ?_) move
  cases same
  exact ⟨_, List.mem_cons_self, rfl⟩

theorem run_replacedAgain : Server.Run Server.Observes (replaced.replacementEnds 0) replacedAgain :=
  run_observes once (by decide) rfl

theorem run_halted : Server.Run Server.Observes replacedAgain halted := run_observes quitting (by decide) rfl

end Sample

/-- Of two triggers one starts a replacement, and so does one after its end. None does when the process is stopping. -/
theorem replacements_one_by_one :
    Sample.replaced.launches = 1 ∧ Sample.replaced.replacements.length = 1 ∧ Sample.replaced.OneReplacement ∧
      Sample.replacedAgain.launches = 2 ∧ Sample.replacedAgain.replacements.length = 1 ∧
      Sample.replacedAgain.OneReplacement ∧ Sample.halted.launches = 2 ∧ Sample.halted.stopping = true ∧
      Sample.halted.OneReplacement ∧
      (Sample.halted.journal.filter fun record => record matches .answered _ _) =
        [.answered 5 (some .restarted), .answered 6 (some .skipped), .answered 7 (some .restarted),
          .answered 8 (some .skipped)] := by
  have second := (Sample.run_replaced.trans Sample.run_ended).trans Sample.run_replacedAgain
  exact ⟨rfl, rfl, Server.one_replacement Sample.run_replaced, rfl, rfl, Server.one_replacement second, rfl, rfl,
    Server.one_replacement (second.trans Sample.run_halted), rfl⟩

end Handover
