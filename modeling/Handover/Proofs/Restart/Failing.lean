import Handover.Proofs.Restart.Mapping
import Handover.Proofs.Server.Steering

namespace Handover

namespace Restart

/-- Closing what was duplicated leaves the descriptors as they were. -/
theorem at?_withoutAll_of_capture {listeners : List (Nat × String × Handle)} {t t' : Descriptors}
    {captured : List Captured} (run : capture listeners t = .ok (captured, t')) (n : Nat) :
    (withoutAll t' (captured.map (·.handle.descriptor))).at? n = t.at? n := by
  rw [at?_withoutAll]
  split
  · rename_i member
    obtain ⟨c, among, rfl⟩ := List.mem_map.1 member
    exact ((capture_eq_ok run).2.1 c among).symm
  · rename_i other
    induction listeners generalizing t captured t' with
    | nil =>
      cases run
      rfl
    | cons first rest ih =>
      simp only [capture, bind, Except.bind] at run
      split at run
      · cases run
      rename_i duplicating
      obtain ⟨d, _, _, _, same⟩ := Descriptors.duplicate_eq_ok duplicating
      split at run
      · cases run
      rename_i later capturing
      cases run
      rw [List.map_cons, List.mem_cons, not_or] at other
      rw [ih capturing other.2, same, Descriptors.at?_put, if_neg (Ne.symm other.1)]

/-- Capturing fails at the first listener that cannot be duplicated. -/
theorem capture_eq_error {listeners : List (Nat × String × Handle)} {t : Descriptors} {cause : Failure}
    (run : capture listeners t = .error cause) : ∃ earlier failing later captured t',
      listeners = earlier ++ failing :: later ∧ capture earlier t = .ok (captured, t') ∧
        t'.duplicate failing.2.2.descriptor Markers.firstDescriptor true = .error cause := by
  induction listeners generalizing t with
  | nil => cases run
  | cons first rest ih =>
    cases duplicating : t.duplicate first.2.2.descriptor Markers.firstDescriptor true with
    | error failure =>
      simp only [capture, bind, Except.bind, duplicating] at run
      cases run
      exact ⟨[], first, rest, [], t, rfl, rfl, duplicating⟩
    | ok duplicate =>
      obtain ⟨descriptor, middle⟩ := duplicate
      simp only [capture, bind, Except.bind, duplicating] at run
      split at run
      · rename_i stuck
        cases run
        obtain ⟨earlier, failing, later, captured, t', rfl, made, refused⟩ := ih stuck
        refine ⟨first :: earlier, failing, later, ⟨first.1, first.2.1, ⟨descriptor, first.2.2.socket⟩⟩ :: captured, t',
          rfl, ?_, refused⟩
        simp only [capture, bind, Except.bind, duplicating, made]
        rfl
      · cases run

theorem capture_append_error {earlier later : List (Nat × String × Handle)} {failing : Nat × String × Handle}
    {t t' : Descriptors} {captured : List Captured} {cause : Failure} (made : capture earlier t = .ok (captured, t'))
    (refused : t'.duplicate failing.2.2.descriptor Markers.firstDescriptor true = .error cause) :
    capture (earlier ++ failing :: later) t = .error cause := by
  induction earlier generalizing t captured with
  | nil =>
    cases made
    simp only [List.nil_append, capture, bind, Except.bind, refused]
  | cons first rest ih =>
    simp only [capture, bind, Except.bind] at made
    split at made
    · cases made
    rename_i duplicating
    split at made
    · cases made
    rename_i capturing
    cases made
    simp only [List.cons_append, capture, bind, Except.bind, duplicating, ih capturing]

end Restart

def Outcome.fault? : Outcome → Option Fault
  | failed fault => some fault
  | _ => none

namespace SignalPlace

/-- Why the restart that was tried for the signal has failed. -/
def failed? : SignalPlace → Option Fault
  | after _ outcome _ => outcome.fault?
  | _ => none

/-- A restart is being tried. -/
def isTrying : SignalPlace → Bool
  | acting turn => !turn.signal.isStop
  | capturing _ | launching _ _ => true
  | _ => false

theorem handles_of_failed {place : SignalPlace} {fault : Fault} (failed : place.failed? = some fault) :
    place.isInFlight = false ∧ Server.SignalPlace.handles place = [] := by
  cases place with
  | after => exact ⟨rfl, rfl⟩
  | _ => cases failed

end SignalPlace

namespace Server

/-- Nothing has changed but how far the handling of signals is, what was logged, and whether a restart is under way. -/
def Aside (p q : Server) : Prop :=
  q = { p with
    queue := q.queue
    signals := q.signals
    journal := q.journal
    registry := { p.registry with restarting := q.registry.restarting } }

namespace Aside

theorem refl (p : Server) : p.Aside p := rfl

theorem trans {p q r : Server} (first : p.Aside q) (second : q.Aside r) : p.Aside r := by
  unfold Aside at *
  rw [second, first]

theorem view {α : Type} {p q : Server} (aside : p.Aside q) (f : Server → α) :
    f q = f { p with
      queue := q.queue
      signals := q.signals
      journal := q.journal
      registry := { p.registry with restarting := q.registry.restarting } } :=
  congrArg f aside

theorem stopping {p q : Server} (aside : p.Aside q) : q.stopping = p.stopping := aside.view Server.stopping

theorem ownTable {p q : Server} (aside : p.Aside q) :
    q.untaken.holding q.ownHandles = p.untaken.holding p.ownHandles :=
  aside.view fun r => r.untaken.holding r.ownHandles

theorem openListeners {p q : Server} (aside : p.Aside q) :
    Restart.openListeners q.registry = Restart.openListeners p.registry :=
  aside.view fun r => Restart.openListeners r.registry

theorem trigger (p : Server) (d : Dispatch) : p.Aside (p.trigger d) := by
  unfold Server.trigger
  split <;> rfl

end Aside

theorem Handling.aside {site : Site} {now : Nat} {p p' : Server} (step : Handling site now p p')
    (going : p'.stopping = p.stopping) (open_ : p.signals.isClosing = false) (still : p'.launches = p.launches) :
    p.Aside p' := by
  cases step with
  | ignore =>
    unfold answer
    split <;> rfl
  | rest =>
    unfold answer
    split <;> rfl
  | close place =>
    rw [place] at open_
    cases open_
  | launch => exact absurd still (Nat.succ_ne_self _)
  | stop =>
    change true = p.stopping at going
    simp only [Aside, ← going]
  | _ => rfl

/-- Why a restart fails at this point, the duplicates that were made for it, and what is open together with them. -/
inductive Fails (site : Site) (p : Server) (turn : Turn) : Fault → List Restart.Captured → Descriptors → Prop
  | empty : p.signals = .capturing turn → Restart.openListeners p.registry = [] →
      Fails site p turn .noListeners [] p.table
  | exhausted {earlier later failing captured t cause} : p.signals = .capturing turn →
      Restart.openListeners p.registry = earlier ++ failing :: later →
      Restart.capture earlier p.table = .ok (captured, t) →
      t.duplicate failing.2.2.descriptor Markers.firstDescriptor true = .error cause →
      Fails site p turn (.system cause) captured t
  | unstarted {captured cause} : p.signals = .launching turn captured → p.replacement site captured = .error cause →
      Fails site p turn (.restart cause) captured p.table

section Fails

variable {site : Site} {p : Server} {turn : Turn} {fault : Fault} {captured : List Restart.Captured} {t : Descriptors}

/-- A program that cannot be run is not started, whatever the descriptors are. -/
theorem fails_of_refusal (place : p.signals = .launching turn captured) {cause : Failure}
    (refused : site.refusal p.settings.program = some cause) :
    ∃ cause, p.Fails site turn (.restart cause) captured p.table := by
  have unstarted : ∃ cause, p.replacement site captured = .error cause := by
    unfold replacement
    dsimp only
    split
    · simp only [refused, Restart.launch]
      cases Restart.place (Restart.Plan.ofSnapshot captured).descriptors p.table with
      | error cause => exact ⟨cause, rfl⟩
      | ok placed => exact ⟨cause, rfl⟩
    · exact ⟨_, rfl⟩
  obtain ⟨cause, unstarted⟩ := unstarted
  exact ⟨cause, .unstarted place unstarted⟩

theorem Fails.isInFlight (fails : p.Fails site turn fault captured t) : p.signals.isInFlight = true := by
  cases fails with
  | empty place | exhausted place | unstarted place =>
    rw [place]
    rfl

theorem Fails.move? (fails : p.Fails site turn fault captured t) (now : Nat) :
    p.move? site now .signals = some (p.failRestart turn fault) := by
  cases fails with
  | empty place none_ =>
    have snapshot : Restart.snapshot p.registry p.table = .ok ([], p.table) := by
      rw [Restart.snapshot, none_]
      rfl
    simp only [Server.move?, stepSignals?, place, capture, snapshot]
  | @exhausted _ _ _ _ _ cause place listed made refused =>
    have snapshot : Restart.snapshot p.registry p.table = .error cause := by
      rw [Restart.snapshot, listed]
      exact Restart.capture_append_error made refused
    simp only [Server.move?, stepSignals?, place, capture, snapshot]
  | unstarted place refused => simp only [Server.move?, stepSignals?, place, launch, refused]

theorem Captures.at?_withoutAll (captures : p.Captures captured) (place : p.signals = .launching turn captured)
    (n : Nat) : (Restart.withoutAll p.table (captured.map (·.handle.descriptor))).at? n =
      (p.untaken.holding p.ownHandles).at? n := by
  rw [Restart.at?_withoutAll]
  split
  · rename_i member
    obtain ⟨c, among, rfl⟩ := List.mem_map.1 member
    exact (captures.free c among).symm
  · rename_i other
    have whole : p.table = (p.untaken.holding p.ownHandles).holding (captured.map (·.handle)) := by
      rw [Server.table, handles_eq, place]
      exact List.foldl_append
    rw [whole, Descriptors.at?_holding_of_ne]
    intro h member same
    obtain ⟨c, among, rfl⟩ := List.mem_map.1 member
    exact other (same ▸ List.mem_map_of_mem among)

/-- When the duplicates are closed, what the process holds by itself is left, and this is what it goes on with. -/
theorem Fails.at?_withoutAll (fails : p.Fails site turn fault captured t)
    (captures : ∀ turn captured, p.signals = .launching turn captured → p.Captures captured) (n : Nat) :
    (Restart.withoutAll t (captured.map (·.handle.descriptor))).at? n = (p.failRestart turn fault).table.at? n := by
  have after : (p.failRestart turn fault).table = p.untaken.holding p.ownHandles := table_eq rfl
  rw [after]
  cases fails with
  | empty place =>
    rw [table_eq (by rw [place]; rfl)]
    rfl
  | exhausted place _ made =>
    rw [Restart.at?_withoutAll_of_capture made, table_eq (by rw [place]; rfl)]
  | unstarted place => exact (captures turn captured place).at?_withoutAll place n

end Fails

/-- A restart fails when it is given up, and then the hooks run that follow. -/
theorem Handling.failed {site : Site} {now : Nat} {p p' : Server} {fault : Fault} (step : Handling site now p p')
    (failed : p'.signals.failed? = some fault) :
    (∃ turn captured t, p.Fails site turn fault captured t ∧ p' = p.failRestart turn fault) ∨
      p.signals.failed? = some fault ∧ p'.stopping = p.stopping ∧ p'.registry = p.registry := by
  cases step with
  | ignore place =>
    rw [signals_answer] at failed
    change p.signals.failed? = some fault at failed
    rw [place] at failed
    cases failed
  | after place =>
    rw [place]
    exact Or.inr ⟨failed, rfl, rfl⟩
  | @refuse turn cause place refused =>
    cases failed
    obtain ⟨earlier, failing, later, captured, t, listed, made, refused⟩ := Restart.capture_eq_error refused
    exact Or.inl ⟨turn, captured, t, .exhausted place listed made refused, rfl⟩
  | @empty turn t place none_ =>
    cases failed
    have listed := (Restart.capture_eq_ok none_).1
    exact Or.inl ⟨turn, [], p.table, .empty place (List.map_eq_nil_iff.1 listed.symm), rfl⟩
  | @fail turn captured cause place refused =>
    cases failed
    exact Or.inl ⟨turn, captured, p.table, .unstarted place refused, rfl⟩
  | _ => cases failed

/-- The process is not stopping, and no restart is under way. -/
structure MayRestart (p : Server) : Prop where
  going : p.stopping = false
  idle : p.registry.restarting = false

/-- Once a restart has failed the next one can begin. -/
theorem mayRestart_of_failed {markers : Markers} {settings : Settings} {arguments : List OsText}
    {files : List (Option OpenFile)} {parent nextSocket start : Nat} {p : Server} {fault : Fault}
    (run : Reach (Server.start markers settings arguments files parent nextSocket start) p)
    (failed : p.signals.failed? = some fault) : p.MayRestart := by
  have blank := Blank.start markers settings arguments files parent nextSocket start
  induction run with
  | start =>
    rw [blank.signals] at failed
    cases failed
  | next earlier _ move ih =>
    rcases move?_apart move with apart | ⟨_, step⟩ | ⟨d, _, rfl⟩ | ⟨serial, _, rfl⟩
    · rw [apart.signals] at failed
      obtain ⟨going, idle⟩ := ih failed
      exact ⟨apart.stopping.trans going, apart.restarting.trans idle⟩
    · rcases (stepSignals?_eq_some step).failed failed with ⟨turn, _, _, fails, rfl⟩ | ⟨before, stopping, registry⟩
      · have steered := earlier.steered (.of_blank blank)
        exact ⟨steered.inFlight fails.isInFlight, rfl⟩
      · obtain ⟨going, idle⟩ := ih before
        exact ⟨stopping.trans going, (congrArg Registry.restarting registry).trans idle⟩
    · obtain ⟨stopping, signals, _, _, registry, _⟩ := trigger_frame _ d
      rw [signals] at failed
      obtain ⟨going, idle⟩ := ih failed
      exact ⟨stopping.trans going, (congrArg Registry.restarting registry).trans idle⟩
    · rw [signals_replacementEnds] at failed
      obtain ⟨going, idle⟩ := ih failed
      exact ⟨(stopping_replacementEnds _ serial).trans going, by simp [going]⟩

/-- Signals arrive and are handled, and nothing else happens. -/
def Signalling (_ : Server) (_ : Site) : Move → Prop
  | .signals | .trigger _ | .deliver _ => True
  | _ => False

/-- Restarts were tried since `p`, and none has succeeded: the guard is only taken while one is being tried. -/
structure Tried (p q : Server) : Prop where
  aside : p.Aside q
  launches : q.launches = p.launches
  guard : q.registry.restarting = (p.registry.restarting || q.signals.isInFlight)
  inFlight : q.signals.isInFlight = true → p.registry.restarting = false
  failed : ∀ fault, q.signals.failed? = some fault → p.registry.restarting = false

/-- A restart has succeeded since `p`, and its replacement has not ended. -/
structure Replaced (p q : Server) : Prop where
  launches : p.launches < q.launches
  restarting : q.registry.restarting = true
  calm : q.signals.isInFlight = false
  failed : q.signals.failed? = none

theorem Tried.trigger {p q : Server} (tried : p.Tried q) (d : Dispatch) : p.Tried (q.trigger d) := by
  obtain ⟨_, signals, _, launches, registry, _⟩ := q.trigger_frame d
  refine ⟨tried.aside.trans (.trigger q d), launches.trans tried.launches, ?_, ?_, ?_⟩
  · rw [registry, signals]
    exact tried.guard
  · rw [signals]
    exact tried.inFlight
  · rw [signals]
    exact tried.failed

theorem Replaced.trigger {p q : Server} (replaced : p.Replaced q) (d : Dispatch) : p.Replaced (q.trigger d) := by
  obtain ⟨_, signals, _, launches, registry, _⟩ := q.trigger_frame d
  refine ⟨?_, ?_, ?_, ?_⟩
  · rw [launches]
    exact replaced.launches
  · rw [registry]
    exact replaced.restarting
  · rw [signals]
    exact replaced.calm
  · rw [signals]
    exact replaced.failed

theorem Tried.step {site : Site} {now : Nat} {p q q' : Server} (tried : p.Tried q) (step : Handling site now q q')
    (open_ : q.signals.isClosing = false) (going : q'.stopping = q.stopping) : p.Tried q' ∨ p.Replaced q' := by
  have aside : q'.launches = q.launches → p.Aside q' := fun still => tried.aside.trans (step.aside going open_ still)
  cases step.handled with
  | calm calm calm' _ _ launches restarting =>
    refine Or.inl ⟨aside launches, launches.trans tried.launches, ?_, ?_, ?_⟩
    · rw [restarting, tried.guard, calm, calm']
    · rw [calm']
      exact nofun
    · intro fault failed
      rcases step.failed failed with ⟨_, _, _, fails, _⟩ | ⟨before, _⟩
      · rw [fails.isInFlight] at calm
        cases calm
      · exact tried.failed fault before
  | stop place =>
    have guard := tried.guard
    rw [place] at guard
    exact Or.inl ⟨aside rfl, tried.launches, guard, nofun, nofun⟩
  | begin_ place _ _ idle =>
    have idle' : p.registry.restarting = false := by
      have guard := tried.guard
      rw [idle] at guard
      exact (Bool.or_eq_false_iff.1 guard.symm).1
    exact Or.inl ⟨aside rfl, tried.launches, (Bool.or_true _).symm, fun _ => idle', nofun⟩
  | capture place =>
    have guard := tried.guard
    have idle := tried.inFlight (by rw [place]; rfl)
    rw [place] at guard
    exact Or.inl ⟨aside rfl, tried.launches, guard, fun _ => idle, nofun⟩
  | fail flying =>
    have idle := tried.inFlight flying
    exact Or.inl ⟨aside rfl, tried.launches, by rw [idle]; rfl, nofun, fun _ _ => idle⟩
  | launch place =>
    have restarting := tried.guard
    rw [place] at restarting
    refine Or.inr ⟨?_, restarting.trans (Bool.or_true _), rfl, rfl⟩
    rw [← tried.launches]
    exact Nat.lt_succ_self _

theorem Replaced.step {site : Site} {now : Nat} {p q q' : Server} (replaced : p.Replaced q)
    (step : Handling site now q q') : p.Replaced q' := by
  have calm := replaced.calm
  cases step.handled with
  | calm _ calm' _ _ launches restarting =>
    refine ⟨?_, restarting.trans replaced.restarting, calm', ?_⟩
    · rw [launches]
      exact replaced.launches
    · refine Option.eq_none_iff_forall_ne_some.2 fun fault failed => ?_
      rcases step.failed failed with ⟨_, _, _, fails, _⟩ | ⟨before, _⟩
      · rw [fails.isInFlight] at calm
        cases calm
      · rw [replaced.failed] at before
        cases before
  | stop => exact ⟨replaced.launches, replaced.restarting, rfl, rfl⟩
  | begin_ _ _ _ idle =>
    rw [replaced.restarting] at idle
    cases idle
  | capture place | launch place =>
    rw [place] at calm
    cases calm
  | fail flying =>
    rw [flying] at calm
    cases calm

theorem tried_or_replaced {p q : Server} (steered : p.Steered) (idle : p.signals = .idle) (run : Run Signalling p q)
    (going : q.stopping = false) : p.Tried q ∨ p.Replaced q := by
  induction run with
  | start =>
    refine Or.inl ⟨.refl p, rfl, ?_, ?_, ?_⟩ <;> rw [idle]
    · exact (Bool.or_false _).symm
    · exact nofun
    · exact nofun
  | @next q q' site now m earlier signals move ih =>
    have before : q.stopping = false := Bool.eq_false_iff.2 fun stopping => by
      rw [stopping_of_move? move stopping] at going
      cases going
    have steered := earlier.steered steered
    have open_ : q.signals.isClosing = false := Bool.eq_false_iff.2 fun closing => by
      rw [steered.closing closing] at before
      cases before
    cases m with
    | signals =>
      have step := stepSignals?_eq_some move
      rcases ih before with tried | replaced
      · exact tried.step step open_ (going.trans before.symm)
      · exact Or.inr (replaced.step step)
    | trigger d =>
      cases move
      exact (ih before).imp (·.trigger d) (·.trigger d)
    | deliver number =>
      obtain ⟨_, _, rfl⟩ := deliver?_eq_some move
      exact (ih before).imp (·.trigger _) (·.trigger _)
    | _ => cases signals

/-- A restart was tried in `p` and has failed in `q`, which is `p` but for the handling of signals and the journal. -/
structure Undone (p q : Server) : Prop where
  same : q = { p with queue := q.queue, signals := q.signals, journal := q.journal }
  table : q.table = p.table
  mayRestart : q.MayRestart
  again : ∀ q', Run Signalling q q' → q'.stopping = false → q'.launches = q.launches →
    ∀ turn, q'.signals = .acting turn → turn.signal.isStop = false → ∀ site now,
      ∃ q'', q'.move? site now .signals = some q'' ∧ q''.signals = .capturing turn ∧
        Restart.snapshot q''.registry q''.table = Restart.snapshot p.registry p.table

theorem Aside.snapshot {p q : Server} (aside : p.Aside q) (none_ : SignalPlace.handles p.signals = [])
    (none_' : SignalPlace.handles q.signals = []) :
    Restart.snapshot q.registry q.table = Restart.snapshot p.registry p.table := by
  rw [Restart.snapshot, Restart.snapshot, aside.openListeners, table_eq none_, table_eq none_', aside.ownTable]

theorem undone_of_failed {p q : Server} (steered : p.Steered) (idle : p.signals = .idle) (run : Run Signalling p q)
    {fault : Fault} (failed : q.signals.failed? = some fault) (mayRestart : q.MayRestart) : p.Undone q := by
  have settled : SignalPlace.handles p.signals = [] := by rw [idle]; rfl
  -- No restart can have succeeded before, as its replacement would still be there.
  rcases tried_or_replaced steered idle run mayRestart.going with tried | replaced
  · have free := tried.failed fault failed
    have restarting : q.registry.restarting = p.registry.restarting := mayRestart.idle.trans free.symm
    have same := tried.aside
    rw [Aside, restarting] at same
    have settled' := (SignalPlace.handles_of_failed failed).2
    refine ⟨same, by rw [table_eq settled, table_eq settled', tried.aside.ownTable], mayRestart, ?_⟩
    intro q' later going none_ turn acting harmless site now
    rcases tried_or_replaced steered idle (run.trans later) going with tried' | replaced
    · have idle' : q'.registry.restarting = false := by rw [tried'.guard, free, acting]; rfl
      have begun : q'.Aside { q' with
          registry := { q'.registry with restarting := true }
          signals := .capturing turn } := rfl
      refine ⟨_, ?_, rfl, (tried'.aside.trans begun).snapshot settled rfl⟩
      simp [Server.move?, stepSignals?, acting, act, harmless, going, Registry.beginRestart?, idle']
    · have more := replaced.launches
      rw [none_, tried.launches] at more
      exact absurd more (Nat.lt_irrefl _)
  · rw [replaced.failed] at failed
    cases failed

/-- What a restart that fails does, step by step and, if nothing else goes on, as a whole. -/
structure RollsBack (p : Server) : Prop where
  aside : p.signals.isTrying = true → ∀ site now p', p.move? site now .signals = some p' → p'.launches = p.launches →
    p.Aside p'
  causes : p.signals.isInFlight = true → ∀ site now p' fault, p.move? site now .signals = some p' →
    p'.signals.failed? = some fault → ∃ turn captured t, p.Fails site turn fault captured t
  refused : ∀ site turn captured cause, p.signals = .launching turn captured →
    site.refusal p.settings.program = some cause → ∃ cause, p.Fails site turn (.restart cause) captured p.table
  fails : ∀ site turn fault captured t, p.Fails site turn fault captured t →
    (∀ now, p.move? site now .signals = some (p.failRestart turn fault)) ∧
      (∀ c ∈ captured, (p.failRestart turn fault).table.at? c.handle.descriptor = none) ∧
      ∀ n, (Restart.withoutAll t (captured.map (·.handle.descriptor))).at? n = (p.failRestart turn fault).table.at? n
  clears : ∀ fault, p.signals.failed? = some fault → p.MayRestart ∧ p.handles = p.ownHandles
  answers : ∀ turn fault, p.signals = .after turn (.failed fault) [] → ∀ site now,
    p.move? site now .signals = some ((p.answer turn.ticket (.failed fault)).moveSignals .idle)
  undone : p.signals = .idle → ∀ q fault, Run Signalling p q → q.signals.failed? = some fault → p.Undone q

/-- A restart that fails changes nothing, and leaves no duplicate open. -/
theorem failed_restart_rolls_back {markers : Markers} {settings : Settings} {arguments : List OsText}
    {files : List (Option OpenFile)} {parent nextSocket start : Nat} {p : Server}
    (run : Reach (Server.start markers settings arguments files parent nextSocket start) p) : p.RollsBack := by
  have blank := Blank.start markers settings arguments files parent nextSocket start
  have steered := run.steered (.of_blank blank)
  refine ⟨?aside, ?causes, ?refused, ?fails, ?clears, ?answers, ?undone⟩
  case aside =>
    intro trying site now p' move still
    have step := stepSignals?_eq_some move
    have open_ : p.signals.isClosing = false := by
      cases place : p.signals with
      | listing | closing =>
        rw [place] at trying
        cases trying
      | _ => rfl
    refine step.aside ?_ open_ still
    cases step.handled with
    | calm _ _ stopping => exact stopping
    | stop place isStop =>
      rw [place, SignalPlace.isTrying, isStop] at trying
      cases trying
    | begin_ | capture | fail | launch => rfl
  case causes =>
    intro flying site now p' fault move failed
    rcases (stepSignals?_eq_some move).failed failed with ⟨turn, captured, t, fails, _⟩ | ⟨before, _⟩
    · exact ⟨turn, captured, t, fails⟩
    · rw [(SignalPlace.handles_of_failed before).1] at flying
      cases flying
  case refused => exact fun site turn captured cause place refused => fails_of_refusal place refused
  case fails =>
    intro site turn fault captured t fails
    have left := fails.at?_withoutAll fun turn captured place => run.captures (.of_blank blank) blank.signals place
    refine ⟨fails.move?, fun c member => ?_, left⟩
    rw [← left, Restart.at?_withoutAll, if_pos (List.mem_map_of_mem member)]
  case clears =>
    intro fault failed
    refine ⟨mayRestart_of_failed run failed, ?_⟩
    rw [handles_eq, (SignalPlace.handles_of_failed failed).2, List.append_nil]
  case answers =>
    intro turn fault place site now
    rw [Server.move?, stepSignals?, place]
  case undone =>
    intro idle q fault later failed
    have whole := run.trans (later.mono fun _ _ _ _ => trivial)
    exact undone_of_failed steered idle later failed (mayRestart_of_failed whole failed)

end Server

namespace Sample

/-- A site at which the program is not found any more. -/
def stripped : Site := { site with refusal := fun _ => some .notFound }

def served : Server := after fresh (serving "127.0.0.1:80" 0 9)

theorem reach_served : Server.Reach fresh served := Server.Run.start.moves site 0 (serving "127.0.0.1:80" 0 9) rfl

/-- A restart is tried until it has failed. -/
def refusal : List Move := .trigger { number := 1, ticket := some 5 } :: List.replicate 5 .signals

def refused : Server := (served.moves? stripped 0 refusal).getD served

/-- The failure is answered, and the next restart is tried. -/
def retrial : List Move := .signals :: .trigger { number := 1, ticket := some 6 } :: List.replicate 2 .signals

theorem run_refused : Server.Run Server.Signalling served refused := by
  have moves : served.moves? stripped 0 refusal = some refused := rfl
  refine Server.Run.start.makes ?_ moves
  intro m member q
  rcases List.mem_cons.1 member with rfl | among
  · trivial
  · rw [List.eq_of_mem_replicate among]
    trivial

end Sample

/-- A program is not found, and is there again at the next restart. -/
theorem refused_restart_is_undone :
    Sample.served.RollsBack ∧ Sample.refused.signals.failed? = some (.restart .notFound) ∧
      Sample.served.Undone Sample.refused ∧ Sample.single.RollsBack ∧
      (∃ turn captured t, Sample.single.Fails Sample.stripped turn (.restart .notFound) captured t ∧
        captured.length = 1) ∧
      (Sample.after Sample.refused Sample.retrial).signals = .acting ⟨.restart, some 6⟩ ∧
      (Sample.after (Sample.after Sample.refused Sample.retrial) (List.replicate 3 .signals)).launches = 1 := by
  have whole := Server.failed_restart_rolls_back Sample.reach_served
  have single : Server.Reach Sample.fresh Sample.single :=
    Server.Run.start.moves Sample.site 0 (Sample.serving "127.0.0.1:80" 0 9 ++ Sample.capturing) rfl
  exact ⟨whole, rfl, whole.undone rfl _ _ Sample.run_refused rfl, Server.failed_restart_rolls_back single,
    ⟨_, _, _, .unstarted rfl rfl, rfl⟩, rfl, rfl⟩

end Handover
