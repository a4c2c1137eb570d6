import Handover.Proofs.Restart.Household

namespace Handover

theorem Listener.handle?_of_open {l : Listener} (opened : l.isClosed = false) :
    ∃ h, l.handle? = some h ∧ h.socket = l.socket := by
  cases open_ : l.descriptor with
  | none =>
    rw [isClosed, open_] at opened
    cases opened
  | some descriptor =>
    refine ⟨⟨descriptor, l.socket⟩, ?_, rfl⟩
    rw [handle?, open_]
    rfl

/-- Every socket of a plan was captured again. -/
def Restart.Covers (plan captured : List Captured) : Prop :=
  ∀ c ∈ plan, ∃ c' ∈ captured, c'.handle.socket = c.handle.socket

/-- What a process that nobody stops captures covers every plan for which its services have the sockets. -/
theorem Server.Living.covers {p : Server} {turn : Turn} {plan captured : List Restart.Captured} {t : Descriptors}
    (living : p.Living) (claims : p.Claims) (carries : p.Carries plan) (place : p.signals = .capturing turn)
    (nonempty : captured ≠ []) (snapshot : Restart.snapshot p.registry p.table = .ok (captured, t)) :
    Restart.Covers plan captured := by
  intro c member
  obtain ⟨s, there, _, socket⟩ := carries c member
  obtain ⟨h, held, same⟩ := Listener.handle?_of_open (living.service there).opened
  obtain ⟨c', member', _, socket'⟩ := (captures_of_snapshot claims place snapshot nonempty).2 there held
  exact ⟨c', member', socket'.trans (same.trans socket)⟩

namespace Household

/-- Nothing has stopped the parent but a replacement that has told it to. -/
structure Attended (f : Household) : Prop where
  orderly : f.Orderly
  steered : f.parent.Steered
  living : f.parent.stopping = false → f.parent.Living
  successor : f.parent.Unstopped ∧ f.ended = false ∨ ∃ h ∈ f.heirs, h.HasTold f.number

/-- Everything that is prepared, started or running covers a plan whose sockets the parent has. -/
structure Covered (plan : List Restart.Captured) (f : Household) : Prop where
  carries : f.parent.Carries plan
  captured : ∀ turn captured, f.parent.signals = .launching turn captured → Restart.Covers plan captured
  replacements : ∀ r ∈ f.parent.replacements, Restart.Covers plan r.captured
  heirs : ∀ h ∈ f.heirs, h.ended = true ∨ Restart.Covers plan h.replacement.captured

variable {f f' : Household}

/-- Nothing that can happen in the parent closes a listener from outside, and only the stop that a replacement sent can
stop it. -/
theorem Admissible.harmless {m : Move} (admissible : f.Admissible (·.isQuiet = true) m) :
    m.closes = false ∧ (m.isQuiet = true ∨ ∃ h ∈ f.heirs, h.HasTold f.number) := by
  cases admissible with
  | own quiet => exact ⟨Move.closes_of_isQuiet quiet, Or.inl quiet⟩
  | observe => exact ⟨rfl, Or.inl rfl⟩
  | takeover member told => exact ⟨rfl, Or.inr ⟨_, member, told⟩⟩

namespace Attended

theorem alone {p : Server} (blank : p.Blank) (number : Nat) : Attended { parent := p, number } :=
  ⟨.alone blank number, .of_blank blank, fun _ => .of_blank blank, Or.inl ⟨.of_blank blank, rfl⟩⟩

theorem told_of_heir {i : Nat} {h : Heir} {site : Site} {now : Nat} {m : Move} {q : Server} (orderly : f.Orderly)
    (atHeir : f.heirs[i]? = some h) (run : h.process.move? site now m = some q)
    (told : ∃ h ∈ f.heirs, h.HasTold f.number) :
    ∃ h' ∈ f.heirs.set i { h with process := q }, h'.HasTold f.number := by
  obtain ⟨h', member, told⟩ := told
  obtain ⟨j, atOther⟩ := List.getElem?_of_mem member
  have inside := (List.getElem?_eq_some_iff.1 atHeir).1
  by_cases same : i = j
  · subst same
    cases atHeir.symm.trans atOther
    have onward := Server.Onward.move? (orderly.heirs h (List.mem_of_getElem? atHeir)).2.claims run
    exact ⟨_, List.mem_set inside _, onward.journal.subset told⟩
  · refine ⟨h', List.mem_of_getElem? (i := j) ?_, told⟩
    rw [List.getElem?_set_ne same]
    exact atOther

theorem step (attended : f.Attended) (made : Step (·.isQuiet = true) f f') : f'.Attended := by
  have orderly := attended.orderly.step made
  cases made with
  | @parent site now m p going admissible run =>
    obtain ⟨open_, quiet⟩ := admissible.harmless
    refine ⟨orderly, attended.steered.move? run, ?_, ?_⟩
    · intro unstopped
      have before : f.parent.stopping = false := by
        refine Bool.eq_false_iff.2 fun stopping => ?_
        rw [Server.stopping_of_move? run stopping] at unstopped
        cases unstopped
      have calm : f.parent.signals.isClosing = false := by
        refine Bool.eq_false_iff.2 fun closing => ?_
        rw [attended.steered.closing closing] at before
        cases before
      exact (attended.living before).move? attended.orderly.claims before calm open_ run
    · rcases attended.successor with ⟨unstopped, _⟩ | told
      · rcases quiet with quiet | told
        · exact Or.inl ⟨unstopped.move? quiet run, going⟩
        · exact Or.inr told
      · exact Or.inr told
  -- The parent ends only after it was told, or after it was stopped, which needs that it was told.
  | killed member told => exact ⟨orderly, attended.steered, attended.living, Or.inr ⟨_, member, told⟩⟩
  | retire stopping =>
    refine ⟨orderly, attended.steered, attended.living, ?_⟩
    rcases attended.successor with ⟨unstopped, _⟩ | told
    · rw [unstopped.going] at stopping
      cases stopping
    · exact Or.inr told
  | begin_ =>
    refine ⟨orderly, attended.steered, attended.living, attended.successor.imp_right ?_⟩
    rintro ⟨h, member, told⟩
    exact ⟨h, List.mem_append_left _ member, told⟩
  | heir atHeir _ _ run =>
    exact ⟨orderly, attended.steered, attended.living,
      attended.successor.imp_right (told_of_heir attended.orderly atHeir run)⟩
  | @exit i h atHeir untold =>
    refine ⟨orderly, attended.steered, attended.living, attended.successor.imp_right ?_⟩
    rintro ⟨h', member, told⟩
    obtain ⟨j, atOther⟩ := List.getElem?_of_mem member
    have other : i ≠ j := by
      rintro rfl
      cases atHeir.symm.trans atOther
      exact untold told
    refine ⟨h', List.mem_of_getElem? (i := j) ?_, told⟩
    rw [List.getElem?_set_ne other]
    exact atOther

theorem steps (attended : f.Attended) (made : Steps (·.isQuiet = true) f f') : f'.Attended := by
  induction made with
  | refl => exact attended
  | tail _ last ih => exact ih.step last

end Attended

namespace Covered

variable {plan : List Restart.Captured}

/-- When listeners have been captured, no earlier replacement is left. -/
theorem start (attended : f.Attended) {turn : Turn} (place : f.parent.signals = .launching turn plan) :
    Covered plan f := by
  have inFlight : f.parent.signals.isInFlight = true := by rw [place]; rfl
  have nobody : f.parent.replacements = [] := by
    rcases attended.orderly.guarded (attended.steered.inFlight inFlight) with ⟨_, count⟩ | ⟨_, _, calm⟩
    · rw [inFlight] at count
      change _ + 1 = 1 at count
      exact List.eq_nil_of_length_eq_zero (by omega)
    · rw [inFlight] at calm
      cases calm
  refine ⟨(attended.orderly.captures turn plan place).carries, ?_, ?_, ?_⟩
  · intro turn' captured place'
    cases place.symm.trans place'
    exact fun c member => ⟨c, member, rfl⟩
  · rw [nobody]
    exact fun r member => absurd member List.not_mem_nil
  · intro h member
    left
    refine Bool.of_not_eq_false fun going => ?_
    have := attended.orderly.running h member going
    rw [nobody] at this
    cases this

theorem parent (covered : Covered plan f) (attended : f.Attended) {site : Site} {now : Nat} {m : Move} {p : Server}
    (run : f.parent.move? site now m = some p) : Covered plan { f with parent := p } := by
  refine ⟨covered.carries.onward (.move? attended.orderly.claims run), ?_, ?_, covered.heirs⟩
  · intro turn captured place
    rcases Server.launching_of_move? run place with before | ⟨_, capturing, nonempty, t, snapshot⟩
    · exact covered.captured turn captured before
    · have going := attended.steered.inFlight (by rw [capturing]; rfl)
      exact (attended.living going).covers attended.orderly.claims covered.carries capturing nonempty snapshot
  · intro r member
    rcases (Server.replacements_of_move? run).1 r member with before | ⟨turn, captured, place, ready⟩
    · exact covered.replacements r before
    · obtain ⟨_, _, rfl, _⟩ := Server.replacement_eq_ok (attended.orderly.captures turn captured place) place ready
      exact covered.captured turn _ place

theorem step (covered : Covered plan f) (attended : f.Attended) (made : Step (·.isQuiet = true) f f') :
    Covered plan f' := by
  cases made with
  | parent _ _ run => exact covered.parent attended run
  | killed | retire => exact ⟨covered.carries, covered.captured, covered.replacements, covered.heirs⟩
  | begin_ member =>
    refine ⟨covered.carries, covered.captured, covered.replacements, ?_⟩
    intro h among
    rcases List.mem_append.1 among with before | last
    · exact covered.heirs h before
    · rw [List.mem_singleton.1 last]
      exact Or.inr (covered.replacements _ member)
  | @heir i h _ _ _ _ atHeir =>
    refine ⟨covered.carries, covered.captured, covered.replacements, ?_⟩
    intro h' among
    rcases List.mem_or_eq_of_mem_set among with before | rfl
    · exact covered.heirs h' before
    · exact covered.heirs h (List.mem_of_getElem? atHeir)
  | exit =>
    refine ⟨covered.carries, covered.captured, covered.replacements, ?_⟩
    intro h among
    rcases List.mem_or_eq_of_mem_set among with before | rfl
    · exact covered.heirs h before
    · exact Or.inl rfl

theorem steps (covered : Covered plan f) (attended : f.Attended) (made : Steps (·.isQuiet = true) f f') :
    Covered plan f' := by
  induction made with
  | refl => exact covered
  | tail earlier last ih => exact ih.step (attended.steps earlier) last

end Covered

end Household

/-- Every socket that was captured for a restart is served ever after: by the parent for as long as it is not stopping,
and from then on by a replacement that has told it to stop and has not ended. Replacements may begin, fail and end in
any order, and the stop may arrive at any time; there is no other stop, and nobody else closes a listener. -/
theorem captured_socket_stays_served {markers : Markers} {settings : Settings} {arguments : List OsText}
    {handed : List (Option OpenFile)} {origin nextSocket started number : Nat} {f f' : Household} {turn : Turn}
    {captured : List Restart.Captured} {c : Restart.Captured}
    (run : Household.Steps (·.isQuiet = true)
      { parent := Server.start markers settings arguments handed origin nextSocket started, number } f)
    (place : f.parent.signals = .launching turn captured) (later : Household.Steps (·.isQuiet = true) f f')
    (member : c ∈ captured) :
    (f'.ended = false ∧ f'.parent.stopping = false ∧
      ∃ s, f'.parent.registry.service? c.ordinal = some s ∧ s.address = c.address ∧
        s.life.listener.socket = c.handle.socket ∧ s.life.IsLive) ∨
      ((f'.ended = true ∨ f'.parent.stopping = true) ∧
        ∃ h ∈ f'.heirs, h.HasTold f'.number ∧ h.ended = false ∧ h.Serves c.handle.socket) := by
  have attended := (Household.Attended.alone (Server.Blank.start markers settings arguments handed origin nextSocket
    started) number).steps run
  have covered := (Household.Covered.start attended place).steps attended later
  have attended := attended.steps later
  -- The parent has every service that was captured; whether it is live depends on nothing but whether it stops.
  by_cases going : f'.ended = false ∧ f'.parent.stopping = false
  · left
    obtain ⟨s, there, address, socket⟩ := covered.carries c member
    exact ⟨going.1, going.2, s, there, address, socket, (attended.living going.2).service there⟩
  · right
    have gone : f'.ended = true ∨ f'.parent.stopping = true := by
      by_cases ended : f'.ended = true
      · exact Or.inl ended
      · exact Or.inr (Bool.of_not_eq_false fun still => going ⟨Bool.eq_false_iff.2 ended, still⟩)
    refine ⟨gone, ?_⟩
    rcases attended.successor with ⟨unstopped, ended⟩ | ⟨h, among, told⟩
    · exact absurd ⟨ended, unstopped.going⟩ going
    · obtain ⟨grants, sound⟩ := attended.orderly.heirs h among
      have alive := attended.orderly.told h among told
      refine ⟨h, among, told, alive, ?_⟩
      rcases covered.heirs h among with ended | covers
      · rw [alive] at ended
        cases ended
      · obtain ⟨c', member', same⟩ := covers c member
        exact same ▸ sound.serves grants told member'

def Sample.successor : Heir :=
  ⟨replacement pair, after (started pair) (serving "127.0.0.1:81" 0 9 ++ serving "127.0.0.1:80" 1 9), false⟩

/-- Both sockets are served by the replacement when the process stops after the takeover. -/
theorem takeover_leaves_both_sockets_served :
    ∃ stopped : Server, Household.Steps (·.isQuiet = true) { parent := Sample.fresh, number := 7 }
        { parent := stopped, number := 7, heirs := [Sample.successor] } ∧ stopped.stopping = true ∧
      ∀ c ∈ Sample.captured Sample.pair, Sample.successor.Serves c.handle.socket := by
  have run : Household.Steps (·.isQuiet = true) { parent := Sample.fresh, number := 7 }
      { parent := Sample.pair, number := 7 } :=
    Household.steps_of_parent Sample.site 0
      (Sample.serving "127.0.0.1:80" 0 9 ++ Sample.serving "127.0.0.1:81" 1 9 ++ Sample.capturing) rfl (by decide) rfl
  have place : Sample.pair.signals = .launching ⟨.restart, none⟩ (Sample.captured Sample.pair) := rfl
  obtain ⟨command, accepted, markers⟩ := Sample.accepted_pair
  obtain ⟨told, stopped, delivered, stops, stopping⟩ : ∃ told stopped,
      (Sample.after Sample.pair [.signals, .listen]).deliver? Signal.terminate.number = some told ∧
      told.moves? Sample.site 0 [.signals, .signals, .signals, .signals] = some stopped ∧ stopped.stopping = true :=
    ⟨_, _, rfl, rfl, rfl⟩
  have later : Household.Steps (·.isQuiet = true) { parent := Sample.pair, number := 7 }
      { parent := stopped, number := 7, heirs := [Sample.successor] } :=
    Household.steps_of_takeover 7 Sample.site .standard 9 [.signals, .listen]
      (Sample.serving "127.0.0.1:81" 0 9 ++ Sample.serving "127.0.0.1:80" 1 9) [.signals, .signals, .signals, .signals]
      (by decide) (by decide) rfl (List.mem_singleton.2 rfl) accepted (Sample.started_eq markers) rfl (by decide)
      delivered stops
  refine ⟨stopped, run.trans later, stopping, fun c member => ?_⟩
  rcases captured_socket_stays_served run place later member with ⟨_, going, _⟩ | ⟨_, h, among, _, _, serves⟩
  · cases stopping.symm.trans going
  · rw [List.mem_singleton] at among
    rw [← among]
    exact serves

end Handover
