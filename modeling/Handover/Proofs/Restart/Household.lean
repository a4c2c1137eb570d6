import Handover.Proofs.Restart.Mapping
import Handover.Proofs.Server.Steering
import Mathlib.Logic.Relation

namespace Handover

/-- A replacement that runs. -/
structure Heir where
  replacement : Replacement
  process : Server
  ended : Bool := false

/-- It has told the process of that number to stop. -/
def Heir.HasTold (h : Heir) (number : Nat) : Prop := Record.told number ∈ h.process.journal

instance (h : Heir) (number : Nat) : Decidable (h.HasTold number) :=
  inferInstanceAs (Decidable (Record.told number ∈ h.process.journal))

/-- A service of it accepts connections on the socket. -/
def Heir.Serves (h : Heir) (s : Socket) : Prop :=
  ∃ o service, h.process.registry.service? o = some service ∧ service.life.listener.socket = s ∧ service.life.IsLive

/-- A process and its replacements. -/
structure Household where
  parent : Server
  number : Nat
  heirs : List Heir := []
  ended : Bool := false

def Move.observes : Move → Bool
  | replacementEnds _ => true
  | _ => false

namespace Household

/-- What can happen in the parent: a move of its own, the end of a replacement, and the stop that one has sent. -/
inductive Admissible (may : Move → Prop) (f : Household) : Move → Prop
  | own {m : Move} : may m → m.observes = false → Admissible may f m
  | observe {r : Replacement} : r ∈ f.parent.replacements →
      (∀ h ∈ f.heirs, h.replacement.serial = r.serial → h.ended = true) → Admissible may f (.replacementEnds r.serial)
  | takeover {h : Heir} : h ∈ f.heirs → h.HasTold f.number → Admissible may f (.deliver Signal.terminate.number)

/-- One step of the parent or of a replacement. -/
inductive Step (may : Move → Prop) (f : Household) : Household → Prop
  | parent {site : Site} {now : Nat} {m : Move} {p : Server} : f.ended = false → f.Admissible may m →
      f.parent.move? site now m = some p → Step may f { f with parent := p }
  -- A process that has not arranged to handle signals is ended by the stop itself.
  | killed {h : Heir} : h ∈ f.heirs → h.HasTold f.number → f.parent.listens = false → Step may f { f with ended := true }
  | retire : f.parent.stopping = true → Step may f { f with ended := true }
  | begin_ {r : Replacement} {command : CommandLine.Command} {settings : Settings} {nextSocket now : Nat} :
      r ∈ f.parent.replacements → (∀ h ∈ f.heirs, h.replacement.serial ≠ r.serial) →
      CommandLine.parse r.arguments = .ok command →
      Step may f { f with heirs := f.heirs ++ [⟨r, Server.start command.markers settings r.arguments
        (Program.Lineage.handed r.descriptors) f.number nextSocket now, false⟩] }
  | heir {i : Nat} {h : Heir} {site : Site} {now : Nat} {m : Move} {q : Server} : f.heirs[i]? = some h →
      h.ended = false → m.isQuiet = true → h.process.move? site now m = some q →
      Step may f { f with heirs := f.heirs.set i { h with process := q } }
  -- A replacement may fail until it has told the parent.
  | exit {i : Nat} {h : Heir} : f.heirs[i]? = some h → ¬ h.HasTold f.number →
      Step may f { f with heirs := f.heirs.set i { h with ended := true } }

abbrev Steps (may : Move → Prop) : Household → Household → Prop := Relation.ReflTransGen (Step may)

end Household

/-- What a process hands to a replacement. -/
structure Server.Grants (p : Server) (r : Replacement) : Prop where
  carries : p.Carries r.captured
  ordered : r.captured.Pairwise fun c c' => c.ordinal < c'.ordinal
  nonempty : r.captured ≠ []
  arguments : ∃ base, r.arguments = Restart.arguments base (r.captured.map (·.address))
  handed : ∀ {i : Nat} {c : Restart.Captured}, r.captured[i]? = some c →
    (Program.Lineage.handed r.descriptors)[i]?.join = some (.socket c.handle.socket)

theorem Server.Grants.onward {p p' : Server} {r : Replacement} (grants : p.Grants r) (onward : p.Onward p') :
    p'.Grants r :=
  ⟨grants.carries.onward onward, grants.ordered, grants.nonempty, grants.arguments, grants.handed⟩

theorem Server.grants_of_replacement {site : Site} {p : Server} {turn : Turn} {captured : List Restart.Captured}
    {r : Replacement} (captures : p.Captures captured) (place : p.signals = .launching turn captured)
    (ready : p.replacement site captured = .ok r) : p.Grants r := by
  obtain ⟨_, arguments, rfl, handed⟩ := replacement_eq_ok captures place ready
  exact ⟨captures.carries, captures.ordered, captures.nonempty, ⟨_, arguments⟩, handed _ _⟩

/-- A replacement is added when it is started, and taken away when its end is observed. -/
theorem Server.replacements_of_move? {site : Site} {now : Nat} {p p' : Server} {m : Move}
    (run : p.move? site now m = some p') :
    (∀ r ∈ p'.replacements, r ∈ p.replacements ∨ ∃ turn captured, p.signals = .launching turn captured ∧
      p.replacement site captured = .ok r) ∧
      ∀ r ∈ p.replacements, (∀ serial, m = .replacementEnds serial → r.serial ≠ serial) → r ∈ p'.replacements := by
  have same : ∀ {q : Server}, q.replacements = p.replacements →
      (∀ r ∈ q.replacements, r ∈ p.replacements ∨ ∃ turn captured, p.signals = .launching turn captured ∧
        p.replacement site captured = .ok r) ∧
        ∀ r ∈ p.replacements, (∀ serial, m = .replacementEnds serial → r.serial ≠ serial) → r ∈ q.replacements := by
    intro q replacements
    rw [replacements]
    exact ⟨fun r member => Or.inl member, fun r member _ => member⟩
  rcases move?_apart run with apart | ⟨_, step⟩ | ⟨d, _, rfl⟩ | ⟨serial, ends, rfl⟩
  · exact same apart.replacements
  · cases (stepSignals?_eq_some step).handled with
    | calm _ _ _ replacements => exact same replacements
    | stop | begin_ | capture | fail => exact same rfl
    | @launch turn captured r place ready =>
      refine ⟨fun r' member => ?_, fun r' member _ => List.mem_append_left _ member⟩
      rcases List.mem_append.1 member with before | last
      · exact Or.inl before
      · rw [List.mem_singleton.1 last]
        exact Or.inr ⟨turn, captured, place, ready⟩
  · exact same (p.trigger_frame d).2.2.1
  · rw [replacements_replacementEnds]
    refine ⟨fun r member => Or.inl (List.mem_filter.1 member).1, fun r member other => List.mem_filter.2 ⟨member, ?_⟩⟩
    exact bne_iff_ne.2 (other serial ends)

/-- A replacement that was started for what its parent had captured, and that nobody has stopped. -/
structure Heir.Sound (h : Heir) : Prop where
  claims : h.process.Claims
  adopts : h.process.Adopts (Program.Lineage.handed h.replacement.descriptors)
  living : h.process.Living
  unstopped : h.process.Unstopped
  inherited : h.process.inherited =
    (Markers.inherited (CommandLine.passedOrder (h.replacement.captured.map (·.address)))).inheritedCount

namespace Heir.Sound

theorem start {p : Server} {r : Replacement} (grants : p.Grants r) {command : CommandLine.Command}
    (accepted : CommandLine.parse r.arguments = .ok command) (settings : Settings) (parent nextSocket now : Nat) :
    Sound ⟨r, Server.start command.markers settings r.arguments (Program.Lineage.handed r.descriptors) parent nextSocket
      now, false⟩ := by
  obtain ⟨base, built⟩ := grants.arguments
  rw [built] at accepted
  rw [CommandLine.markers_of_parse_arguments accepted]
  have blank := Server.Blank.start (.inherited (CommandLine.passedOrder (r.captured.map (·.address)))) settings
    r.arguments (Program.Lineage.handed r.descriptors) parent nextSocket now
  exact ⟨.of_blank blank, .start _ settings r.arguments parent nextSocket now, .of_blank blank, .of_blank blank, rfl⟩

theorem move? {h : Heir} {site : Site} {now : Nat} {m : Move} {q : Server} (sound : h.Sound) (quiet : m.isQuiet = true)
    (run : h.process.move? site now m = some q) : Sound { h with process := q } := by
  have living := sound.living.move? sound.claims sound.unstopped.going sound.unstopped.open_
    (Move.closes_of_isQuiet quiet) run
  have onward := Server.Onward.move? sound.claims run
  exact ⟨sound.claims.move? run, sound.adopts.move? sound.claims run, living, sound.unstopped.move? quiet run,
    onward.inherited.trans sound.inherited⟩

/-- A replacement that has told its parent to stop serves everything that was captured for it. -/
theorem serves {h : Heir} {p : Server} {number : Nat} (sound : h.Sound) (grants : p.Grants h.replacement)
    (told : h.HasTold number) {c : Restart.Captured} (member : c ∈ h.replacement.captured) :
    h.Serves c.handle.socket := by
  have once : 0 < h.process.notifications := List.countP_pos_iff.2 ⟨_, told, rfl⟩
  obtain ⟨o, atOrdinal⟩ := List.getElem?_of_mem member
  have inside : o < h.process.inherited := by
    have within := (List.getElem?_eq_some_iff.1 atOrdinal).1
    have bound := CommandLine.length_le_inheritedCount (h.replacement.captured.map (·.address))
    rw [List.length_map, ← sound.inherited] at bound
    omega
  obtain ⟨service, there⟩ := sound.adopts.served_of_told once inside
  have file := (sound.adopts.served there).file.symm.trans (grants.handed atOrdinal)
  exact ⟨o, service, there, OpenFile.socket.inj (Option.some.inj file), sound.living.service there⟩

end Heir.Sound

namespace Household

/-- The parent keeps what it hands to its replacements, and these run as they were started. -/
structure Orderly (f : Household) : Prop where
  claims : f.parent.Claims
  captures : ∀ turn captured, f.parent.signals = .launching turn captured → f.parent.Captures captured
  guarded : f.parent.Guarded
  granted : ∀ r ∈ f.parent.replacements, f.parent.Grants r
  heirs : ∀ h ∈ f.heirs, f.parent.Grants h.replacement ∧ h.Sound
  running : ∀ h ∈ f.heirs, h.ended = false → h.replacement ∈ f.parent.replacements
  told : ∀ h ∈ f.heirs, h.HasTold f.number → h.ended = false

namespace Orderly

variable {may : Move → Prop} {f f' : Household}

theorem alone {p : Server} (blank : p.Blank) (number : Nat) : Orderly { parent := p, number } := by
  have nobody : ∀ {α : Type} {motive : α → Prop}, ∀ a ∈ ([] : List α), motive a :=
    fun a member => absurd member List.not_mem_nil
  refine ⟨.of_blank blank, ?_, .of_blank blank, ?_, nobody, nobody, nobody⟩
  · intro turn captured place
    rw [blank.signals] at place
    cases place
  · rw [blank.replacements]
    exact nobody

theorem parent (orderly : f.Orderly) {site : Site} {now : Nat} {m : Move} {p : Server}
    (admissible : f.Admissible may m) (run : f.parent.move? site now m = some p) :
    Orderly { f with parent := p } := by
  have onward := Server.Onward.move? orderly.claims run
  obtain ⟨added, left⟩ := Server.replacements_of_move? run
  refine ⟨orderly.claims.move? run, Server.captures_of_move? orderly.claims orderly.captures run, ?_, ?_, ?_, ?_,
    orderly.told⟩
  · refine orderly.guarded.move? ?_ run
    intro serial ends
    cases admissible with
    | own _ other =>
      rw [ends] at other
      cases other
    | @observe r member =>
      cases ends
      exact ⟨r, member, rfl⟩
    | takeover => cases ends
  · intro r member
    rcases added r member with before | ⟨turn, captured, place, ready⟩
    · exact (orderly.granted r before).onward onward
    · exact (Server.grants_of_replacement (orderly.captures turn captured place) place ready).onward onward
  · intro h member
    exact ⟨(orderly.heirs h member).1.onward onward, (orderly.heirs h member).2⟩
  · intro h member going
    refine left _ (orderly.running h member going) ?_
    intro serial ends same
    cases admissible with
    | own _ other =>
      rw [ends] at other
      cases other
    | observe _ done =>
      cases ends
      rw [done h member same] at going
      cases going
    | takeover => cases ends

theorem heir (orderly : f.Orderly) {i : Nat} {h : Heir} {site : Site} {now : Nat} {m : Move} {q : Server}
    (atHeir : f.heirs[i]? = some h) (going : h.ended = false) (quiet : m.isQuiet = true)
    (run : h.process.move? site now m = some q) :
    Orderly { f with heirs := f.heirs.set i { h with process := q } } := by
  have member := List.mem_of_getElem? atHeir
  refine ⟨orderly.claims, orderly.captures, orderly.guarded, orderly.granted, ?_, ?_, ?_⟩
  · intro h' among
    rcases List.mem_or_eq_of_mem_set among with before | rfl
    · exact orderly.heirs h' before
    · exact ⟨(orderly.heirs h member).1, (orderly.heirs h member).2.move? quiet run⟩
  · intro h' among going'
    rcases List.mem_or_eq_of_mem_set among with before | rfl
    · exact orderly.running h' before going'
    · exact orderly.running h member going
  · intro h' among told
    rcases List.mem_or_eq_of_mem_set among with before | rfl
    · exact orderly.told h' before told
    · exact going

theorem exit (orderly : f.Orderly) {i : Nat} {h : Heir} (atHeir : f.heirs[i]? = some h)
    (untold : ¬ h.HasTold f.number) : Orderly { f with heirs := f.heirs.set i { h with ended := true } } := by
  have member := List.mem_of_getElem? atHeir
  refine ⟨orderly.claims, orderly.captures, orderly.guarded, orderly.granted, ?_, ?_, ?_⟩
  · intro h' among
    rcases List.mem_or_eq_of_mem_set among with before | rfl
    · exact orderly.heirs h' before
    · obtain ⟨grants, sound⟩ := orderly.heirs h member
      exact ⟨grants, sound.claims, sound.adopts, sound.living, sound.unstopped, sound.inherited⟩
  · intro h' among going
    rcases List.mem_or_eq_of_mem_set among with before | rfl
    · exact orderly.running h' before going
    · cases going
  · intro h' among told
    rcases List.mem_or_eq_of_mem_set among with before | rfl
    · exact orderly.told h' before told
    · exact absurd told untold

theorem begin_ (orderly : f.Orderly) {r : Replacement} {command : CommandLine.Command} (settings : Settings)
    (nextSocket now : Nat) (member : r ∈ f.parent.replacements)
    (accepted : CommandLine.parse r.arguments = .ok command) :
    Orderly { f with heirs := f.heirs ++ [⟨r, Server.start command.markers settings r.arguments
      (Program.Lineage.handed r.descriptors) f.number nextSocket now, false⟩] } := by
  have grants := orderly.granted r member
  refine ⟨orderly.claims, orderly.captures, orderly.guarded, orderly.granted, ?_, ?_, ?_⟩ <;> intro h among <;>
    rcases List.mem_append.1 among with before | last
  · exact orderly.heirs h before
  · rw [List.mem_singleton.1 last]
    exact ⟨grants, .start grants accepted settings f.number nextSocket now⟩
  · exact orderly.running h before
  · rw [List.mem_singleton.1 last]
    exact fun _ => member
  · exact orderly.told h before
  · rw [List.mem_singleton.1 last]
    exact fun _ => rfl

theorem step (orderly : f.Orderly) (made : Step may f f') : f'.Orderly := by
  cases made with
  | parent _ admissible run => exact orderly.parent admissible run
  | killed | retire =>
    exact ⟨orderly.claims, orderly.captures, orderly.guarded, orderly.granted, orderly.heirs, orderly.running,
      orderly.told⟩
  | begin_ member _ accepted => exact orderly.begin_ _ _ _ member accepted
  | heir atHeir going quiet run => exact orderly.heir atHeir going quiet run
  | exit atHeir untold => exact orderly.exit atHeir untold

theorem steps (orderly : f.Orderly) (made : Steps may f f') : f'.Orderly := by
  induction made with
  | refl => exact orderly
  | tail _ last ih => exact ih.step last

end Orderly

theorem steps_of_parent {may : Move → Prop} {f : Household} {p : Server} (site : Site) (now : Nat) (ms : List Move)
    (going : f.ended = false) (allowed : ∀ m ∈ ms, may m ∧ m.observes = false)
    (made : f.parent.moves? site now ms = some p) : Steps may f { f with parent := p } := by
  induction ms generalizing f with
  | nil =>
    cases made
    exact .refl
  | cons m rest ih =>
    obtain ⟨next, move, later⟩ := Option.bind_eq_some_iff.1 made
    obtain ⟨own, other⟩ := allowed m List.mem_cons_self
    have tail := ih (f := { f with parent := next }) going (fun m member => allowed m (List.mem_cons_of_mem _ member)) later
    exact .head (.parent going (.own own other) move) tail

theorem steps_of_heir {may : Move → Prop} {f : Household} {i : Nat} {h : Heir} {q : Server} (site : Site) (now : Nat)
    (ms : List Move) (atHeir : f.heirs[i]? = some h) (going : h.ended = false) (quiet : ∀ m ∈ ms, m.isQuiet = true)
    (made : h.process.moves? site now ms = some q) :
    Steps may f { f with heirs := f.heirs.set i { h with process := q } } := by
  induction ms generalizing f h with
  | nil =>
    cases made
    obtain ⟨inside, same⟩ := List.getElem?_eq_some_iff.1 atHeir
    have unchanged : f.heirs.set i h = f.heirs := by rw [← same, List.set_getElem_self inside]
    change Steps may f { f with heirs := f.heirs.set i h }
    rw [unchanged]
  | cons m rest ih =>
    obtain ⟨next, move, later⟩ := Option.bind_eq_some_iff.1 made
    have inside := (List.getElem?_eq_some_iff.1 atHeir).1
    have tail := ih (f := { f with heirs := f.heirs.set i { h with process := next } })
      (h := { h with process := next }) (List.getElem?_set_self inside) going
      (fun m member => quiet m (List.mem_cons_of_mem _ member)) later
    rw [List.set_set] at tail
    exact .head (.heir atHeir going (quiet m List.mem_cons_self) move) tail

/-- A replacement is started, runs until it has told the process to stop, and this arrives. -/
theorem steps_of_takeover {may : Move → Prop} {p launched told stopped heir q : Server} {r : Replacement}
    {command : CommandLine.Command} (number : Nat) (site : Site) (settings : Settings) (nextSocket : Nat)
    (before taking after : List Move) (allowed : ∀ m ∈ before ++ after, may m ∧ m.observes = false)
    (quiet : ∀ m ∈ taking, m.isQuiet = true) (launch : p.moves? site 0 before = some launched)
    (member : r ∈ launched.replacements) (accepted : CommandLine.parse r.arguments = .ok command)
    (begins : heir = Server.start command.markers settings r.arguments (Program.Lineage.handed r.descriptors) number
      nextSocket 0) (take : heir.moves? site 0 taking = some q) (tells : Record.told number ∈ q.journal)
    (arrives : launched.deliver? Signal.terminate.number = some told) (stop : told.moves? site 0 after = some stopped) :
    Steps may { parent := p, number } { parent := stopped, number, heirs := [⟨r, q, false⟩] } := by
  have first : Steps may { parent := p, number } { parent := launched, number } :=
    steps_of_parent site 0 before rfl (fun m among => allowed m (List.mem_append_left _ among)) launch
  have second : Step may { parent := launched, number }
      { parent := launched, number, heirs := [⟨r, heir, false⟩] } := by
    rw [begins]
    exact .begin_ member (fun h among => absurd among List.not_mem_nil) accepted
  have third : Steps may { parent := launched, number, heirs := [⟨r, heir, false⟩] }
      { parent := launched, number, heirs := [⟨r, q, false⟩] } := by
    have atHeir : ({ parent := launched, number, heirs := [⟨r, heir, false⟩] } : Household).heirs[0]? =
      some ⟨r, heir, false⟩ := rfl
    exact steps_of_heir site 0 taking atHeir rfl quiet take
  have fourth : Step may { parent := launched, number, heirs := [⟨r, q, false⟩] }
      { parent := told, number, heirs := [⟨r, q, false⟩] } := by
    have move : launched.move? site 0 (.deliver Signal.terminate.number) = some told := arrives
    exact .parent rfl (.takeover List.mem_cons_self tells) move
  have last : Steps may { parent := told, number, heirs := [⟨r, q, false⟩] }
      { parent := stopped, number, heirs := [⟨r, q, false⟩] } :=
    steps_of_parent site 0 after rfl (fun m among => allowed m (List.mem_append_right _ among)) stop
  exact (((first.tail second).trans third).tail fourth).trans last

end Household

end Handover
