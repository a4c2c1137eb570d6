import Handover.Proofs.CommandLine.Order

namespace Handover.CommandLine

/-- Two dashes alone. -/
def dashes : OsText := .ofString "--"

theorem Word.ofArgument_eq_terminator_iff {a : OsText} : Word.ofArgument a = .terminator ↔ a = dashes := by
  constructor
  · intro form
    unfold ofArgument at form
    split at form
    · rename_i bytes
      cases a
      exact congrArg OsText.mk bytes
    · cases form
    · cases form
    · cases form
  · rintro rfl
    rfl

theorem not_isMarker_dashes : ¬ IsMarker dashes := by
  intro marker
  obtain ⟨_, _, long⟩ := marker.word
  cases long

/-- Behind options that are read the reader goes on as from what they gave. -/
theorem Reads.scan_append {g g' : Given} {first : List OsText} (reads : Reads g first g')
    (open_ : dashes ∉ first) (rest : List OsText) :
    CommandLine.scan g none false (first ++ rest) = CommandLine.scan g' none false rest := by
  induction reads with
  | done => rfl
  | ended form =>
    rw [Word.ofArgument_eq_terminator_iff.1 form] at open_
    exact absurd List.mem_cons_self open_
  | attached form named takes taken _ ih =>
    have later := ih fun member => open_ (List.mem_cons_of_mem _ member)
    unfold Word.flag? at named
    simp [CommandLine.scan, form, named, takes, settle, taken, bind, Except.bind, later]
  | @separate g _ _ _ _ value flag first form named takes plain taken _ ih =>
    have later := ih fun member => open_ (List.mem_cons_of_mem _ (List.mem_cons_of_mem _ member))
    have waiting : CommandLine.scan g (some (flag, none)) false (value :: (first ++ rest)) =
        CommandLine.scan g (some (flag, some value)) false (first ++ rest) := by
      simp [CommandLine.scan, plain]
    unfold Word.flag? at named
    simp only [List.cons_append, CommandLine.scan, form, named, takes, settle, bind, Except.bind, Bool.false_eq_true,
      if_false]
    exact waiting.trans ((scan_of_taken taken _).trans later)
  | switch form named takes taken _ ih =>
    have later := ih fun member => open_ (List.mem_cons_of_mem _ member)
    unfold Word.flag? at named
    simp [CommandLine.scan, form, named, takes, settle, taken, bind, Except.bind, later]
  | letters form taken _ ih =>
    have later := ih fun member => open_ (List.mem_cons_of_mem _ member)
    simp [CommandLine.scan, form, taken, bind, Except.bind, later]

/-- Two dashes alone stand behind all options, or not at all. -/
theorem Reads.eq_append_dashes {g g' : Given} {l : List OsText} (reads : Reads g l g') (ended : dashes ∈ l) :
    ∃ first, l = first ++ [dashes] ∧ dashes ∉ first ∧ Reads g first g' := by
  have apart : ∀ {a : OsText}, Word.ofArgument a ≠ .terminator → dashes ≠ a := by
    rintro a other rfl
    exact other rfl
  induction reads with
  | done => cases ended
  | ended form => exact ⟨[], by rw [Word.ofArgument_eq_terminator_iff.1 form]; rfl, List.not_mem_nil, .done⟩
  | attached form named takes taken _ ih =>
    have other := apart (by rw [form]; exact nofun)
    obtain ⟨first, rfl, open_, inner⟩ := ih ((List.mem_cons.1 ended).resolve_left other)
    exact ⟨_ :: first, rfl, by simp [other, open_], .attached form named takes taken inner⟩
  | separate form named takes plain taken _ ih =>
    have other := apart (by rw [form]; exact nofun)
    have other' := apart (by rw [plain]; exact nofun)
    have later := (List.mem_cons.1 ((List.mem_cons.1 ended).resolve_left other)).resolve_left other'
    obtain ⟨first, rfl, open_, inner⟩ := ih later
    exact ⟨_ :: _ :: first, rfl, by simp [other, other', open_], .separate form named takes plain taken inner⟩
  | switch form named takes taken _ ih =>
    have other := apart (by rw [form]; exact nofun)
    obtain ⟨first, rfl, open_, inner⟩ := ih ((List.mem_cons.1 ended).resolve_left other)
    exact ⟨_ :: first, rfl, by simp [other, open_], .switch form named takes taken inner⟩
  | letters form taken _ ih =>
    have other := apart (by rw [form]; exact nofun)
    obtain ⟨first, rfl, open_, inner⟩ := ih ((List.mem_cons.1 ended).resolve_left other)
    exact ⟨_ :: first, rfl, by simp [other, open_], .letters form taken inner⟩

/-- No order flag at the end of options that are read takes what stands behind them along. -/
theorem Reads.withoutMarkers_append {g g' : Given} {first : List OsText} (reads : Reads g first g')
    (open_ : dashes ∉ first) (rest : List OsText) :
    Restart.withoutMarkers (first ++ rest) = Restart.withoutMarkers first ++ Restart.withoutMarkers rest := by
  induction reads with
  | done => rfl
  | ended form =>
    rw [Word.ofArgument_eq_terminator_iff.1 form] at open_
    exact absurd List.mem_cons_self open_
  | @attached _ _ _ a _ _ _ later form _ _ _ _ ih =>
    have after := ih fun member => open_ (List.mem_cons_of_mem _ member)
    by_cases marker : IsMarker a
    · rw [List.cons_append, withoutMarkers_attached form marker, withoutMarkers_attached form marker, after]
    · rw [List.cons_append, withoutMarkers_cons marker, withoutMarkers_cons marker, after, List.cons_append]
  | @separate _ _ _ a _ value flag later form named takes plain _ _ ih =>
    have after := ih fun member => open_ (List.mem_cons_of_mem _ (List.mem_cons_of_mem _ member))
    have bare := isMarker_of_bare form named
    by_cases order : flag = .order
    · rw [bare.2.1 order, List.cons_append, List.cons_append, withoutMarkers_orderFlag, withoutMarkers_orderFlag, after]
    · have notGraceful : flag ≠ .graceful := by
        rintro rfl
        cases takes
      have other : ¬ IsMarker a := by simp [isMarker_iff_of_bare form named, order, notGraceful]
      have other' := not_isMarker_of_plain plain
      rw [List.cons_append, List.cons_append, withoutMarkers_cons other, withoutMarkers_cons other',
        withoutMarkers_cons other, withoutMarkers_cons other', after, List.cons_append, List.cons_append]
  | @switch _ _ _ a _ flag later form named takes _ _ ih =>
    have after := ih fun member => open_ (List.mem_cons_of_mem _ member)
    have bare := isMarker_of_bare form named
    by_cases graceful : flag = .graceful
    · rw [bare.1.1 graceful, List.cons_append, withoutMarkers_flag, withoutMarkers_flag, after]
    · have notOrder : flag ≠ .order := by
        rintro rfl
        cases takes
      have other : ¬ IsMarker a := by simp [isMarker_iff_of_bare form named, graceful, notOrder]
      rw [List.cons_append, withoutMarkers_cons other, withoutMarkers_cons other, after, List.cons_append]
  | letters form _ _ ih =>
    have after := ih fun member => open_ (List.mem_cons_of_mem _ member)
    have other := not_isMarker_of_short form
    rw [List.cons_append, withoutMarkers_cons other, withoutMarkers_cons other, after, List.cons_append]

/-- Behind two dashes alone the mark of a replacement is no option. -/
theorem parse_arguments_of_dashes {base : List OsText} {command : Command} (accepted : parse base = .ok command)
    (ended : dashes ∈ base) (order : List String) :
    parse (Restart.arguments base order) = .error (.unknown Restart.flag) := by
  obtain ⟨g, reads, _⟩ := parse_eq_ok_iff.1 accepted
  obtain ⟨first, rfl, open_, inner⟩ := reads.eq_append_dashes ended
  have last : Restart.withoutMarkers [dashes] = [dashes] := withoutMarkers_cons not_isMarker_dashes []
  have kept := inner.withoutMarkers (fun a member form =>
    open_ (Word.ofArgument_eq_terminator_iff.1 form ▸ member)) false []
  have clear : dashes ∉ Restart.withoutMarkers first := fun member => open_ (mem_of_mem_withoutMarkers member).1
  have stuck : ∀ g', scan g' none false (dashes :: Restart.markers order) = .error (.unknown Restart.flag) := by
    intro g'
    have shown : (OsText.ofString Restart.flag).shown = Restart.flag := by
      rw [OsText.shown, OsText.text?_ofString]
    change Except.error (Refusal.unknown (OsText.ofString Restart.flag).shown) = _
    rw [shown]
  have refused : scan {} none false (Restart.arguments (first ++ [dashes]) order) = .error (.unknown Restart.flag) := by
    rw [Restart.arguments, inner.withoutMarkers_append open_, last, List.append_assoc, List.singleton_append]
    exact (kept.scan_append clear _).trans (stuck _)
  rw [parse, refused]
  rfl

/-- Whoever accepts some arguments accepts those of a replacement, unless two dashes alone stand among them, and reads the
same but for the markers: that it is a replacement, and the order of several addresses without commas. -/
theorem parse_arguments_of_accepted {base : List OsText} {command : Command} {order : List String}
    (accepted : parse base = .ok command) (free : ∀ address ∈ order, ',' ∉ address.toList) :
    parse (Restart.arguments base order) =
      if dashes ∈ base then .error (.unknown Restart.flag)
      else .ok { command with markers := ⟨true, if 1 < order.length then order else []⟩ } := by
  split
  · rename_i ended
    exact parse_arguments_of_dashes accepted ended order
  · rename_i open_
    rw [parse_arguments accepted (fun a member form => open_ (Word.ofArgument_eq_terminator_iff.1 form ▸ member)),
      passedOrder_of_free free]

namespace Sample

/-- The arguments of a replacement, which carry markers in every form, and the name of a file that is no text. -/
def marked : List OsText :=
  [.ofString "--listen", .ofString "a:1", .ofString "--socket-order", .ofString "old:1", .ofString "--graceful",
    .ofString "--socket-order=old:2,old:3", .ofString "--listen=b:2", .ofString "--tls-cert", ⟨[0x63, 0xFF]⟩,
    .ofString "--tls-key=--graceful"]

def ended : List OsText := [.ofString "--listen", .ofString "127.0.0.1:80", dashes]

end Sample

/-- The old order is forgotten in all its forms, and a value that looks like a marker stays. -/
theorem earlier_markers_replaced :
    ∃ command, parse Sample.marked = .ok command ∧ command.listen = ["a:1", "b:2"] ∧
      command.certificate = some ⟨[0x63, 0xFF]⟩ ∧ command.key = some (.ofString "--graceful") ∧
      command.markers = ⟨true, ["old:1", "old:2", "old:3"]⟩ ∧
      parse (Restart.arguments Sample.marked ["b:2", "a:1"]) =
        .ok { command with markers := ⟨true, ["b:2", "a:1"]⟩ } := by
  have accepted : ∃ command, parse Sample.marked = .ok command ∧ command.listen = ["a:1", "b:2"] ∧
      command.certificate = some ⟨[0x63, 0xFF]⟩ ∧ command.key = some (.ofString "--graceful") ∧
      command.markers = ⟨true, ["old:1", "old:2", "old:3"]⟩ := ⟨_, rfl, rfl, rfl, rfl, rfl⟩
  obtain ⟨command, accepted, listen, certificate, key, markers⟩ := accepted
  have free : ∀ address ∈ ["b:2", "a:1"], ',' ∉ address.toList := by decide
  have open_ : dashes ∉ Sample.marked := by decide
  have read := parse_arguments_of_accepted accepted free
  rw [if_neg open_] at read
  exact ⟨command, accepted, listen, certificate, key, markers, read⟩

/-- A process that accepts its arguments has none for its replacement if two dashes alone end them. -/
theorem dashes_refuse_replacement :
    (∃ command, parse Sample.ended = .ok command) ∧
      parse (Restart.arguments Sample.ended ["127.0.0.1:80"]) = .error (.unknown "--graceful") :=
  ⟨⟨_, rfl⟩, rfl⟩

end Handover.CommandLine
