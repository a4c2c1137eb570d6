import Handover.Proofs.CommandLine.Reading

namespace Handover

theorem OsText.text?_eq_some_iff {t : OsText} {s : String} : t.text? = some s ↔ t = ofString s := by
  constructor
  · intro read
    unfold text? String.fromUTF8? at read
    split at read
    · cases read
      rfl
    · cases read
  · rintro rfl
    exact text?_ofString s

theorem OsText.bytes_ofString_append (s t : String) :
    (ofString (s ++ t)).bytes = (ofString s).bytes ++ (ofString t).bytes := by
  simp [ofString, String.toByteArray_append, ByteArray.data_append]

namespace CommandLine

theorem splitEquals_append (l : List UInt8) :
    (splitEquals l).1 ++ ((splitEquals l).2.map (0x3D :: ·)).getD [] = l := by
  induction l with
  | nil => rfl
  | cons b rest ih =>
    unfold splitEquals
    by_cases equals : b = 0x3D
    · simp [equals]
    · simp only [equals, if_false, List.cons_append, List.cons.injEq, true_and]
      exact ih

theorem Word.bytes_of_long {a name : OsText} {value : Option OsText} (form : ofArgument a = .long name value) :
    a.bytes = 0x2D :: 0x2D :: (name.bytes ++ (value.map fun v => 0x3D :: v.bytes).getD []) := by
  unfold ofArgument at form
  split at form
  · cases form
  · rename_i rest _ shape
    cases form
    have parts := splitEquals_append rest
    rw [shape, Option.map_map]
    exact congrArg (0x2D :: 0x2D :: ·) parts.symm
  · cases form
  · cases form

theorem Word.eq_ofString_of_flag? {name : OsText} {flag : Flag} (named : flag? name = some flag) :
    ∃ s, name = .ofString s ∧ "--" ++ s = flag.name := by
  obtain ⟨s, read, found⟩ := Option.bind_eq_some_iff.1 named
  unfold Flag.ofName? at found
  have same := List.find?_some found
  exact ⟨s, OsText.text?_eq_some_iff.1 read, (beq_iff_eq.1 same).symm⟩

/-- An argument that is read as an option is the option's name, with its value behind an equals sign. -/
theorem Word.bytes_of_flag? {a name : OsText} {value : Option OsText} {flag : Flag}
    (form : ofArgument a = .long name value) (named : flag? name = some flag) :
    a.bytes = (OsText.ofString flag.name).bytes ++ (value.map fun v => 0x3D :: v.bytes).getD [] := by
  obtain ⟨s, rfl, same⟩ := eq_ofString_of_flag? named
  rw [bytes_of_long form, ← same, OsText.bytes_ofString_append]
  rfl

theorem Word.eq_ofString_of_bare {a name : OsText} {flag : Flag} (form : ofArgument a = .long name none)
    (named : flag? name = some flag) : a = .ofString flag.name := by
  have bytes := bytes_of_flag? form named
  rw [Option.map_none, Option.getD_none, List.append_nil] at bytes
  exact congrArg OsText.mk bytes

/-- The argument is a restart marker. -/
def IsMarker (a : OsText) : Prop :=
  a = .ofString Restart.flag ∨ a = .ofString Restart.orderFlag ∨ Restart.isAttachedOrder a = true

theorem word_flag : Word.ofArgument (.ofString Restart.flag) = .long (.ofString "graceful") none := rfl

theorem word_orderFlag : Word.ofArgument (.ofString Restart.orderFlag) = .long (.ofString "socket-order") none := rfl

theorem word_attachedOrder {a : OsText} (attached : Restart.isAttachedOrder a = true) :
    ∃ value, Word.ofArgument a = .long (.ofString "socket-order") (some value) := by
  have start : a.startsWith Restart.attachedOrder = true := by
    unfold Restart.isAttachedOrder at attached
    exact (Bool.and_eq_true_iff.1 attached).2
  obtain ⟨value, shape⟩ := List.isPrefixOf_iff_prefix.1 start
  refine ⟨⟨value⟩, ?_⟩
  have same : a = ⟨(OsText.ofString Restart.attachedOrder).bytes ++ value⟩ := by rw [shape]
  rw [same]
  rfl

theorem flag?_graceful : Word.flag? (.ofString "graceful") = some .graceful := by decide

theorem flag?_order : Word.flag? (.ofString "socket-order") = some .order := by decide

theorem IsMarker.word {a : OsText} (marker : IsMarker a) : ∃ name value, Word.ofArgument a = .long name value := by
  rcases marker with rfl | rfl | attached
  · exact ⟨_, _, word_flag⟩
  · exact ⟨_, _, word_orderFlag⟩
  · obtain ⟨value, form⟩ := word_attachedOrder attached
    exact ⟨_, _, form⟩

theorem not_isMarker_of_short {a letters : OsText} (form : Word.ofArgument a = .short letters) : ¬ IsMarker a := by
  intro marker
  obtain ⟨_, _, long⟩ := marker.word
  rw [form] at long
  cases long

theorem not_isMarker_of_plain {a : OsText} (form : Word.ofArgument a = .plain) : ¬ IsMarker a := by
  intro marker
  obtain ⟨_, _, long⟩ := marker.word
  rw [form] at long
  cases long

/-- Of the options without a value attached, the mark of a replacement and a bare order flag are the markers. -/
theorem isMarker_of_bare {a name : OsText} {flag : Flag} (form : Word.ofArgument a = .long name none)
    (named : Word.flag? name = some flag) :
    (flag = .graceful ↔ a = .ofString Restart.flag) ∧ (flag = .order ↔ a = .ofString Restart.orderFlag) := by
  obtain rfl := Word.eq_ofString_of_bare form named
  refine ⟨⟨fun h => by rw [h]; rfl, fun h => ?_⟩, ⟨fun h => by rw [h]; rfl, fun h => ?_⟩⟩
  · have := OsText.ofString_injective h
    cases flag <;> simp_all [Flag.name, Restart.flag, Restart.orderFlag]
  · have := OsText.ofString_injective h
    cases flag <;> simp_all [Flag.name, Restart.flag, Restart.orderFlag]

theorem isMarker_iff_of_bare {a name : OsText} {flag : Flag} (form : Word.ofArgument a = .long name none)
    (named : Word.flag? name = some flag) : IsMarker a ↔ flag = .graceful ∨ flag = .order := by
  obtain ⟨isFlag, isOrder⟩ := isMarker_of_bare form named
  rw [isFlag, isOrder]
  constructor
  · rintro (same | same | attached)
    · exact Or.inl same
    · exact Or.inr same
    · obtain ⟨value, form'⟩ := word_attachedOrder attached
      rw [form] at form'
      cases form'
  · rintro (same | same)
    · exact Or.inl same
    · exact Or.inr (Or.inl same)

/-- An option with a value attached is a marker if it gives an order as text, and only an order is one. -/
theorem isMarker_of_attached {a name value : OsText} {flag : Flag}
    (form : Word.ofArgument a = .long name (some value)) (named : Word.flag? name = some flag) :
    (IsMarker a → flag = .order) ∧ (∀ s, flag = .order → value.text? = some s → IsMarker a) := by
  refine ⟨?_, ?_⟩
  · rintro (rfl | rfl | attached)
    · rw [word_flag] at form
      cases form
    · rw [word_orderFlag] at form
      cases form
    · obtain ⟨value', form'⟩ := word_attachedOrder attached
      rw [form] at form'
      cases form'
      exact Option.some.inj (named.symm.trans flag?_order)
  · rintro s rfl read
    have shape : a = .ofString (Restart.attachedOrder ++ s) := by
      have bytes := Word.bytes_of_flag? form named
      rw [OsText.text?_eq_some_iff] at read
      rw [read] at bytes
      cases a
      rw [OsText.mk.injEq, OsText.bytes_ofString_append]
      exact bytes
    right; right
    subst shape
    rw [Restart.isAttachedOrder, OsText.text?_ofString, OsText.startsWith, OsText.bytes_ofString_append]
    simp

/-- The same but for the markers. -/
def Given.marked (g : Given) (graceful : Bool) (order : List String) : Given := { g with graceful, order }

theorem Given.takeValue_marked {flag : Flag} (other : flag ≠ .order) (g : Given) (value : OsText) (graceful : Bool)
    (order : List String) :
    (g.marked graceful order).takeValue flag value = (g.takeValue flag value).map (·.marked graceful order) := by
  cases flag with
  | order => exact absurd rfl other
  | listen =>
    simp only [takeValue]
    cases text value <;> rfl
  | network =>
    simp only [takeValue, marked]
    cases once .network g.family with
    | error => rfl
    | ok =>
      cases text value with
      | error => rfl
      | ok s => simp only [bind, Except.bind]; cases Family.ofName s <;> rfl
  | timeout =>
    simp only [takeValue, marked]
    cases once .timeout g.timeout with
    | error => rfl
    | ok =>
      cases text value with
      | error => rfl
      | ok s => simp only [bind, Except.bind]; cases Numeral.read64 s <;> rfl
  | certificate =>
    simp only [takeValue, marked]
    cases once .certificate g.certificate with
    | error => rfl
    | ok => cases path .certificate value <;> rfl
  | key =>
    simp only [takeValue, marked]
    cases once .key g.key with
    | error => rfl
    | ok => cases path .key value <;> rfl
  | clientAuthorities =>
    simp only [takeValue, marked]
    cases once .clientAuthorities g.clientAuthorities with
    | error => rfl
    | ok => cases path .clientAuthorities value <;> rfl
  | prettyLogs | graceful | help | version => rfl

theorem Given.takeValue_order {g g₁ : Given} {value : OsText} (taken : g.takeValue .order value = .ok g₁) :
    ∃ s, value.text? = some s ∧
      g₁ = g.marked g.graceful (g.order ++ (splitCommas s.toList).map String.ofList) := by
  simp only [takeValue, text, bind, Except.bind, pure, Except.pure] at taken
  cases read : value.text? with
  | none => simp [read] at taken
  | some s =>
    simp only [read, Except.ok.injEq] at taken
    exact ⟨s, rfl, taken.symm⟩

theorem Given.takeSwitch_marked {flag : Flag} (other : flag ≠ .graceful) (g : Given) (graceful : Bool)
    (order : List String) :
    (g.marked graceful order).takeSwitch flag = (g.takeSwitch flag).map (·.marked graceful order) := by
  cases flag with
  | graceful => exact absurd rfl other
  | prettyLogs =>
    by_cases asked : g.prettyLogs = true <;> simp [takeSwitch, marked, asked, Except.map]
  | _ => rfl

theorem Given.markers_of_takeValue {g g₁ : Given} {flag : Flag} {value : OsText} (other : flag ≠ .order)
    (taken : g.takeValue flag value = .ok g₁) : g₁.graceful = g.graceful ∧ g₁.order = g.order := by
  have same := takeValue_marked other g value g.graceful g.order
  change g.takeValue flag value = _ at same
  rw [taken] at same
  have equal : g₁ = g₁.marked g.graceful g.order := Except.ok.inj same
  rw [equal]
  exact ⟨rfl, rfl⟩

theorem Given.markers_of_takeSwitch {g g₁ : Given} {flag : Flag} (other : flag ≠ .graceful)
    (taken : g.takeSwitch flag = .ok g₁) : g₁.graceful = g.graceful ∧ g₁.order = g.order := by
  have same := takeSwitch_marked other g g.graceful g.order
  change g.takeSwitch flag = _ at same
  rw [taken] at same
  have equal : g₁ = g₁.marked g.graceful g.order := Except.ok.inj same
  rw [equal]
  exact ⟨rfl, rfl⟩

theorem Given.takeSwitch_graceful {g g₁ : Given} (taken : g.takeSwitch .graceful = .ok g₁) :
    g₁ = g.marked true g.order := by
  simp only [takeSwitch] at taken
  split at taken
  · cases taken
  · cases taken
    rfl

/-- No letters are accepted but those that change nothing. -/
theorem takeLetters_eq_ok {g g₁ : Given} {letters : OsText} (taken : takeLetters g none letters = .ok g₁) :
    g₁ = g ∧ ∀ g', takeLetters g' none letters = .ok g' := by
  unfold takeLetters at taken ⊢
  split at taken
  · cases taken
    exact ⟨rfl, fun _ => rfl⟩
  · split at taken
    · rename_i flag found
      have letter := List.find?_some found
      cases flag <;> simp [Flag.letter?] at letter <;> cases taken
    · cases taken

theorem withoutMarkers_cons {a : OsText} (other : ¬ IsMarker a) (rest : List OsText) :
    Restart.withoutMarkers (a :: rest) = a :: Restart.withoutMarkers rest := by
  simp only [IsMarker, not_or] at other
  rw [Restart.withoutMarkers.eq_def]
  simp only [if_neg other.1, if_neg other.2.1, if_neg other.2.2]

theorem withoutMarkers_flag (rest : List OsText) :
    Restart.withoutMarkers (.ofString Restart.flag :: rest) = Restart.withoutMarkers rest := by
  rw [Restart.withoutMarkers.eq_def]
  simp only [if_true]

theorem withoutMarkers_orderFlag (value : OsText) (rest : List OsText) :
    Restart.withoutMarkers (.ofString Restart.orderFlag :: value :: rest) = Restart.withoutMarkers rest := by
  have different : OsText.ofString Restart.orderFlag ≠ .ofString Restart.flag := by decide
  rw [Restart.withoutMarkers.eq_def]
  simp only [if_neg different, if_true]

theorem withoutMarkers_attached {a name value : OsText} (form : Word.ofArgument a = .long name (some value))
    (marker : IsMarker a) (rest : List OsText) :
    Restart.withoutMarkers (a :: rest) = Restart.withoutMarkers rest := by
  have notFlag : a ≠ .ofString Restart.flag := by
    rintro rfl
    rw [word_flag] at form
    cases form
  have notOrder : a ≠ .ofString Restart.orderFlag := by
    rintro rfl
    rw [word_orderFlag] at form
    cases form
  have attached : Restart.isAttachedOrder a = true := by simpa [IsMarker, notFlag, notOrder] using marker
  rw [Restart.withoutMarkers.eq_def]
  simp only [if_neg notFlag, if_neg notOrder, if_pos attached]

theorem mem_of_mem_withoutMarkers {a : OsText} {l : List OsText} (member : a ∈ Restart.withoutMarkers l) :
    a ∈ l ∧ ¬ IsMarker a := by
  fun_induction Restart.withoutMarkers l with
  | case1 => simp at member
  | case2 _ ih => exact ⟨List.mem_cons_of_mem _ (ih member).1, (ih member).2⟩
  | case3 => simp at member
  | case4 _ _ _ ih =>
    exact ⟨List.mem_cons_of_mem _ (List.mem_cons_of_mem _ (ih member).1), (ih member).2⟩
  | case5 _ _ _ _ _ ih => exact ⟨List.mem_cons_of_mem _ (ih member).1, (ih member).2⟩
  | case6 b rest noFlag noOrder notAttached ih =>
    rcases List.mem_cons.1 member with rfl | later
    · refine ⟨List.mem_cons_self, ?_⟩
      rintro (same | same | attached)
      · exact noFlag same
      · exact noOrder same
      · exact notAttached attached
    · exact ⟨List.mem_cons_of_mem _ (ih later).1, (ih later).2⟩

/-- Without its markers a command line is read as before but for the markers. -/
theorem Reads.withoutMarkers {g g' : Given} {l : List OsText} (reads : Reads g l g')
    (open_ : ∀ a ∈ l, Word.ofArgument a ≠ .terminator) (graceful : Bool) (order : List String) :
    Reads (g.marked graceful order) (Restart.withoutMarkers l) (g'.marked graceful order) := by
  induction reads with
  | done => exact .done
  | ended form => exact absurd form (open_ _ List.mem_cons_self)
  | attached form named takes taken _ ih =>
    have later := ih fun b member => open_ b (List.mem_cons_of_mem _ member)
    obtain ⟨onlyOrder, isOrder⟩ := isMarker_of_attached form named
    rename_i flag rest _
    by_cases marker : flag = .order
    · subst marker
      obtain ⟨s, read, rfl⟩ := Given.takeValue_order taken
      rw [withoutMarkers_attached form (isOrder s rfl read)]
      exact later
    · rw [withoutMarkers_cons fun h => marker (onlyOrder h)]
      refine .attached form named takes ?_ later
      rw [Given.takeValue_marked marker, taken]
      rfl
  | separate form named takes plain taken _ ih =>
    have later := ih fun b member => open_ b (List.mem_cons_of_mem _ (List.mem_cons_of_mem _ member))
    have bare := isMarker_iff_of_bare form named
    rename_i flag rest _
    by_cases marker : flag = .order
    · subst marker
      obtain ⟨s, _, rfl⟩ := Given.takeValue_order taken
      rw [(isMarker_of_bare form named).2.1 rfl, withoutMarkers_orderFlag]
      exact later
    · have notGraceful : flag ≠ .graceful := by
        rintro rfl
        cases takes
      rw [withoutMarkers_cons (by simp [bare, marker, notGraceful]), withoutMarkers_cons (not_isMarker_of_plain plain)]
      refine .separate form named takes plain ?_ later
      rw [Given.takeValue_marked marker, taken]
      rfl
  | switch form named takes taken _ ih =>
    have later := ih fun b member => open_ b (List.mem_cons_of_mem _ member)
    have bare := isMarker_iff_of_bare form named
    rename_i flag rest _
    by_cases marker : flag = .graceful
    · subst marker
      obtain rfl := Given.takeSwitch_graceful taken
      rw [(isMarker_of_bare form named).1.1 rfl, withoutMarkers_flag]
      exact later
    · have notOrder : flag ≠ .order := by
        rintro rfl
        cases takes
      rw [withoutMarkers_cons (by simp [bare, marker, notOrder])]
      refine .switch form named takes ?_ later
      rw [Given.takeSwitch_marked marker, taken]
      rfl
  | letters form taken _ ih =>
    have later := ih fun b member => open_ b (List.mem_cons_of_mem _ member)
    obtain ⟨rfl, always⟩ := takeLetters_eq_ok taken
    rw [withoutMarkers_cons (not_isMarker_of_short form)]
    exact .letters form (always _) later

/-- What stands before a marker is read apart from it, and reads no marker if it holds none. -/
theorem Reads.split {g g' : Given} {l later whole : List OsText} {marker : OsText} (reads : Reads g whole g')
    (joined : whole = l ++ marker :: later) (clean : ∀ a ∈ l, ¬ IsMarker a) (isMarker : IsMarker marker) :
    ∃ g₁, Reads g₁ (marker :: later) g' ∧ g₁.graceful = g.graceful ∧ g₁.order = g.order := by
  induction reads generalizing l with
  | done => simp at joined
  | @ended g a form =>
    obtain ⟨_, _, long⟩ := isMarker.word
    cases l with
    | nil =>
      cases joined
      rw [form] at long
      cases long
    | cons => simp at joined
  | @attached g g₁ g' a name value flag rest form named takes taken inner ih =>
    cases l with
    | nil =>
      rw [List.nil_append] at joined
      exact ⟨g, joined ▸ .attached form named takes taken inner, rfl, rfl⟩
    | cons b l =>
      obtain ⟨rfl, rfl⟩ := List.cons.inj joined
      have other : flag ≠ .order := by
        rintro rfl
        obtain ⟨s, read, _⟩ := Given.takeValue_order taken
        exact clean a List.mem_cons_self ((isMarker_of_attached form named).2 s rfl read)
      obtain ⟨same, order⟩ := Given.markers_of_takeValue other taken
      obtain ⟨g₂, after, marks⟩ := ih rfl fun c member => clean c (List.mem_cons_of_mem _ member)
      exact ⟨g₂, after, marks.1.trans same, marks.2.trans order⟩
  -- The marker cannot be the value of an option that stands before it, since no marker is a plain argument.
  | @separate g g₁ g' a name value flag rest form named takes plain taken inner ih =>
    match l with
    | [] =>
      rw [List.nil_append] at joined
      exact ⟨g, joined ▸ .separate form named takes plain taken inner, rfl, rfl⟩
    | [b] =>
      obtain ⟨rfl, same⟩ := List.cons.inj joined
      obtain ⟨rfl, rfl⟩ := List.cons.inj same
      exact absurd isMarker (not_isMarker_of_plain plain)
    | b :: c :: l =>
      obtain ⟨rfl, same⟩ := List.cons.inj joined
      obtain ⟨rfl, rfl⟩ := List.cons.inj same
      have other : flag ≠ .order := fun h =>
        clean a List.mem_cons_self ((isMarker_iff_of_bare form named).2 (Or.inr h))
      obtain ⟨same, order⟩ := Given.markers_of_takeValue other taken
      obtain ⟨g₂, after, marks⟩ := ih rfl fun c member =>
        clean c (List.mem_cons_of_mem _ (List.mem_cons_of_mem _ member))
      exact ⟨g₂, after, marks.1.trans same, marks.2.trans order⟩
  | @switch g g₁ g' a name flag rest form named takes taken inner ih =>
    cases l with
    | nil =>
      rw [List.nil_append] at joined
      exact ⟨g, joined ▸ .switch form named takes taken inner, rfl, rfl⟩
    | cons b l =>
      obtain ⟨rfl, rfl⟩ := List.cons.inj joined
      have other : flag ≠ .graceful := fun h =>
        clean a List.mem_cons_self ((isMarker_iff_of_bare form named).2 (Or.inl h))
      obtain ⟨same, order⟩ := Given.markers_of_takeSwitch other taken
      obtain ⟨g₂, after, marks⟩ := ih rfl fun c member => clean c (List.mem_cons_of_mem _ member)
      exact ⟨g₂, after, marks.1.trans same, marks.2.trans order⟩
  | @letters g g₁ g' a letters rest form taken inner ih =>
    cases l with
    | nil =>
      rw [List.nil_append] at joined
      exact ⟨g, joined ▸ .letters form taken inner, rfl, rfl⟩
    | cons b l =>
      obtain ⟨rfl, rfl⟩ := List.cons.inj joined
      obtain ⟨rfl, _⟩ := takeLetters_eq_ok taken
      exact ih rfl fun c member => clean c (List.mem_cons_of_mem _ member)

/-- What a replacement is told about the order of what is handed to it. -/
def passedOrder (order : List String) : List String :=
  if 1 < order.length then (splitCommas (",".intercalate order).toList).map String.ofList else []

theorem word_order (s : String) :
    Word.ofArgument (.ofString (Restart.attachedOrder ++ s)) = .long (.ofString "socket-order") (some (.ofString s)) := by
  have same : OsText.ofString (Restart.attachedOrder ++ s) =
      ⟨(OsText.ofString Restart.attachedOrder).bytes ++ (OsText.ofString s).bytes⟩ := by
    rw [← OsText.bytes_ofString_append]
  rw [same]
  rfl

/-- The markers built for a replacement tell it that it is one and, for several addresses, their order. -/
theorem reads_markers {g : Given} (fresh : g.graceful = false) (order : List String) :
    Reads g (Restart.markers order) (g.marked true (g.order ++ passedOrder order)) := by
  have taken : g.takeSwitch .graceful = .ok (g.marked true g.order) := by
    simp [Given.takeSwitch, Given.marked, fresh]
  refine .switch word_flag flag?_graceful rfl taken ?_
  unfold passedOrder
  split
  · refine .attached (word_order _) flag?_order rfl ?_ .done
    simp only [Given.takeValue, Given.text, OsText.text?_ofString]
    rfl
  · rw [List.append_nil]
    exact .done

/-- A command line without markers is finished as with them, but for what they say. -/
theorem Given.finish_marked (g : Given) (graceful : Bool) (order : List String) :
    (g.marked graceful order).finish = g.finish.map fun c => { c with markers := ⟨graceful, order⟩ } := by
  have same : (g.marked graceful order).missing = g.missing := rfl
  unfold finish
  rw [same]
  cases g.missing <;> rfl

theorem parse_eq_ok_iff {arguments : List OsText} {command : Command} :
    parse arguments = .ok command ↔ ∃ g, Reads {} arguments g ∧ g.finish = .ok command := by
  simp only [parse, bind, Except.bind, ← scan_eq_ok_iff]
  cases scan {} none false arguments <;> simp

/-- Whatever the arguments of the running process were, those built for its replacement are read as those of a
replacement that is handed the order, if they are accepted at all. -/
theorem markers_of_parse_arguments {base : List OsText} {order : List String} {command : Command}
    (accepted : parse (Restart.arguments base order) = .ok command) :
    command.markers = ⟨true, passedOrder order⟩ := by
  obtain ⟨g, reads, finished⟩ := parse_eq_ok_iff.1 accepted
  have isMarker : IsMarker (.ofString Restart.flag) := Or.inl rfl
  have clean : ∀ a ∈ Restart.withoutMarkers base, ¬ IsMarker a := fun a member => (mem_of_mem_withoutMarkers member).2
  obtain ⟨g₁, after, fresh, empty⟩ := reads.split rfl clean isMarker
  have told := reads_markers (g := g₁) fresh order
  have same : g = g₁.marked true (g₁.order ++ passedOrder order) :=
    Except.ok.inj (after.scan.symm.trans told.scan)
  rw [same, empty, Given.finish_marked] at finished
  cases ending : g₁.finish with
  | error refusal =>
    rw [ending] at finished
    cases finished
  | ok unmarked =>
    rw [ending] at finished
    cases finished
    rfl

/-- Whoever accepts some arguments, in which two dashes alone do not stand, accepts the arguments that are built from
them for a replacement, and reads in them the same but for the markers. -/
theorem parse_arguments {base : List OsText} {command : Command} (accepted : parse base = .ok command)
    (open_ : ∀ a ∈ base, Word.ofArgument a ≠ .terminator) (order : List String) :
    parse (Restart.arguments base order) = .ok { command with markers := ⟨true, passedOrder order⟩ } := by
  obtain ⟨g, reads, finished⟩ := parse_eq_ok_iff.1 accepted
  have kept := reads.withoutMarkers open_ false []
  have clear : ∀ a ∈ Restart.withoutMarkers base, Word.ofArgument a ≠ .terminator := fun a member =>
    open_ a (mem_of_mem_withoutMarkers member).1
  have whole := kept.append clear (reads_markers rfl order)
  refine parse_eq_ok_iff.2 ⟨_, whole, ?_⟩
  rw [Given.finish_marked, Given.finish_marked, finished]
  rfl

/-- Arguments that are accepted, and in which two dashes alone do not stand. -/
def Restartable (arguments : List OsText) : Prop :=
  (∃ command, parse arguments = .ok command) ∧ ∀ a ∈ arguments, Word.ofArgument a ≠ .terminator

/-- A replacement can be restarted like the process that started it. -/
theorem Restartable.arguments {base : List OsText} (restartable : Restartable base) (order : List String) :
    Restartable (Restart.arguments base order) := by
  obtain ⟨⟨command, accepted⟩, open_⟩ := restartable
  refine ⟨⟨_, parse_arguments accepted open_ order⟩, ?_⟩
  intro a member
  rcases List.mem_append.1 member with kept | marker
  · exact open_ a (mem_of_mem_withoutMarkers kept).1
  · rcases List.mem_cons.1 marker with rfl | listed
    · rw [word_flag]
      exact nofun
    · split at listed
      · rw [List.mem_singleton.1 listed, word_order]
        exact nofun
      · cases listed

end CommandLine

end Handover
