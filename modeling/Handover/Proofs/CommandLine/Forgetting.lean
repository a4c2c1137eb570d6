import Handover.Proofs.CommandLine.Markers

namespace Handover

/-- Text begins with the bytes of another text iff it begins with its characters. -/
theorem OsText.startsWith_ofString_iff {s t : String} : (ofString t).startsWith s = true ↔ ∃ u, t = s ++ u := by
  constructor
  · intro start
    obtain ⟨rest, shape⟩ := List.isPrefixOf_iff_prefix.1 start
    have bytes : s.toList.utf8Encode ++ ByteArray.mk rest.toArray = t.toList.utf8Encode := by
      rw [String.utf8Encode_toList, String.utf8Encode_toList]
      apply ByteArray.ext
      apply Array.toList_inj.1
      simpa [ofString] using shape
    obtain ⟨u, split⟩ := List.isPrefix_of_utf8Encode_append_eq_utf8Encode _ bytes
    refine ⟨String.ofList u, ?_⟩
    apply String.toList_inj.1
    simp [split]
  · rintro ⟨u, rfl⟩
    rw [startsWith, bytes_ofString_append]
    simp

theorem Restart.isAttachedOrder_iff {a : OsText} :
    Restart.isAttachedOrder a = true ↔ ∃ value, a = .ofString (Restart.attachedOrder ++ value) := by
  rw [Restart.isAttachedOrder, Bool.and_eq_true, Option.isSome_iff_exists]
  constructor
  · rintro ⟨⟨s, read⟩, start⟩
    obtain rfl := OsText.text?_eq_some_iff.1 read
    obtain ⟨value, rfl⟩ := OsText.startsWith_ofString_iff.1 start
    exact ⟨value, rfl⟩
  · rintro ⟨value, rfl⟩
    exact ⟨⟨_, OsText.text?_ofString _⟩, OsText.startsWith_ofString_iff.2 ⟨value, rfl⟩⟩

namespace CommandLine

/-- What is kept of some arguments when the markers are taken out of them. -/
inductive Cleared : List OsText → List OsText → Prop
  | done : Cleared [] []
  | keep {a rest kept} : ¬ IsMarker a → Cleared rest kept → Cleared (a :: rest) (a :: kept)
  | flag {rest kept} : Cleared rest kept → Cleared (.ofString Restart.flag :: rest) kept
  | attached {value rest kept} : Cleared rest kept → Cleared (.ofString (Restart.attachedOrder ++ value) :: rest) kept
  | separate {value rest kept} : Cleared rest kept → Cleared (.ofString Restart.orderFlag :: value :: rest) kept
  | dangling : Cleared [.ofString Restart.orderFlag] []

theorem Cleared.sublist {l kept : List OsText} (cleared : Cleared l kept) : kept.Sublist l := by
  induction cleared with
  | done => exact .slnil
  | keep _ _ ih => exact ih.cons_cons _
  | flag _ ih | attached _ ih => exact ih.cons _
  | separate _ ih => exact (ih.cons _).cons _
  | dangling => exact .cons _ .slnil

theorem cleared_withoutMarkers (l : List OsText) : Cleared l (Restart.withoutMarkers l) := by
  fun_induction Restart.withoutMarkers l with
  | case1 => exact .done
  | case2 rest ih => exact .flag ih
  | case3 => exact .dangling
  | case4 _ value rest ih => exact .separate ih
  | case5 a rest _ _ attached ih =>
    obtain ⟨value, rfl⟩ := Restart.isAttachedOrder_iff.1 attached
    exact .attached ih
  | case6 a rest noFlag noOrder notAttached ih =>
    refine .keep ?_ ih
    rintro (same | same | attached)
    · exact noFlag same
    · exact noOrder same
    · exact notAttached attached

/-- Nothing is taken out of arguments among which there is no marker, nor do they affect what follows. -/
theorem withoutMarkers_append {l : List OsText} (clean : ∀ a ∈ l, ¬ IsMarker a) (rest : List OsText) :
    Restart.withoutMarkers (l ++ rest) = l ++ Restart.withoutMarkers rest := by
  induction l with
  | nil => rfl
  | cons a l ih =>
    rw [List.cons_append, withoutMarkers_cons (clean a List.mem_cons_self),
      ih fun b member => clean b (List.mem_cons_of_mem _ member), List.cons_append]

theorem withoutMarkers_markers (order : List String) : Restart.withoutMarkers (Restart.markers order) = [] := by
  rw [Restart.markers, withoutMarkers_flag]
  split
  · have attached := Restart.isAttachedOrder_iff.2 ⟨",".intercalate order, rfl⟩
    exact withoutMarkers_attached (word_order _) (Or.inr (Or.inr attached)) []
  · rfl

/-- The arguments of a replacement are those of the running process but for the markers. -/
theorem withoutMarkers_arguments (base : List OsText) (order : List String) :
    Restart.withoutMarkers (Restart.arguments base order) = Restart.withoutMarkers base := by
  rw [Restart.arguments, withoutMarkers_append fun a member => (mem_of_mem_withoutMarkers member).2,
    withoutMarkers_markers, List.append_nil]

/-- The argument is an order flag, bare or with an order attached. -/
def isOrder (a : OsText) : Bool := a == .ofString Restart.orderFlag || Restart.isAttachedOrder a

theorem isOrder_attached (value : String) : isOrder (.ofString (Restart.attachedOrder ++ value)) = true := by
  rw [isOrder, Restart.isAttachedOrder_iff.2 ⟨value, rfl⟩, Bool.or_true]

theorem attached_ne_flag (value : String) :
    OsText.ofString (Restart.attachedOrder ++ value) ≠ .ofString Restart.flag := by
  intro same
  have attached := isOrder_attached value
  rw [same] at attached
  cases attached

theorem count_markers (order : List String) :
    (Restart.markers order).count (.ofString Restart.flag) = 1 ∧
      (Restart.markers order).countP isOrder = if 1 < order.length then 1 else 0 := by
  have noOrder : isOrder (.ofString Restart.flag) = false := rfl
  rw [Restart.markers, List.count_cons_self, List.countP_cons_of_neg (by simp [noOrder])]
  split
  · rw [List.count_singleton, beq_eq_false_iff_ne.2 (attached_ne_flag _), List.countP_singleton,
      if_pos (isOrder_attached _)]
    exact ⟨rfl, rfl⟩
  · exact ⟨rfl, rfl⟩

/-- Of earlier restarts nothing is left in the arguments of a replacement: they are the same whether built from those of
the running process or of any process before it. They end in the markers of the last restart, each of them once, and
before these stand the arguments of the running process without its markers. -/
theorem earlier_restarts_forgotten (base : List OsText) (order order' : List String) :
    Restart.arguments (Restart.arguments base order) order' = Restart.arguments base order' ∧
      (Restart.arguments base order).count (.ofString Restart.flag) = 1 ∧
      (Restart.arguments base order).countP isOrder = (if 1 < order.length then 1 else 0) ∧
      ∃ kept, Cleared base kept ∧ kept.Sublist base ∧ (∀ a ∈ kept, ¬ IsMarker a) ∧
        Restart.arguments base order = kept ++ .ofString Restart.flag ::
          if 1 < order.length then [.ofString (Restart.attachedOrder ++ ",".intercalate order)] else [] := by
  have clean : ∀ a ∈ Restart.withoutMarkers base, ¬ IsMarker a := fun a member => (mem_of_mem_withoutMarkers member).2
  have cleared := cleared_withoutMarkers base
  obtain ⟨flags, orders⟩ := count_markers order
  have noFlag : (Restart.withoutMarkers base).count (.ofString Restart.flag) = 0 :=
    List.count_eq_zero.2 fun member => clean _ member (Or.inl rfl)
  have noOrder : (Restart.withoutMarkers base).countP isOrder = 0 := by
    refine List.countP_eq_zero.2 fun a member isOrder => clean a member (Or.inr ?_)
    simpa [CommandLine.isOrder] using isOrder
  refine ⟨?_, ?_, ?_, _, cleared, cleared.sublist, clean, rfl⟩
  · rw [Restart.arguments, withoutMarkers_arguments]
    rfl
  · rw [Restart.arguments, List.count_append, noFlag, flags]
  · rw [Restart.arguments, List.countP_append, noOrder, orders, Nat.zero_add]

end CommandLine

end Handover
