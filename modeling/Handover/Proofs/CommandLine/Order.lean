import Handover.Proofs.CommandLine.Markers

namespace Handover.CommandLine

theorem splitCommas_ne_nil (l : List Char) : splitCommas l ≠ [] := by
  unfold splitCommas
  split
  · simp
  · split
    · simp
    · split <;> simp

theorem length_splitCommas (l : List Char) : (splitCommas l).length = l.count ',' + 1 := by
  induction l with
  | nil => rfl
  | cons c rest ih =>
    unfold splitCommas
    by_cases comma : c = ','
    · simp [comma, ih]
    · rw [if_neg comma, List.count_cons_of_ne comma]
      split
      · rename_i empty
        exact absurd empty (splitCommas_ne_nil rest)
      · rename_i part parts split
        rw [split] at ih
        exact ih

theorem splitCommas_append {l : List Char} (free : ',' ∉ l) (rest : List Char) :
    splitCommas (l ++ ',' :: rest) = l :: splitCommas rest := by
  induction l with
  | nil => simp [splitCommas]
  | cons c l ih =>
    rw [List.mem_cons, not_or] at free
    rw [List.cons_append, splitCommas, if_neg (Ne.symm free.1), ih free.2]

theorem splitCommas_of_free {l : List Char} (free : ',' ∉ l) : splitCommas l = [l] := by
  induction l with
  | nil => rfl
  | cons c l ih =>
    rw [List.mem_cons, not_or] at free
    rw [splitCommas, if_neg (Ne.symm free.1), ih free.2]

/-- Parts without commas are what is found between the commas that join them. -/
theorem splitCommas_intercalate {parts : List (List Char)} (free : ∀ part ∈ parts, ',' ∉ part)
    (nonempty : parts ≠ []) : splitCommas ([','].intercalate parts) = parts := by
  induction parts with
  | nil => exact absurd rfl nonempty
  | cons first rest ih =>
    have head := free first List.mem_cons_self
    cases rest with
    | nil => rw [List.intercalate_singleton, splitCommas_of_free head]
    | cons second rest =>
      have tail := ih (fun part member => free part (List.mem_cons_of_mem _ member)) (by simp)
      rw [List.intercalate_cons_cons, List.append_assoc, List.singleton_append, splitCommas_append head, tail]

/-- Joining parts by commas never hides one of them. -/
theorem length_le_splitCommas_intercalate (parts : List (List Char)) :
    parts.length ≤ (splitCommas ([','].intercalate parts)).length := by
  rw [length_splitCommas]
  induction parts with
  | nil => simp
  | cons first rest ih =>
    cases rest with
    | nil => simp
    | cons second rest =>
      rw [List.intercalate_cons_cons, List.count_append, List.count_append]
      simp only [List.length_cons, List.count_singleton_self] at ih ⊢
      omega

theorem passedOrder_of_free {order : List String} (free : ∀ address ∈ order, ',' ∉ address.toList) :
    passedOrder order = if 1 < order.length then order else [] := by
  unfold passedOrder
  split
  · rename_i several
    have parts : ∀ part ∈ order.map String.toList, ',' ∉ part := by
      intro part member
      obtain ⟨address, among, rfl⟩ := List.mem_map.1 member
      exact free address among
    have nonempty : order.map String.toList ≠ [] := by
      intro empty
      rw [List.map_eq_nil_iff] at empty
      rw [empty] at several
      cases several
    rw [String.toList_intercalate]
    change (splitCommas ([','].intercalate (order.map String.toList))).map String.ofList = order
    rw [splitCommas_intercalate parts nonempty, List.map_map]
    exact List.map_id'' (fun _ => String.ofList_toList) order
  · rfl

/-- A replacement that is handed some addresses counts on as many at least. -/
theorem length_le_inheritedCount (order : List String) :
    order.length ≤ (Markers.inherited (passedOrder order)).inheritedCount := by
  change order.length ≤ max (passedOrder order).length 1
  unfold passedOrder
  split
  · have kept := length_le_splitCommas_intercalate (order.map String.toList)
    rw [String.toList_intercalate, List.length_map]
    rw [List.length_map] at kept
    change _ ≤ max (splitCommas ([','].intercalate (order.map String.toList))).length 1
    omega
  · omega

/-- It counts on just as many if no address has a comma. -/
theorem inheritedCount_of_free {order : List String} (free : ∀ address ∈ order, ',' ∉ address.toList)
    (nonempty : order ≠ []) : (Markers.inherited (passedOrder order)).inheritedCount = order.length := by
  have positive : 0 < order.length := List.length_pos_iff.2 nonempty
  change max (passedOrder order).length 1 = order.length
  rw [passedOrder_of_free free]
  split
  · omega
  · simp only [List.length_nil]
    omega

end Handover.CommandLine
