import Handover.Proofs.Registry.Slots

namespace Handover

section

variable {α : Type} [BEq α] {l : List α}

/-- Induction on a list from which, with its first element, everything equal to it goes. -/
theorem filter_induction {motive : List α → Prop} (nil : motive [])
    (cons : ∀ a rest, motive (rest.filter fun b => !b == a) → motive (a :: rest)) (l : List α) : motive l :=
  match l with
  | [] => nil
  | a :: rest => cons a rest (filter_induction nil cons (rest.filter fun b => !b == a))
termination_by l.length
decreasing_by
  have shorter := List.length_filter_le (fun b => !b == a) rest
  rw [List.length_cons]
  omega

theorem eraseDups_sublist (l : List α) : l.eraseDups.Sublist l := by
  induction l using filter_induction with
  | nil => exact .slnil
  | cons a rest ih =>
    rw [List.eraseDups_cons]
    exact (ih.trans List.filter_sublist).cons_cons a

variable [LawfulBEq α]

theorem nodup_eraseDups (l : List α) : l.eraseDups.Nodup := by
  induction l using filter_induction with
  | nil => exact List.nodup_nil
  | cons a rest ih =>
    rw [List.eraseDups_cons]
    refine List.nodup_cons.2 ⟨fun member => ?_, ih⟩
    have kept := (List.mem_filter.1 (List.mem_eraseDups.1 member)).2
    rw [beq_self_eq_true] at kept
    cases kept

/-- A list without repetitions is left as it is. -/
theorem eraseDups_eq_self_iff : l.eraseDups = l ↔ l.Nodup := by
  constructor
  · intro same
    rw [← same]
    exact nodup_eraseDups l
  · intro once
    induction l with
    | nil => rfl
    | cons a rest ih =>
      obtain ⟨notLater, later⟩ := List.nodup_cons.1 once
      have all : rest.filter (fun b => !b == a) = rest := by
        refine List.filter_eq_self.2 fun b member => ?_
        rw [Bool.not_eq_true', beq_eq_false_iff_ne]
        rintro rfl
        exact notLater member
      rw [List.eraseDups_cons, all, ih later]

theorem length_eraseDups_eq_iff : l.eraseDups.length = l.length ↔ l.Nodup := by
  rw [← eraseDups_eq_self_iff]
  exact ⟨(eraseDups_sublist l).eq_of_length, congrArg List.length⟩

/-- Once repetitions are left out, something stands where it stood first iff nothing before it is repeated. -/
theorem getElem?_of_eraseDups {o : Nat} {a : α} (there : l.eraseDups[o]? = some a) :
    l[o]? = some a ↔ (l.take (l.idxOf a)).Nodup := by
  obtain ⟨before, after, rfl, first⟩ := List.eq_append_cons_of_mem (List.mem_eraseDups.1 (List.mem_of_getElem? there))
  have place : (before ++ a :: after).idxOf a = before.length := by
    rw [List.idxOf_append, if_neg first, List.idxOf_cons_self, Nat.zero_add]
  -- What is kept of the elements before the first `a` stands before it.
  have kept : (before ++ a :: after).eraseDups[before.eraseDups.length]? = some a := by
    rw [List.eraseDups_append, List.cons_removeAll, List.contains_eq_mem, decide_eq_false first, if_pos rfl,
      List.eraseDups_cons, List.getElem?_append_right (Nat.le_refl _), Nat.sub_self, List.getElem?_cons_zero]
  have inside := (List.getElem?_eq_some_iff.1 kept).1
  have ordinal : before.eraseDups.length = o :=
    (List.getElem?_inj inside (nodup_eraseDups _)).1 (kept.trans there.symm)
  rw [place, List.take_left', ← length_eraseDups_eq_iff, ordinal]
  · constructor
    · intro here
      have fewer := (eraseDups_sublist before).length_le
      refine Nat.le_antisymm (ordinal ▸ fewer) (Nat.le_of_not_lt fun earlier => first ?_)
      rw [List.getElem?_append_left earlier] at here
      exact List.mem_of_getElem? here
    · rintro rfl
      rw [List.getElem?_append_right (Nat.le_refl _), Nat.sub_self, List.getElem?_cons_zero]
  · rfl

end

namespace Registry

variable {σ : Type}

/-- Addresses get ordinals behind those that have one, each where it is listed first. -/
theorem addresses_seed (r : Registry σ) (order : List String) :
    (r.seed order).1.addresses = r.addresses ++ (order.removeAll r.addresses).eraseDups := by
  fun_induction seed r order with
  | case1 r => simp [List.removeAll]
  | case2 r address rest o found r' repeated run ih =>
    have there := ordinalOf?_eq_some found
    rw [← address?_addresses] at there
    have listed := List.mem_of_getElem? there
    rw [List.cons_removeAll, List.contains_eq_mem, decide_eq_true listed, if_neg (by simp), ← ih, run]
  | case3 r address rest absent ih =>
    have fresh : address ∉ r.addresses := by
      intro listed
      obtain ⟨o, there⟩ := List.getElem?_of_mem listed
      rw [address?_addresses] at there
      exact ordinalOf?_eq_none absent o there
    have whole : ({ r with slots := r.slots ++ [{ address }] } : Registry σ).addresses = r.addresses ++ [address] := by
      simp [addresses]
    have later : rest.removeAll (r.addresses ++ [address]) =
        (rest.removeAll r.addresses).filter fun a => !a == address := by
      rw [List.removeAll, List.removeAll, List.filter_filter]
      refine List.filter_congr fun a _ => ?_
      rw [Bool.eq_iff_iff]
      simp [and_comm]
    rw [ih, whole, later, List.cons_removeAll, List.contains_eq_mem, decide_eq_false fresh, if_pos rfl,
      List.eraseDups_cons, List.append_assoc, List.singleton_append]

theorem addresses_withOrder_eq (order : List String) :
    (withOrder (σ := σ) order).1.addresses = order.eraseDups := by
  have none_ : order.removeAll ({} : Registry σ).addresses = order := List.removeAll_nil
  rw [withOrder, addresses_seed, none_]
  rfl

theorem addresses_withOrder {order : List String} (once : order.Nodup) :
    (withOrder (σ := σ) order).1.addresses = order := by
  rw [addresses_withOrder_eq, eraseDups_eq_self_iff.2 once]

end Registry

end Handover
