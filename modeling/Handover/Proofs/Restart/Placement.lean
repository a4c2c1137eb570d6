import Handover.Restart.Plan
import Handover.Program.Lineage

namespace Handover

/-- The descriptor as a program that is started gets it. -/
def Descriptor.lasting (d : Descriptor) : Descriptor := { d with closeOnExec := false }

namespace Descriptors

/-- A number is free with some sockets held in addition iff it was free before and none of them has it. -/
theorem at?_holding_eq_none_iff {t : Descriptors} {handles : List Handle} {n : Nat} :
    (t.holding handles).at? n = none ↔ t.at? n = none ∧ ∀ h ∈ handles, h.descriptor ≠ n := by
  induction handles generalizing t with
  | nil => simp [holding]
  | cons h rest ih =>
    have split := ih (t := t.put h.descriptor (some ⟨.socket h.socket, true⟩))
    simp only [holding, List.foldl_cons] at split ⊢
    rw [split, at?_put]
    by_cases same : h.descriptor = n <;> simp [same]

theorem at?_holding_of_ne {t : Descriptors} {handles : List Handle} {n : Nat}
    (other : ∀ h ∈ handles, h.descriptor ≠ n) : (t.holding handles).at? n = t.at? n := by
  induction handles generalizing t with
  | nil => rfl
  | cons h rest ih =>
    have later := ih (t := t.put h.descriptor (some ⟨.socket h.socket, true⟩))
      (fun h' member => other h' (List.mem_cons_of_mem _ member))
    simp only [holding, List.foldl_cons] at later ⊢
    rw [later, at?_put, if_neg (other h List.mem_cons_self)]

theorem at?_holding_of_mem {t : Descriptors} {handles : List Handle} {h : Handle} (member : h ∈ handles)
    (alone : ∀ h' ∈ handles, h'.descriptor = h.descriptor → h' = h) :
    (t.holding handles).at? h.descriptor = some ⟨.socket h.socket, true⟩ := by
  induction handles generalizing t with
  | nil => simp at member
  | cons first rest ih =>
    by_cases later : h ∈ rest
    · exact ih later (fun h' among => alone h' (List.mem_cons_of_mem _ among))
    · have same : h = first := by simpa [later] using member
      subst same
      have apart : ∀ h' ∈ rest, h'.descriptor ≠ h.descriptor := by
        intro h' among equal
        have := alone h' (List.mem_cons_of_mem _ among) equal
        exact later (this ▸ among)
      change ((t.put h.descriptor _).holding rest).at? h.descriptor = _
      rw [at?_holding_of_ne apart, at?_put, if_pos rfl]

theorem duplicate_eq_ok {t t' : Descriptors} {n floor high : Nat} {closeOnExec : Bool}
    (run : t.duplicate n floor closeOnExec = .ok (high, t')) :
    ∃ d, t.at? n = some d ∧ floor ≤ high ∧ t.at? high = none ∧
      t' = t.put high (some { d with closeOnExec }) := by
  unfold duplicate at run
  split at run
  · cases run
  · rename_i d atSource
    dsimp only at run
    split at run
    · cases run
      exact ⟨d, atSource, Nat.le_add_right _ _, at?_lowestFree t floor, rfl⟩
    · cases run

theorem duplicateTo_eq_ok {t t' : Descriptors} {n target : Nat} (apart : n ≠ target)
    (run : t.duplicateTo n target = .ok t') :
    ∃ d, t.at? n = some d ∧ t' = t.put target (some d.lasting) := by
  unfold duplicateTo at run
  split at run
  · cases run
  · rename_i d atSource
    rw [if_neg apart] at run
    split at run
    · cases run
      exact ⟨d, atSource, rfl⟩
    · cases run

theorem at?_close (t : Descriptors) (n m : Nat) : (t.close n).at? m = if n = m then none else t.at? m :=
  at?_put t n m none

end Descriptors

namespace Restart

/-- Staging leaves what there was and puts a duplicate of every source at a number of its own that was free. -/
theorem stage_eq_ok {floor : Nat} {sources staged : List Nat} {t t' : Descriptors}
    (run : stage floor sources t = .ok (staged, t')) (opened : ∀ n ∈ sources, (t.at? n).isSome) :
    staged.map t'.at? = sources.map (fun n => (t.at? n).map Descriptor.lasting) ∧
      staged.Nodup ∧ (∀ n ∈ staged, floor ≤ n ∧ t.at? n = none) ∧ ∀ n, n ∉ staged → t'.at? n = t.at? n := by
  -- A duplicate is put at a number that was free, so that it hides none of the sources that follow.
  induction sources generalizing staged t t' with
  | nil =>
    cases run
    exact ⟨rfl, .nil, by simp, fun _ _ => rfl⟩
  | cons source rest ih =>
    simp only [stage, bind, Except.bind] at run
    split at run
    · cases run
    rename_i first duplicated
    obtain ⟨high, middle⟩ := first
    obtain ⟨d, atSource, aboveFloor, free, rfl⟩ := Descriptors.duplicate_eq_ok duplicated
    dsimp only at run
    split at run
    · cases run
    rename_i later staging
    obtain ⟨others, final⟩ := later
    cases run
    dsimp only
    have kept : ∀ n, n ≠ high → (t.put high (some { d with closeOnExec := false })).at? n = t.at? n := by
      intro n other
      rw [Descriptors.at?_put, if_neg (Ne.symm other)]
    have sourceApart : ∀ n ∈ rest, n ≠ high := by
      rintro n member rfl
      have := opened n (List.mem_cons_of_mem _ member)
      rw [free] at this
      cases this
    obtain ⟨each, distinct, fresh, frame⟩ := ih staging (by
      intro n member
      rw [kept n (sourceApart n member)]
      exact opened n (List.mem_cons_of_mem _ member))
    have notStaged : high ∉ others := by
      intro member
      have := (fresh high member).2
      rw [Descriptors.at?_put, if_pos rfl] at this
      cases this
    have atHigh : final.at? high = some d.lasting := by
      rw [frame high notStaged, Descriptors.at?_put, if_pos rfl]
      rfl
    have sameRest : rest.map (fun n => (t.at? n).map Descriptor.lasting) = others.map final.at? := by
      rw [each]
      exact List.map_congr_left fun n member => by rw [kept n (sourceApart n member)]
    refine ⟨?_, List.nodup_cons.2 ⟨notStaged, distinct⟩, ?_, ?_⟩
    · rw [List.map_cons, List.map_cons, sameRest, atHigh, atSource]
      rfl
    · intro n member
      rcases List.mem_cons.1 member with rfl | member
      · exact ⟨aboveFloor, free⟩
      · have apart : n ≠ high := fun equal => notStaged (equal ▸ member)
        exact ⟨(fresh n member).1, (kept n apart) ▸ (fresh n member).2⟩
    · intro n absent
      rw [List.mem_cons, not_or] at absent
      rw [frame n absent.2, kept n absent.1]

/-- Settling moves every staged number to its target and frees it; whatever is neither stays. -/
theorem settle_eq_ok {target : Nat} {staged : List Nat} {t t' : Descriptors}
    (run : settle target staged t = .ok t') (above : ∀ n ∈ staged, target + staged.length ≤ n)
    (distinct : staged.Nodup) :
    (∀ i n, staged[i]? = some n → t'.at? (target + i) = (t.at? n).map Descriptor.lasting) ∧
      (∀ n ∈ staged, t'.at? n = none) ∧
      ∀ n, n ∉ staged → n < target ∨ target + staged.length ≤ n → t'.at? n = t.at? n := by
  -- All staged numbers are above the targets, so that no move hides one that is still to be moved.
  induction staged generalizing target t t' with
  | nil =>
    cases run
    exact ⟨by simp, by simp, fun _ _ _ => rfl⟩
  | cons high rest ih =>
    simp only [settle, bind, Except.bind] at run
    split at run
    · cases run
    rename_i middle moved
    have highAbove := above high List.mem_cons_self
    rw [List.length_cons] at highAbove
    obtain ⟨d, atHigh, rfl⟩ := Descriptors.duplicateTo_eq_ok (by omega : high ≠ target) moved
    obtain ⟨notRest, restDistinct⟩ := List.nodup_cons.1 distinct
    have restAbove : ∀ n ∈ rest, target + 1 + rest.length ≤ n := by
      intro n member
      have := above n (List.mem_cons_of_mem _ member)
      rw [List.length_cons] at this
      omega
    obtain ⟨each, freed, frame⟩ := ih run restAbove restDistinct
    have after : ∀ n, ((t.put target (some d.lasting)).close high).at? n =
        if high = n then none else if target = n then some d.lasting else t.at? n := by
      intro n
      rw [Descriptors.at?_close, Descriptors.at?_put]
    refine ⟨?_, ?_, ?_⟩
    · intro i n atIndex
      cases i with
      | zero =>
        rw [List.getElem?_cons_zero, Option.some.injEq] at atIndex
        subst atIndex
        have untouched : target ∉ rest := fun member => by
          have := restAbove target member
          omega
        rw [Nat.add_zero, frame target untouched (Or.inl (by omega)), after, if_neg (by omega), if_pos rfl]
        simp [atHigh]
      | succ i =>
        rw [List.getElem?_cons_succ] at atIndex
        have inside := each i n atIndex
        have member : n ∈ rest := List.mem_of_getElem? atIndex
        have apart : high ≠ n := fun equal => notRest (equal ▸ member)
        have bound := restAbove n member
        rw [after, if_neg apart, if_neg (by omega)] at inside
        rw [show target + (i + 1) = target + 1 + i by omega, inside]
    · intro n member
      rcases List.mem_cons.1 member with rfl | member
      · rw [frame n notRest (Or.inr (by omega)), after, if_pos rfl]
      · exact freed n member
    · intro n absent outside
      rw [List.mem_cons, not_or] at absent
      rw [List.length_cons] at outside
      rw [frame n absent.2 (by omega), after, if_neg (Ne.symm absent.1), if_neg (by omega)]

theorem place_eq_ok_iff {sources : List Nat} {t t' : Descriptors} :
    place sources t = .ok t' ↔ ∃ staged middle, stage (Markers.firstDescriptor + sources.length) sources t =
      .ok (staged, middle) ∧ settle Markers.firstDescriptor staged middle = .ok t' := by
  simp only [place, bind, Except.bind]
  constructor
  · intro run
    split at run
    · cases run
    · rename_i staging
      exact ⟨_, _, staging, run⟩
  · rintro ⟨staged, middle, staging, settling⟩
    rw [staging]
    exact settling

theorem length_staged {floor : Nat} {sources staged : List Nat} {t t' : Descriptors}
    (run : stage floor sources t = .ok (staged, t')) (opened : ∀ n ∈ sources, (t.at? n).isSome) :
    staged.length = sources.length := by
  simpa using congrArg List.length (stage_eq_ok run opened).1

/-- What is staged is settled below it, and closed again. -/
theorem settle_eq_ok_of_stage {sources staged : List Nat} {t middle t' : Descriptors}
    (staging : stage (Markers.firstDescriptor + sources.length) sources t = .ok (staged, middle))
    (settling : settle Markers.firstDescriptor staged middle = .ok t')
    (opened : ∀ n ∈ sources, (t.at? n).isSome) :
    (∀ i n, staged[i]? = some n →
      t'.at? (Markers.firstDescriptor + i) = (middle.at? n).map Descriptor.lasting) ∧
      (∀ n ∈ staged, t'.at? n = none) ∧
      ∀ n, n ∉ staged → n < Markers.firstDescriptor ∨ Markers.firstDescriptor + sources.length ≤ n →
        t'.at? n = middle.at? n := by
  obtain ⟨_, distinct, fresh, _⟩ := stage_eq_ok staging opened
  rw [← length_staged staging opened] at fresh ⊢
  exact settle_eq_ok settling (fun n member => (fresh n member).1) distinct

/-- After placing, the consecutive numbers from the first one on refer to what the sources referred to at the start,
and every other number refers to what it did. -/
theorem place_eq_ok {sources : List Nat} {t t' : Descriptors} (run : place sources t = .ok t')
    (opened : ∀ n ∈ sources, (t.at? n).isSome) :
    (∀ i n, sources[i]? = some n →
      t'.at? (Markers.firstDescriptor + i) = (t.at? n).map Descriptor.lasting) ∧
      ∀ n, n < Markers.firstDescriptor ∨ Markers.firstDescriptor + sources.length ≤ n → t'.at? n = t.at? n := by
  obtain ⟨staged, middle, staging, settling⟩ := place_eq_ok_iff.1 run
  obtain ⟨each, _, fresh, frame⟩ := stage_eq_ok staging opened
  obtain ⟨settled, freed, kept⟩ := settle_eq_ok_of_stage staging settling opened
  refine ⟨?_, ?_⟩
  · intro i n atIndex
    have same : (staged[i]?).map middle.at? = some ((t.at? n).map Descriptor.lasting) := by
      rw [← List.getElem?_map, each, List.getElem?_map, atIndex]
      rfl
    obtain ⟨high, atStaged, moved⟩ := Option.map_eq_some_iff.1 same
    rw [settled i high atStaged, moved, Option.map_map]
    rfl
  · intro n outside
    by_cases member : n ∈ staged
    · rw [freed n member, (fresh n member).2]
    · rw [kept n member outside, frame n member]

theorem at?_withoutAll (t : Descriptors) (numbers : List Nat) (n : Nat) :
    (withoutAll t numbers).at? n = if n ∈ numbers then none else t.at? n := by
  induction numbers generalizing t with
  | nil => rfl
  | cons first rest ih =>
    have later : (withoutAll t (first :: rest)).at? n = if n ∈ rest then none else (t.close first).at? n := ih _
    rw [later, Descriptors.at?_close]
    by_cases among : n ∈ rest
    · rw [if_pos among, if_pos (List.mem_cons_of_mem _ among)]
    · rw [if_neg among]
      by_cases same : first = n
      · rw [if_pos same, if_pos (same ▸ List.mem_cons_self)]
      · rw [if_neg same, if_neg (by simp [among, Ne.symm same])]

/-- A program that is started has what was placed for it, and of the rest what is not closed when it starts. -/
theorem launch_eq_ok {refusal : Option Failure} {sources : List Nat} {t d : Descriptors}
    (run : (launch refusal sources t).1 = .ok d) (opened : ∀ n ∈ sources, (t.at? n).isSome) :
    (∀ i n, sources[i]? = some n →
      d.at? (Markers.firstDescriptor + i) = (t.at? n).map Descriptor.lasting) ∧
      ∀ n, n < Markers.firstDescriptor ∨ Markers.firstDescriptor + sources.length ≤ n →
        d.at? n = (t.at? n).filter fun e => !e.closeOnExec := by
  simp only [launch, bind, Except.bind] at run
  split at run
  · cases run
  rename_i placed placing
  obtain ⟨moved, kept⟩ := place_eq_ok placing opened
  cases refusal with
  | some failure => cases run
  | none =>
    cases run
    refine ⟨?_, ?_⟩
    · intro i n atIndex
      rw [Descriptors.at?_exec, moved i n atIndex]
      cases t.at? n <;> rfl
    · intro n outside
      rw [Descriptors.at?_exec, kept n outside]

end Restart

theorem Program.Lineage.handed_getElem? (t : Descriptors) (i : Nat) :
    (handed t)[i]?.join = (t.at? (Markers.firstDescriptor + i)).map (·.file) := by
  simp only [handed, Descriptors.at?, List.getElem?_map, List.getElem?_drop]
  cases t.entries[Markers.firstDescriptor + i]? <;> rfl

end Handover
