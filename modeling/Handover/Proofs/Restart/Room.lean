import Handover.Proofs.Registry.Slots
import Handover.Proofs.Restart.Placement

namespace Handover

namespace Descriptors

/-- How many of the numbers that may be used are free and not below `floor`. -/
def room (t : Descriptors) (floor : Nat) : Nat :=
  (List.range t.limit).countP fun n => decide (floor ≤ n) && (t.at? n).isNone

theorem le_lowestFree (t : Descriptors) (floor : Nat) : floor ≤ t.lowestFree floor := Nat.le_add_right _ _

/-- No number below the lowest free one is free. -/
theorem isSome_of_lt_lowestFree {t : Descriptors} {floor n : Nat} (above : floor ≤ n)
    (below : n < t.lowestFree floor) : (t.at? n).isSome := by
  have inside : n - floor < ((t.entries.drop floor).takeWhile Option.isSome).length := by
    unfold lowestFree at below
    omega
  have same := (List.takeWhile_prefix Option.isSome (l := t.entries.drop floor)).getElem inside
  have used := List.all_eq_true.1 (List.all_takeWhile (l := t.entries.drop floor) (p := Option.isSome)) _
    (List.getElem_mem inside)
  rw [same, List.getElem_drop] at used
  simp only [Nat.add_sub_cancel' above] at used
  obtain ⟨d, there⟩ := Option.isSome_iff_exists.1 used
  rw [at?, List.getElem?_eq_some_iff.2 ⟨_, there⟩]
  rfl

theorem lowestFree_lt_iff {t : Descriptors} {floor : Nat} : t.lowestFree floor < t.limit ↔ 0 < t.room floor := by
  rw [room, List.countP_pos_iff]
  constructor
  · intro below
    refine ⟨_, List.mem_range.2 below, ?_⟩
    rw [at?_lowestFree, decide_eq_true (t.le_lowestFree floor)]
    rfl
  · rintro ⟨n, member, free⟩
    rw [Bool.and_eq_true, decide_eq_true_eq, Option.isNone_iff_eq_none] at free
    refine Nat.lt_of_not_le fun beyond => ?_
    have used := isSome_of_lt_lowestFree free.1 (Nat.lt_of_lt_of_le (List.mem_range.1 member) beyond)
    rw [free.2] at used
    cases used

/-- A number that is taken is no longer free. -/
theorem room_put {t : Descriptors} {floor : Nat} (below : t.lowestFree floor < t.limit) (d : Descriptor) :
    t.room floor = (t.put (t.lowestFree floor) (some d)).room floor + 1 := by
  refine countP_range_of_turn below ?_ ?_ fun n other => ?_
  · rw [at?_put, if_pos rfl]
    exact Bool.and_false _
  · rw [at?_lowestFree, decide_eq_true (t.le_lowestFree floor)]
    rfl
  · rw [at?_put, if_neg (Ne.symm other)]

end Descriptors

namespace Restart

/-- Sources are staged one by one as long as there is room. -/
theorem stage_cases {floor : Nat} {sources : List Nat} {t : Descriptors} (opened : ∀ n ∈ sources, (t.at? n).isSome) :
    if sources.length ≤ t.room floor then
      ∃ staged t', stage floor sources t = .ok (staged, t') ∧ t'.limit = t.limit ∧ ∀ n ∈ staged, n < t.limit
    else stage floor sources t = .error .tooManyFiles := by
  induction sources generalizing t with
  | nil => exact (if_pos (Nat.zero_le _)).mpr ⟨[], t, rfl, rfl, by simp⟩
  | cons source rest ih =>
    obtain ⟨d, atSource⟩ := Option.isSome_iff_exists.1 (opened source List.mem_cons_self)
    by_cases free : t.lowestFree floor < t.limit
    · have run : t.duplicate source floor false =
          .ok (t.lowestFree floor, t.put (t.lowestFree floor) (some { d with closeOnExec := false })) := by
        simp only [Descriptors.duplicate, atSource, if_pos free]
      -- One source less is left to stage, and one number less is free.
      have fewer := Descriptors.room_put free { d with closeOnExec := false }
      have later := @ih (t.put (t.lowestFree floor) (some { d with closeOnExec := false })) (by
        intro n member
        rw [Descriptors.at?_put]
        split
        · rfl
        · exact opened n (List.mem_cons_of_mem _ member))
      by_cases enough : rest.length + 1 ≤ t.room floor
      · rw [if_pos (by omega)] at later
        obtain ⟨staged, t', staging, limit, below⟩ := later
        rw [List.length_cons, if_pos enough]
        refine ⟨t.lowestFree floor :: staged, t', ?_, limit, ?_⟩
        · simp only [stage, run, staging, bind, Except.bind]
          rfl
        · intro n member
          rcases List.mem_cons.1 member with rfl | member
          · exact free
          · exact below n member
      · rw [if_neg (by omega)] at later
        rw [List.length_cons, if_neg enough]
        simp only [stage, run, later, bind, Except.bind]
    · have none_ : ¬ 0 < t.room floor := fun room => free (Descriptors.lowestFree_lt_iff.2 room)
      rw [List.length_cons, if_neg (by omega)]
      simp only [stage, Descriptors.duplicate, atSource, if_neg free, bind, Except.bind]

theorem isSome_of_mem_staged {floor : Nat} {sources staged : List Nat} {t t' : Descriptors}
    (run : stage floor sources t = .ok (staged, t')) (opened : ∀ n ∈ sources, (t.at? n).isSome) {n : Nat}
    (member : n ∈ staged) : (t'.at? n).isSome := by
  have among : t'.at? n ∈ staged.map t'.at? := List.mem_map_of_mem member
  rw [(stage_eq_ok run opened).1] at among
  obtain ⟨source, listed, same⟩ := List.mem_map.1 among
  rw [← same, Option.isSome_map]
  exact opened source listed

/-- What is staged can always be settled. -/
theorem exists_settle {target : Nat} {staged : List Nat} {t : Descriptors}
    (opened : ∀ n ∈ staged, (t.at? n).isSome) (above : ∀ n ∈ staged, target + staged.length ≤ n)
    (below : ∀ n ∈ staged, n < t.limit) (distinct : staged.Nodup) : ∃ t', settle target staged t = .ok t' := by
  induction staged generalizing target t with
  | nil => exact ⟨t, rfl⟩
  | cons high rest ih =>
    obtain ⟨d, atHigh⟩ := Option.isSome_iff_exists.1 (opened high List.mem_cons_self)
    have bound := above high List.mem_cons_self
    have limit := below high List.mem_cons_self
    rw [List.length_cons] at bound
    have run : t.duplicateTo high target = .ok (t.put target (some d.lasting)) := by
      simp only [Descriptors.duplicateTo, atHigh, if_neg (by omega : high ≠ target),
        if_pos (by omega : target < t.limit)]
      rfl
    obtain ⟨notRest, restDistinct⟩ := List.nodup_cons.1 distinct
    obtain ⟨t', settling⟩ := @ih (target + 1) ((t.put target (some d.lasting)).close high) (by
      intro n member
      have apart : high ≠ n := fun equal => notRest (equal ▸ member)
      rw [Descriptors.at?_close, if_neg apart, Descriptors.at?_put]
      split
      · rfl
      · exact opened n (List.mem_cons_of_mem _ member)) (by
      intro n member
      have := above n (List.mem_cons_of_mem _ member)
      rw [List.length_cons] at this
      omega) (fun n member => below n (List.mem_cons_of_mem _ member)) restDistinct
    exact ⟨t', by simp only [settle, run, settling, bind, Except.bind]⟩

/-- Open descriptors can be placed iff there is room to stage them. -/
theorem place_cases {sources : List Nat} {t : Descriptors} (opened : ∀ n ∈ sources, (t.at? n).isSome) :
    if sources.length ≤ t.room (Markers.firstDescriptor + sources.length) then ∃ t', place sources t = .ok t'
    else place sources t = .error .tooManyFiles := by
  have staging := @stage_cases (Markers.firstDescriptor + sources.length) _ _ opened
  split
  · rename_i enough
    rw [if_pos enough] at staging
    obtain ⟨staged, middle, staging, limit, below⟩ := staging
    obtain ⟨_, distinct, fresh, _⟩ := stage_eq_ok staging opened
    rw [← length_staged staging opened] at fresh
    obtain ⟨t', settling⟩ := @exists_settle Markers.firstDescriptor _ _
      (fun n member => isSome_of_mem_staged staging opened member) (fun n member => (fresh n member).1)
      (fun n member => limit ▸ below n member) distinct
    exact ⟨t', place_eq_ok_iff.2 ⟨staged, middle, staging, settling⟩⟩
  · rename_i tight
    rw [if_neg tight] at staging
    simp only [place, staging, bind, Except.bind]

/-- Placing descriptors is a parallel move. If it succeeds, the consecutive numbers from the first one on refer,
whatever the numbers of the sources are, to the files that these referred to at the start, and outlive the start of a
program; what was staged is closed again, and no other number is changed. It succeeds iff there is room. The process
that starts the program has given up the sources afterwards and nothing else, whether the start succeeded or failed. -/
theorem placing_moves_in_parallel {sources : List Nat} {t : Descriptors} (opened : ∀ n ∈ sources, (t.at? n).isSome) :
    (∀ t', place sources t = .ok t' →
      (∀ i n, sources[i]? = some n → ∃ d, t.at? n = some d ∧
        t'.at? (Markers.firstDescriptor + i) = some { file := d.file, closeOnExec := false }) ∧
      (∃ staged middle, stage (Markers.firstDescriptor + sources.length) sources t = .ok (staged, middle) ∧
        staged.length = sources.length ∧
        ∀ n ∈ staged, t.at? n = none ∧ (middle.at? n).isSome ∧ t'.at? n = none) ∧
      ∀ n, n < Markers.firstDescriptor ∨ Markers.firstDescriptor + sources.length ≤ n → t'.at? n = t.at? n) ∧
      ((∃ t', place sources t = .ok t') ↔ sources.length ≤ t.room (Markers.firstDescriptor + sources.length)) ∧
      ∀ (refusal : Option Failure) (n : Nat),
        (launch refusal sources t).2.at? n = if n ∈ sources then none else t.at? n := by
  refine ⟨fun t' placed => ?_, ?_, fun refusal n => at?_withoutAll t sources n⟩
  · obtain ⟨moved, kept⟩ := place_eq_ok placed opened
    obtain ⟨staged, middle, staging, settling⟩ := place_eq_ok_iff.1 placed
    obtain ⟨_, _, fresh, _⟩ := stage_eq_ok staging opened
    obtain ⟨_, freed, _⟩ := settle_eq_ok_of_stage staging settling opened
    refine ⟨?_, ⟨staged, middle, staging, length_staged staging opened, ?_⟩, kept⟩
    · intro i n atIndex
      obtain ⟨d, there⟩ := Option.isSome_iff_exists.1 (opened n (List.mem_of_getElem? atIndex))
      refine ⟨d, there, ?_⟩
      rw [moved i n atIndex, there]
      rfl
    · exact fun n member => ⟨(fresh n member).2, isSome_of_mem_staged staging opened member, freed n member⟩
  · have cases_ := place_cases opened
    constructor
    · rintro ⟨t', placed⟩
      refine Nat.le_of_not_lt fun tight => ?_
      rw [if_neg (Nat.not_le.2 tight), placed] at cases_
      cases cases_
    · intro enough
      rwa [if_pos enough] at cases_

end Restart

namespace Sample

/-- Two listeners, each at the number where the other is to stand, and a third one that closes when a program starts. -/
def crossed : Descriptors :=
  { entries := [none, none, none,
      some ⟨.socket { identity := 5, endpoint := ⟨.v4 127 0 0 1, 80⟩ }, true⟩,
      some ⟨.socket { identity := 6, endpoint := ⟨.v4 127 0 0 1, 81⟩ }, true⟩,
      some ⟨.socket { identity := 7, endpoint := ⟨.v4 127 0 0 1, 82⟩ }, true⟩]
    limit := 8 }

end Sample

/-- Two descriptors that change places do not overwrite each other, as long as two more numbers can be used. -/
theorem crossed_descriptors_change_places :
    (∀ n ∈ [4, 3], (Sample.crossed.at? n).isSome) ∧
      (∃ t', Restart.place [4, 3] Sample.crossed = .ok t' ∧
        ∀ i n, [4, 3][i]? = some n → ∃ d, Sample.crossed.at? n = some d ∧
          t'.at? (Markers.firstDescriptor + i) = some { file := d.file, closeOnExec := false }) ∧
      ¬ ∃ t', Restart.place [4, 3] { Sample.crossed with limit := 7 } = .ok t' := by
  have opened : ∀ n ∈ [4, 3], (Sample.crossed.at? n).isSome := by decide
  have opened' : ∀ n ∈ [4, 3], (({ Sample.crossed with limit := 7 } : Descriptors).at? n).isSome := by decide
  obtain ⟨moves, room, _⟩ := Restart.placing_moves_in_parallel opened
  obtain ⟨t', placed⟩ := room.2 (by decide)
  refine ⟨opened, ⟨t', placed, (moves t' placed).1⟩, fun placed => ?_⟩
  exact absurd ((Restart.placing_moves_in_parallel opened').2.1.1 placed) (by decide)

end Handover
