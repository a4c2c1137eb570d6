import Handover.Registry

namespace Handover

theorem countP_modify {α : Type} {p : α → Bool} {f : α → α} {l : List α} {i : Nat} {a : α} (at_ : l[i]? = some a) :
    (l.modify i f).countP p + (if p a then 1 else 0) = l.countP p + (if p (f a) then 1 else 0) := by
  induction l generalizing i with
  | nil => simp at at_
  | cons b l ih =>
    cases i with
    | zero =>
      rw [List.getElem?_cons_zero, Option.some.injEq] at at_
      subst at_
      simp only [List.modify_zero_cons, List.countP_cons]
      omega
    | succ i =>
      rw [List.getElem?_cons_succ] at at_
      have later := ih at_
      simp only [List.modify_succ_cons, List.countP_cons]
      omega

theorem filterMap_modify {α β : Type} {g : α → Option β} {f : α → α} {l : List α} {i : Nat}
    (same : ∀ a, l[i]? = some a → g (f a) = g a) : (l.modify i f).filterMap g = l.filterMap g := by
  induction l generalizing i with
  | nil => simp
  | cons b l ih =>
    cases i with
    | zero => rw [List.modify_zero_cons, List.filterMap_cons, List.filterMap_cons, same b rfl]
    | succ i => rw [List.modify_succ_cons, List.filterMap_cons, List.filterMap_cons, ih same]

/-- A condition that comes to hold of one more number below a bound. -/
theorem countP_range_of_turn {f g : Nat → Bool} {o k : Nat} (inside : o < k) (before : f o = false) (after : g o = true)
    (elsewhere : ∀ o', o' ≠ o → g o' = f o') : (List.range k).countP g = (List.range k).countP f + 1 := by
  induction k with
  | zero => omega
  | succ k ih =>
    rw [List.range_succ, List.countP_append, List.countP_append, List.countP_singleton, List.countP_singleton]
    by_cases last : o = k
    · subst last
      have below : (List.range o).countP g = (List.range o).countP f := by
        refine List.countP_congr fun o' member => ?_
        rw [elsewhere o' (by have := List.mem_range.1 member; omega)]
      rw [below, before, after]
      rfl
    · rw [ih (by omega), elsewhere k (by omega)]
      omega

theorem getElem?_append_last {α : Type} (l : List α) (a : α) (i : Nat) :
    (l ++ [a])[i]? = if l.length = i then some a else l[i]? := by
  rcases Nat.lt_trichotomy i l.length with below | rfl | above
  · rw [List.getElem?_append_left below, if_neg (by omega)]
  · simp
  · rw [List.getElem?_eq_none (by rw [List.length_append, List.length_singleton]; omega), if_neg (by omega),
      List.getElem?_eq_none (by omega)]

namespace Registry

variable {σ : Type}

/-- The address at an ordinal. -/
def address? (r : Registry σ) (o : Nat) : Option String := r.slots[o]?.map (·.address)

/-- The address at an ordinal is claimed. -/
def isClaimed (r : Registry σ) (o : Nat) : Bool := (r.slots[o]?.map (·.claimed)).getD false

def served (r : Registry σ) : Nat := r.slots.countP fun slot => slot.service.isSome

/-- No address stands at two ordinals, and wherever there is a service its address is claimed. -/
structure Sound (r : Registry σ) : Prop where
  distinct : ∀ o o' a, r.address? o = some a → r.address? o' = some a → o = o'
  claimed : ∀ o s, r.service? o = some s → r.isClaimed o = true

theorem slots_modify (r : Registry σ) (o o' : Nat) (f : Slot σ → Slot σ) :
    (r.modify o f).slots[o']? = if o = o' then r.slots[o']?.map f else r.slots[o']? := by
  rw [modify, List.getElem?_modify]
  by_cases same : o = o'
  · simp only [if_pos same]
    rfl
  · simp only [if_neg same]
    cases r.slots[o']? <;> rfl

theorem address?_addresses (r : Registry σ) (o : Nat) : r.addresses[o]? = r.address? o := by
  rw [addresses, address?, List.getElem?_map]

theorem address?_eq_none_iff {r : Registry σ} {o : Nat} : r.address? o = none ↔ r.size ≤ o := by
  rw [address?, Option.map_eq_none_iff, List.getElem?_eq_none_iff, size]

theorem ordinalOf?_eq_some {r : Registry σ} {a : String} {o : Nat} (found : r.ordinalOf? a = some o) :
    r.address? o = some a := by
  obtain ⟨bound, same, _⟩ := List.findIdx?_eq_some_iff_getElem.1 found
  rw [address?, List.getElem?_eq_getElem bound, Option.map_some, beq_iff_eq.1 same]

theorem ordinalOf?_eq_none {r : Registry σ} {a : String} (absent : r.ordinalOf? a = none) (o : Nat) :
    r.address? o ≠ some a := by
  intro there
  obtain ⟨slot, atSlot, rfl⟩ := Option.map_eq_some_iff.1 there
  have := List.findIdx?_eq_none_iff.1 absent slot (List.mem_of_getElem? atSlot)
  simp at this

theorem Sound.ordinalOf?_eq_some_iff {r : Registry σ} (sound : r.Sound) {a : String} {o : Nat} :
    r.ordinalOf? a = some o ↔ r.address? o = some a := by
  constructor
  · exact ordinalOf?_eq_some
  · intro there
    cases found : r.ordinalOf? a with
    | none => exact absurd there (ordinalOf?_eq_none found o)
    | some o' => rw [sound.distinct o' o a (ordinalOf?_eq_some found) there]

/-- An address that is claimed gets the ordinal it has, or a new one behind all others. Nothing else changes. -/
theorem reserve_eq_ok {r r' : Registry σ} {a : String} {o : Nat} (run : r.reserve a = .ok (o, r')) :
    (∀ o', r'.address? o' = if o = o' then some a else r.address? o') ∧
      (r.address? o = some a ∨ r.address? o = none ∧ ∀ o', r.address? o' ≠ some a) ∧
      r.isClaimed o = false ∧ (∀ o', r'.isClaimed o' = (decide (o = o') || r.isClaimed o')) ∧
      (∀ o', r'.service? o' = r.service? o') ∧ r'.served = r.served ∧ r'.restarting = r.restarting := by
  unfold reserve at run
  split at run
  · rename_i absent
    cases run
    have outside : r.slots[r.slots.length]? = none := List.getElem?_eq_none (Nat.le_refl _)
    have after := getElem?_append_last r.slots { address := a, claimed := true }
    refine ⟨?_, Or.inr ⟨?_, ordinalOf?_eq_none absent⟩, ?_, ?_, ?_, ?_, rfl⟩
    · intro o'
      simp only [address?, after]
      split <;> rfl
    · rw [address?, outside]
      rfl
    · rw [isClaimed, outside]
      rfl
    · intro o'
      simp only [isClaimed, after]
      by_cases same : r.slots.length = o' <;> simp [same]
    · intro o'
      simp only [service?, after]
      split
      · rename_i same
        rw [← same, outside]
        rfl
      · rfl
    · simp [served]
  · rename_i found
    split at run
    · cases run
    · rename_i free
      cases run
      have named := ordinalOf?_eq_some found
      refine ⟨?_, Or.inl named, Bool.eq_false_iff.2 free, ?_, ?_, ?_, rfl⟩
      · intro o'
        rw [address?, slots_modify]
        split
        · rename_i same
          subst same
          rw [← named, address?, Option.map_map]
          rfl
        · rfl
      · intro o'
        simp only [isClaimed, slots_modify]
        by_cases same : o = o'
        · subst same
          obtain ⟨slot, atSlot, _⟩ := Option.map_eq_some_iff.1 named
          simp [atSlot]
        · simp [same]
      · intro o'
        simp only [service?, slots_modify]
        split
        · cases r.slots[o']? <;> rfl
        · rfl
      · obtain ⟨slot, atSlot, _⟩ := Option.map_eq_some_iff.1 named
        have counted := countP_modify (p := fun slot : Slot σ => slot.service.isSome)
          (f := fun slot => { slot with claimed := true }) atSlot
        exact Nat.add_right_cancel counted

theorem address?_of_reserve {r r' : Registry σ} {a a' : String} {o o' : Nat} (run : r.reserve a = .ok (o, r'))
    (there : r.address? o' = some a') : r'.address? o' = some a' := by
  obtain ⟨address, known, _⟩ := reserve_eq_ok run
  rw [address]
  split
  · rename_i same
    subst same
    rcases known with already | ⟨absent, _⟩
    · exact already.symm.trans there
    · rw [absent] at there
      cases there
  · exact there

theorem Sound.reserve {r r' : Registry σ} {a : String} {o : Nat} (sound : r.Sound) (run : r.reserve a = .ok (o, r')) :
    r'.Sound := by
  obtain ⟨address, known, _, isClaimed, service, _, _⟩ := reserve_eq_ok run
  refine ⟨?_, ?_⟩
  · intro o₁ o₂ a' first second
    rw [address] at first second
    -- The new ordinal and another one cannot have the same address: a known address keeps its ordinal.
    split at first <;> split at second
    · omega
    · rename_i here other
      subst here
      cases first
      rcases known with already | ⟨_, absent⟩
      · exact sound.distinct o o₂ _ already second
      · exact absurd second (absent o₂)
    · rename_i other here
      subst here
      cases second
      rcases known with already | ⟨_, absent⟩
      · exact sound.distinct o₁ o _ first already
      · exact absurd first (absent o₁)
    · exact sound.distinct o₁ o₂ a' first second
  · intro o' s there
    rw [service] at there
    rw [isClaimed, sound.claimed o' s there, Bool.or_true]

theorem reserve_eq_error {r : Registry σ} {a : String} {fault : Fault} (run : r.reserve a = .error fault) :
    fault = .alreadyServing a ∧ ∃ o, r.address? o = some a ∧ r.isClaimed o = true := by
  unfold reserve at run
  split at run
  · cases run
  · rename_i found
    split at run
    · rename_i claimed
      cases run
      exact ⟨rfl, _, ordinalOf?_eq_some found, claimed⟩
    · cases run

theorem reserve_of_known {r : Registry σ} (sound : r.Sound) {a : String} {o : Nat} (named : r.address? o = some a) :
    r.reserve a = if r.isClaimed o then .error (.alreadyServing a)
      else .ok (o, r.modify o fun slot => { slot with claimed := true }) := by
  rw [reserve, sound.ordinalOf?_eq_some_iff.2 named]
  rfl

theorem reserve_of_unknown {r : Registry σ} {a : String} (absent : ∀ o, r.address? o ≠ some a) :
    r.reserve a = .ok (r.size, { r with slots := r.slots ++ [{ address := a, claimed := true }] }) := by
  have unknown : r.ordinalOf? a = none := by
    cases found : r.ordinalOf? a with
    | none => rfl
    | some o => exact absurd (ordinalOf?_eq_some found) (absent o)
  rw [reserve, unknown]
  rfl

/-- A service is recorded at an ordinal with an address and without a service. -/
theorem attach_eq_ok {r r' : Registry σ} {o : Nat} {a : String} {s : σ} (run : r.attach o s = .ok r')
    (named : r.address? o = some a) :
    r.service? o = none ∧ (∀ o', r'.address? o' = r.address? o') ∧
      (∀ o', r'.isClaimed o' = (decide (o = o') || r.isClaimed o')) ∧
      (∀ o', r'.service? o' = if o = o' then some s else r.service? o') ∧ r'.served = r.served + 1 ∧
      r'.restarting = r.restarting := by
  obtain ⟨slot, atSlot, rfl⟩ := Option.map_eq_some_iff.1 named
  unfold attach at run
  rw [atSlot] at run
  obtain ⟨address, claimed, service⟩ := slot
  cases service with
  | some old => cases run
  | none =>
    cases run
    refine ⟨?_, ?_, ?_, ?_, ?_, rfl⟩
    · rw [service?, atSlot]
      rfl
    · intro o'
      simp only [address?, slots_modify]
      split
      · rw [Option.map_map]
        rfl
      · rfl
    · intro o'
      simp only [isClaimed, slots_modify]
      by_cases same : o = o'
      · subst same
        simp [atSlot]
      · simp [same]
    · intro o'
      simp only [service?, slots_modify]
      split
      · rename_i same
        rw [← same, atSlot]
        rfl
      · rfl
    · have counted := countP_modify (p := fun slot : Slot σ => slot.service.isSome)
        (f := fun slot => { slot with claimed := true, service := some s }) atSlot
      simp only [Option.isSome_none, Bool.false_eq_true, if_false, Option.isSome_some, if_true] at counted
      simp only [served, modify]
      omega

/-- A service that is there after one was recorded is this one or was there before. -/
theorem service?_of_attach {r r' : Registry σ} {o o' : Nat} {s s' : σ} (run : r.attach o s = .ok r')
    (there : r'.service? o' = some s') : o = o' ∧ s' = s ∨ r.service? o' = some s' := by
  unfold attach at run
  split at run
  · cases run
  · cases run
    rw [service?, slots_modify] at there
    split at there
    · rename_i same
      obtain ⟨_, atSlot, recorded⟩ := Option.bind_eq_some_iff.1 there
      obtain ⟨slot, _, rfl⟩ := Option.map_eq_some_iff.1 atSlot
      exact .inl ⟨same, (Option.some.inj recorded).symm⟩
    · exact .inr there

theorem Sound.attach {r r' : Registry σ} {o : Nat} {a : String} {s : σ} (sound : r.Sound) (run : r.attach o s = .ok r')
    (named : r.address? o = some a) : r'.Sound := by
  obtain ⟨_, address, isClaimed, service, _, _⟩ := attach_eq_ok run named
  refine ⟨?_, ?_⟩
  · intro o₁ o₂ a' first second
    rw [address] at first second
    exact sound.distinct o₁ o₂ a' first second
  · intro o' s' there
    rw [service] at there
    rw [isClaimed, Bool.or_eq_true, decide_eq_true_eq]
    split at there
    · rename_i same
      exact Or.inl same
    · exact Or.inr (sound.claimed o' s' there)

theorem attach_eq_error {r : Registry σ} {o : Nat} {s : σ} {fault : Fault} (run : r.attach o s = .error fault) :
    ∃ old, r.service? o = some old := by
  unfold attach at run
  split at run
  · rename_i address claimed old atSlot
    rw [service?, atSlot]
    exact ⟨old, rfl⟩
  · cases run

/-- A claim without a service is given up; addresses and services stay. -/
theorem views_release (r : Registry σ) (o : Nat) :
    (∀ o', (r.release o).address? o' = r.address? o') ∧
      (∀ o', (r.release o).isClaimed o' =
        (r.isClaimed o' && (decide (o ≠ o') || (r.service? o').isSome))) ∧
      (∀ o', (r.release o).service? o' = r.service? o') ∧ (r.release o).served = r.served ∧
      (r.release o).restarting = r.restarting := by
  refine ⟨?_, ?_, ?_, ?_, rfl⟩
  · intro o'
    simp only [release, address?, slots_modify]
    split
    · rw [Option.map_map]
      congr 1
      funext slot
      dsimp only [Function.comp]
      split <;> rfl
    · rfl
  · intro o'
    simp only [release, isClaimed, service?, slots_modify]
    by_cases same : o = o'
    · subst same
      cases r.slots[o]? with
      | none => simp
      | some slot => cases served : slot.service <;> simp [served]
    · simp [same]
  · intro o'
    simp only [release, service?, slots_modify]
    split
    · cases r.slots[o']? with
      | none => rfl
      | some slot => cases served : slot.service <;> simp [served]
    · rfl
  · simp only [served, release, modify]
    cases atSlot : r.slots[o]? with
    | none =>
      rw [List.modify_eq_self (List.getElem?_eq_none_iff.1 atSlot)]
    | some slot =>
      have counted := countP_modify (p := fun slot : Slot σ => slot.service.isSome)
        (f := fun slot => if slot.service.isNone then { slot with claimed := false } else slot) atSlot
      have same : (if slot.service.isNone then { slot with claimed := false } else slot : Slot σ).service =
          slot.service := by split <;> rfl
      rw [same] at counted
      omega

theorem Sound.release {r : Registry σ} (sound : r.Sound) (o : Nat) : (r.release o).Sound := by
  obtain ⟨address, isClaimed, service, _, _⟩ := r.views_release o
  refine ⟨?_, ?_⟩
  · intro o₁ o₂ a first second
    rw [address] at first second
    exact sound.distinct o₁ o₂ a first second
  · intro o' s there
    rw [service] at there
    rw [isClaimed, sound.claimed o' s there, there, Option.isSome_some, Bool.or_true, Bool.and_true]

/-- Only the service at the ordinal becomes another. -/
theorem views_update (r : Registry σ) (o : Nat) (f : σ → σ) :
    (∀ o', (r.update o f).address? o' = r.address? o') ∧ (∀ o', (r.update o f).isClaimed o' = r.isClaimed o') ∧
      (∀ o', (r.update o f).service? o' = if o = o' then (r.service? o').map f else r.service? o') ∧
      (r.update o f).served = r.served ∧ (r.update o f).restarting = r.restarting := by
  refine ⟨?_, ?_, ?_, ?_, rfl⟩
  · intro o'
    simp only [update, address?, slots_modify]
    split
    · rw [Option.map_map]
      rfl
    · rfl
  · intro o'
    simp only [update, isClaimed, slots_modify]
    split
    · cases r.slots[o']? <;> rfl
    · rfl
  · intro o'
    simp only [update, service?, slots_modify]
    split
    · cases r.slots[o']? <;> rfl
    · rfl
  · simp only [served, update, modify]
    cases atSlot : r.slots[o]? with
    | none =>
      rw [List.modify_eq_self (List.getElem?_eq_none_iff.1 atSlot)]
    | some slot =>
      have counted := countP_modify (p := fun slot : Slot σ => slot.service.isSome)
        (f := fun slot => { slot with service := slot.service.map f }) atSlot
      simp only [Option.isSome_map] at counted
      omega

theorem mem_services {r : Registry σ} {s : σ} : s ∈ r.services ↔ ∃ o, r.service? o = some s := by
  simp only [services, List.mem_filterMap, service?, Option.bind_eq_some_iff]
  constructor
  · rintro ⟨slot, member, served⟩
    obtain ⟨o, atSlot⟩ := List.getElem?_of_mem member
    exact ⟨o, slot, atSlot, served⟩
  · rintro ⟨o, slot, atSlot, served⟩
    exact ⟨slot, List.mem_of_getElem? atSlot, served⟩

theorem services_take (r : Registry σ) (k : Nat) :
    (r.slots.take k).filterMap (·.service) = (List.range k).filterMap r.service? := by
  induction k with
  | zero => rfl
  | succ k ih =>
    rw [List.take_add_one, List.filterMap_append, ih, List.range_succ, List.filterMap_append]
    cases atSlot : r.slots[k]? with
    | none => simp [service?, atSlot]
    | some slot => cases served : slot.service <;> simp [service?, atSlot, served]

/-- Registries with the same services at every ordinal list the same ones. -/
theorem services_congr {r r' : Registry σ} (service : ∀ o, r'.service? o = r.service? o) : r'.services = r.services := by
  have whole : ∀ {m : Registry σ} {k : Nat}, m.size ≤ k → m.services = (List.range k).filterMap m.service? := by
    intro m k bound
    rw [← services_take, List.take_of_length_le bound, services]
  rw [whole (Nat.le_max_left r'.size r.size), whole (Nat.le_max_right r'.size r.size), funext service]

theorem mem_attached {r : Registry σ} {o : Nat} {a : String} {s : σ} :
    (o, a, s) ∈ r.attached ↔ r.address? o = some a ∧ r.service? o = some s := by
  simp only [attached, numbered, List.mem_filterMap, List.mem_map, Prod.exists, List.mk_mem_zipIdx_iff_getElem?,
    address?, service?, Option.map_eq_some_iff, Option.bind_eq_some_iff, Prod.mk.injEq]
  constructor
  · rintro ⟨o', slot, ⟨slot', i, atSlot, rfl, rfl⟩, s', served, rfl, rfl, rfl⟩
    exact ⟨⟨slot', atSlot, rfl⟩, slot', atSlot, served⟩
  · rintro ⟨⟨slot, atSlot, rfl⟩, slot', atSlot', served⟩
    obtain rfl := Option.some.inj (atSlot.symm.trans atSlot')
    exact ⟨o, slot, ⟨slot, o, atSlot, rfl, rfl⟩, s, served, rfl, rfl, rfl⟩

theorem mem_unattached {r : Registry σ} {o : Nat} {a : String} :
    (o, a) ∈ r.unattached ↔ r.address? o = some a ∧ r.service? o = none := by
  simp only [unattached, numbered, List.mem_map, List.mem_filter, Prod.exists, List.mk_mem_zipIdx_iff_getElem?,
    address?, service?, Option.map_eq_some_iff, Option.bind_eq_none_iff, Option.isNone_iff_eq_none, Prod.mk.injEq]
  constructor
  · rintro ⟨o', slot, ⟨⟨slot', i, atSlot, rfl, rfl⟩, vacant⟩, rfl, rfl⟩
    refine ⟨⟨slot', atSlot, rfl⟩, ?_⟩
    intro slot there
    rw [← Option.some.inj (atSlot.symm.trans there)]
    exact vacant
  · rintro ⟨⟨slot, atSlot, rfl⟩, vacant⟩
    exact ⟨o, slot, ⟨⟨slot, o, atSlot, rfl, rfl⟩, vacant slot atSlot⟩, rfl, rfl⟩

/-- The services are those of the slots that have one, by ordinal. -/
theorem services_eq_attached (r : Registry σ) : r.services = r.attached.map fun e => e.2.2 := by
  have slots : r.slots = r.numbered.map Prod.snd := by
    rw [numbered, List.map_map]
    exact (List.zipIdx_map_fst 0 r.slots).symm
  rw [services, slots, attached, List.filterMap_map, List.map_filterMap]
  congr 1
  funext e
  simp only [Function.comp_apply, Option.map_map]
  exact Option.map_id_apply.symm

theorem ordinals_numbered (r : Registry σ) : r.numbered.map Prod.fst = List.range r.size := by
  rw [numbered, List.map_map, size, List.range_eq_range']
  exact List.zipIdx_map_snd 0 r.slots

theorem ordinals_attached (r : Registry σ) :
    r.attached.map Prod.fst = (r.numbered.filter fun e => e.2.service.isSome).map Prod.fst := by
  rw [attached]
  generalize r.numbered = slots
  induction slots with
  | nil => rfl
  | cons e slots ih => cases served : e.2.service <;> simp [served, ih]

/-- Services come in the order of their ordinals. -/
theorem pairwise_attached (r : Registry σ) : r.attached.Pairwise fun e e' => e.1 < e'.1 := by
  have ascending : (List.range r.size).Pairwise (· < ·) := List.pairwise_lt_range
  rw [← ordinals_numbered] at ascending
  refine List.pairwise_map.1 ?_
  rw [ordinals_attached]
  exact ascending.sublist ((List.filter_sublist (l := r.numbered)).map Prod.fst)

/-- Every ordinal has a service or is counted among those that have none. -/
theorem attached_append_unattached_perm (r : Registry σ) :
    (r.attached.map Prod.fst ++ r.unattached.map Prod.fst).Perm (List.range r.size) := by
  have split : r.unattached.map Prod.fst = (r.numbered.filter fun e => !e.2.service.isSome).map Prod.fst := by
    rw [unattached, List.map_map]
    simp only [Option.not_isSome]
    rfl
  rw [ordinals_attached, split, ← List.map_append, ← ordinals_numbered]
  exact (List.filter_append_perm _ r.numbered).map Prod.fst

/-- If no service stands at `k` or behind it, all of them stand below it. -/
theorem served_take {r : Registry σ} {k : Nat} (outside : ∀ o, k ≤ o → r.service? o = none) :
    r.served = (r.slots.take k).countP fun slot => slot.service.isSome := by
  have later : (r.slots.drop k).countP (fun slot => slot.service.isSome) = 0 := by
    rw [List.countP_eq_zero]
    intro slot member
    obtain ⟨i, atSlot⟩ := List.getElem?_of_mem member
    rw [List.getElem?_drop] at atSlot
    have none_ := outside (k + i) (Nat.le_add_right _ _)
    rw [service?, atSlot] at none_
    change slot.service = none at none_
    simp [none_]
  have whole := congrArg (List.countP fun slot => slot.service.isSome) (List.take_append_drop k r.slots)
  rw [List.countP_append, later] at whole
  exact whole.symm

/-- If no service stands at `k` or behind it there are `k` of them at most, and `k` only if every ordinal below has
one. -/
theorem served_le {r : Registry σ} {k : Nat} (outside : ∀ o, k ≤ o → r.service? o = none) :
    r.served ≤ k ∧ (r.served = k → ∀ o, o < k → ∃ s, r.service? o = some s) := by
  have split := served_take outside
  have short : (r.slots.take k).length ≤ k := List.length_take_le k r.slots
  have bound := List.countP_le_length (l := r.slots.take k) (p := fun slot : Slot σ => slot.service.isSome)
  refine ⟨by omega, ?_⟩
  intro full o below
  have all : (r.slots.take k).countP (fun slot => slot.service.isSome) = (r.slots.take k).length := by omega
  have inside : o < (r.slots.take k).length := by omega
  have member := List.getElem_mem inside
  have some_ := List.countP_eq_length.1 all _ member
  obtain ⟨s, served⟩ := Option.isSome_iff_exists.1 some_
  refine ⟨s, ?_⟩
  have atSlot := List.getElem?_eq_getElem inside
  rw [List.getElem?_take, if_pos below] at atSlot
  rw [service?, atSlot]
  exact served

/-- There are as many services at least as there are ordinals that all have one. -/
theorem le_served {r : Registry σ} {k : Nat} (all : ∀ o, o < k → ∃ s, r.service? o = some s) : k ≤ r.served := by
  have within : k ≤ r.slots.length := by
    refine Nat.le_of_not_lt fun outside => ?_
    obtain ⟨s, there⟩ := all r.slots.length outside
    rw [service?, List.getElem?_eq_none (Nat.le_refl _)] at there
    cases there
  have every : (r.slots.take k).countP (fun slot => slot.service.isSome) = (r.slots.take k).length := by
    rw [List.countP_eq_length]
    intro slot member
    obtain ⟨o, atSlot⟩ := List.getElem?_of_mem member
    rw [List.getElem?_take] at atSlot
    split at atSlot
    · rename_i below
      obtain ⟨s, there⟩ := all o below
      rw [service?, atSlot] at there
      rw [show slot.service = some s from there]
      rfl
    · cases atSlot
  have fewer := (List.take_sublist k r.slots).countP_le (p := fun slot => slot.service.isSome)
  rw [every, List.length_take, Nat.min_eq_left within] at fewer
  exact fewer

/-- Giving addresses ordinals claims none of them and starts no service. -/
theorem seed_vacant {r : Registry σ} (order : List String)
    (distinct : ∀ o o' a, r.address? o = some a → r.address? o' = some a → o = o')
    (free : ∀ o, r.isClaimed o = false) (idle : ∀ o, r.service? o = none) (none_ : r.served = 0) :
    (∀ o o' a, (r.seed order).1.address? o = some a → (r.seed order).1.address? o' = some a → o = o') ∧
      (∀ o, (r.seed order).1.isClaimed o = false) ∧ (∀ o, (r.seed order).1.service? o = none) ∧
      (r.seed order).1.served = 0 ∧ (r.seed order).1.restarting = r.restarting := by
  fun_induction seed r order with
  | case1 r => exact ⟨distinct, free, idle, none_, rfl⟩
  | case2 r address rest o found r' repeated run ih =>
    rw [run] at ih
    exact ih distinct free idle none_
  | case3 r address rest absent ih =>
    have after := getElem?_append_last r.slots { address := address }
    refine ih ?_ ?_ ?_ ?_
    · intro o o' a first second
      simp only [address?, after] at first second
      split at first <;> split at second
      · omega
      · cases first
        exact absurd second (ordinalOf?_eq_none absent o')
      · cases second
        exact absurd first (ordinalOf?_eq_none absent o)
      · exact distinct o o' a first second
    · intro o
      have before := free o
      simp only [isClaimed, after] at before ⊢
      split
      · rfl
      · exact before
    · intro o
      have before := idle o
      simp only [service?, after] at before ⊢
      split
      · rfl
      · exact before
    · simp only [served, List.countP_append] at none_ ⊢
      rw [none_]
      rfl

theorem withOrder_vacant (order : List String) :
    (withOrder (σ := σ) order).1.Sound ∧ (∀ o, (withOrder (σ := σ) order).1.isClaimed o = false) ∧
      (∀ o, (withOrder (σ := σ) order).1.service? o = none) ∧ (withOrder (σ := σ) order).1.served = 0 ∧
      (withOrder (σ := σ) order).1.restarting = false := by
  have empty : ∀ o o' a, ({} : Registry σ).address? o = some a → ({} : Registry σ).address? o' = some a → o = o' := by
    intro o o' a there
    simp [address?] at there
  obtain ⟨distinct, free, idle, none_, still⟩ := seed_vacant (r := ({} : Registry σ)) order empty
    (fun o => by simp [isClaimed]) (fun o => by simp [service?]) rfl
  refine ⟨⟨distinct, ?_⟩, free, idle, none_, still⟩
  intro o s there
  rw [withOrder, idle] at there
  cases there

end Registry

end Handover
