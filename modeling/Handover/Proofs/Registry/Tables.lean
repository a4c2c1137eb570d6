import Handover.Proofs.Registry.Operations
import Handover.Proofs.Server.Capturing
import Mathlib.Data.List.Nodup

namespace Handover.Registry

variable {σ : Type}

/-- A map from addresses to ordinals and what is known of each ordinal. -/
structure Tables (σ : Type) where
  ordinals : List (String × Nat) := []
  slots : List (Slot σ) := []
deriving DecidableEq, Repr

namespace Tables

/-- The ordinal of an address, if it has one. -/
def ordinalOf? (t : Tables σ) (address : String) : Option Nat := t.ordinals.lookup address

/-- A new address gets the next ordinal. -/
def add (t : Tables σ) (slot : Slot σ) : Tables σ :=
  ⟨(slot.address, t.slots.length) :: t.ordinals, t.slots ++ [slot]⟩

/-- Gives every address in turn an ordinal unless it has one. -/
def seed (t : Tables σ) : List String → Tables σ
  | [] => t
  | address :: rest => if (t.ordinalOf? address).isSome then t.seed rest else seed (t.add { address }) rest

/-- The tables of a replacement to which `order` was handed over. -/
def withOrder (order : List String) : Tables σ := seed {} order

/-- Claims an address. -/
def reserve? (t : Tables σ) (address : String) : Option (Except Fault Nat × Tables σ) :=
  match t.ordinalOf? address with
  | some ordinal => do
    let slot ← t.slots[ordinal]?
    if slot.claimed then return (.error (.alreadyServing address), t)
    return (.ok ordinal, { t with slots := t.slots.set ordinal { slot with claimed := true } })
  | none => some (.ok t.slots.length, t.add { address, claimed := true })

/-- Gives up a claim. -/
def release (t : Tables σ) (ordinal : Nat) : Tables σ :=
  match t.slots[ordinal]? with
  | some slot =>
    if slot.service.isNone then { t with slots := t.slots.set ordinal { slot with claimed := false } } else t
  | none => t

/-- Records a service. -/
def attach? (t : Tables σ) (ordinal : Nat) (service : σ) : Option (Except Fault Unit × Tables σ) := do
  let slot ← t.slots[ordinal]?
  if slot.service.isSome then return (.error (.alreadyServing slot.address), t)
  return (.ok (), { t with slots := t.slots.set ordinal { slot with claimed := true, service := some service } })

/-- Claims an address and records its service. -/
def register? (t : Tables σ) (address : String) (service : σ) : Option (Except Fault Nat × Tables σ) := do
  match ← t.reserve? address with
  | (.error fault, t) => return (.error fault, t)
  | (.ok ordinal, t) =>
    let (attached, t) ← t.attach? ordinal service
    return (attached.map fun _ => ordinal, t)

/-- Does what is asked and answers. -/
def perform? (t : Tables σ) : Operation σ → Option (Answer × Tables σ)
  | .reserve address => (t.reserve? address).map fun p => (p.1.map some, p.2)
  | .release ordinal => some (.ok none, t.release ordinal)
  | .attach ordinal service => (t.attach? ordinal service).map fun p => (p.1.map fun _ => none, p.2)
  | .register address service => (t.register? address service).map fun p => (p.1.map some, p.2)

/-- The tables hold what the registry holds. -/
structure Agrees (t : Tables σ) (r : Registry σ) : Prop where
  slots : t.slots = r.slots
  ordinal : ∀ {a o}, t.ordinalOf? a = some o ↔ r.address? o = some a

end Tables

namespace Tables

variable {t : Tables σ} {r : Registry σ}

theorem Agrees.ordinalOf? (agrees : t.Agrees r) (a : String) : t.ordinalOf? a = r.ordinalOf? a := by
  cases found : r.ordinalOf? a with
  | some o => exact agrees.ordinal.2 (ordinalOf?_eq_some found)
  | none =>
    refine Option.eq_none_iff_forall_ne_some.2 fun o there => ?_
    exact ordinalOf?_eq_none found o (agrees.ordinal.1 there)

/-- What is known of an ordinal changes in both. -/
theorem Agrees.modify (agrees : t.Agrees r) {o : Nat} {slot : Slot σ} (atSlot : r.slots[o]? = some slot)
    (f : Slot σ → Slot σ) (address : ∀ slot, (f slot).address = slot.address) :
    Agrees { t with slots := t.slots.set o (f slot) } (r.modify o f) := by
  refine ⟨?_, ?_⟩
  · rw [Registry.modify, List.modify_eq_set_getElem?, atSlot, agrees.slots]
    rfl
  · intro a o'
    have same : (r.modify o f).address? o' = r.address? o' := by
      rw [address?, address?, slots_modify]
      split
      · rw [Option.map_map]
        congr 1
        exact funext address
      · rfl
    rw [same]
    exact agrees.ordinal

/-- A new address gets the same ordinal in both. -/
theorem Agrees.add (agrees : t.Agrees r) {slot : Slot σ} (absent : ∀ o, r.address? o ≠ some slot.address) :
    (t.add slot).Agrees { r with slots := r.slots ++ [slot] } := by
  refine ⟨by rw [Tables.add, agrees.slots], ?_⟩
  intro a o
  have after : ({ r with slots := r.slots ++ [slot] } : Registry σ).address? o =
      if r.slots.length = o then some slot.address else r.address? o := by
    simp only [address?, getElem?_append_last]
    split <;> rfl
  have outside : r.address? r.slots.length = none := address?_eq_none_iff.2 (Nat.le_refl _)
  rw [after, Tables.ordinalOf?, Tables.add, List.lookup_cons, agrees.slots]
  by_cases same : a = slot.address
  · subst same
    rw [beq_self_eq_true]
    by_cases here : r.slots.length = o
    · simp [here]
    · simp [here, absent o]
  · rw [beq_eq_false_iff_ne.2 same]
    refine agrees.ordinal.trans ?_
    by_cases here : r.slots.length = o
    · subst here
      simp [outside, Ne.symm same]
    · simp [here]

/-- Addresses that are given ordinals in turn get the same in both. -/
theorem Agrees.seed (agrees : t.Agrees r) (order : List String) : (t.seed order).Agrees (r.seed order).1 := by
  induction order generalizing t r with
  | nil => exact agrees
  | cons address rest ih =>
    rw [Tables.seed, agrees.ordinalOf? address, Registry.seed.eq_def]
    dsimp only
    cases found : r.ordinalOf? address with
    | some o => exact ih agrees
    | none => exact ih (agrees.add (ordinalOf?_eq_none found))

theorem Agrees.withOrder (order : List String) :
    (Tables.withOrder order).Agrees (Registry.withOrder (σ := σ) order).1 := by
  refine Agrees.seed ⟨rfl, ?_⟩ order
  intro a o
  simp [Tables.ordinalOf?, address?]

theorem Agrees.reserve? (agrees : t.Agrees r) (a : String) :
    (∃ o r' t', r.reserve a = .ok (o, r') ∧ t.reserve? a = some (.ok o, t') ∧ t'.Agrees r') ∨
      ∃ fault, r.reserve a = .error fault ∧ t.reserve? a = some (.error fault, t) := by
  have same := agrees.ordinalOf? a
  cases found : r.ordinalOf? a with
  | none =>
    refine Or.inl ⟨_, _, _, by rw [Registry.reserve, found], ?_, agrees.add (ordinalOf?_eq_none found)⟩
    rw [Tables.reserve?, same, found, agrees.slots]
  | some o =>
    obtain ⟨slot, atSlot, _⟩ := Option.map_eq_some_iff.1 (ordinalOf?_eq_some found)
    have reserved : r.reserve a = if slot.claimed then .error (.alreadyServing a)
        else .ok (o, r.modify o fun slot => { slot with claimed := true }) := by
      simp only [Registry.reserve, found, atSlot, Option.map_some, Option.getD_some]
    have reserved? : t.reserve? a = some (if slot.claimed then (.error (.alreadyServing a), t)
        else (.ok o, { t with slots := t.slots.set o { slot with claimed := true } })) := by
      simp only [Tables.reserve?, same, found, agrees.slots, atSlot, bind, Option.bind, pure]
      split <;> rfl
    rw [reserved, reserved?]
    split
    · exact Or.inr ⟨_, rfl, rfl⟩
    · have after := agrees.modify atSlot (fun slot => { slot with claimed := true }) fun _ => rfl
      exact Or.inl ⟨_, _, _, rfl, rfl, after⟩

theorem Agrees.release (agrees : t.Agrees r) (o : Nat) : (t.release o).Agrees (r.release o) := by
  unfold Tables.release Registry.release
  rw [agrees.slots]
  cases atSlot : r.slots[o]? with
  | none =>
    rw [Registry.modify, List.modify_eq_self (List.getElem?_eq_none_iff.1 atSlot)]
    exact agrees
  | some slot =>
    have after := agrees.modify atSlot
      (fun slot => if slot.service.isNone then { slot with claimed := false } else slot) (fun slot => by split <;> rfl)
    rw [agrees.slots] at after
    dsimp only at after ⊢
    split at after
    · rename_i vacant
      rwa [if_pos vacant]
    · rename_i served
      rw [if_neg served]
      have unchanged : r.slots.set o slot = t.slots := by
        obtain ⟨bound, rfl⟩ := List.getElem?_eq_some_iff.1 atSlot
        rw [List.set_getElem_self, agrees.slots]
      rwa [unchanged] at after

theorem Agrees.attach? (agrees : t.Agrees r) {o : Nat} {a : String} (named : r.address? o = some a) (s : σ) :
    (∃ r' t', r.attach o s = .ok r' ∧ t.attach? o s = some (.ok (), t') ∧ t'.Agrees r') ∨
      ∃ fault, r.attach o s = .error fault ∧ t.attach? o s = some (.error fault, t) := by
  obtain ⟨⟨address, claimed, service⟩, atSlot, _⟩ := Option.map_eq_some_iff.1 named
  unfold Registry.attach Tables.attach?
  rw [agrees.slots, atSlot]
  cases service with
  | some old => exact Or.inr ⟨_, rfl, rfl⟩
  | none =>
    have after := agrees.modify atSlot (fun slot => { slot with claimed := true, service := some s }) fun _ => rfl
    rw [agrees.slots] at after
    exact Or.inl ⟨_, _, rfl, rfl, after⟩

/-- An address that was free has no service, so that one can be recorded for it. -/
theorem Agrees.register? (agrees : t.Agrees r) (sound : r.Sound) (a : String) (s : σ) :
    (∃ o r' t', r.register a s = .ok (o, r') ∧ t.register? a s = some (.ok o, t') ∧ t'.Agrees r') ∨
      ∃ fault, r.register a s = .error fault ∧ t.register? a s = some (.error fault, t) := by
  rcases agrees.reserve? a with ⟨o, m, u, reserved, reserved?, agrees'⟩ | ⟨fault, refused, refused?⟩
  · rcases agrees'.attach? (address?_of_taken reserved) s with ⟨r', t', attached, attached?, agrees''⟩ | ⟨_, refused, _⟩
    · refine Or.inl ⟨o, r', t', ?_, ?_, agrees''⟩
      · simp only [Registry.register, reserved, attached, bind, Except.bind, pure, Except.pure]
      · simp only [Tables.register?, reserved?, attached?, bind, Option.bind, pure, Except.map]
    · obtain ⟨old, there⟩ := attach_eq_error refused
      obtain ⟨_, _, free, _, service, _⟩ := reserve_eq_ok reserved
      rw [service] at there
      rw [sound.claimed o old there] at free
      cases free
  · refine Or.inr ⟨fault, ?_, ?_⟩
    · simp only [Registry.register, refused, bind, Except.bind]
    · simp only [Tables.register?, refused?, bind, Option.bind, pure]

/-- The tables answer what the registry answers and go on holding what it holds. -/
theorem Agrees.perform? (agrees : t.Agrees r) (sound : r.Sound) {operation : Operation σ} {answer : Answer}
    {r' : Registry σ} (performed : r.perform? operation = some (answer, r')) :
    ∃ t', t.perform? operation = some (answer, t') ∧ t'.Agrees r' := by
  cases operation with
  | reserve a =>
    rcases agrees.reserve? a with ⟨o, m, t', run, run?, agrees'⟩ | ⟨fault, run, run?⟩ <;>
      rw [Registry.perform?, run] at performed <;> cases performed
    · exact ⟨t', by rw [Tables.perform?, run?]; rfl, agrees'⟩
    · exact ⟨t, by rw [Tables.perform?, run?]; rfl, agrees⟩
  | release o =>
    cases performed
    exact ⟨_, rfl, agrees.release o⟩
  | attach o s =>
    rw [Registry.perform?] at performed
    split at performed
    · rename_i within
      cases named : r.address? o with
      | none =>
        have outside := address?_eq_none_iff.1 named
        omega
      | some a =>
        rcases agrees.attach? named s with ⟨m, t', run, run?, agrees'⟩ | ⟨fault, run, run?⟩ <;>
          rw [run] at performed <;> cases performed
        · exact ⟨t', by rw [Tables.perform?, run?]; rfl, agrees'⟩
        · exact ⟨t, by rw [Tables.perform?, run?]; rfl, agrees⟩
    · cases performed
  | register a s =>
    rcases agrees.register? sound a s with ⟨o, m, t', run, run?, agrees'⟩ | ⟨fault, run, run?⟩ <;>
      rw [Registry.perform?, run] at performed <;> cases performed
    · exact ⟨t', by rw [Tables.perform?, run?]; rfl, agrees'⟩
    · exact ⟨t, by rw [Tables.perform?, run?]; rfl, agrees⟩

theorem Agrees.transcript (agrees : t.Agrees r) (sound : r.Sound) {r' : Registry σ}
    {history : List (Operation σ × Answer)} (transcript : Transcript Registry.perform? r history r') :
    ∃ t', Transcript Tables.perform? t history t' ∧ t'.Agrees r' := by
  induction transcript with
  | start => exact ⟨t, .start, agrees⟩
  | next earlier performed ih =>
    obtain ⟨m, before, agrees'⟩ := ih
    obtain ⟨t', performed', agrees''⟩ := agrees'.perform? (earlier.sound sound) performed
    exact ⟨t', before.next performed', agrees''⟩

end Tables

/-- The registry with every service as it is at a moment. -/
def map {τ : Type} (state : σ → τ) (r : Registry σ) : Registry τ :=
  { slots := r.slots.map fun slot => ⟨slot.address, slot.claimed, slot.service.map state⟩, restarting := r.restarting }

theorem attached_map {τ : Type} (state : σ → τ) (r : Registry σ) :
    (r.map state).attached = r.attached.map fun e => (e.1, e.2.1, state e.2.2) := by
  simp only [attached, numbered, map, List.zipIdx_map, List.map_map, List.filterMap_map, List.map_filterMap]
  congr 1
  funext e
  simp only [Function.comp_apply, Prod.map, Option.map_map]
  rfl

/-- What is captured are the services with an open listener, by ordinal. -/
theorem ordinals_of_snapshot {r : Registry σ} {state : σ → Service} {t t' : Descriptors}
    {captured : List Restart.Captured} (run : Restart.snapshot (r.map state) t = .ok (captured, t')) :
    captured.map (fun c => (c.ordinal, c.address)) =
      (r.attached.filter fun e => (state e.2.2).life.listener.handle?.isSome).map fun e => (e.1, e.2.1) := by
  have each := congrArg (List.map fun e : Nat × String × Socket => (e.1, e.2.1)) (Restart.capture_eq_ok run).1
  rw [List.map_map, List.map_map, Restart.openListeners, attached_map] at each
  refine each.trans ?_
  generalize r.attached = services
  induction services with
  | nil => rfl
  | cons e services ih =>
    cases held : (state e.2.2).life.listener.handle? <;> simpa [held] using ih

theorem Sound.nodup {r : Registry σ} (sound : r.Sound) : r.addresses.Nodup := by
  rw [List.nodup_iff_getElem?_ne_getElem?]
  intro o o' before within same
  rw [address?_addresses, address?_addresses] at same
  have named : r.address? o' = some r.addresses[o'] := by rw [← address?_addresses, List.getElem?_eq_getElem within]
  have := sound.distinct o o' _ (same.trans named) named
  omega

/-- Since a registry was made, addresses have kept the ordinals they got, each its own, and services theirs; an address
was claimed anew only after its claim had been given up without a service. Services and captured listeners come by
ordinal, every ordinal has a service or is listed as without one, and the two tables hold the same as the registry. -/
theorem ordinals_are_stable {order : List String} {earlier later : List (Operation σ × Answer)} {r r' : Registry σ}
    (built : Transcript perform? (withOrder order).1 earlier r) (changed : Transcript perform? r later r') :
    (r'.addresses.Nodup ∧ ∀ a o, r'.ordinalOf? a = some o ↔ r'.addresses[o]? = some a) ∧
      r.addresses <+: r'.addresses ∧
      (∀ o s, r.service? o = some s → r'.service? o = some s ∧ r'.isClaimed o = true) ∧
      (∀ p a o o' n, Takes p a o r → Takes r' a o' n → o' = o ∧ ∃ before after m,
        later = before ++ (.release o, .ok none) :: after ∧ Transcript perform? r before m ∧ m.service? o = none ∧
        Transcript perform? (m.release o) after r') ∧
      (r'.services = r'.attached.map (fun e => e.2.2) ∧ r'.attached.Pairwise fun e e' => e.1 < e'.1) ∧
      (∀ state t captured t', Restart.snapshot (r'.map state) t = .ok (captured, t') →
        captured.Pairwise (fun c c' => c.ordinal < c'.ordinal) ∧
        captured.map (fun c => (c.ordinal, c.address)) =
          (r'.attached.filter fun e => (state e.2.2).life.listener.handle?.isSome).map fun e => (e.1, e.2.1)) ∧
      ((∀ o a s, (o, a, s) ∈ r'.attached ↔ r'.address? o = some a ∧ r'.service? o = some s) ∧
        (∀ o a, (o, a) ∈ r'.unattached ↔ r'.address? o = some a ∧ r'.service? o = none) ∧
        (r'.attached.map Prod.fst ++ r'.unattached.map Prod.fst).Perm (List.range r'.size)) ∧
      ∃ t, Transcript Tables.perform? (Tables.withOrder order) (earlier ++ later) t ∧ t.slots = r'.slots ∧
        ∀ a, t.ordinalOf? a = r'.ordinalOf? a := by
  have sound : r.Sound := built.sound (withOrder_vacant order).1
  have sound' : r'.Sound := changed.sound sound
  have extended := changed.extends
  refine ⟨⟨?_, ?_⟩, extended.addresses, ?_, ?_, ⟨r'.services_eq_attached, r'.pairwise_attached⟩, ?_,
    ⟨fun _ _ _ => mem_attached, fun _ _ => mem_unattached, r'.attached_append_unattached_perm⟩, ?_⟩
  · exact sound'.nodup
  · intro a o
    rw [sound'.ordinalOf?_eq_some_iff, address?_addresses]
  · intro o s there
    exact ⟨extended.service there, sound'.claimed o s (extended.service there)⟩
  · intro p a o o' n first second
    exact changed.released_of_takes sound first second
  · intro state t captured t' run
    have each := ordinals_of_snapshot run
    refine ⟨?_, each⟩
    have ordinals := congrArg (List.map Prod.fst) each
    rw [List.map_map, List.map_map] at ordinals
    have ascending := List.pairwise_map.2 (r'.pairwise_attached.filter fun e =>
      (state e.2.2).life.listener.handle?.isSome)
    exact List.pairwise_map.1 (ordinals ▸ ascending)
  · obtain ⟨t, transcript, agrees⟩ := (Tables.Agrees.withOrder order).transcript (withOrder_vacant order).1
      (built.trans changed)
    exact ⟨t, transcript, agrees.slots, agrees.ordinalOf?⟩

namespace Sample

/-- What is asked of a registry for which the second address was handed over twice, until that address is claimed. -/
def earlier : List (Operation String × Answer) :=
  [(.reserve "b:2", .ok (some 1)), (.reserve "b:2", .error (.alreadyServing "b:2")), (.release 1, .ok none),
    (.release 7, .ok none), (.register "a:1" "first", .ok (some 0)), (.reserve "b:2", .ok (some 1))]

def claimed : Registry String := ⟨[⟨"a:1", true, some "first"⟩, ⟨"b:2", true, none⟩], false⟩

/-- Both claims are given up, of which one has a service, and another address is registered. -/
def later : List (Operation String × Answer) :=
  [(.release 0, .ok none), (.release 1, .ok none), (.register "c:3" "third", .ok (some 2)),
    (.attach 0 "other", .error (.alreadyServing "a:1"))]

def served : Registry String :=
  ⟨[⟨"a:1", true, some "first"⟩, ⟨"b:2", false, none⟩, ⟨"c:3", true, some "third"⟩], false⟩

end Sample

theorem second_claim_follows_release :
    Transcript perform? (withOrder ["a:1", "b:2", "b:2"]).1 Sample.earlier Sample.claimed ∧
      Transcript perform? Sample.claimed Sample.later Sample.served ∧
      Sample.served.service? 0 = some "first" ∧ Sample.served.isClaimed 0 = true ∧
      ∃ before after m, Sample.later = before ++ (.release 1, .ok none) :: after ∧
        Transcript perform? Sample.claimed before m ∧ m.service? 1 = none ∧
        Transcript perform? (m.release 1) after Sample.served := by
  have built : Transcript perform? (withOrder ["a:1", "b:2", "b:2"]).1 Sample.earlier Sample.claimed :=
    (((((Transcript.start.next rfl).next rfl).next rfl).next rfl).next rfl).next rfl
  have changed : Transcript perform? Sample.claimed Sample.later Sample.served :=
    (((Transcript.start.next rfl).next rfl).next rfl).next rfl
  obtain ⟨_, _, services, claims, _⟩ := ordinals_are_stable built changed
  obtain ⟨served, claimed⟩ := services 0 "first" rfl
  obtain ⟨_, released⟩ := claims ⟨[⟨"a:1", true, some "first"⟩, ⟨"b:2", false, none⟩], false⟩ "b:2" 1 1
    ⟨[⟨"a:1", true, some "first"⟩, ⟨"b:2", true, none⟩, ⟨"c:3", true, some "third"⟩], false⟩ (Or.inl rfl) (Or.inl rfl)
  exact ⟨built, changed, served, claimed, released⟩

end Handover.Registry
