import Handover.Proofs.Registry.Slots

namespace Handover.Registry

variable {σ : Type}

/-- What is asked of a registry. -/
inductive Operation (σ : Type) where
  | reserve (address : String)
  | release (ordinal : Nat)
  | attach (ordinal : Nat) (service : σ)
  | register (address : String) (service : σ)

/-- The ordinal that was claimed, if one was asked for, or the reason of a refusal. -/
abbrev Answer := Except Fault (Option Nat)

/-- The answer and the registry after an operation. A refused one leaves the registry as it is. -/
def settle {α : Type} (r : Registry σ) (result : α → Option Nat × Registry σ) : Except Fault α → Answer × Registry σ
  | .ok a => (.ok (result a).1, (result a).2)
  | .error fault => (.error fault, r)

/-- Does what is asked and answers. Nothing can be recorded at an ordinal that was not given out. -/
def perform? (r : Registry σ) : Operation σ → Option (Answer × Registry σ)
  | .reserve address => some (r.settle (fun p => (some p.1, p.2)) (r.reserve address))
  | .release ordinal => some (.ok none, r.release ordinal)
  | .attach ordinal service =>
    if ordinal < r.size then some (r.settle (fun r' => (none, r')) (r.attach ordinal service)) else none
  | .register address service => some (r.settle (fun p => (some p.1, p.2)) (r.register address service))

/-- What was asked of something that `perform?` changes and what was answered, since it was `first`. -/
inductive Transcript {τ : Type} (perform? : τ → Operation σ → Option (Answer × τ)) (first : τ) :
    List (Operation σ × Answer) → τ → Prop
  | start : Transcript perform? first [] first
  | next {history t operation answer t'} : Transcript perform? first history t →
      perform? t operation = some (answer, t') → Transcript perform? first (history ++ [(operation, answer)]) t'

theorem Transcript.trans {τ : Type} {perform? : τ → Operation σ → Option (Answer × τ)} {first second third : τ}
    {earlier later : List (Operation σ × Answer)} (before : Transcript perform? first earlier second)
    (after : Transcript perform? second later third) : Transcript perform? first (earlier ++ later) third := by
  induction after with
  | start => rwa [List.append_nil]
  | next _ performed ih =>
    rw [← List.append_assoc]
    exact ih.next performed

/-- An address gets a claim, by itself or with its service. -/
def Takes (r : Registry σ) (address : String) (ordinal : Nat) (r' : Registry σ) : Prop :=
  r.reserve address = .ok (ordinal, r') ∨ ∃ service, r.register address service = .ok (ordinal, r')

theorem register_eq_ok {r r' : Registry σ} {a : String} {s : σ} {o : Nat} (run : r.register a s = .ok (o, r')) :
    ∃ m, r.reserve a = .ok (o, m) ∧ m.attach o s = .ok r' := by
  unfold register at run
  cases reserved : r.reserve a with
  | error fault =>
    rw [reserved] at run
    cases run
  | ok claimed =>
    obtain ⟨o', m⟩ := claimed
    rw [reserved] at run
    cases attached : m.attach o' s with
    | error fault =>
      simp only [bind, Except.bind, attached] at run
      cases run
    | ok r'' =>
      simp only [bind, Except.bind, attached, pure, Except.pure, Except.ok.injEq, Prod.mk.injEq] at run
      obtain ⟨rfl, rfl⟩ := run
      exact ⟨m, rfl, attached⟩

/-- How an operation goes. -/
inductive Effect (r : Registry σ) : Operation σ → Registry σ → Prop
  | refuse {operation} : Effect r operation r
  | reserve {a o r'} : r.reserve a = .ok (o, r') → Effect r (.reserve a) r'
  | release {o} : Effect r (.release o) (r.release o)
  | attach {o a s r'} : r.address? o = some a → r.attach o s = .ok r' → Effect r (.attach o s) r'
  | register {a s o m r'} : r.reserve a = .ok (o, m) → m.attach o s = .ok r' → Effect r (.register a s) r'

theorem eq_of_settle {α : Type} {r r' : Registry σ} {result : α → Option Nat × Registry σ} {run : Except Fault α}
    {answer : Answer} (settled : r.settle result run = (answer, r')) :
    r' = r ∨ ∃ a, run = .ok a ∧ (result a).2 = r' := by
  cases run with
  | error fault =>
    cases settled
    exact Or.inl rfl
  | ok a =>
    cases settled
    exact Or.inr ⟨a, rfl, rfl⟩

theorem effect_of_perform? {r r' : Registry σ} {operation : Operation σ} {answer : Answer}
    (performed : r.perform? operation = some (answer, r')) : Effect r operation r' := by
  cases operation with
  | reserve a =>
    rcases eq_of_settle (Option.some.inj performed) with rfl | ⟨⟨o, m⟩, run, rfl⟩
    · exact .refuse
    · exact .reserve run
  | release o =>
    cases performed
    exact .release
  | attach o s =>
    simp only [perform?] at performed
    split at performed
    · rename_i within
      rcases eq_of_settle (Option.some.inj performed) with rfl | ⟨m, run, rfl⟩
      · exact .refuse
      · cases named : r.address? o with
        | none =>
          have outside := address?_eq_none_iff.1 named
          omega
        | some a => exact .attach named run
    · cases performed
  | register a s =>
    rcases eq_of_settle (Option.some.inj performed) with rfl | ⟨⟨o, m⟩, run, rfl⟩
    · exact .refuse
    · obtain ⟨m', reserved, attached⟩ := register_eq_ok run
      exact .register reserved attached

/-- Addresses are added behind the others only, and a service stays at its ordinal. -/
structure Extends (r r' : Registry σ) : Prop where
  address : ∀ {o a}, r.address? o = some a → r'.address? o = some a
  service : ∀ {o s}, r.service? o = some s → r'.service? o = some s

namespace Extends

theorem refl (r : Registry σ) : Extends r r := ⟨id, id⟩

theorem trans {r r' r'' : Registry σ} (first : Extends r r') (second : Extends r' r'') : Extends r r'' :=
  ⟨fun there => second.address (first.address there), fun there => second.service (first.service there)⟩

theorem reserve {r r' : Registry σ} {a : String} {o : Nat} (run : r.reserve a = .ok (o, r')) : Extends r r' := by
  obtain ⟨_, _, _, _, service, _, _⟩ := reserve_eq_ok run
  exact ⟨address?_of_reserve run, fun there => (service _).trans there⟩

theorem release (r : Registry σ) (o : Nat) : Extends r (r.release o) := by
  obtain ⟨address, _, service, _, _⟩ := r.views_release o
  exact ⟨fun there => (address _).trans there, fun there => (service _).trans there⟩

theorem attach {r r' : Registry σ} {o : Nat} {a : String} {s : σ} (run : r.attach o s = .ok r')
    (named : r.address? o = some a) : Extends r r' := by
  obtain ⟨vacant, address, _, service, _, _⟩ := attach_eq_ok run named
  refine ⟨fun there => (address _).trans there, ?_⟩
  intro o' s' there
  have apart : o ≠ o' := by
    rintro rfl
    rw [vacant] at there
    cases there
  rw [service, if_neg apart, there]

theorem addresses {r r' : Registry σ} (extended : Extends r r') : r.addresses <+: r'.addresses := by
  rw [List.prefix_iff_getElem?]
  intro o bound
  rw [address?_addresses]
  refine extended.address ?_
  rw [← address?_addresses, List.getElem?_eq_getElem bound]

end Extends

/-- Only the claim of one address has changed, or it has got an ordinal. -/
structure AlikeBut (a : String) (r r' : Registry σ) : Prop where
  service? : ∀ o, r'.service? o = r.service? o
  address? : ∀ {o b}, b ≠ a → (r'.address? o = some b ↔ r.address? o = some b)
  ordinal : ∀ {o}, r.address? o = some a → r'.address? o = some a
  isClaimed : ∀ {o b}, b ≠ a → r.address? o = some b → r'.isClaimed o = r.isClaimed o
  size : r'.size = r.size ∨ (∀ o, r.address? o ≠ some a) ∧ r'.size = r.size + 1
  restarting : r'.restarting = r.restarting

namespace AlikeBut

theorem refl (a : String) (r : Registry σ) : AlikeBut a r r :=
  ⟨fun _ => rfl, fun _ => Iff.rfl, id, fun _ _ => rfl, .inl rfl, rfl⟩

theorem reserve {r r' : Registry σ} {a : String} {o : Nat} (run : r.reserve a = .ok (o, r')) : AlikeBut a r r' := by
  obtain ⟨address, known, _, isClaimed, service, _, restarting⟩ := reserve_eq_ok run
  have apart : ∀ {o' b}, b ≠ a → r.address? o' = some b → o ≠ o' := by
    rintro o' b other there rfl
    rcases known with already | ⟨absent, _⟩
    · exact other (Option.some.inj (there.symm.trans already))
    · rw [absent] at there
      cases there
  refine ⟨service, ?_, address?_of_reserve run, ?_, ?_, restarting⟩
  · intro o' b other
    rw [address]
    split
    · rename_i here
      subst here
      exact ⟨fun there => absurd (Option.some.inj there).symm other, fun there => absurd rfl (apart other there)⟩
    · exact Iff.rfl
  · intro o' b other there
    rw [isClaimed, decide_eq_false (apart other there), Bool.false_or]
  · unfold Registry.reserve at run
    split at run
    · rename_i absent
      cases run
      exact .inr ⟨ordinalOf?_eq_none absent, List.length_append⟩
    · split at run
      · cases run
      · cases run
        exact .inl (List.length_modify ..)

theorem release {r : Registry σ} {a : String} {o : Nat} (named : r.address? o = some a) :
    AlikeBut a r (r.release o) := by
  obtain ⟨address, isClaimed, service, _, restarting⟩ := r.views_release o
  refine ⟨service, fun _ => by rw [address], fun there => (address _).trans there, ?_, .inl (List.length_modify ..),
    restarting⟩
  intro o' b other there
  have apart : o ≠ o' := by
    rintro rfl
    exact other (Option.some.inj (there.symm.trans named))
  rw [isClaimed, decide_eq_true apart, Bool.true_or, Bool.and_true]

end AlikeBut

theorem address?_of_taken {r r' : Registry σ} {a : String} {o : Nat} (run : r.reserve a = .ok (o, r')) :
    r'.address? o = some a := by
  obtain ⟨address, _⟩ := reserve_eq_ok run
  rw [address, if_pos rfl]

theorem Effect.extends {r r' : Registry σ} {operation : Operation σ} (effect : Effect r operation r') :
    Extends r r' := by
  cases effect with
  | refuse => exact .refl r
  | reserve run => exact .reserve run
  | release => exact .release r _
  | attach named run => exact .attach run named
  | register reserved attached => exact (Extends.reserve reserved).trans (.attach attached (address?_of_taken reserved))

theorem Effect.sound {r r' : Registry σ} {operation : Operation σ} (effect : Effect r operation r') (sound : r.Sound) :
    r'.Sound := by
  cases effect with
  | refuse => exact sound
  | reserve run => exact sound.reserve run
  | release => exact sound.release _
  | attach named run => exact sound.attach run named
  | register reserved attached => exact (sound.reserve reserved).attach attached (address?_of_taken reserved)

/-- Only giving up a claim takes it away, and only where there is no service. -/
theorem Effect.released {r r' : Registry σ} {operation : Operation σ} (effect : Effect r operation r') {o : Nat}
    (claimed : r.isClaimed o = true) (free : r'.isClaimed o = false) :
    operation = .release o ∧ r.service? o = none ∧ r' = r.release o := by
  cases effect with
  | refuse =>
    rw [claimed] at free
    cases free
  | reserve run =>
    obtain ⟨_, _, _, isClaimed, _⟩ := reserve_eq_ok run
    rw [isClaimed, claimed, Bool.or_true] at free
    cases free
  | @release o' =>
    obtain ⟨_, isClaimed, _⟩ := r.views_release o'
    rw [isClaimed, claimed, Bool.true_and, Bool.or_eq_false_iff, decide_eq_false_iff_not, Classical.not_not,
      Option.isSome_eq_false_iff, Option.isNone_iff_eq_none] at free
    obtain ⟨rfl, vacant⟩ := free
    exact ⟨rfl, vacant, rfl⟩
  | attach named run =>
    obtain ⟨_, _, isClaimed, _⟩ := attach_eq_ok run named
    rw [isClaimed, claimed, Bool.or_true] at free
    cases free
  | register reserved attached =>
    obtain ⟨_, _, _, isClaimed, _⟩ := reserve_eq_ok reserved
    obtain ⟨_, _, isClaimed', _⟩ := attach_eq_ok attached (address?_of_taken reserved)
    rw [isClaimed', isClaimed, claimed, Bool.or_true, Bool.or_true] at free
    cases free

theorem Transcript.sound {r r' : Registry σ} {history : List (Operation σ × Answer)}
    (transcript : Transcript perform? r history r') (sound : r.Sound) : r'.Sound := by
  induction transcript with
  | start => exact sound
  | next _ performed ih => exact (effect_of_perform? performed).sound ih

theorem Transcript.extends {r r' : Registry σ} {history : List (Operation σ × Answer)}
    (transcript : Transcript perform? r history r') : Extends r r' := by
  induction transcript with
  | start => exact .refl r
  | next _ performed ih => exact ih.trans (effect_of_perform? performed).extends

/-- A claim that is gone was given up when there was no service. -/
theorem Transcript.released {r r' : Registry σ} {history : List (Operation σ × Answer)}
    (transcript : Transcript perform? r history r') {o : Nat} (claimed : r.isClaimed o = true)
    (free : r'.isClaimed o = false) :
    ∃ before after m, history = before ++ (.release o, .ok none) :: after ∧ Transcript perform? r before m ∧
      m.service? o = none ∧ Transcript perform? (m.release o) after r' := by
  induction transcript with
  | start =>
    rw [claimed] at free
    cases free
  | @next history m operation answer r' earlier performed ih =>
    cases held : m.isClaimed o with
    | true =>
      obtain ⟨rfl, vacant, rfl⟩ := (effect_of_perform? performed).released held free
      cases performed
      exact ⟨history, [], m, rfl, earlier, vacant, .start⟩
    | false =>
      obtain ⟨before, after, q, rfl, first, vacant, rest⟩ := ih held
      refine ⟨before, after ++ [(operation, answer)], q, ?_, first, vacant, rest.next performed⟩
      rw [List.append_assoc, List.cons_append]

theorem Takes.reserved {r r' : Registry σ} {a : String} {o : Nat} (takes : r.Takes a o r') :
    ∃ m, r.reserve a = .ok (o, m) ∧ r'.address? o = some a ∧ r'.isClaimed o = true := by
  rcases takes with reserved | ⟨s, registered⟩
  · obtain ⟨_, _, _, isClaimed, _⟩ := reserve_eq_ok reserved
    exact ⟨r', reserved, address?_of_taken reserved, by rw [isClaimed, decide_eq_true rfl, Bool.true_or]⟩
  · obtain ⟨m, reserved, attached⟩ := register_eq_ok registered
    have named := address?_of_taken reserved
    obtain ⟨_, _, isClaimed, _⟩ := attach_eq_ok attached named
    exact ⟨m, reserved, (Extends.attach attached named).address named,
      by rw [isClaimed, decide_eq_true rfl, Bool.true_or]⟩

/-- An address keeps its ordinal, so that its next claim follows a release of that ordinal. -/
theorem Transcript.released_of_takes {p r r' n : Registry σ} {history : List (Operation σ × Answer)}
    (transcript : Transcript perform? r history r') (sound : r.Sound) {a : String} {o o' : Nat}
    (first : p.Takes a o r) (second : r'.Takes a o' n) :
    o' = o ∧ ∃ before after m, history = before ++ (.release o, .ok none) :: after ∧
      Transcript perform? r before m ∧ m.service? o = none ∧ Transcript perform? (m.release o) after r' := by
  obtain ⟨_, _, named, claimed⟩ := first.reserved
  obtain ⟨m, reserved, _⟩ := second.reserved
  have kept := transcript.extends.address named
  obtain ⟨_, known, free, _⟩ := reserve_eq_ok reserved
  have same : o' = o := by
    rcases known with already | ⟨_, absent⟩
    · exact (transcript.sound sound).distinct o' o a already kept
    · exact absurd kept (absent o)
  subst same
  exact ⟨rfl, transcript.released claimed free⟩

end Handover.Registry
