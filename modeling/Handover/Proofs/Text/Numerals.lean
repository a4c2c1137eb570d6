import Handover.Text.Blank
import Handover.Text.Numeral
import Mathlib.Data.List.Induction
import Mathlib.Data.List.TakeWhile
import Mathlib.Data.Nat.Digits.Defs

namespace Handover

namespace Text

/-- There is no blank at either end. -/
structure Bare (l : List Char) : Prop where
  head : ∀ c, l.head? = some c → isBlank c = false
  last : ∀ c, l.getLast? = some c → isBlank c = false

/-- What is cut off at either end is blank. -/
theorem exists_trimBlanks (l : List Char) :
    ∃ before after, l = before ++ trimBlanks l ++ after ∧ (∀ c ∈ before, isBlank c = true) ∧
      ∀ c ∈ after, isBlank c = true := by
  refine ⟨l.takeWhile isBlank, ((l.dropWhile isBlank).reverse.takeWhile isBlank).reverse, ?_, ?_, ?_⟩
  · rw [trimBlanks, List.append_assoc, ← List.reverse_append, List.takeWhile_append_dropWhile, List.reverse_reverse,
      List.takeWhile_append_dropWhile]
  · exact fun c member => List.mem_takeWhile_imp member
  · exact fun c member => List.mem_takeWhile_imp (List.mem_reverse.1 member)

theorem dropWhile_eq_self {l : List Char} (head : ∀ c, l.head? = some c → isBlank c = false) :
    l.dropWhile isBlank = l := by
  cases l with
  | nil => rfl
  | cons c l => exact List.dropWhile_cons_of_neg (by rw [head c rfl]; exact Bool.false_ne_true)

/-- Blanks around a text without blanks at its ends are cut off. -/
theorem trimBlanks_append {before l after : List Char} (bare : Bare l) (blank : ∀ c ∈ before, isBlank c = true)
    (blank' : ∀ c ∈ after, isBlank c = true) : trimBlanks (before ++ l ++ after) = l := by
  have blankReverse : ∀ c ∈ after.reverse, isBlank c = true := fun c member => blank' c (List.mem_reverse.1 member)
  rw [trimBlanks, List.append_assoc, List.dropWhile_append_of_pos blank]
  cases l with
  | nil =>
    rw [List.nil_append, List.dropWhile_eq_nil_iff.2 blank']
    rfl
  | cons c l =>
    have kept : (c :: l ++ after).dropWhile isBlank = c :: l ++ after := dropWhile_eq_self fun d first => bare.head d first
    rw [kept, List.reverse_append, List.dropWhile_append_of_pos blankReverse, dropWhile_eq_self, List.reverse_reverse]
    intro d first
    rw [List.head?_reverse] at first
    exact bare.last d first

end Text

namespace Numeral

/-- The value of some digits: the last of them counts units, the one before it tens, and so on. -/
def value (digits : List Char) : Nat := Nat.ofDigits 10 (digits.reverse.map fun c => c.toNat - '0'.toNat)

/-- The text is a numeral of that value. -/
def Writes (text : List Char) (n : Nat) : Prop :=
  ∃ sign digits, text = sign ++ digits ∧ (sign = [] ∨ sign = ['+']) ∧ digits ≠ [] ∧ (∀ c ∈ digits, c.isDigit = true) ∧
    value digits = n

theorem value_append_singleton (digits : List Char) (c : Char) :
    value (digits ++ [c]) = value digits * 10 + (c.toNat - '0'.toNat) := by
  rw [value, List.reverse_append, List.reverse_singleton, List.singleton_append, List.map_cons, Nat.ofDigits_cons, value,
    Nat.mul_comm, Nat.add_comm]

theorem digit?_eq_some {c : Char} {d : Nat} :
    digit? c = some d ↔ c.isDigit = true ∧ c.toNat - '0'.toNat = d := by
  have same : c.isDigit = true ↔ '0' ≤ c ∧ c ≤ '9' := by
    simp [Char.isDigit, Char.le_def]
  unfold digit?
  split
  · rename_i digit
    simp [same.2 digit]
  · rename_i other
    simp [mt same.1 other]

/-- Digits that were read before stay what they are worth: more of them only add to the value. -/
theorem value_le_append (before after : List Char) : value before ≤ value (before ++ after) := by
  induction after using List.reverseRecOn with
  | nil => rw [List.append_nil]
  | append_singleton after c ih =>
    rw [← List.append_assoc, value_append_singleton]
    omega

/-- Reading on after some digits succeeds if only digits follow and the value of all of them is below the limit. -/
theorem digits_eq_ok {limit n : Nat} {before rest : List Char} :
    digits limit (value before) rest = .ok n ↔
      (∀ c ∈ rest, c.isDigit = true) ∧ value (before ++ rest) = n ∧ (rest ≠ [] → n < limit) := by
  induction rest generalizing before with
  | nil => simp [digits]
  | cons c rest ih =>
    have next : before ++ c :: rest = before ++ [c] ++ rest := by simp
    unfold digits
    cases digit : digit? c with
    | none =>
      have other : c.isDigit ≠ true := fun own => by simp [digit?_eq_some.2 ⟨own, rfl⟩] at digit
      simp [other]
    | some d =>
      obtain ⟨own, rfl⟩ := digit?_eq_some.1 digit
      dsimp only
      rw [← value_append_singleton, next]
      split
      · rename_i below
        rw [ih]
        simp only [List.forall_mem_cons, own, true_and, ne_eq, reduceCtorEq, not_false_eq_true, forall_const]
        constructor
        · rintro ⟨digits, same, below'⟩
          refine ⟨digits, same, ?_⟩
          cases rest with
          | nil => rw [← same, List.append_nil]; exact below
          | cons => exact below' (List.cons_ne_nil _ _)
        · exact fun ⟨digits, same, below'⟩ => ⟨digits, same, fun _ => below'⟩
      · rename_i beyond
        have more := value_le_append (before ++ [c]) rest
        simp only [reduceCtorEq, false_iff, not_and, ne_eq, not_false_eq_true, forall_const]
        rintro _ rfl
        omega

theorem ne_plus_of_isDigit {c : Char} (digit : c.isDigit = true) : c ≠ '+' := by
  rintro rfl
  cases digit

/-- A text is read exactly if it is a numeral of a value below the limit. -/
theorem read_eq_ok {limit n : Nat} {text : List Char} : read limit text = .ok n ↔ Writes text n ∧ n < limit := by
  have fromStart : ∀ {rest : List Char}, rest ≠ [] →
      (digits limit 0 rest = .ok n ↔ (∀ c ∈ rest, c.isDigit = true) ∧ value rest = n ∧ n < limit) := by
    intro rest some_
    have none_ : value [] = 0 := rfl
    rw [← none_, digits_eq_ok, List.nil_append, forall_prop_of_true some_]
  constructor
  · intro ok
    unfold read at ok
    split at ok
    · cases ok
    · cases ok
    · rename_i rest some_
      obtain ⟨all, same, below⟩ := (fromStart some_).1 ok
      exact ⟨⟨['+'], rest, rfl, Or.inr rfl, some_, all, same⟩, below⟩
    · rename_i some_ _ _
      obtain ⟨all, same, below⟩ := (fromStart some_).1 ok
      exact ⟨⟨[], text, rfl, Or.inl rfl, some_, all, same⟩, below⟩
  · rintro ⟨⟨sign, digits, rfl, unsigned | signed, some_, all, same⟩, below⟩
    · obtain ⟨c, rest, rfl⟩ := List.exists_cons_of_ne_nil some_
      have first := ne_plus_of_isDigit (all c List.mem_cons_self)
      subst unsigned
      unfold read
      split
      · contradiction
      · rename_i sign
        exact absurd (List.cons.inj sign).1 first
      · rename_i sign
        exact absurd (List.cons.inj sign).1 first
      · exact (fromStart some_).2 ⟨all, same, below⟩
    · obtain ⟨c, rest, rfl⟩ := List.exists_cons_of_ne_nil some_
      subst signed
      exact (fromStart some_).2 ⟨all, same, below⟩

theorem isBlank_of_isDigit {c : Char} (digit : c.isDigit = true) : Text.isBlank c = false := by
  have range : 48 ≤ c.toNat ∧ c.toNat ≤ 57 := by simpa [Char.isDigit, UInt32.le_iff_toNat_le] using digit
  simp only [Text.isBlank, Bool.or_eq_false_iff, Bool.and_eq_false_iff, decide_eq_false_iff_not, beq_eq_false_iff_ne]
  omega

/-- There is no blank in a numeral. -/
theorem Writes.bare {text : List Char} {n : Nat} (writes : Writes text n) : Text.Bare text := by
  obtain ⟨sign, digits, rfl, signs, _, all, _⟩ := writes
  have none_ : ∀ c ∈ sign ++ digits, Text.isBlank c = false := by
    intro c member
    rcases List.mem_append.1 member with first | digit
    · rcases signs with rfl | rfl
      · cases first
      · rw [List.mem_singleton.1 first]
        rfl
    · exact isBlank_of_isDigit (all c digit)
  exact ⟨fun c first => none_ c (List.mem_of_mem_head? first), fun c last => none_ c (List.mem_of_getLast? last)⟩

/-- The text is a numeral of that value with blanks around it, or without. -/
def Shows (text : List Char) (n : Nat) : Prop :=
  ∃ before numeral after, text = before ++ numeral ++ after ∧ (∀ c ∈ before, Text.isBlank c = true) ∧
    (∀ c ∈ after, Text.isBlank c = true) ∧ Writes numeral n

/-- A text is read without its blanks exactly if it shows a value below the limit. -/
theorem read_trimBlanks_eq_ok {limit n : Nat} {text : List Char} :
    read limit (Text.trimBlanks text) = .ok n ↔ Shows text n ∧ n < limit := by
  rw [read_eq_ok]
  refine and_congr_left fun _ => ⟨fun writes => ?_, fun ⟨before, numeral, after, same, blank, blank', writes⟩ => ?_⟩
  · obtain ⟨before, after, same, blank, blank'⟩ := Text.exists_trimBlanks text
    exact ⟨before, _, after, same, blank, blank', writes⟩
  · rwa [same, Text.trimBlanks_append writes.bare blank blank']

end Numeral

end Handover
