namespace Handover

structure Span where
  nanos : Nat
deriving DecidableEq, Repr, Inhabited

namespace Span

/-- A span of whole seconds and nanoseconds beyond them. -/
def ofParts (seconds nanos : Nat) : Span := ⟨seconds * 1000000000 + nanos⟩

def ofSeconds (n : Nat) : Span := ofParts n 0

def ofMillis (n : Nat) : Span := ⟨n * 1000000⟩

def seconds (s : Span) : Nat := s.nanos / 1000000000

def subsecond (s : Span) : Nat := s.nanos % 1000000000

def isZero (s : Span) : Bool := s.nanos == 0

/-- The clock ticks that pass before a timer of this span is due: whole milliseconds, rounded up. -/
def ticks (s : Span) : Nat := (s.nanos + 999999) / 1000000

/-- The fraction `part` of a unit of `10 ^ places`, without trailing zeros and with its point. -/
def fractionText (places part : Nat) : String :=
  let digits := (Nat.toDigits 10 part)
  let padded := List.replicate (places - digits.length) '0' ++ digits
  let kept := (padded.reverse.dropWhile (· == '0')).reverse
  if kept.isEmpty then "" else String.ofList ('.' :: kept)

/-- The span in the largest of s, ms, µs and ns in which it reaches one, with the decimals it needs. -/
def text (s : Span) : String :=
  let shown (places : Nat) (unit : String) : String :=
    toString (s.nanos / Nat.pow 10 places) ++ fractionText places (s.nanos % Nat.pow 10 places) ++ unit
  if 1000000000 ≤ s.nanos then shown 9 "s"
  else if 1000000 ≤ s.nanos then shown 6 "ms"
  else if 1000 ≤ s.nanos then shown 3 "µs"
  else shown 0 "ns"

example : (ofParts 1 1).text = "1.000000001s" := by decide +kernel
example : (ofMillis 50).text = "50ms" := by decide +kernel

end Span

/-- A limit on time as it is given, where a limit of zero is no limit. -/
def positive? (limit : Option Span) : Option Span := limit.filter fun s => !s.isZero

theorem positive?_eq_some {limit : Span} {given : Option Span} :
    positive? given = some limit ↔ given = some limit ∧ limit.isZero = false := by
  simp [positive?, Option.filter_eq_some_iff]

theorem positive?_eq_none {given : Option Span} :
    positive? given = none ↔ ∀ limit, given = some limit → limit.isZero = true := by
  cases given <;> simp [positive?, Option.filter]

/-- The text of a value that may be absent. -/
def optionText {α : Type} (text : α → String) : Option α → String
  | none => "None"
  | some a => "Some(" ++ text a ++ ")"

end Handover
