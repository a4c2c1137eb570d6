namespace Handover

inductive NumeralFault where
  | empty
  | badDigit
  | tooLarge
deriving DecidableEq, Repr

def NumeralFault.message : NumeralFault → String
  | .empty => "cannot parse integer from empty string"
  | .badDigit => "invalid digit found in string"
  | .tooLarge => "number too large to fit in target type"

namespace Numeral

def digit? (c : Char) : Option Nat :=
  if '0' ≤ c ∧ c ≤ '9' then some (c.toNat - '0'.toNat) else none

/-- Reads the remaining digits after a start of value `n`; the first character at which something is
wrong decides the fault. -/
def digits (limit n : Nat) : List Char → Except NumeralFault Nat
  | [] => .ok n
  | c :: rest =>
    match digit? c with
    | none => .error .badDigit
    | some d => if n * 10 + d < limit then digits limit (n * 10 + d) rest else .error .tooLarge

/-- The value of a numeral that is smaller than `limit`. -/
def read (limit : Nat) : List Char → Except NumeralFault Nat
  | [] => .error .empty
  | ['+'] => .error .badDigit
  | '+' :: rest => digits limit 0 rest
  | l => digits limit 0 l

def read64 (s : String) : Except NumeralFault Nat := read (Nat.pow 2 64) s.toList

end Numeral

end Handover
