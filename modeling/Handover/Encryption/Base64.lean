import Handover.Text.Quoted

namespace Handover.Base64

inductive Fault where
  | invalidCharacter (byte : UInt8)
  | prematurePadding
  | invalidPadding
deriving DecidableEq, Repr

def Fault.message : Fault → String
  | .invalidCharacter byte => "InvalidCharacter(" ++ toString byte.toNat ++ ")"
  | .prematurePadding => "PrematurePadding"
  | .invalidPadding => "InvalidPadding"

def isBlank (b : UInt8) : Bool := b == 0x20 || b == 0x09 || b == 0x0A || b == 0x0D

/-- The six bits that a character stands for. -/
def value? (b : UInt8) : Option Nat :=
  let n := b.toNat
  if 0x41 ≤ n ∧ n ≤ 0x5A then some (n - 0x41)
  else if 0x61 ≤ n ∧ n ≤ 0x7A then some (n - 0x61 + 26)
  else if 0x30 ≤ n ∧ n ≤ 0x39 then some (n - 0x30 + 52)
  else if n = 0x2B then some 62
  else if n = 0x2F then some 63
  else none

def pad : UInt8 := 0x3D

/-- The values of the characters before any padding, and the number of padding characters. -/
def symbols : List UInt8 → Except Fault (List Nat × Nat)
  | [] => .ok ([], 0)
  | b :: rest =>
    if isBlank b then symbols rest
    else if b = pad then do
      let (values, pads) ← symbols rest
      if values.isEmpty then return ([], pads + 1) else throw .prematurePadding
    else match value? b with
      | none => .error (.invalidCharacter b)
      | some v => do
        let (values, pads) ← symbols rest
        return (v :: values, pads)

/-- The bytes of values, four at a time; bits that fill no byte are dropped. -/
def pack : List Nat → List UInt8
  | a :: b :: c :: d :: rest =>
    UInt8.ofNat (a * 4 + b / 16) :: UInt8.ofNat (b % 16 * 16 + c / 4) :: UInt8.ofNat (c % 4 * 64 + d) :: pack rest
  | [a, b, c] => [UInt8.ofNat (a * 4 + b / 16), UInt8.ofNat (b % 16 * 16 + c / 4)]
  | [a, b] => [UInt8.ofNat (a * 4 + b / 16)]
  | _ => []

/-- The number of values and of padding characters go together. -/
def fits (values pads : Nat) : Bool :=
  match pads with
  | 0 => values % 4 != 1
  | 1 => values % 4 == 3
  | 2 => values % 4 == 2
  | _ => false

def decode (text : List UInt8) : Except Fault (List UInt8) := do
  let (values, pads) ← symbols text
  if fits values.length pads then return pack values else throw .invalidPadding

example : (decode "aGk=\n".toUTF8.data.toList).toOption = some [0x68, 0x69] := by decide +kernel
example : (decode "a!b".toUTF8.data.toList).toOption = none := by decide +kernel

end Handover.Base64
