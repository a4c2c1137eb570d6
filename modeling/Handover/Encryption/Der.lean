import Handover.Encryption.Octets

namespace Handover.Der

abbrev Tag := UInt8

def boolean : Tag := 0x01

def integer : Tag := 0x02

def bitString : Tag := 0x03

def octetString : Tag := 0x04

/-- An identifier of a standard thing. -/
def objectIdentifier : Tag := 0x06

def sequence : Tag := 0x30

/-- A value within another that is told apart by a number alone. -/
def context (n : UInt8) : Tag := 0xA0 + n

/-- The same for a value without values in it. -/
def contextPrimitive (n : UInt8) : Tag := 0x80 + n

/-- The length at the head of some bytes, in the fewest bytes, below the greatest that two bytes can give. -/
def length? : List UInt8 → Option (Nat × List UInt8)
  | n :: rest =>
    if n < 0x80 then some (n.toNat, rest)
    else if n = 0x81 then
      match rest with
      | a :: rest => if a < 0x80 then none else some (a.toNat, rest)
      | [] => none
    else if n = 0x82 then
      match rest with
      | a :: b :: rest =>
        if a = 0 ∨ a = 0xFF ∧ b = 0xFF then none else some (a.toNat * 256 + b.toNat, rest)
      | _ => none
    else none
  | [] => none

/-- The tag and the content of the value at the head of some bytes, and what stands behind it. -/
def value? : List UInt8 → Option (Tag × List UInt8 × List UInt8)
  | tag :: rest =>
    if tag &&& 0x1F = 0x1F then none
    else match length? rest with
      | none => none
      | some (length, rest) =>
        if length ≤ rest.length then some (tag, rest.take length, rest.drop length) else none
  | [] => none

/-- The content of the value at the head of some bytes, if it has the tag, and what stands behind it. -/
def expect? (tag : Tag) (bytes : List UInt8) : Option (List UInt8 × List UInt8) :=
  match value? bytes with
  | some (found, content, rest) => if found = tag then some (content, rest) else none
  | none => none

/-- The value at the head of some bytes has the tag. -/
def peek (tag : Tag) (bytes : List UInt8) : Bool := bytes.head? == some tag

/-- The content of a value that is all there is. -/
def whole? (tag : Tag) (bytes : List UInt8) : Option (List UInt8) :=
  match expect? tag bytes with
  | some (content, []) => some content
  | _ => none

/-- The bytes of a string of bits that fills whole bytes. -/
def wholeBytes? : List UInt8 → Option (List UInt8)
  | 0 :: bytes => some bytes
  | _ => none

/-- The number that is the content of a value, if it is below 256. -/
def small? : List UInt8 → Option Nat
  | [n] => if n < 0x80 then some n.toNat else none
  | [0, n] => if n < 0x80 then none else some n.toNat
  | _ => none

def encode (tag : Tag) (content : List UInt8) : List UInt8 :=
  let n := content.length
  if n < 0x80 then tag :: UInt8.ofNat n :: content
  else if n < 0x100 then tag :: 0x81 :: UInt8.ofNat n :: content
  else tag :: 0x82 :: UInt8.ofNat (n / 256) :: UInt8.ofNat (n % 256) :: content

/-- The content of a number that is not negative, in the fewest bytes. -/
def naturalContent? : List UInt8 → Option Nat
  | [] => none
  | [0] => some 0
  | 0 :: b :: rest => if b < 0x80 then none else some (Octets.ofBigEndian (b :: rest))
  | b :: rest => if b < 0x80 then some (Octets.ofBigEndian (b :: rest)) else none

/-- The number at the head of some bytes, if it is not negative, and what stands behind it. -/
def natural? (bytes : List UInt8) : Option (Nat × List UInt8) := do
  let (content, rest) ← expect? integer bytes
  return (← naturalContent? content, rest)

/-- A number in the fewest bytes of which the highest bit is not set. -/
def encodeNatural (n : Nat) : List UInt8 := encode integer (Octets.bigEndian ((n.log2 + 1) / 8 + 1) n)

theorem length_of_length? {bytes rest : List UInt8} {n : Nat} (h : length? bytes = some (n, rest)) :
    rest.length < bytes.length := by
  unfold length? at h
  repeat' split at h
  all_goals simp at h
  all_goals
    obtain ⟨-, rfl⟩ := h
    simp only [List.length_cons]
    omega

theorem length_of_value? {bytes content rest : List UInt8} {tag : Tag}
    (h : value? bytes = some (tag, content, rest)) : content.length + rest.length < bytes.length := by
  unfold value? at h
  split at h
  · split at h
    · cases h
    · split at h
      · cases h
      · split at h
        · rename_i found _
          have := length_of_length? found
          cases h
          simp only [List.length_take, List.length_drop, List.length_cons]
          omega
        · cases h
  · cases h

theorem length_of_expect? {bytes content rest : List UInt8} {tag : Tag}
    (h : expect? tag bytes = some (content, rest)) : content.length + rest.length < bytes.length := by
  unfold expect? at h
  split at h
  · rename_i found
    have := length_of_value? found
    split at h <;> cases h
    exact this
  · cases h

end Handover.Der
