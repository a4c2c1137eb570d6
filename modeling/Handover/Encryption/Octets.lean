namespace Handover.Octets

/-- The bytes of a number below `256 ^ count`, the highest first. -/
def bigEndian : Nat → Nat → List UInt8
  | 0, _ => []
  | count + 1, n => bigEndian count (n / 256) ++ [UInt8.ofNat (n % 256)]

/-- The number that bytes stand for, the highest first. -/
def ofBigEndian (bytes : List UInt8) : Nat := bytes.foldl (fun n b => n * 256 + b.toNat) 0

/-- The bytes of a number below `256 ^ count`, the lowest first. -/
def littleEndian (count n : Nat) : List UInt8 := (bigEndian count n).reverse

/-- The number that bytes stand for, the lowest first. -/
def ofLittleEndian (bytes : List UInt8) : Nat := ofBigEndian bytes.reverse

end Handover.Octets
