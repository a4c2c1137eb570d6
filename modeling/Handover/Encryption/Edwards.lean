import Handover.Encryption.Modular
import Handover.Encryption.Sha512

namespace Handover.Edwards

def modulus : Nat := Nat.pow 2 255 - 19

def d : Nat := 0x52036cee2b6ffe738cc740797779e89800700a4d4141d8ab75eb4dca135978a3

/-- A point of the curve `y ^ 2 - x ^ 2 = 1 + d * x ^ 2 * y ^ 2` as fractions, `(x / z, y / z)`, together with `t = x
* y / z`; one law of addition serves for all pairs of points. -/
structure Point where
  x : Nat
  y : Nat
  z : Nat
  t : Nat
deriving DecidableEq, Repr

def neutral : Point := ⟨0, 1, 1, 0⟩

def generator : Point :=
  let x := 0x216936d3cd6e53fec0a4e231fdd6dc5c692cc7609525a7b2c9562d608f25d51a
  let y := 0x6666666666666666666666666666666666666666666666666666666666666658
  ⟨x, y, 1, Modular.mul modulus x y⟩

def add (p q : Point) : Point :=
  let mul := Modular.mul modulus
  let sub := Modular.sub modulus
  let plus := Modular.add modulus
  let a := mul (sub p.y p.x) (sub q.y q.x)
  let b := mul (plus p.y p.x) (plus q.y q.x)
  let c := mul (mul 2 d) (mul p.t q.t)
  let e := mul 2 (mul p.z q.z)
  let f := sub b a
  let g := sub e c
  let h := plus e c
  let i := plus b a
  ⟨mul f g, mul h i, mul g h, mul f i⟩

def multiple (n : Nat) (p : Point) : Point :=
  if n = 0 then neutral
  else
    let half := multiple (n / 2) p
    let even := add half half
    if n % 2 = 1 then add even p else even
termination_by n
decreasing_by omega

/-- The bytes of a point: its second coordinate, with the lowest bit of the first as the highest. -/
def encode (p : Point) : List UInt8 :=
  let inverse := Modular.inverse modulus p.z
  let x := Modular.mul modulus p.x inverse
  let y := Modular.mul modulus p.y inverse
  Octets.littleEndian 32 (y + x % 2 * Nat.pow 2 255)

/-- The factor that a private key stands for: half of its digest, with some bits fixed. -/
def factor (privateKey : List UInt8) : Nat :=
  let n := Octets.ofLittleEndian ((Sha512.digest privateKey).take 32)
  Nat.pow 2 254 + n % Nat.pow 2 254 / 8 * 8

/-- The public key of a private key of thirty-two bytes. -/
def publicKey? (privateKey : List UInt8) : Option (List UInt8) :=
  if privateKey.length = 32 then some (encode (multiple (factor privateKey) generator)) else none

end Handover.Edwards
