import Handover.Encryption.Modular
import Handover.Encryption.Octets

namespace Handover

/-- A curve `y ^ 2 = x ^ 3 + a * x + b` with a point on it that generates a group of prime order. A coordinate takes
`width` bytes, and `identifier` is the encoded name of the curve. -/
structure Weierstrass where
  modulus : Nat
  a : Nat
  b : Nat
  order : Nat
  generator : Nat × Nat
  width : Nat
  identifier : List UInt8

namespace Weierstrass

/-- A point as fractions, `(x / z ^ 2, y / z ^ 3)`, where `z = 0` makes the neutral point. -/
structure Point where
  x : Nat
  y : Nat
  z : Nat
deriving DecidableEq, Repr

def neutral : Point := ⟨1, 1, 0⟩

def Point.isNeutral (p : Point) : Bool := p.z == 0

def double (c : Weierstrass) (p : Point) : Point :=
  let mul := Modular.mul c.modulus
  let add := Modular.add c.modulus
  let sub := Modular.sub c.modulus
  if p.z = 0 ∨ p.y = 0 then neutral
  else
    let yy := mul p.y p.y
    let zz := mul p.z p.z
    let s := mul 4 (mul p.x yy)
    let m := add (mul 3 (mul p.x p.x)) (mul c.a (mul zz zz))
    let x := sub (mul m m) (mul 2 s)
    ⟨x, sub (mul m (sub s x)) (mul 8 (mul yy yy)), mul 2 (mul p.y p.z)⟩

def add (c : Weierstrass) (p q : Point) : Point :=
  let mul := Modular.mul c.modulus
  let sub := Modular.sub c.modulus
  if p.isNeutral then q
  else if q.isNeutral then p
  else
    let pp := mul p.z p.z
    let qq := mul q.z q.z
    let u := mul p.x qq
    let s := mul p.y (mul q.z qq)
    let h := sub (mul q.x pp) u
    let r := sub (mul q.y (mul p.z pp)) s
    if h = 0 then if r = 0 then c.double p else neutral
    else
      let hh := mul h h
      let hhh := mul h hh
      let v := mul u hh
      let x := sub (sub (mul r r) hhh) (mul 2 v)
      ⟨x, sub (mul r (sub v x)) (mul s hhh), mul h (mul p.z q.z)⟩

def multiple (c : Weierstrass) (n : Nat) (p : Point) : Point :=
  if n = 0 then neutral
  else
    let even := c.double (c.multiple (n / 2) p)
    if n % 2 = 1 then c.add even p else even
termination_by n
decreasing_by omega

/-- The bytes of a point that is not neutral: a mark and both coordinates. -/
def encode (c : Weierstrass) (p : Point) : List UInt8 :=
  let inverse := Modular.inverse c.modulus p.z
  let square := Modular.mul c.modulus inverse inverse
  let x := Modular.mul c.modulus p.x square
  let y := Modular.mul c.modulus p.y (Modular.mul c.modulus square inverse)
  0x04 :: Octets.bigEndian c.width x ++ Octets.bigEndian c.width y

/-- The public key of a private key, which has to be as wide as a coordinate and between zero and the order. -/
def publicKey? (c : Weierstrass) (privateKey : List UInt8) : Option (List UInt8) :=
  let d := Octets.ofBigEndian privateKey
  if privateKey.length = c.width ∧ 0 < d ∧ d < c.order then
    some (c.encode (c.multiple d ⟨c.generator.1, c.generator.2, 1⟩))
  else none

def p256 : Weierstrass where
  modulus := 0xffffffff00000001000000000000000000000000ffffffffffffffffffffffff
  a := 0xffffffff00000001000000000000000000000000fffffffffffffffffffffffc
  b := 0x5ac635d8aa3a93e7b3ebbd55769886bc651d06b0cc53b0f63bce3c3e27d2604b
  order := 0xffffffff00000000ffffffffffffffffbce6faada7179e84f3b9cac2fc632551
  generator := (0x6b17d1f2e12c4247f8bce6e563a440f277037d812deb33a0f4a13945d898c296,
    0x4fe342e2fe1a7f9b8ee7eb4a7c0f9e162bce33576b315ececbb6406837bf51f5)
  width := 32
  identifier := [0x06, 0x08, 0x2A, 0x86, 0x48, 0xCE, 0x3D, 0x03, 0x01, 0x07]

def p384 : Weierstrass where
  modulus :=
    0xfffffffffffffffffffffffffffffffffffffffffffffffffffffffffffffffeffffffff0000000000000000ffffffff
  a :=
    0xfffffffffffffffffffffffffffffffffffffffffffffffffffffffffffffffeffffffff0000000000000000fffffffc
  b :=
    0xb3312fa7e23ee7e4988e056be3f82d19181d9c6efe8141120314088f5013875ac656398d8a2ed19d2a85c8edd3ec2aef
  order :=
    0xffffffffffffffffffffffffffffffffffffffffffffffffc7634d81f4372ddf581a0db248b0a77aecec196accc52973
  generator := (
    0xaa87ca22be8b05378eb1c71ef320ad746e1d3b628ba79b9859f741e082542a385502f25dbf55296c3a545e3872760ab7,
    0x3617de4a96262c6f5d9e98bf9292dc29f8f41dbd289a147ce9da3113b5f0b8c00a60b1ce1d7e819d7a431d7c90ea0e5f)
  width := 48
  identifier := [0x06, 0x05, 0x2B, 0x81, 0x04, 0x00, 0x22]

end Weierstrass

end Handover
