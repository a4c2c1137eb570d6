import Handover.Encryption.Der
import Handover.Encryption.Octets

namespace Handover

/-- A private key of RSA as it is encoded: the modulus, the exponents, the two primes, what the private exponent leaves
by each of them less one, and the inverse of the second by the first. -/
structure Rsa where
  modulus : Nat
  publicExponent : Nat
  privateExponent : Nat
  primes : Nat × Nat
  remainders : Nat × Nat
  inverse : Nat
deriving DecidableEq, Repr

namespace Rsa

/-- The identifier of RSA with its empty parameters, as encoded values. -/
def identifier : List UInt8 := [0x06, 0x09, 0x2A, 0x86, 0x48, 0x86, 0xF7, 0x0D, 0x01, 0x01, 0x01, 0x05, 0x00]

/-- The number of bits without leading zeros. -/
def size (n : Nat) : Nat := if n = 0 then 0 else n.log2 + 1

/-- Reads a key of version 0 with two primes. -/
def read? (bytes : List UInt8) : Option Rsa := do
  let rest ← Der.whole? Der.sequence bytes
  let (version, rest) ← Der.expect? Der.integer rest
  guard ((← Der.small? version) = 0)
  let (modulus, rest) ← Der.natural? rest
  let (publicExponent, rest) ← Der.natural? rest
  let (privateExponent, rest) ← Der.natural? rest
  let (p, rest) ← Der.natural? rest
  let (q, rest) ← Der.natural? rest
  let (first, rest) ← Der.natural? rest
  let (second, rest) ← Der.natural? rest
  let (inverse, rest) ← Der.natural? rest
  guard rest.isEmpty
  return { modulus, publicExponent, privateExponent, primes := (p, q), remainders := (first, second), inverse }

/-- The public part is of a length and with an exponent that are in use. -/
def isUsual (k : Rsa) : Bool :=
  let bytes := (size k.modulus + 7) / 8
  k.modulus % 2 = 1 && 256 ≤ bytes && size k.modulus ≤ 4096 &&
    k.publicExponent % 2 = 1 && 65537 ≤ k.publicExponent && k.publicExponent < 0x200000000

/-- A prime has half the length of the modulus, in steps of 512 bits, and its remainder is a possible exponent. -/
def isFactor (k : Rsa) (prime remainder : Nat) : Bool :=
  prime % 2 = 1 && size prime = (size k.modulus + 1) / 2 && size prime % 512 = 0 &&
    remainder < prime && remainder % 2 = 1

/-- The parts belong together, as far as this is examined: neither that the primes are prime nor that the exponents are
inverse to each other. -/
def isConsistent (k : Rsa) : Bool :=
  let (p, q) := k.primes
  k.isFactor p k.remainders.1 && k.isFactor q k.remainders.2 && p * q % k.modulus = 0 &&
    k.privateExponent % 2 = 1 && (size k.modulus + 1) / 2 < size k.privateExponent &&
    k.privateExponent < k.modulus && k.inverse < p && k.inverse * q % p = 1

/-- The public key that belongs to an encoded private one. -/
def publicKey? (bytes : List UInt8) : Option (List UInt8) := do
  let key ← read? bytes
  guard (key.isUsual && key.isConsistent)
  return Der.encode Der.sequence (Der.encodeNatural key.modulus ++ Der.encodeNatural key.publicExponent)

end Rsa

end Handover
