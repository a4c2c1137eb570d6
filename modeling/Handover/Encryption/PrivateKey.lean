import Handover.Encryption.Der
import Handover.Encryption.Edwards
import Handover.Encryption.Pem
import Handover.Encryption.Rsa
import Handover.Encryption.Weierstrass

namespace Handover.PrivateKey

/-- The identifier of keys of elliptic curves, as an encoded value. -/
def curveKeys : List UInt8 := [0x06, 0x07, 0x2A, 0x86, 0x48, 0xCE, 0x3D, 0x02, 0x01]

/-- The identifier of Ed25519, as an encoded value. -/
def edwardsKeys : List UInt8 := [0x06, 0x03, 0x2B, 0x65, 0x70]

/-- A public key as certificates hold it: the algorithm and the key. -/
def published (algorithm key : List UInt8) : List UInt8 :=
  Der.encode Der.sequence algorithm ++ Der.encode Der.bitString (0 :: key)

/-- The number at the head of some bytes, and what stands behind it. -/
def number? (bytes : List UInt8) : Option (Nat × List UInt8) := do
  let (content, rest) ← Der.expect? Der.integer bytes
  return (← Der.small? content, rest)

/-- The public key of a private key of a curve; the public key has to stand beside it. -/
def ofCurve? (curve : Weierstrass) (bytes : List UInt8) : Option (List UInt8) := do
  let inner ← Der.whole? Der.sequence bytes
  let (version, rest) ← number? inner
  guard (version = 1)
  let (key, rest) ← Der.expect? Der.octetString rest
  let rest ←
    if Der.peek (Der.context 0) rest then do
      let (named, rest) ← Der.expect? (Der.context 0) rest
      guard (named = curve.identifier)
      pure rest
    else pure rest
  let beside ← Der.whole? Der.bitString (← Der.whole? (Der.context 1) rest)
  let publicKey ← curve.publicKey? key
  guard ((← Der.wholeBytes? beside) = publicKey)
  return published (curveKeys ++ curve.identifier) publicKey

/-- A private key with its algorithm: the version, the algorithm, the key, and the public key if it stands
beside it, which it does in version 1 and in no other. -/
def unwrap? (bytes : List UInt8) : Option (Nat × List UInt8 × List UInt8 × Option (List UInt8)) := do
  let inner ← Der.whole? Der.sequence bytes
  let (version, rest) ← number? inner
  let (algorithm, rest) ← Der.expect? Der.sequence rest
  guard (version ≤ 1)
  let (key, rest) ← Der.expect? Der.octetString rest
  let rest ←
    if Der.peek (Der.context 0) rest then do
      let (_, rest) ← Der.expect? (Der.context 0) rest
      pure rest
    else pure rest
  if version = 0 then
    guard rest.isEmpty
    return (version, algorithm, key, none)
  let bits ←
    if Der.peek (Der.context 1) rest then Der.whole? Der.bitString (← Der.whole? (Der.context 1) rest)
    else Der.whole? (Der.contextPrimitive 1) rest
  return (version, algorithm, key, some (← Der.wholeBytes? bits))

/-- The public key of a private key that comes with its algorithm. -/
def ofWrapped? (bytes : List UInt8) : Option (List UInt8) := do
  let (version, algorithm, key, beside) ← unwrap? bytes
  if algorithm = Rsa.identifier then
    guard (version = 0)
    return published Rsa.identifier (← Rsa.publicKey? key)
  else if algorithm = edwardsKeys then
    let publicKey ← Edwards.publicKey? (← Der.whole? Der.octetString key)
    guard (beside.all (· = publicKey))
    return published edwardsKeys publicKey
  else
    guard (version = 0)
    let curve ← [Weierstrass.p256, .p384].find? fun c => algorithm = curveKeys ++ c.identifier
    ofCurve? curve key

/-- The public key of a private key in a section of a text. -/
def publicKey? (s : Pem.Section) : Option (List UInt8) :=
  match s.kind with
  | .privateKey => ofWrapped? s.content
  | .rsaPrivateKey => (Rsa.publicKey? s.content).map (published Rsa.identifier)
  | .curvePrivateKey => [Weierstrass.p256, .p384].findSome? fun c => ofCurve? c s.content
  | .certificate | .other => none

end Handover.PrivateKey
