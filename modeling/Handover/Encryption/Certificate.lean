import Handover.Encryption.Der

namespace Handover

/-- A certificate. Only its form is examined, neither dates nor signatures; what is kept is the public key with its
algorithm. -/
structure Certificate where
  publicKey : List UInt8
deriving DecidableEq, Repr

namespace Certificate

inductive Fault where
  | badEncoding
  | version
  | algorithms
  | criticalExtension
  | repeatedExtension
deriving DecidableEq, Repr

def Fault.message : Fault → String
  | .badEncoding => "BadEncoding"
  | .version => "Other(OtherError(UnsupportedCertVersion))"
  | .algorithms => "Other(OtherError(SignatureAlgorithmMismatch))"
  | .criticalExtension => "Other(OtherError(UnsupportedCriticalExtension))"
  | .repeatedExtension => "Other(OtherError(ExtensionValueInvalid))"

def need {α : Type} : Option α → Except Fault α
  | some a => .ok a
  | none => .error .badEncoding

/-- The value at the head of some bytes has to have a tag. -/
def expect (tag : Der.Tag) (bytes : List UInt8) : Except Fault (List UInt8 × List UInt8) :=
  need (Der.expect? tag bytes)

/-- The parts of what was signed: the signed bytes, the algorithm of the signature. -/
def signedParts (bytes : List UInt8) : Except Fault (List UInt8 × List UInt8) := do
  let inner ← need (Der.whole? Der.sequence bytes)
  let (signed, rest) ← expect Der.sequence inner
  let (algorithm, rest) ← expect Der.sequence rest
  let signature ← need (Der.whole? Der.bitString rest)
  discard <| need (Der.wholeBytes? signature)
  return (signed, algorithm)

def version3 (bytes : List UInt8) : Except Fault (List UInt8) :=
  match Der.expect? (Der.context 0) bytes with
  | none => .error .version
  | some (content, rest) =>
    match Der.expect? Der.integer content with
    | none => .error .badEncoding
    | some (number, behind) =>
      match Der.small? number with
      | none => .error .badEncoding
      | some n => if n = 2 ∧ behind.isEmpty then .ok rest else .error .version

/-- What the identifiers of the standard extensions have in common. -/
def extensionArc : List UInt8 := [0x55, 0x1D]

/-- The last parts of the identifiers of the extensions that are known. -/
def knownExtensions : List UInt8 := [15, 17, 19, 30, 31, 37]

/-- Whether an extension is critical, with what stands behind that. -/
def critical (bytes : List UInt8) : Except Fault (Bool × List UInt8) :=
  if Der.peek Der.boolean bytes then do
    let (content, rest) ← expect Der.boolean bytes
    match content with
    | [0xFF] => return (true, rest)
    | [0x00] => return (false, rest)
    | _ => throw .badEncoding
  else .ok (false, bytes)

/-- Takes an extension; `seen` holds the ones that were taken before. -/
def takeExtension (seen : List UInt8) (bytes : List UInt8) : Except Fault (List UInt8) := do
  let (identifier, rest) ← expect Der.objectIdentifier bytes
  let (critical, rest) ← critical rest
  let value ← need (Der.whole? Der.octetString rest)
  let unknown : Except Fault (List UInt8) := if critical then .error .criticalExtension else .ok seen
  match identifier with
  | [a, b, n] =>
    if [a, b] = extensionArc ∧ knownExtensions.contains n then
      if seen.contains n then throw .repeatedExtension
      if n ≠ 15 then discard <| need (Der.whole? Der.sequence value)
      return n :: seen
    else unknown
  | _ => unknown

def takeExtensions (seen : List UInt8) (bytes : List UInt8) : Except Fault Unit :=
  if bytes.isEmpty then .ok ()
  else match h : Der.expect? Der.sequence bytes with
    | none => .error .badEncoding
    | some (extension, rest) =>
      have := Der.length_of_expect? h
      match takeExtension seen extension with
      | .ok seen => takeExtensions seen rest
      | .error fault => .error fault
termination_by bytes.length

/-- Reads over a number and the parts up to the public key; answers it with what stands behind it. -/
def upToPublicKey (bytes : List UInt8) : Except Fault (List UInt8 × List UInt8) := do
  let (_, rest) ← expect Der.sequence bytes
  let (_, rest) ← expect Der.sequence rest
  let (_, rest) ← expect Der.sequence rest
  expect Der.sequence rest

def read (bytes : List UInt8) : Except Fault Certificate := do
  let (signed, algorithm) ← signedParts bytes
  let rest ← version3 signed
  let (_, rest) ← expect Der.integer rest
  let (inner, rest) ← expect Der.sequence rest
  if inner ≠ algorithm then throw .algorithms
  let (publicKey, rest) ← upToPublicKey rest
  if rest.isEmpty then return ⟨publicKey⟩
  let list ← need (Der.whole? (Der.context 3) rest)
  takeExtensions [] (← need (Der.whole? Der.sequence list))
  return ⟨publicKey⟩

/-- Reads a certificate of version 1, which names no version. -/
def readVersion1 (bytes : List UInt8) : Except Fault Certificate := do
  let inner ← need (Der.whole? Der.sequence bytes)
  let (signed, rest) ← expect Der.sequence inner
  let (_, rest) ← expect Der.sequence rest
  discard <| need (Der.whole? Der.bitString rest)
  let (_, rest) ← expect Der.integer signed
  let (_, rest) ← expect Der.sequence rest
  let (publicKey, rest) ← upToPublicKey rest
  if rest.isEmpty then return ⟨publicKey⟩ else throw .badEncoding

/-- Reads the certificate of an authority, which may be of version 1. -/
def readAuthority (bytes : List UInt8) : Except Fault Certificate :=
  match read bytes with
  | .error .version =>
    match readVersion1 bytes with
    | .ok c => .ok c
    | .error _ => .error .badEncoding
  | result => result

end Certificate

end Handover
