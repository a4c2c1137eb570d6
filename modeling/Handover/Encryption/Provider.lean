import Handover.Connection.Stream
import Handover.Encryption.Certificate
import Handover.Encryption.PrivateKey

namespace Handover

/-- What the library that encrypts is given for a service: a chain of certificates, the private key of the first one, the
authorities for the certificates of clients if clients need one, and the protocols to offer, the preferred one first. -/
structure Material where
  chain : List (List UInt8)
  key : Pem.Section
  authorities : Option (List (List UInt8))
  offered : List String
deriving DecidableEq, Repr

/-- The protocols that a service offers. -/
def Material.protocols : List String := ["h2", "http/1.1"]

/-- The library that encrypts. It is not part of the program, which relies on it for what can be used, each time with the
reason if it cannot: its own set-up, a certificate as one of an authority, authorities for the verification of clients,
and a key for a chain of certificates. A handshake with a peer ends in a session or fails. -/
structure Provider where
  setUp : Except String Unit
  trust : List UInt8 → Except String Unit
  verify : List (List UInt8) → Except String Unit
  certify : List (List UInt8) → Pem.Section → Except String Unit
  handshake : Material → Stream → Except Failure Session

namespace Provider

/-- The private key has to be that of the first certificate. -/
def matchKey (chain : List (List UInt8)) (key : Pem.Section) : Except String Unit :=
  match PrivateKey.publicKey? key with
  | none => .error "unexpected error: failed to parse private key as RSA, ECDSA, or EdDSA"
  | some publicKey =>
    match Certificate.read (chain.headD []) with
    | .error fault => .error ("invalid peer certificate: " ++ fault.message)
    | .ok certificate =>
      if certificate.publicKey = publicKey then .ok () else .error "keys may not be consistent: KeyMismatch"

/-- A library that takes private keys of RSA, of the curves P-256 and P-384 and of Ed25519; `handshake` says how
handshakes end. -/
def withHandshake (handshake : Material → Stream → Except Failure Session) : Provider where
  setUp := .ok ()
  trust bytes :=
    match Certificate.readAuthority bytes with
    | .ok _ => .ok ()
    | .error fault => .error ("invalid peer certificate: " ++ fault.message)
  verify authorities := if authorities.isEmpty then .error "no root trust anchors were provided" else .ok ()
  certify := matchKey
  handshake

/-- Where no connection arrives there is no handshake. -/
def isolated : Provider := withHandshake fun _ _ => .error (.described .notConnected "no peer")

end Provider

end Handover
