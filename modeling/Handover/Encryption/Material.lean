import Handover.Encryption.Files
import Handover.Encryption.Provider
import Handover.Fault

namespace Handover.Material

/-- What the library has said, with `what` it was asked about. -/
def consult (what : String) : Except String Unit → Except Fault Unit
  | .ok () => .ok ()
  | .error reason => .error (.encryption (what ++ ": " ++ reason))

def openFile (files : Files) (path : OsText) : Except Fault FileBody :=
  match files path with
  | .ok body => .ok body
  | .error failure => .error (.encryption ("Failed to open " ++ path.shown ++ ": " ++ failure.message))

/-- Reads a file; `what` is what is said to be read. -/
def readFile (what : String) (body : FileBody) : Except Fault (List UInt8) :=
  match body.read with
  | .ok bytes => .ok bytes
  | .error failure => .error (.encryption ("Failed to read " ++ what ++ ": " ++ failure.message))

/-- The certificates in a file, at least one. -/
def certificates (files : Files) (path : OsText) : Except Fault (List (List UInt8)) := do
  let bytes ← readFile path.shown (← openFile files path)
  match Pem.sections bytes with
  | .error fault => throw (.encryption ("Failed to read " ++ path.shown ++ ": " ++ fault.message))
  | .ok sections =>
    match (sections.filter fun s => s.kind = .certificate).map (·.content) with
    | [] => throw (.encryption ("No certificates found in " ++ path.shown))
    | found => return found

/-- The first private key in a file. -/
def privateKey (files : Files) (path : OsText) : Except Fault Pem.Section := do
  let bytes ← readFile ("key " ++ path.shown) (← openFile files path)
  match Pem.find [.privateKey, .curvePrivateKey, .rsaPrivateKey] bytes with
  | .error fault => throw (.encryption ("Failed to read key " ++ path.shown ++ ": " ++ fault.message))
  | .ok none => throw (.encryption ("No private key found in " ++ path.shown))
  | .ok (some s) => return s

/-- Asks about certificates of authorities up to the first that is of no use. -/
def trustAll (provider : Provider) : List (List UInt8) → Except Fault Unit
  | [] => .ok ()
  | bytes :: rest => do
    consult "Invalid client CA" (provider.trust bytes)
    trustAll provider rest

/-- The authorities in a file. -/
def loadAuthorities (provider : Provider) (files : Files) (path : OsText) : Except Fault (List (List UInt8)) := do
  let found ← certificates files path
  trustAll provider found
  consult "Client verifier error" (provider.verify found)
  return found

/-- Reads the files and asks the library whether it can use what is in them. -/
def load (files : Files) (paths : EncryptionFiles) (provider : Provider := .isolated) : Except Fault Material := do
  let chain ← certificates files paths.certificate
  let key ← privateKey files paths.key
  consult "TLS config error" provider.setUp
  let authorities ← paths.clientAuthorities.mapM (loadAuthorities provider files)
  consult "TLS config error" (provider.certify chain key)
  return { chain, key, authorities, offered := protocols }

end Handover.Material
