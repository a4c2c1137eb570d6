import Handover.Encryption.Material

namespace Handover

/-- How accepted connections are made ready for their handler: as they are, or by a handshake. -/
inductive Transport where
  | plain
  | encrypted (material : Material)
deriving DecidableEq, Repr

namespace Transport

/-- Loads what encryption needs, if connections are to be encrypted. -/
def load (provider : Provider) (files : Files) : Option EncryptionFiles → Except Fault Transport
  | none => .ok plain
  | some paths => (Material.load files paths provider).map encrypted

/-- Makes an accepted connection ready. -/
def establish (provider : Provider) : Transport → Stream → Except Failure Connection
  | plain, s => .ok (.plain s)
  | encrypted material, s => (provider.handshake material s).map (.encrypted s)

end Transport

end Handover
