import Handover.SystemError
import Handover.Text.Os

namespace Handover

/-- What is found where a file was opened. -/
inductive FileBody where
  | content (bytes : List UInt8)
  | directory

/-- What a path leads to, or why it cannot be opened. -/
abbrev Files := OsText → Except Failure FileBody

def FileBody.read : FileBody → Except Failure (List UInt8)
  | .content bytes => .ok bytes
  | .directory => .error .isDirectory

end Handover
