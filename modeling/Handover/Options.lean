import Handover.Network.Family
import Handover.Span
import Handover.Text.Os

namespace Handover

structure EncryptionFiles where
  certificate : OsText
  key : OsText
  clientAuthorities : Option OsText
deriving DecidableEq, Repr

/-- Time limits on the two directions of a connection. -/
structure Timeouts where
  read : Option Span
  write : Option Span
deriving DecidableEq, Repr

namespace Timeouts

/-- The limits as they take effect: a limit of zero is none. -/
def effective (read write : Option Span) : Timeouts := ⟨positive? read, positive? write⟩

def text (t : Timeouts) : String :=
  "StreamTimeouts \x7b read: " ++ optionText Span.text t.read ++ ", write: " ++
    optionText Span.text t.write ++ " \x7d"

end Timeouts

/-- How a service listens and treats its connections. -/
structure Options where
  family : Family := .tcp
  readTimeout : Option Span := none
  writeTimeout : Option Span := none
  encryption : Option EncryptionFiles := none
deriving DecidableEq, Repr

namespace Options

def withTimeout (o : Options) (limit : Span) : Options :=
  { o with readTimeout := some limit, writeTimeout := some limit }

def timeouts (o : Options) : Timeouts := .effective o.readTimeout o.writeTimeout

end Options

end Handover
