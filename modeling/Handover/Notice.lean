import Handover.Fault
import Handover.Span
import Handover.Text.Numeral
import Handover.Text.Os

namespace Handover

inductive Notice where
  | drainTimeout (limit : Option Span)
  | restartProgram (program : OsText)
  | invalidDrainTimeout (name : String) (value : String) (fault : NumeralFault)
  | duplicateAddress (address : String)
  | acceptFailed (cause : Failure) (pause : Span)
  | drainExpired (remaining : Nat) (limit : Span)
  | unsupportedSignal (number : Int)
  | notServed (adopted inherited : Nat) (pending : List String)
  | restartFailed (fault : Fault)
  | replacementExited
  | parentGone
deriving DecidableEq, Repr

namespace Notice

def line : Notice → String
  | drainTimeout (some limit) => "INFO Drain timeout: " ++ toString limit.seconds ++ "s"
  | drainTimeout none => "INFO Drain timeout: disabled"
  | restartProgram program => "INFO Restart program: " ++ program.shown
  | invalidDrainTimeout name value fault =>
    "WARN Invalid " ++ name ++ ", using default value=" ++ value ++ " error=" ++ fault.message
  | duplicateAddress address =>
    "WARN Duplicate address in inherited socket order, ignoring address=" ++ address
  | acceptFailed cause pause =>
    "WARN Accept failed, retrying error=" ++ cause.message ++ " retry_in=" ++ pause.text
  | drainExpired remaining limit =>
    "WARN Drain timeout expired, force-closing connections remaining_connections=" ++ toString remaining ++
      " timeout_secs=" ++ toString limit.seconds
  | unsupportedSignal number => "WARN Ignoring unsupported signal signal=" ++ toString number
  | notServed adopted inherited pending =>
    "WARN Inherited listeners not served; parent process keeps running until they are adopted=" ++
      toString adopted ++ " inherited=" ++ toString inherited ++ " pending=[" ++
      ", ".intercalate (pending.map Text.quote) ++ "]"
  | restartFailed fault => "ERROR Restart failed, continuing to serve error=" ++ fault.message
  | replacementExited => "ERROR Replacement process exited before taking over, restart guard cleared"
  | parentGone => "WARN Parent process is gone, nothing to notify"

end Notice

end Handover
