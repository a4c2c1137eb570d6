import Handover.SystemError
import Handover.Text.Quoted

namespace Handover

inductive Fault where
  | system (cause : Failure)
  | bind (address : String) (cause : Failure)
  | inherit (address : String) (descriptor : Int) (reason : String)
  | notInherited (address : String) (ordinal : Nat)
  | alreadyServing (address : String)
  | unresolved (address : String) (family : String)
  | unsupportedSignal (number : Int)
  | unsupportedFamily (name : String)
  | encryption (reason : String)
  | noListeners
  | restart (cause : Failure)
  | shuttingDown
  | signalsEnded
deriving DecidableEq, Repr

namespace Fault

def message : Fault → String
  | system cause => "IO error: " ++ cause.message
  | bind address cause => "failed to bind " ++ address ++ ": " ++ cause.message
  | inherit address descriptor reason =>
    "failed to inherit listener for " ++ address ++ " from fd " ++ toString descriptor ++ ": " ++ reason
  | notInherited address ordinal =>
    "address " ++ address ++ " (ordinal " ++ toString ordinal ++ ") was not inherited from the parent process"
  | alreadyServing address => "address " ++ address ++ " is already being served"
  | unresolved address family => "no " ++ family ++ " address resolved for " ++ address
  | unsupportedSignal number =>
    "signal " ++ toString number ++ " is not supported (expected SIGHUP, SIGINT or SIGTERM)"
  | unsupportedFamily name =>
    "unsupported network " ++ Text.quote name ++ " (expected tcp, tcp4 or tcp6)"
  | encryption reason => "TLS configuration error: " ++ reason
  | noListeners => "no open listeners to hand over"
  | restart cause => "restart failed: " ++ cause.message
  | shuttingDown => "process is shutting down"
  | signalsEnded => "lifecycle runtime has shut down"

/-- The failure beneath a fault, if there is one. -/
def cause? : Fault → Option Failure
  | system cause => some cause
  | bind _ cause => some cause
  | restart cause => some cause
  | _ => none

end Fault

/-- A computation that succeeds has succeeded in its first part and in what follows on that. -/
theorem exists_of_bind_eq_ok {ε α β : Type} {x : Except ε α} {f : α → Except ε β} {b : β} (made : x >>= f = .ok b) :
    ∃ a, x = .ok a ∧ f a = .ok b := by
  cases x with
  | error => cases made
  | ok a => exact ⟨a, rfl, made⟩

end Handover
