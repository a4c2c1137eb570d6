import Handover.CommandLine.Parse
import Handover.Server.Run

namespace Handover.Program

inductive Exit where
  | done
  | refused (refusal : CommandLine.Refusal)
  | failed (address : String) (fault : Fault)

namespace Exit

/-- The status with which the program ends. -/
def status : Exit → Nat
  | done => 0
  | refused refusal => refusal.exitCode
  | failed .. => 1

/-- A line of a text is set off from the margin, and those behind it as far as `margin` says. -/
def setOff (first margin text : String) : String := first ++ ("\n" ++ margin).intercalate (text.splitOn "\n")

/-- The causes of a failure, one below the other, with numbers if there are several. -/
def causes : List String → List String
  | [cause] => [setOff "    " "    " cause]
  | many => many.zipIdx.map fun (cause, n) =>
      setOff ("".pushn ' ' (5 - (toString n).length) ++ toString n ++ ": ") "       " cause

/-- What the program says at its end, if it did not end well. -/
def message : Exit → String
  | done => ""
  | refused .help | refused .version => ""
  | refused refusal => refusal.message
  | failed address fault =>
    let chain := fault.message :: (fault.cause?.map Failure.message).toList
    "Error: Failed to serve " ++ address ++ "\n\nCaused by:\n" ++ "\n".intercalate (causes chain)

end Exit

/-- Hooks that log around the handling of every signal. -/
def logHooks : List ((HookPhase × Signal) × Hook) :=
  Signal.all.flatMap fun signal =>
    [((.before, signal), { label := "Handling signal", quiet := true }),
      ((.after, signal), { label := "Signal handled", quiet := true })]

/-- The process logs around the handling of every signal. -/
def withLogHooks (p : Server) : Server := { p with hooks := ⟨p.hooks.entries ++ logHooks⟩ }

def start (command : CommandLine.Command) (drainTimeout : Option OsText) (arguments : List OsText)
    (handed : List (Option OpenFile)) (parent nextSocket now : Nat) : Server :=
  let (settings, notices) := Settings.ofEnvironment drainTimeout
  let p := Server.start command.markers settings arguments handed parent nextSocket now
  let p := { p with journal := notices.map Record.notice ++ p.journal }
  command.listen.foldl (fun p address => p.serve address command.options) (withLogHooks p.listen)

/-- How the program has ended, if it has: with the first failure, or when nothing is left to serve. -/
def exit? (p : Server) : Option Exit :=
  let failure : Record → Option Exit
    | .returned address (some fault) => some (.failed address fault)
    | _ => none
  match p.journal.findSome? failure with
  | some exit => some exit
  | none => if p.calls.all fun call => call.place = .returned none then some .done else none

end Handover.Program
