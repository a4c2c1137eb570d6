import Handover.Notice
import Handover.Text.Blank

namespace Handover

/-- How a process drains and restarts. Without a drain timeout connections may take for ever to end; the replacement
runs the same program with the same arguments if no others are set. -/
structure Settings where
  drainTimeout : Option Span
  program : Option OsText
  arguments : Option (List OsText)
deriving DecidableEq, Repr

namespace Settings

def defaultDrainTimeout : Span := .ofSeconds 60

/-- The environment variable that sets the drain timeout, in seconds. -/
def drainTimeoutVariable : String := "MSKIT_DRAIN_TIMEOUT_SECS"

/-- The settings of a process that sets nothing. -/
def standard : Settings := ⟨some defaultDrainTimeout, none, none⟩

/-- The drain timeout that the variable's value sets, where zero stands for none, and a notice if the value
cannot be read. A value that is not UTF-8 counts as unset. -/
def readDrainTimeout (value : Option OsText) : Option Span × List Notice :=
  match value.bind OsText.text? with
  | none => (some defaultDrainTimeout, [])
  | some raw =>
    match Numeral.read (Nat.pow 2 64) (Text.trimBlanks raw.toList) with
    | .ok 0 => (none, [])
    | .ok n => (some (.ofSeconds n), [])
    | .error fault => (some defaultDrainTimeout, [.invalidDrainTimeout drainTimeoutVariable raw fault])

/-- The settings that the environment gives, with what is to be logged about it. -/
def ofEnvironment (value : Option OsText) : Settings × List Notice :=
  let (limit, notices) := readDrainTimeout value
  ({ standard with drainTimeout := limit }, notices)

/-- With another drain timeout, where zero stands for none. -/
def withDrainTimeout (s : Settings) (limit : Option Span) : Settings :=
  { s with drainTimeout := positive? limit }

def withProgram (s : Settings) (program : OsText) : Settings := { s with program := some program }

def withArguments (s : Settings) (arguments : List OsText) : Settings := { s with arguments := some arguments }

/-- What is logged about the settings in effect. -/
def notices (s : Settings) : List Notice :=
  .drainTimeout s.drainTimeout :: s.program.toList.map .restartProgram

end Settings

end Handover
