import Handover.Fault
import Handover.Signal

namespace Handover

inductive HookPhase where
  | before
  | after
deriving DecidableEq, Repr

namespace HookPhase

def name : HookPhase → String
  | before => "before"
  | after => "after"

/-- The name of the phase as it stands in a description of hooks. -/
def title : HookPhase → String
  | before => "Before"
  | after => "After"

end HookPhase

/-- Hooks by phase and signal, in the order in which they were registered. -/
structure Hooks (α : Type) where
  entries : List ((HookPhase × Signal) × α) := []

namespace Hooks

variable {α : Type}

/-- Adds a hook for a signal number, if that signal is handled. -/
def register (hooks : Hooks α) (phase : HookPhase) (number : Int) (hook : α) : Except Fault (Hooks α) :=
  match Signal.ofNumber? number with
  | none => .error (.unsupportedSignal number)
  | some signal => .ok ⟨hooks.entries ++ [((phase, signal), hook)]⟩

/-- The hooks that run in a phase of a signal, in order. -/
def toRun (hooks : Hooks α) (phase : HookPhase) (signal : Signal) : List α :=
  (hooks.entries.filter fun e => e.1 == (phase, signal)).map (·.2)

/-- The number of hooks that run in a phase of a signal. -/
def size (hooks : Hooks α) (phase : HookPhase) (signal : Signal) : Nat := (hooks.toRun phase signal).length

def isEmpty (hooks : Hooks α) : Bool := hooks.entries.isEmpty

/-- What hooks are registered for, each once, in the order of the first registration. -/
def keys (hooks : Hooks α) : List (HookPhase × Signal) := (hooks.entries.map (·.1)).eraseDups

/-- How many hooks there are for what they are registered for. -/
def text (hooks : Hooks α) : String :=
  let count (key : HookPhase × Signal) : String :=
    "(" ++ key.1.title ++ ", " ++ key.2.purpose ++ "): " ++ toString (hooks.size key.1 key.2)
  "SignalHooks \x7b hooks: \x7b" ++ ", ".intercalate (hooks.keys.map count) ++ "\x7d \x7d"

theorem toRun_register {hooks hooks' : Hooks α} {phase : HookPhase} {number : Int} {hook : α}
    {signal : Signal} (hs : Signal.ofNumber? number = some signal)
    (h : hooks.register phase number hook = .ok hooks') (phase' : HookPhase) (signal' : Signal) :
    hooks'.toRun phase' signal' =
      hooks.toRun phase' signal' ++ if (phase, signal) = (phase', signal') then [hook] else [] := by
  simp only [register, hs, Except.ok.injEq] at h
  subst h
  by_cases hk : (phase, signal) = (phase', signal') <;> simp [toRun, List.filter_append, hk]

end Hooks

end Handover
