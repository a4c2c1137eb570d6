import Handover.Descriptors
import Handover.Markers

namespace Handover.Restart

/-- Duplicates descriptors one after the other to numbers that are not below `floor`. -/
def stage (floor : Nat) : List Nat → Descriptors → Except Failure (List Nat × Descriptors)
  | [], t => .ok ([], t)
  | source :: rest, t => do
    let (high, t) ← t.duplicate source floor false
    let (staged, t) ← stage floor rest t
    return (high :: staged, t)

/-- Moves staged descriptors to consecutive numbers from `target` on. -/
def settle (target : Nat) : List Nat → Descriptors → Except Failure Descriptors
  | [], t => .ok t
  | high :: rest, t => do
    let t ← t.duplicateTo high target
    settle (target + 1) rest (t.close high)

/-- Places descriptors at the numbers for what is handed over, in their order. -/
def place (sources : List Nat) (t : Descriptors) : Except Failure Descriptors := do
  let (staged, t) ← stage (Markers.firstDescriptor + sources.length) sources t
  settle Markers.firstDescriptor staged t

/-- The descriptors without some of them. -/
def withoutAll (t : Descriptors) (numbers : List Nat) : Descriptors := numbers.foldl Descriptors.close t

/-- Starts a program with some descriptors placed for it, unless the program is refused: the descriptors that the
program has, and those that are left here, which are the same whether the start succeeds or fails. -/
def launch (refusal : Option Failure) (sources : List Nat) (t : Descriptors) :
    Except Failure Descriptors × Descriptors :=
  let started : Except Failure Descriptors := do
    let placed ← place sources t
    match refusal with
    | some failure => throw failure
    | none => return placed.exec
  (started, withoutAll t sources)

end Handover.Restart
