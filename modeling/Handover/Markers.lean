namespace Handover

inductive Role where
  | parent
  | child
deriving DecidableEq, Repr

def Role.name : Role → String
  | .parent => "parent"
  | .child => "child"

/-- The name of the role as it stands in a description of a process. -/
def Role.title : Role → String
  | .parent => "Parent"
  | .child => "Child"

/-- What a process is told about being a replacement. The order of the addresses is left out for a single one. -/
structure Markers where
  graceful : Bool := false
  order : List String := []
deriving DecidableEq, Repr

namespace Markers

def inherited (order : List String) : Markers := ⟨true, order⟩

def role (m : Markers) : Role := if m.graceful then .child else .parent

/-- The number of descriptors handed over: one for each address, and one if no order is given. -/
def inheritedCount (m : Markers) : Nat :=
  match m.role with
  | .parent => 0
  | .child => max m.order.length 1

/-- The number of the first descriptor handed over, behind the standard ones. -/
def firstDescriptor : Nat := 3

end Markers

end Handover
