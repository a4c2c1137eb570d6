import Handover.Markers
import Handover.Registry
import Handover.Service.Basic

namespace Handover

/-- The descriptors of open sockets, all of which are closed when a program is started. -/
def Descriptors.holding (t : Descriptors) (handles : List Handle) : Descriptors :=
  handles.foldl (fun t h => t.put h.descriptor (some ⟨.socket h.socket, true⟩)) t

namespace Restart

/-- A listener captured for a restart: the duplicate of its socket, with the ordinal of its address. -/
structure Captured where
  ordinal : Nat
  address : String
  handle : Handle
deriving DecidableEq, Repr

/-- The open listeners of a registry with their ordinals and addresses, by ordinal. -/
def openListeners (r : Registry Service) : List (Nat × String × Handle) :=
  r.attached.filterMap fun e => e.2.2.life.listener.handle?.map fun h => (e.1, e.2.1, h)

/-- Duplicates the descriptors of listeners, one after the other. If one cannot be duplicated, those that were
are closed again. -/
def capture : List (Nat × String × Handle) → Descriptors → Except Failure (List Captured × Descriptors)
  | [], t => .ok ([], t)
  | (ordinal, address, handle) :: rest, t => do
    let (descriptor, t) ← t.duplicate handle.descriptor Markers.firstDescriptor true
    let (captured, t) ← capture rest t
    return (⟨ordinal, address, ⟨descriptor, handle.socket⟩⟩ :: captured, t)

def snapshot (r : Registry Service) (t : Descriptors) : Except Failure (List Captured × Descriptors) :=
  capture (openListeners r) t

/-- What a restart hands over: every open listener of a process, duplicated, in the order of the ordinals. Closed
listeners are left out, so positions in the plan, which become the ordinals of the replacement, need not be the
ordinals they come from. -/
structure Plan where
  order : List String
  descriptors : List Nat
deriving DecidableEq, Repr

namespace Plan

def ofSnapshot (captured : List Captured) : Plan := ⟨captured.map (·.address), captured.map (·.handle.descriptor)⟩

def size (p : Plan) : Nat := p.descriptors.length

def isEmpty (p : Plan) : Bool := p.descriptors.isEmpty

end Plan

end Restart

end Handover
