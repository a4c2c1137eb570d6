import Handover.Restart.Plan
import Handover.Scenario.Events

namespace Handover.Scenario.Registering

/-- A step. `service` is the address that a service is looked for by, the address itself if it is left out. -/
inductive Step where
  | reserve (address : String)
  | register (address : String) (service : Option String)
  | release (ordinal : Nat)
  | ordinalOf (address : String)
  | size
  | addresses
  | unattached
  | services
  | close (address : String) (service : Option String)
  | start (address : String) (service : Option String)
  | shutdown (address : String) (service : Option String)
  | snapshot
  | plan
  | beginRestart
  | clearRestart
  | restarting

inductive Answer where
  | done
  | refused (fault : Fault)
  | flag (b : Bool)
  | ordinal (n : Option Nat)
  | absent
  | size (n : Nat) (isEmpty : Bool)
  | addresses (l : List String)
  | ordinals (l : List (Nat × String))
  | services (l : List (String × Phase × Bool))
  | snapshot (l : List (Nat × String)) (sound : Bool)
  | plan (p : Restart.Plan)

/-- The registry, and how many sockets were opened. -/
structure State where
  registry : Registry Service := {}
  opened : Nat := 0

namespace State

def descriptors (s : State) : Descriptors :=
  Descriptors.holding {} (s.registry.services.filterMap (·.life.listener.handle?))

def fresh (s : State) (address : String) : Service :=
  let handle : Handle :=
    { descriptor := s.descriptors.lowestFree Markers.firstDescriptor
      socket := { identity := s.opened, endpoint := ⟨.v4 127 0 0 1, 0⟩ } }
  .onListener address {} (.onHandle handle ⟨none, none⟩) none

/-- The service that a step is about: the first one of that address, provided that the step's own address has an
ordinal. -/
def target? (s : State) (address : String) (service : Option String) : Option Nat := do
  discard (s.registry.ordinalOf? address)
  let found ← s.registry.find? fun x => x.address == service.getD address
  return found.1

/-- Changes the life of the service that a step is about. -/
def change (s : State) (address : String) (service : Option String) (f : Lifecycle → Answer × Lifecycle) :
    Answer × State :=
  match s.target? address service with
  | none => (.absent, s)
  | some ordinal =>
    match s.registry.service? ordinal with
    | none => (.absent, s)
    | some found =>
      let (answer, life) := f found.life
      (answer, { s with registry := s.registry.update ordinal fun x => { x with life } })

/-- The captured listeners, if they could all be captured, with the descriptors after that. -/
def capture (s : State) : Except Failure (List Restart.Captured × Descriptors) :=
  Restart.snapshot s.registry s.descriptors

/-- The duplicate is one of the listener that the ordinal's service has. -/
def isSound (s : State) (t : Descriptors) (c : Restart.Captured) : Bool :=
  let file := (t.at? c.handle.descriptor).map (·.file)
  let handle := (s.registry.service? c.ordinal).bind (·.life.listener.handle?)
  file.isSome && file == handle.map fun h => .socket h.socket

def step (s : State) : Step → Answer × State
  | .reserve address =>
    match s.registry.reserve address with
    | .ok (n, registry) => (.ordinal n, { s with registry })
    | .error fault => (.refused fault, s)
  | .register address service =>
    match s.registry.register address (s.fresh (service.getD address)) with
    | .ok (n, registry) => (.ordinal n, { registry, opened := s.opened + 1 })
    | .error fault => (.refused fault, s)
  | .release n => (.done, { s with registry := s.registry.release n })
  | .ordinalOf address => (.ordinal (s.registry.ordinalOf? address), s)
  | .size => (.size s.registry.size (s.registry.size == 0), s)
  | .addresses => (.addresses s.registry.addresses, s)
  | .unattached => (.ordinals s.registry.unattached, s)
  | .services => (.services (s.registry.services.map fun x => (x.address, x.life.phase, x.life.isClosed)), s)
  | .close address service => s.change address service fun l => (.done, l.closeListener)
  | .start address service => s.change address service fun l => let (b, l) := l.start; (.flag b, l)
  | .shutdown address service => s.change address service fun l => let (b, l) := l.shutdown 0; (.flag b, l)
  | .snapshot =>
    match s.capture with
    | .ok (l, t) => (.snapshot (l.map fun c => (c.ordinal, c.address)) (l.all (s.isSound t)), s)
    | .error failure => (.refused (.system failure), s)
  | .plan =>
    match s.capture with
    | .ok (l, _) => (.plan (.ofSnapshot l), s)
    | .error failure => (.refused (.system failure), s)
  | .beginRestart =>
    match s.registry.beginRestart? with
    | some registry => (.flag true, { s with registry })
    | none => (.flag false, s)
  | .clearRestart => (.done, { s with registry := s.registry.clearRestart })
  | .restarting => (.flag s.registry.restarting, s)

end State

/-- The answers to steps on a registry, which starts from an order of addresses if one is given, with what is
logged. -/
def run (order : Option (List String)) (steps : List Step) : List Answer × List Notice :=
  let (registry, repeated) : Registry Service × List String :=
    match order with
    | none => ({}, [])
    | some order => Registry.withOrder order
  let (answers, _) := steps.foldl (fun (answers, s) step =>
    let (answer, s) := State.step s step
    (answers ++ [answer], s)) ([], { registry : State })
  (answers, repeated.map .duplicateAddress)

end Handover.Scenario.Registering
