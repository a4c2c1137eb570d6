import Handover.Network.Binding
import Handover.Restart.Plan
import Handover.Scenario.Events

namespace Handover.Scenario.Listening

inductive Step where
  | bind (name address : String) (family : Family) (timeouts : Timeouts)
  | extract (name duplicate : String)
  | release (duplicate : String)
  | adopt (name address duplicate : String)
  | adoptNumber (name address : String) (number : Int)
  | accept (name stream : String)
  | cancel (name : String)
  | close (name : String)
  | connect (name : String)
  | describe (name : String)
  | asClient
  | onStream
  | dropStream
  | pass
  | unknown

inductive Answer where
  | done
  | ok
  | flag (b : Bool)
  | refused (fault : Fault)
  | failed (cause : Failure)
  | host (text : String)
  | text (s : String)
  | unreachable
  | noListener
  | noStream
  | busy

/-- A listener with the stream name of the task that accepts on it. -/
structure Entry where
  listener : Listener
  accepting : Option String := none

/-- The listeners and duplicates by name, and how many sockets were opened. -/
structure State where
  listeners : List (String × Entry) := []
  duplicates : List (String × Handle) := []
  opened : Nat := 0

namespace State

/-- The lowest number that is free for a descriptor. -/
def freeNumber (s : State) : Nat :=
  let handles := s.listeners.filterMap (·.2.listener.handle?) ++ s.duplicates.map (·.2)
  (Descriptors.holding {} handles).lowestFree Markers.firstDescriptor

def put (s : State) (name : String) (listener : Listener) : State :=
  { s with listeners := replacing s.listeners name { listener } }

/-- Makes a listener of a descriptor under a name. -/
def adopt (s : State) (name address : String) (number : Int) (file : Option OpenFile) : Answer × State :=
  match Listener.adopt address number file ⟨none, none⟩ with
  | .ok listener => (.host listener.endpoint.host.text, s.put name listener)
  | .error fault => (.refused fault, s)

/-- The task that accepts on a listener tries once more, and is over if the listener is closed. -/
def poll (s : State) (name : String) (e : Entry) : List String × State :=
  match e.accepting with
  | none => ([], s)
  | some stream =>
    match e.listener.poll 0 with
    | (.closed, listener) =>
      ([stream ++ " Closed: " ++ Accept.closed.message?.getD ""], s.put name listener)
    | (_, listener) => ([], { s with listeners := replacing s.listeners name { e with listener } })

/-- Takes a step; what happened is told beside the answer. -/
def step (s : State) (step : Step) : Answer × List String × State :=
  let on (name : String) (f : Entry → Answer × List String × State) : Answer × List String × State :=
    match named? s.listeners name with
    | some e => f e
    | none => (.noListener, [], s)
  match step with
  | .bind name address family timeouts =>
    match Network.isolated.bind address family with
    | .error fault => (.refused fault, [], s)
    | .ok endpoint =>
      let handle : Handle := ⟨s.freeNumber, { identity := s.opened, endpoint }⟩
      (.host endpoint.host.text, [],
        { s.put name (.onHandle handle timeouts) with opened := s.opened + 1 })
  | .extract name duplicate => on name fun e =>
    match e.listener.extract with
    | .error failure => (.failed failure, [], s)
    | .ok handle =>
      (.ok, [], { s with
        duplicates := replacing s.duplicates duplicate { handle with descriptor := s.freeNumber } })
  | .release duplicate =>
    (.flag (named? s.duplicates duplicate).isSome, [], { s with duplicates := without s.duplicates duplicate })
  | .adopt name address duplicate =>
    match named? s.duplicates duplicate with
    | none => let (a, s) := s.adopt name address 0 none; (a, [], s)
    | some handle =>
      let given : State := { s with duplicates := without s.duplicates duplicate }
      let (a, s) := given.adopt name address handle.descriptor (some (.socket handle.socket))
      (a, [], s)
  | .adoptNumber name address number => let (a, s) := s.adopt name address number none; (a, [], s)
  | .accept name stream => on name fun e =>
    if e.accepting.isSome then (.busy, [], s)
    else let (events, s) := s.poll name { e with accepting := some stream }; (.done, events, s)
  | .cancel name =>
    match named? s.listeners name with
    | none => (.flag false, [], s)
    | some e => (.flag e.accepting.isSome, [], s.put name e.listener)
  | .close name => on name fun e =>
    let (waiter, listener) := e.listener.close
    let e := { e with listener }
    let closed : State := { s with listeners := replacing s.listeners name e }
    match waiter with
    | none => (.done, [], closed)
    | some _ => let (events, s) := closed.poll name e; (.done, events, s)
  | .connect name => on name fun _ => (.unreachable, [], s)
  | .describe name => on name fun e => (.text e.listener.text, [], s)
  | .asClient | .pass => (.done, [], s)
  | .onStream => (.noStream, [], s)
  | .dropStream => (.flag false, [], s)
  | .unknown => (.noListener, [], s)

/-- The live connections of each listener and whether it is closed, by name. -/
def overview (s : State) : List (String × Nat × Bool) :=
  s.listeners.map fun e => (e.1, e.2.listener.tracker.active, e.2.listener.isClosed)

end State

end Handover.Scenario.Listening
