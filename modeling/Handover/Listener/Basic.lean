import Handover.Connection.Tracker
import Handover.Descriptors
import Handover.Encryption.Transport

namespace Handover

structure Handle where
  descriptor : Nat
  socket : Socket
deriving DecidableEq, Repr

/-- What the system has for a task that accepts. -/
inductive Arrival where
  | connection
  | failure (cause : Failure)
deriving DecidableEq, Repr

/-- A listener. Its descriptor is `none` once it is closed; nothing is accepted from then on. `waiter` is the one task
to wake when there is something to accept or the listener is closed, the one that tried to accept last, and `trouble`
the failure that every attempt meets for as long as it lasts. -/
structure Listener where
  socket : Socket
  descriptor : Option Nat
  timeouts : Timeouts
  transport : Transport := .plain
  tracker : Tracker := {}
  backlog : List Arrival := []
  trouble : Option Failure := none
  waiter : Option Nat := none
deriving DecidableEq, Repr

inductive Accept where
  | pending
  | accepted
  | closed
  | failed (cause : Failure)
deriving DecidableEq, Repr

def Accept.message? : Accept → Option String
  | pending | accepted => none
  | closed => some "listener closed"
  | failed cause => some ("accept failed: " ++ cause.message)

namespace Listener

def onHandle (handle : Handle) (timeouts : Timeouts) : Listener :=
  { socket := handle.socket, descriptor := some handle.descriptor, timeouts }

/-- Its connections are made ready in this way. -/
def through (l : Listener) (transport : Transport) : Listener := { l with transport }

def isClosed (l : Listener) : Bool := l.descriptor.isNone

/-- The open socket; `none` once the listener is closed. -/
def handle? (l : Listener) : Option Handle := l.descriptor.map (⟨·, l.socket⟩)

/-- The endpoint it listens on, or listened on. -/
def endpoint (l : Listener) : Endpoint := l.socket.endpoint

/-- The endpoint as it is shown: the port is not. -/
def place (l : Listener) : String := l.endpoint.host.bracketed ++ ":<port>"

/-- A task puts itself down as the one to wake. -/
def register (l : Listener) (task : Nat) : Listener := { l with waiter := some task }

/-- A task looks for what has arrived; a connection counts as live at once. -/
def look (l : Listener) : Accept × Listener :=
  if l.isClosed then (.closed, l)
  else match l.trouble, l.backlog with
    | some cause, _ => (.failed cause, l)
    | none, [] => (.pending, l)
    | none, .connection :: rest => (.accepted, { l with backlog := rest, tracker := l.tracker.take })
    | none, .failure cause :: rest => (.failed cause, { l with backlog := rest })

/-- A task tries to accept: it puts itself down before it looks. -/
def poll (l : Listener) (task : Nat) : Accept × Listener := (l.register task).look

def arrive (l : Listener) (arrival : Arrival) : Listener := { l with backlog := l.backlog ++ [arrival] }

/-- The socket is closed; what was not accepted is lost. -/
def shut (l : Listener) : Listener := { l with descriptor := none, backlog := [] }

/-- The task that is put down is woken. -/
def wake (l : Listener) : Option Nat × Listener := (l.waiter, { l with waiter := none })

/-- Stops accepting for good and wakes the task that is put down. -/
def close (l : Listener) : Option Nat × Listener := l.shut.wake

/-- The socket, to be duplicated for another process. -/
def extract (l : Listener) : Except Failure Handle :=
  match l.handle? with
  | some handle => .ok handle
  | none => .error (.described .notConnected ("listener on " ++ l.place ++ " is closed"))

def text (l : Listener) : String :=
  "TrackedListener \x7b local_addr: " ++ l.place ++ ", active: " ++ toString l.tracker.active ++
    ", closed: " ++ toString l.isClosed ++ " \x7d"

/-- A description of a listener whose connections are encrypted. -/
def encryptedText (l : Listener) : String := "TlsListener \x7b inner: " ++ l.text ++ ", .. \x7d"

/-- Takes over an inherited descriptor, which has to be that of a socket with an endpoint. -/
def adopt (address : String) (descriptor : Int) (file : Option OpenFile) (timeouts : Timeouts) :
    Except Fault Listener :=
  match file with
  | some (.socket socket) =>
    if socket.kind = .unix then .error (.inherit address descriptor "invalid argument")
    else .ok (.onHandle ⟨descriptor.toNat, socket⟩ timeouts)
  | _ => .error (.inherit address descriptor "not an open socket")

@[simp] theorem look_of_isClosed {l : Listener} (h : l.isClosed) : l.look = (.closed, l) := by
  simp [look, h]

end Listener

end Handover
