import Handover.Encryption.Files
import Handover.Hooks
import Handover.Network.Binding
import Handover.Restart.Placement
import Handover.Restart.Plan
import Handover.Settings

namespace Handover

/-- Where a process runs: the network, the files that can be read, the library that encrypts, and why a program cannot be
started, of which `none` stands for the one that runs. -/
structure Site where
  network : Network
  files : Files
  provider : Provider
  refusal : Option OsText → Option Failure

inductive Outcome where
  | restarted
  | skipped
  | failed (fault : Fault)
  | stopping
  | ignored
deriving DecidableEq, Repr

/-- A hook. One that panics breaks off the handling of signals, and a quiet one logs its name below the level of a
notice. -/
structure Hook where
  label : String
  panics : Bool := false
  quiet : Bool := false
deriving DecidableEq, Repr

/-- A signal that waits to be handled, with the ticket of who waits for the outcome. -/
structure Dispatch where
  number : Int
  ticket : Option Nat := none
deriving DecidableEq, Repr

/-- A signal that is being handled, with the ticket of who waits for the outcome. -/
structure Turn where
  signal : Signal
  ticket : Option Nat
deriving DecidableEq, Repr

/-- Where the task that handles signals stands. Between the hooks before and after it, a stop marks the process, lists
its services and stops them one by one, and a restart captures the open listeners and starts a replacement with them. -/
inductive SignalPlace where
  | idle
  | before (turn : Turn) (rest : List Hook)
  | acting (turn : Turn)
  | listing (turn : Turn)
  | closing (turn : Turn) (rest : List Nat)
  | capturing (turn : Turn)
  | launching (turn : Turn) (captured : List Restart.Captured)
  | after (turn : Turn) (outcome : Outcome) (rest : List Hook)
  | ended
deriving DecidableEq, Repr

/-- Where a call that serves an address stands, named for what it has done. It is refused if the process is stopping;
it claims its address, loads what encryption needs, opens a listener, records and starts its service, counts an
adoption and tells the parent if that was the last, and waits for the accept loop to end. -/
inductive CallPlace where
  | entered
  | admitted
  | reserved (ordinal : Nat)
  | readied (ordinal : Nat) (transport : Transport)
  | opened (ordinal : Nat) (listener : Listener)
  | attached (ordinal : Nat)
  | started (ordinal : Nat)
  | completing (ordinal : Nat)
  | counted (ordinal : Nat)
  | ready (ordinal : Nat)
  | serving (ordinal : Nat)
  | abandoning (ordinal : Nat) (fault : Fault)
  | returned (fault : Option Fault)
deriving DecidableEq, Repr

structure Call where
  address : String
  options : Options
  place : CallPlace := .entered
deriving DecidableEq, Repr

/-- A replacement that was started after `serial` others and whose end has not been observed. -/
structure Replacement where
  serial : Nat
  arguments : List OsText
  descriptors : Descriptors
  captured : List Restart.Captured
deriving DecidableEq, Repr

/-- Something that can be observed of a run. A signal is handled before the hooks after it run; who waits under a
ticket gets no outcome if signals are no longer handled. -/
inductive Record where
  | hook (hook : Hook) (stopping : Bool)
  | notice (notice : Notice)
  | handled (number : Int) (outcome : Outcome)
  | answered (ticket : Nat) (outcome : Option Outcome)
  | launched (replacement : Replacement)
  | told (parent : Nat)
  | passed (ordinal i : Nat) (connection : Connection)
  | returned (address : String) (fault : Option Fault)
deriving DecidableEq, Repr

/-- A serving process. It is started on its own, and then binds its listeners, or as a replacement, and then adopts
what was handed to it at each descriptor from the first one on, with `none` for what is taken. `review` is when it is
looked whether everything is adopted, and the journal holds what can be observed of the run, in order. -/
structure Server where
  role : Role
  inherited : Nat
  settings : Settings
  arguments : List OsText
  handed : List (Option OpenFile)
  parent : Nat
  registry : Registry Service
  hooks : Hooks Hook := {}
  queue : List Dispatch := []
  signals : SignalPlace := .idle
  listens : Bool := false
  stopping : Bool := false
  adopted : Nat := 0
  calls : List Call := []
  replacements : List Replacement := []
  launches : Nat := 0
  review : Option Nat := none
  nextSocket : Nat
  journal : List Record := []

namespace Server

/-- How long a replacement may take to adopt everything before a warning. -/
def reviewDelay : Span := .ofSeconds 30

def start (markers : Markers) (settings : Settings) (arguments : List OsText)
    (handed : List (Option OpenFile)) (parent nextSocket now : Nat) : Server :=
  let process (registry : Registry Service) (review : Option Nat) (notices : List Notice) : Server :=
    { role := markers.role, inherited := markers.inheritedCount, settings, arguments, handed, parent,
      registry, review, nextSocket, journal := notices.map .notice }
  match markers.role with
  | .parent => process {} none []
  | .child =>
    let (registry, repeated) := Registry.withOrder markers.order
    process registry (some (Clock.due now reviewDelay)) (repeated.map .duplicateAddress)

/-- The arguments of a replacement before any markers. -/
def baseArguments (p : Server) : List OsText := p.settings.arguments.getD p.arguments

def record (p : Server) (r : Record) : Server := { p with journal := p.journal ++ [r] }

/-- The open socket that a call holds before its service has it. -/
def Call.handle? (c : Call) : Option Handle :=
  match c.place with
  | .opened _ listener => listener.handle?
  | _ => none

/-- The duplicates that a restart holds until the replacement has been started. -/
def SignalPlace.handles : SignalPlace → List Handle
  | .launching _ captured => captured.map (·.handle)
  | _ => []

/-- The open sockets that the process itself opened, took over or duplicated. -/
def handles (p : Server) : List Handle :=
  p.registry.services.filterMap (·.life.listener.handle?) ++ p.calls.filterMap Call.handle? ++
    SignalPlace.handles p.signals

/-- The descriptors of what was handed over and not taken: a program that is started gets them too. -/
def untaken (p : Server) : Descriptors :=
  { entries := List.replicate Markers.firstDescriptor none ++ p.handed.map fun f => f.map (⟨·, false⟩) }

/-- All its descriptors behind the standard ones. -/
def table (p : Server) : Descriptors := p.untaken.holding p.handles

/-- What was handed over at a descriptor and has not been taken. -/
def handedAt? (p : Server) (i : Nat) : Option OpenFile := p.handed[i]?.join

/-- The life of a service goes on as `f` says, which also says what is logged. -/
def alter (p : Server) (ordinal : Nat) (f : Lifecycle → Lifecycle × List Notice) : Server :=
  match p.registry.service? ordinal with
  | none => p
  | some service =>
    let (life, notices) := f service.life
    { p with
      registry := p.registry.update ordinal fun _ => { service with life }
      journal := p.journal ++ notices.map .notice }

def shutdown (p : Server) (now ordinal : Nat) : Server :=
  p.alter ordinal fun life => ((life.shutdown now).2, [])

def isRestarting (p : Server) : Bool := p.registry.restarting

/-- The addresses that were handed over and have no service. -/
def pending (p : Server) : List String :=
  match p.role with
  | .parent => []
  | .child => (p.registry.unattached.filter fun e => e.1 < p.inherited).map (·.2)

def text (p : Server) : String :=
  "Grace \x7b role: " ++ p.role.title ++ ", registry: " ++ p.registry.text Service.text ++ ", stopping: " ++
    toString p.stopping ++ ", .. \x7d"

end Server

end Handover
