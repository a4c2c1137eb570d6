import Handover.Clock
import Handover.Listener.Basic
import Handover.Notice

namespace Handover

inductive Phase where
  | initializing
  | running
  | draining
  | terminated
deriving DecidableEq, Repr

namespace Phase

def name : Phase → String
  | initializing => "initializing"
  | running => "running"
  | draining => "draining"
  | terminated => "terminated"

/-- The name of the phase as it stands in a description of a service. -/
def title : Phase → String
  | initializing => "Initializing"
  | running => "Running"
  | draining => "Draining"
  | terminated => "Terminated"

/-- Every phase in the order of a life. -/
def all : List Phase := [initializing, running, draining, terminated]

end Phase

/-- Where a task that stops a service stands. A stop that takes effect closes the listener and then sets the watchdog. -/
inductive StopPlace where
  | entered
  | closing
  | arming
  | finished (effective : Bool)
deriving DecidableEq, Repr

/-- Where an accept loop stands. One that waits may have been woken since it looked; one that has found the listener
closed stops the service and waits until no connection is live, or until the watchdog forces the end. -/
inductive LoopPlace where
  | starting
  | calling
  | waiting (woken : Bool)
  | pausing (due : Nat)
  | stopping (stop : StopPlace)
  | draining
  | ending
  | returned
deriving DecidableEq, Repr

/-- An accept loop, with the pause after its next failure. -/
structure AcceptLoop where
  place : LoopPlace := .starting
  backoff : Span
deriving DecidableEq, Repr

/-- How the task of a connection came to its end. -/
inductive ConnectionEnd where
  | served
  | failed
  | unready
  | forced
deriving DecidableEq, Repr

/-- Where the task of a connection stands. It makes the connection ready, which may take a handshake, before its
handler gets it. -/
inductive ConnectionPlace where
  | spawned
  | readying
  | serving
  | ended (how : ConnectionEnd)
deriving DecidableEq, Repr

/-- Where a watchdog stands that has found the service draining when its time had come. -/
inductive ForcePlace where
  | forcing
  | ending
deriving DecidableEq, Repr

/-- The life of a service, with the accept loops, the tasks that stop it and those of all connections it accepted.
Without a drain timeout connections may take for ever to end; the watchdog has a time at which it looks. -/
structure Lifecycle where
  phase : Phase := .initializing
  listener : Listener
  drainTimeout : Option Span
  forced : Bool := false
  watchdog : Option Nat := none
  forcing : Option ForcePlace := none
  loops : List AcceptLoop := []
  stops : List StopPlace := []
  connections : List ConnectionPlace := []
deriving DecidableEq, Repr

namespace Lifecycle

def minBackoff : Span := .ofMillis 5

def maxBackoff : Span := .ofSeconds 1

def longer (backoff : Span) : Span := ⟨min (backoff.nanos * 2) maxBackoff.nanos⟩

/-- A service on a listener; a drain timeout of zero is none. -/
def onListener (listener : Listener) (drainTimeout : Option Span) : Lifecycle :=
  { listener, drainTimeout := positive? drainTimeout }

def active (l : Lifecycle) : Nat := l.listener.tracker.active

def isClosed (l : Lifecycle) : Bool := l.listener.isClosed

/-- The service moves on if it is in one of some phases. -/
def enter (l : Lifecycle) (sources : List Phase) (target : Phase) : Bool × Lifecycle :=
  if sources.contains l.phase then (true, { l with phase := target }) else (false, l)

/-- The service starts to run, unless it has moved on. -/
def start (l : Lifecycle) : Bool × Lifecycle := l.enter [.initializing] .running

/-- A stop takes effect, unless one has before. -/
def beginStop (l : Lifecycle) : Bool × Lifecycle := l.enter [.initializing, .running] .draining

def place (l : Lifecycle) (i : Nat) (place : LoopPlace) : Lifecycle :=
  { l with loops := l.loops.modify i fun loop => { loop with place } }

def wakeLoop (l : Lifecycle) (i : Nat) : Lifecycle :=
  { l with loops := l.loops.modify i fun loop =>
      match loop.place with
      | .waiting _ => { loop with place := .waiting true }
      | _ => loop }

/-- The listener is closed and the loop that is put down with it is woken. -/
def closeListener (l : Lifecycle) : Lifecycle :=
  let (waiter, listener) := l.listener.close
  let l := { l with listener }
  match waiter with
  | none => l
  | some i => l.wakeLoop i

/-- The watchdog is set if there is a drain timeout. -/
def arm (l : Lifecycle) (now : Nat) : Lifecycle :=
  match l.drainTimeout with
  | none => l
  | some limit => { l with watchdog := some (Clock.due now limit) }

/-- Stops the service: no connection is accepted any longer and the watchdog is set. Does nothing but say so if
the service is being stopped already. -/
def shutdown (l : Lifecycle) (now : Nat) : Bool × Lifecycle :=
  match l.beginStop with
  | (false, l) => (false, l)
  | (true, l) => (true, l.closeListener.arm now)

/-- The next step of a task that stops the service. -/
def stepStop? (l : Lifecycle) (now : Nat) : StopPlace → Option (StopPlace × Lifecycle)
  | .entered => let (effective, l) := l.beginStop; some (if effective then .closing else .finished false, l)
  | .closing => some (.arming, l.closeListener)
  | .arming => some (.finished true, l.arm now)
  | .finished _ => none

def stop (l : Lifecycle) : Lifecycle := { l with stops := l.stops ++ [.entered] }

/-- The next step of one of the tasks that stop the service. -/
def stepStopping? (l : Lifecycle) (now i : Nat) : Option Lifecycle := do
  let (place, l) ← l.stepStop? now (← l.stops[i]?)
  return { l with stops := l.stops.set i place }

/-- The service ends, if it is draining. -/
def terminate (l : Lifecycle) : Lifecycle := (l.enter [.draining] .terminated).2

def run (l : Lifecycle) : Lifecycle := { l with loops := l.loops ++ [{ backoff := minBackoff }] }

/-- The loop that is put down with the listener is woken, since something has changed there. -/
def nudge (l : Lifecycle) : Lifecycle :=
  match l.listener.waiter with
  | none => l
  | some i => l.wakeLoop i

def arrive (l : Lifecycle) (arrival : Arrival) : Lifecycle :=
  ({ l with listener := l.listener.arrive arrival } : Lifecycle).nudge

/-- From now on every attempt to accept meets a failure, or none does so any longer. -/
def trouble (l : Lifecycle) (cause : Option Failure) : Lifecycle :=
  ({ l with listener := { l.listener with trouble := cause } } : Lifecycle).nudge

/-- A loop that is about to accept does so: a connection gets a task, and a failure is followed by a pause. -/
def accept (l : Lifecycle) (now i : Nat) (loop : AcceptLoop) : Lifecycle × List Notice :=
  let (result, listener) := l.listener.poll i
  let l := { l with listener }
  match result with
  | .pending => (l.place i (.waiting false), [])
  | .closed => (l.place i (.stopping .entered), [])
  | .accepted =>
    let loops := l.loops.set i { loop with backoff := minBackoff }
    ({ l with loops, connections := l.connections ++ [.spawned] }, [])
  | .failed cause =>
    let paused : AcceptLoop := { place := .pausing (Clock.due now loop.backoff), backoff := longer loop.backoff }
    ({ l with loops := l.loops.set i paused }, [.acceptFailed cause loop.backoff])

def stepLoop? (l : Lifecycle) (now i : Nat) : Option (Lifecycle × List Notice) :=
  match l.loops[i]? with
  | none => none
  | some loop =>
    match loop.place with
    | .starting => some (l.start.2.place i .calling, [])
    | .calling => some (l.accept now i loop)
    | .waiting woken => if woken then some (l.place i .calling, []) else none
    | .pausing due => if due ≤ now then some (l.place i .calling, []) else none
    | .stopping stop =>
      match l.stepStop? now stop with
      | some (stop, l) => some (l.place i (.stopping stop), [])
      | none => some (l.place i .draining, [])
    | .draining => if l.listener.tracker.isIdle || l.forced then some (l.place i .ending, []) else none
    | .ending => some (l.terminate.place i .returned, [])
    | .returned => none

/-- The watchdog looks when its time has come: it ends a service that still drains, closing its connections by
force. -/
def fireWatchdog? (l : Lifecycle) (now : Nat) : Option (Lifecycle × List Notice) :=
  match l.watchdog, l.drainTimeout with
  | some due, some limit =>
    if due ≤ now then
      if l.phase = .draining then
        some (({ l with watchdog := none, forced := true } : Lifecycle).terminate,
          [.drainExpired l.active limit])
      else some ({ l with watchdog := none }, [])
    else none
  | _, _ => none

/-- The watchdog looks when its time has come, and is to force the end of a service that still drains. -/
def lookWatchdog? (l : Lifecycle) (now : Nat) : Option (Lifecycle × List Notice) :=
  match l.watchdog, l.drainTimeout with
  | some due, some limit =>
    if due ≤ now then
      if l.phase = .draining then
        some ({ l with watchdog := none, forcing := some .forcing }, [.drainExpired l.active limit])
      else some ({ l with watchdog := none }, [])
    else none
  | _, _ => none

/-- The next step of a watchdog that forces the end. -/
def stepForcing? (l : Lifecycle) : Option Lifecycle :=
  match l.forcing with
  | some .forcing => some { l with forced := true, forcing := some .ending }
  | some .ending => some { l.terminate with forcing := none }
  | none => none

/-- The task of a connection ends and gives its slot back. -/
def endConnection? (l : Lifecycle) (i : Nat) (how : ConnectionEnd) : Option Lifecycle := do
  let tracker ← l.listener.tracker.release?
  return { l with
    listener := { l.listener with tracker }
    connections := l.connections.set i (.ended how) }

/-- The next step of the task of a connection: it ends by force as soon as that is called for; otherwise the
connection is made ready, passed to its handler, and done with, each of which `ok` says to have succeeded. -/
def stepConnection? (l : Lifecycle) (i : Nat) (ok : Bool) : Option Lifecycle :=
  match l.connections[i]? with
  | none => none
  | some (.ended _) => none
  | some connection =>
    if l.forced then l.endConnection? i .forced
    else match connection with
      | .spawned => some { l with connections := l.connections.set i .readying }
      | .readying =>
        if ok then some { l with connections := l.connections.set i .serving }
        else l.endConnection? i .unready
      | _ => l.endConnection? i (if ok then .served else .failed)

/-- The task of a connection is about to make it ready, and may do so. -/
def isReadying (l : Lifecycle) (i : Nat) : Bool := !l.forced && l.connections[i]? == some .readying

/-- The first step that a loop, or else the watchdog, can take by itself. -/
def next? (l : Lifecycle) (now : Nat) : Option (Lifecycle × List Notice) :=
  (List.range l.loops.length).findSome? (l.stepLoop? now) <|> l.fireWatchdog? now

/-- Takes steps until none can be taken by itself, or `fuel` is used up. -/
def settleWithin : Nat → Nat → Lifecycle → Lifecycle × List Notice
  | 0, _, l => (l, [])
  | fuel + 1, now, l =>
    match l.next? now with
    | none => (l, [])
    | some (l, notices) => let (l, more) := settleWithin fuel now l; (l, notices ++ more)

/-- Takes steps until none can be taken by itself. A loop takes a dozen of them at most, and one more for what
arrived. -/
def settle (l : Lifecycle) (now : Nat) : Lifecycle × List Notice :=
  settleWithin (12 * l.loops.length + 2 * l.listener.backlog.length + 1) now l

/-- The ticks at which something will happen by itself. -/
def timers (l : Lifecycle) : List Nat :=
  l.loops.filterMap (fun loop => match loop.place with | .pausing due => some due | _ => none) ++
    l.watchdog.toList

def returned (l : Lifecycle) : Nat := l.loops.countP fun loop => loop.place = .returned

theorem shutdown_of_beginStop {l begun : Lifecycle} (now : Nat) (h : l.beginStop = (true, begun)) :
    l.shutdown now = (true, begun.closeListener.arm now) := by
  simp [shutdown, h]

/-- The steps of a task that stops the service lead where `shutdown` leads at once. -/
theorem stepStop?_shutdown {l begun : Lifecycle} (now : Nat) (h : l.beginStop = (true, begun)) :
    l.stepStop? now .entered = some (.closing, begun) ∧
      begun.stepStop? now .closing = some (.arming, begun.closeListener) ∧
      begun.closeListener.stepStop? now .arming = some (.finished true, (l.shutdown now).2) :=
  ⟨by simp [stepStop?, h], rfl, by simp [stepStop?, shutdown_of_beginStop now h]⟩

/-- A watchdog that finds nothing to force is done with its look. -/
theorem fireWatchdog?_of_not_draining {l : Lifecycle} (now : Nat) (finished : l.phase ≠ .draining) :
    l.fireWatchdog? now = l.lookWatchdog? now := by
  simp [fireWatchdog?, lookWatchdog?, finished]

/-- The steps of a watchdog that forces the end lead where `fireWatchdog?` leads at once. -/
theorem stepForcing?_fireWatchdog {l : Lifecycle} {now due : Nat} {limit : Span} (set : l.watchdog = some due)
    (limited : l.drainTimeout = some limit) (time : due ≤ now) (draining : l.phase = .draining)
    (idle : l.forcing = none) :
    ∃ looked forced ended notices, l.lookWatchdog? now = some (looked, notices) ∧ looked.stepForcing? = some forced ∧
      forced.stepForcing? = some ended ∧ l.fireWatchdog? now = some (ended, notices) := by
  refine ⟨_, _, _, _, by simp only [lookWatchdog?, set, limited, if_pos time, if_pos draining]; rfl, rfl, rfl, ?_⟩
  simp [fireWatchdog?, set, limited, time, draining, terminate, enter, idle]

def text (l : Lifecycle) : String :=
  "LifecycleController \x7b address: " ++ l.listener.place ++ ", state: " ++ l.phase.title ++
    ", active: " ++ toString l.active ++ ", drain_timeout: " ++ optionText Span.text l.drainTimeout ++ " \x7d"

end Lifecycle

end Handover
