import Handover.Connection.Tracker

namespace Handover

/-- Where a task that waits for idleness stands. It registers before it reads the count, so that a connection that
ends between the two is not missed; with the count it read it returns or parks until it is woken. -/
inductive WaitPlace where
  | arriving
  | registered
  | informed (active : Nat)
  | parked
  | returned
deriving DecidableEq, Repr

/-- A task that waits for idleness, woken if an end was announced since it registered. -/
structure Waiter where
  name : String
  place : WaitPlace := .arriving
  woken : Bool := false
deriving DecidableEq, Repr

namespace Waiter

/-- The announcement reaches a task that is registered. -/
def wake (w : Waiter) : Waiter :=
  match w.place with
  | .registered | .informed _ | .parked => { w with woken := true }
  | .arriving | .returned => w

@[simp] theorem place_wake (w : Waiter) : w.wake.place = w.place := by
  unfold wake
  split <;> rfl

/-- The next step of a waiting task by itself: it registers, it reads the count, it returns if it has read zero and
parks if not, or it starts over after having been woken. -/
def next? (active : Nat) (w : Waiter) : Option Waiter :=
  match w.place with
  | .arriving => some { w with place := .registered, woken := false }
  | .registered => some { w with place := .informed active }
  | .informed found => some { w with place := if found = 0 then .returned else .parked }
  | .parked => if w.woken then some { w with place := .arriving } else none
  | .returned => none

/-- A task steps until it is parked or has returned: four steps at most while the count stays as it is. -/
def settle (active : Nat) (w : Waiter) : Waiter :=
  let once (w : Waiter) : Waiter := (next? active w).getD w
  once (once (once (once w)))

end Waiter

/-- A tracker and the tasks that wait for it to be idle. The end of the last connection is announced after the count
has changed, so that some ends can be still unannounced. -/
structure Idle where
  tracker : Tracker := {}
  unannounced : Nat := 0
  waiters : List Waiter := []
deriving DecidableEq, Repr

namespace Idle

def take (s : Idle) : Idle := { s with tracker := s.tracker.take }

/-- A connection ends; if it was the last one this is to be announced. -/
def release? (s : Idle) : Option Idle := do
  let tracker ← s.tracker.release?
  return { s with tracker, unannounced := s.unannounced + if tracker.isIdle then 1 else 0 }

/-- An end is announced to all tasks that are registered. -/
def announce? (s : Idle) : Option Idle :=
  if s.unannounced = 0 then none
  else some { s with unannounced := s.unannounced - 1, waiters := s.waiters.map Waiter.wake }

def arrive (s : Idle) (name : String) : Idle := { s with waiters := s.waiters ++ [{ name }] }

/-- The task at a position takes its next step. -/
def advance? (s : Idle) (i : Nat) : Option Idle := do
  let w ← s.waiters[i]?
  let w' ← Waiter.next? s.tracker.active w
  return { s with waiters := s.waiters.set i w' }

/-- All that is left to do at once: the announcements, then every task until it is parked or has returned. -/
def settle (s : Idle) : Idle :=
  let woken := if s.unannounced = 0 then s.waiters else s.waiters.map Waiter.wake
  { s with unannounced := 0, waiters := woken.map (Waiter.settle s.tracker.active) }

/-- The names of the tasks that have returned, and the state without them. -/
def collect (s : Idle) : List String × Idle :=
  let (done, waiting) := s.waiters.partition fun w => w.place = .returned
  (done.map (·.name), { s with waiters := waiting })

end Idle

end Handover
