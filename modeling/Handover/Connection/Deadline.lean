import Handover.Clock
import Handover.SystemError

namespace Handover

inductive Operation where
  | read
  | write
  | writeAll
  | flush
  | shutdown
deriving DecidableEq, Repr

def Operation.name : Operation → String
  | read => "read"
  | write | writeAll => "write"
  | flush => "flush"
  | shutdown => "shutdown"

inductive Attempt where
  | pending
  | moved (bytes : Nat)
  | failed (cause : Failure)
deriving DecidableEq, Repr

/-- The time limit on a direction. It runs from the first attempt that finds the direction not ready, and is forgotten
by any attempt that finds it ready and by running out. -/
structure Deadline where
  limit : Option Span
  due : Option Nat := none
deriving DecidableEq, Repr

namespace Deadline

/-- The failure of an operation whose direction was not ready for too long. -/
def expiry (operation : Operation) (limit : Span) : Failure :=
  .described .timedOut (operation.name ++ " timed out after " ++ limit.text)

/-- The direction is not ready: the limit runs from now unless it runs already, and may have run out. -/
def stall (d : Deadline) (now : Nat) (operation : Operation) : Attempt × Deadline :=
  match d.limit with
  | none => (.pending, d)
  | some limit =>
    let due := d.due.getD (Clock.due now limit)
    if due ≤ now then (.failed (expiry operation limit), { d with due := none })
    else (.pending, { d with due := some due })

/-- Passes on what came of an attempt, unless the direction was not ready for too long. -/
def watch (d : Deadline) (now : Nat) (operation : Operation) : Attempt → Attempt × Deadline
  | .pending => d.stall now operation
  | attempt => (attempt, { d with due := none })

@[simp] theorem limit_watch (d : Deadline) (now : Nat) (operation : Operation) (attempt : Attempt) :
    (d.watch now operation attempt).2.limit = d.limit := by
  cases attempt <;> simp only [watch, stall]
  split
  · rfl
  · split <;> rfl

theorem watch_of_unlimited {d : Deadline} (h : d.limit = none) (now : Nat) (operation : Operation)
    (attempt : Attempt) : (d.watch now operation attempt).1 = attempt := by
  cases attempt <;> simp [watch, stall, h]

end Deadline

end Handover
