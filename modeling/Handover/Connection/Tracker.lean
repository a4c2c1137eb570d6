namespace Handover

/-- The number of connections that were accepted and have not ended. A connection takes one slot when it is accepted
and gives it back once, when it ends. -/
structure Tracker where
  active : Nat := 0
deriving DecidableEq, Repr, Inhabited

namespace Tracker

def take (t : Tracker) : Tracker := ⟨t.active + 1⟩

/-- Gives a slot back; there is none to give back when none is taken. -/
def release? (t : Tracker) : Option Tracker := if t.active = 0 then none else some ⟨t.active - 1⟩

def isIdle (t : Tracker) : Bool := t.active == 0

def text (t : Tracker) : String := "ConnectionTracker \x7b active: " ++ toString t.active ++ " \x7d"

/-- A description of a slot that is taken. -/
def slotText : String := "ConnectionGuard \x7b .. \x7d"

theorem active_of_release? {t t' : Tracker} (h : t.release? = some t') : t.active = t'.active + 1 := by
  unfold release? at h
  split at h
  · cases h
  · cases h
    simp only
    omega

end Tracker

end Handover
