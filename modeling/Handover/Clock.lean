import Handover.Span

namespace Handover.Clock

/-- The seconds up to which the clock can count. -/
def maxSeconds : Nat := Nat.pow 2 63 - 1

/-- The tick at which a timer set at `now` is due. -/
def due (now : Nat) (span : Span) : Nat :=
  now + if span.seconds ≤ maxSeconds then span.ticks else (Span.ofSeconds (86400 * 365 * 30)).ticks

theorem le_due (now : Nat) (span : Span) : now ≤ due now span := by
  unfold due
  omega

theorem lt_due {span : Span} (now : Nat) (h : span.isZero = false) : now < due now span := by
  have : 0 < span.nanos := by simpa [Span.isZero, Nat.pos_iff_ne_zero] using h
  simp only [due, Span.ticks, Span.ofSeconds, Span.ofParts]
  split <;> omega

theorem due_le_due {now now' : Nat} (limit : Span) (later : now ≤ now') : due now limit ≤ due now' limit := by
  unfold due
  omega

theorem due_of_le {limit : Span} (now : Nat) (counted : limit.seconds ≤ maxSeconds) :
    due now limit = now + limit.ticks := by
  rw [due, if_pos counted]

theorem due_le_iff {start now : Nat} {limit : Span} (counted : limit.seconds ≤ maxSeconds) :
    due start limit ≤ now ↔ start * 1000000 + limit.nanos ≤ now * 1000000 := by
  rw [due_of_le start counted, Span.ticks]
  omega

/-- When a span has passed its timer is due, even if the span is too long for the clock. -/
theorem due_le_of_passed {start now : Nat} {limit : Span} (passed : start * 1000000 + limit.nanos ≤ now * 1000000) :
    due start limit ≤ now := by
  by_cases counted : limit.seconds ≤ maxSeconds
  · exact (due_le_iff counted).2 passed
  · have long : 9223372036854775807 < limit.nanos / 1000000000 := Nat.lt_of_not_le counted
    rw [due, if_neg counted]
    change start + 946080000000 ≤ now
    omega

end Handover.Clock
