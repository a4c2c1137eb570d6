import Handover.Proofs.Connection.Polling

namespace Handover

/-- A span has passed from one tick to another. A span too long for the clock counts as thirty years. -/
structure Clock.Passed (span : Span) (start now : Nat) : Prop where
  due : Clock.due start span ≤ now
  nanos : span.seconds ≤ Clock.maxSeconds → start * 1000000 + span.nanos ≤ now * 1000000

theorem Clock.passed_iff {span : Span} {start now : Nat} : Passed span start now ↔ Clock.due start span ≤ now :=
  ⟨Passed.due, fun due => ⟨due, fun counted => (due_le_iff counted).1 due⟩⟩

theorem Clock.Passed.earlier {span : Span} {start start' now : Nat} (passed : Passed span start now)
    (earlier : start' ≤ start) : Passed span start' now :=
  passed_iff.2 (Nat.le_trans (due_le_due span earlier) passed.due)

/-- The first poll of an operation. -/
structure Poll.Begins (history : List Poll) (number : Nat) (first : Poll) : Prop where
  member : first ∈ history
  serial : first.serial = number
  earliest : ∀ later ∈ history, later.serial = number → first.now ≤ later.now

namespace Sample

/-- A read or a write that the system leaves waiting, and so does the connection. -/
def waiting (now : Nat) (operation : Operation) (serial : Nat) : Poll := ⟨now, operation, serial, .pending, .pending⟩

/-- It is given up after 50 ms. -/
def givenUp (now : Nat) (operation : Operation) (serial : Nat) : Poll :=
  ⟨now, operation, serial, .pending, .failed (Deadline.expiry operation (.ofMillis 50))⟩

def flushed (now serial : Nat) : Poll := ⟨now, .flush, serial, .moved 0, .moved 0⟩

def peer : Endpoint := ⟨.v4 127 0 0 1, 80⟩

/-- A connection on which nothing may wait for more than 50 ms. -/
def impatient : Stream := .withTimeouts peer (.effective (some (.ofMillis 50)) (some (.ofMillis 50)))

end Sample

section

variable {peer : Endpoint} {read write : Option Span} {history : List Poll} {e : Poll} {s : Stream}

/-- What has kept an operation waiting when it is given up. -/
theorem Polled.expires (polled : Polled (.withTimeouts peer (.effective read write)) (history ++ [e]) s)
    (found : e.found = .pending) (given : e.answer ≠ .pending) :
    ∃ d limit first, e.operation.direction? = some d ∧ (Timeouts.effective read write).limit? d = some limit ∧
      e.answer = .failed (Deadline.expiry e.operation limit) ∧ d.since? history = some first ∧
      Clock.Passed limit first.now e.now := by
  cases polled.answered with
  | ready ready => exact absurd found ready
  | unlimited _ _ pending => exact absurd pending given
  | waits _ _ _ _ pending => exact absurd pending given
  | @expires d limit _ under limited late expired =>
    cases waiting : d.since? history with
    | none =>
      -- The limit does not run out at the poll that sets it.
      rw [waiting] at late
      rw [Timeouts.limit?_effective] at limited
      exact absurd late (Nat.not_le_of_lt (Clock.lt_due e.now (positive?_eq_some.1 limited).2))
    | some first =>
      rw [waiting] at late
      exact ⟨d, limit, first, under, limited, expired, waiting, Clock.passed_iff.2 late⟩

/-- An operation that the system leaves waiting is given up only if its direction has been waiting for the whole limit.
Then the operation itself has, unless the direction began to wait with another one. What the system says of an operation
is passed on. -/
theorem given_up_after_wait (polled : Polled (.withTimeouts peer (.effective read write)) (history ++ [e]) s) :
    (e.found ≠ .pending → e.answer = e.found) ∧
      (e.found = .pending → e.answer ≠ .pending → ∃ d limit first rest,
        e.operation.direction? = some d ∧ (Timeouts.mk read write).limit? d = some limit ∧
          e.answer = .failed (Deadline.expiry e.operation limit) ∧
          d.since? history = some first ∧ d.Waits history first rest ∧ Clock.Passed limit first.now e.now ∧
          (first.serial = e.serial →
            ∀ begun, Poll.Begins (history ++ [e]) e.serial begun → Clock.Passed limit begun.now e.now)) := by
  constructor
  · intro ready
    cases polled.answered with
    | ready _ told => exact told
    | unlimited found | waits found | expires found => exact absurd found ready
  · intro found given
    obtain ⟨d, limit, first, under, limited, expired, waiting, passed⟩ := polled.expires found given
    obtain ⟨rest, waits⟩ := Direction.waits_of_since? waiting
    rw [Timeouts.limit?_effective] at limited
    refine ⟨d, limit, first, rest, under, (positive?_eq_some.1 limited).1, expired, waiting, waits, passed,
      fun own begun begins => ?_⟩
    have member : first ∈ history ++ [e] := List.mem_append_left _ (waits.suffix.mem List.mem_cons_self)
    exact passed.earlier (begins.earliest first member own)

/-- A read is given up after it has waited for the whole limit. -/
theorem patient_read_is_given_up :
    ∃ s, Polled Sample.impatient ([Sample.waiting 0 .read 0, Sample.waiting 30 .read 0] ++ [Sample.givenUp 50 .read 0]) s ∧
      ∃ first rest, Direction.inward.Waits [Sample.waiting 0 .read 0, Sample.waiting 30 .read 0] first rest ∧
        Clock.Passed (.ofMillis 50) first.now 50 := by
  have polled : Polled Sample.impatient
      ([Sample.waiting 0 .read 0, Sample.waiting 30 .read 0] ++ [Sample.givenUp 50 .read 0]) _ :=
    ((Polled.start.next (e := Sample.waiting 0 .read 0) (by decide) rfl).next (e := Sample.waiting 30 .read 0)
      (by decide) rfl).next (by decide) rfl
  obtain ⟨d, limit, first, rest, under, limited, _, _, waits, passed, _⟩ :=
    (given_up_after_wait polled).2 rfl (by decide)
  cases under
  cases limited
  exact ⟨_, polled, first, rest, waits, passed⟩

/-- A read is given up at its first poll, since one before it had waited and was abandoned. -/
theorem read_is_given_up_at_once :
    ∃ s, Polled Sample.impatient ([Sample.waiting 0 .read 0] ++ [Sample.givenUp 60 .read 1]) s ∧
      Poll.Begins ([Sample.waiting 0 .read 0] ++ [Sample.givenUp 60 .read 1]) 1 (Sample.givenUp 60 .read 1) ∧
        ¬ Clock.Passed (.ofMillis 50) 60 60 :=
  ⟨_, (Polled.start.next (e := Sample.waiting 0 .read 0) (by decide) rfl).next (by decide) rfl, ⟨by decide, rfl, by decide⟩,
    fun passed => absurd passed.due (by decide)⟩

/-- A direction that waits through the last polls is given up at the latest a limit after the first of them. -/
theorem Polled.expires_of_waits (polled : Polled (.withTimeouts peer (.effective read write)) (history ++ [e]) s)
    {d : Direction} {limit : Span} {first : Poll} {rest : List Poll} (under : e.operation.direction? = some d)
    (limited : (Timeouts.effective read write).limit? d = some limit) (found : e.found = .pending)
    (waits : d.Waits history first rest) (passed : Clock.Passed limit first.now e.now) :
    e.answer = .failed (Deadline.expiry e.operation limit) := by
  obtain ⟨before, split⟩ := waits.suffix
  have since := Direction.since?_of_waits split waits
  have earlier : ((d.since? before).getD first).now ≤ first.now := by
    cases waiting : d.since? before with
    | none => exact Nat.le_refl _
    | some f =>
      have ascending := polled.ascending
      rw [← split, List.append_assoc] at ascending
      obtain ⟨_, suffix⟩ := Direction.waits_of_since? waiting
      exact (List.pairwise_append.1 ascending).2.2 f (suffix.suffix.mem List.mem_cons_self) first List.mem_cons_self
  cases polled.answered with
  | ready ready => exact absurd found ready
  | unlimited _ free =>
    have := (free d under).symm.trans limited
    cases this
  | waits _ under' limited' early =>
    cases under.symm.trans under'
    cases limited.symm.trans limited'
    rw [since] at early
    exact absurd (passed.earlier earlier).due (Nat.not_le_of_lt early)
  | expires _ under' limited' _ expired =>
    cases under.symm.trans under'
    cases limited.symm.trans limited'
    exact expired

/-- An operation is given up a limit after another one was left pending exactly if its direction has been waiting for the
whole limit since then. -/
theorem Polled.expires_iff {d : Direction} {limit : Span} {before between : List Poll} {begun : Poll}
    (polled : Polled (.withTimeouts peer (.effective read write)) (before ++ begun :: between ++ [e]) s)
    (limited : (Timeouts.effective read write).limit? d = some limit) (direction : begun.operation.direction? = some d)
    (pending : begun.answer = .pending) (late : Clock.Passed limit begun.now e.now)
    (under : e.operation.direction? = some d) (found : e.found = .pending) :
    e.answer = .failed (Deadline.expiry e.operation limit) ↔
      ∃ first rest, d.Waits (begun :: between) first rest ∧ Clock.Passed limit first.now e.now := by
  have whole : begun :: between <:+ before ++ begun :: between := List.suffix_append _ _
  constructor
  · intro expired
    obtain ⟨d', limit', first, under', limited', _, waiting, ran⟩ := polled.expires found (by rw [expired]; nofun)
    cases under.symm.trans under'
    cases limited.symm.trans limited'
    obtain ⟨rest, waits⟩ := Direction.waits_of_since? waiting
    rcases List.suffix_or_suffix_of_suffix waits.suffix whole with inner | outer
    · exact ⟨first, rest, { waits with suffix := inner }, ran⟩
    · -- The direction was waiting already when the first of them was polled.
      refine ⟨begun, between, ⟨List.suffix_rfl, direction, pending, fun other among => waits.still other ?_⟩, late⟩
      rcases List.suffix_cons_iff.1 outer with same | within
      · cases same
        exact among
      · exact within.mem (List.mem_cons_of_mem begun among)
  · rintro ⟨first, rest, waits, passed⟩
    exact polled.expires_of_waits under limited found { waits with suffix := waits.suffix.trans whole } passed

/-- If a direction is not ready for a whole limit, an operation is given up on the way or at its end. -/
theorem Polled.expires_on_the_way {d : Direction} {limit : Span} {before between : List Poll} {begun : Poll}
    (polled : Polled (.withTimeouts peer (.effective read write)) (before ++ begun :: between ++ [e]) s)
    (limited : (Timeouts.effective read write).limit? d = some limit) (direction : begun.operation.direction? = some d)
    (pending : begun.answer = .pending) (late : Clock.Passed limit begun.now e.now)
    (under : e.operation.direction? = some d) (found : e.found = .pending)
    (stalled : ∀ other ∈ between, other.operation.direction? = some d → other.found = .pending) :
    ∃ other ∈ between ++ [e], other.operation.direction? = some d ∧
      other.answer = .failed (Deadline.expiry other.operation limit) := by
  by_cases waiting : ∀ other ∈ between, other.operation.direction? = some d → other.answer = .pending
  · have waits : d.Waits (begun :: between) begun between := ⟨List.suffix_rfl, direction, pending, waiting⟩
    exact ⟨e, List.mem_append_right _ List.mem_cons_self, under,
      (polled.expires_iff limited direction pending late under found).2 ⟨begun, between, waits, late⟩⟩
  · push Not at waiting
    obtain ⟨other, among, under', given⟩ := waiting
    obtain ⟨earlier, later, split⟩ := List.append_of_mem among
    have polls : before ++ begun :: between ++ [e] = (before ++ begun :: earlier ++ [other]) ++ (later ++ [e]) := by
      simp [split]
    rw [polls] at polled
    obtain ⟨_, polled⟩ := polled.initial
    obtain ⟨d', limit', _, own, limited', expired, _⟩ := polled.expires (stalled other among under') given
    cases under'.symm.trans own
    cases limited.symm.trans limited'
    exact ⟨other, List.mem_append_left _ among, under', expired⟩

/-- A write that finds nothing taken a limit after another one was left pending is given up exactly if its direction has
been waiting for the whole limit since then. This is so, or another operation was given up on the way, unless the
direction was ready on the way. -/
theorem stalled_write_expires_iff {limit : Span} {before between : List Poll} {begun : Poll}
    (polled : Polled (.withTimeouts peer (.effective read write)) (before ++ begun :: between ++ [e]) s)
    (limited : positive? write = some limit) (writes : begun.operation.writes = true)
    (pending : begun.answer = .pending) (late : begun.now * 1000000 + limit.nanos ≤ e.now * 1000000)
    (again : e.operation.writes = true) (found : e.found = .pending) :
    (e.answer = .failed (Deadline.expiry e.operation limit) ↔ ∃ first rest,
      Direction.outward.Waits (begun :: between) first rest ∧ Clock.Passed limit first.now e.now) ∧
    ((∀ other ∈ between, other.operation.direction? = some .outward → other.found = .pending) →
      ∃ other ∈ between ++ [e], other.operation.direction? = some .outward ∧
        other.answer = .failed (Deadline.expiry other.operation limit)) := by
  have under := Operation.direction?_of_writes again
  have direction := Operation.direction?_of_writes writes
  have limit? : (Timeouts.effective read write).limit? .outward = some limit := limited
  have passed : Clock.Passed limit begun.now e.now := Clock.passed_iff.2 (Clock.due_le_of_passed late)
  exact ⟨polled.expires_iff limit? direction pending passed under found,
    polled.expires_on_the_way limit? direction pending passed under found⟩

/-- A write that gets nothing through is given up after the whole limit, whatever else was polled. -/
theorem stalled_write_is_given_up :
    ∃ s, Polled Sample.impatient ([] ++ Sample.waiting 0 .write 0 :: [Sample.waiting 30 .writeAll 1] ++
        [Sample.givenUp 60 .write 2]) s ∧
      ∃ first rest, Direction.outward.Waits [Sample.waiting 0 .write 0, Sample.waiting 30 .writeAll 1] first rest ∧
        Clock.Passed (.ofMillis 50) first.now 60 := by
  have polled : Polled Sample.impatient ([] ++ Sample.waiting 0 .write 0 :: [Sample.waiting 30 .writeAll 1] ++
      [Sample.givenUp 60 .write 2]) _ :=
    ((Polled.start.next (e := Sample.waiting 0 .write 0) (by decide) rfl).next (e := Sample.waiting 30 .writeAll 1)
      (by decide) rfl).next (by decide) rfl
  exact ⟨_, polled, (stalled_write_expires_iff polled rfl rfl rfl (by decide) rfl rfl).1.1 rfl⟩

/-- A write still waits 60 ms after one before it was left waiting, though nothing was sent, since a flush came between
them. -/
theorem flush_keeps_write_waiting :
    ∃ s, Polled Sample.impatient ([Sample.waiting 0 .write 0, Sample.flushed 30 1] ++ [Sample.waiting 60 .write 2]) s ∧
      Clock.Passed (.ofMillis 50) 0 60 :=
  ⟨_, ((Polled.start.next (e := Sample.waiting 0 .write 0) (by decide) rfl).next (e := Sample.flushed 30 1)
    (by decide) rfl).next (by decide) rfl, Clock.passed_iff.2 (by decide)⟩

end

end Handover
