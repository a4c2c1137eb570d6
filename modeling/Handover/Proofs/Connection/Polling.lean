import Handover.Connection.Stream
import Mathlib.Data.List.Induction

namespace Handover

/-- A direction of a connection. -/
inductive Direction where
  | inward
  | outward
deriving DecidableEq, Repr

/-- The direction whose limit an operation is under. -/
def Operation.direction? : Operation → Option Direction
  | read => some .inward
  | write | writeAll | flush => some .outward
  | shutdown => none

/-- Bytes are handed over to be sent. -/
def Operation.writes : Operation → Bool
  | write | writeAll => true
  | _ => false

theorem Operation.direction?_of_writes {operation : Operation} (writes : operation.writes = true) :
    operation.direction? = some .outward := by
  cases operation with
  | write | writeAll => rfl
  | read | flush | shutdown => cases writes

/-- The limit on a direction, if there is one. -/
def Timeouts.limit? (t : Timeouts) : Direction → Option Span
  | .inward => t.read
  | .outward => t.write

theorem Timeouts.limit?_effective (read write : Option Span) (d : Direction) :
    (effective read write).limit? d = positive? ((Timeouts.mk read write).limit? d) := by
  cases d <;> rfl

namespace Stream

/-- The limit on a direction, as it runs. -/
def deadline (s : Stream) : Direction → Deadline
  | .inward => s.reading
  | .outward => s.writing

variable {operation : Operation} {d : Direction}

theorem poll_of_direction (under : operation.direction? = some d) (s : Stream) (now : Nat) (found : Attempt) :
    (s.poll now operation found).1 = ((s.deadline d).watch now operation found).1 ∧
      (s.poll now operation found).2.deadline d = ((s.deadline d).watch now operation found).2 := by
  cases operation <;> cases under <;> exact ⟨rfl, rfl⟩

theorem deadline_poll_of_ne (other : operation.direction? ≠ some d) (s : Stream) (now : Nat) (found : Attempt) :
    (s.poll now operation found).2.deadline d = s.deadline d := by
  cases d with
  | inward => exact s.reading_poll (by rintro rfl; exact other rfl) now found
  | outward =>
    cases operation with
    | read | shutdown => rfl
    | write | writeAll | flush => exact absurd rfl other

theorem poll_of_undirected (free : operation.direction? = none) (s : Stream) (now : Nat) (found : Attempt) :
    (s.poll now operation found).1 = found := by
  cases operation with
  | shutdown => rfl
  | read | write | writeAll | flush => cases free

end Stream

theorem Deadline.watch_of_ready (l : Deadline) (now : Nat) (operation : Operation) {found : Attempt}
    (ready : found ≠ .pending) : l.watch now operation found = (found, { l with due := none }) := by
  cases found with
  | pending => exact absurd rfl ready
  | moved | failed => rfl

/-- A poll of an operation at some tick. -/
structure Poll where
  now : Nat
  operation : Operation
  serial : Nat
  found : Attempt
  answer : Attempt
deriving DecidableEq, Repr

/-- A connection is polled, and time does not go back. -/
inductive Polled (first : Stream) : List Poll → Stream → Prop
  | start : Polled first [] first
  | next {history s e} : Polled first history s → (∀ earlier ∈ history, earlier.now ≤ e.now) →
      (s.poll e.now e.operation e.found).1 = e.answer →
      Polled first (history ++ [e]) (s.poll e.now e.operation e.found).2

theorem Polled.ascending {first s : Stream} {history : List Poll} (polled : Polled first history s) :
    history.Pairwise fun earlier later => earlier.now ≤ later.now := by
  induction polled with
  | start => exact .nil
  | next _ time _ ih =>
    refine List.pairwise_append.2 ⟨ih, List.pairwise_singleton _ _, fun earlier member later last => ?_⟩
    rw [List.mem_singleton.1 last]
    exact time earlier member

theorem Polled.last {first s : Stream} {history : List Poll} {e : Poll} (polled : Polled first (history ++ [e]) s) :
    ∃ s', Polled first history s' ∧ (∀ earlier ∈ history, earlier.now ≤ e.now) ∧
      (s'.poll e.now e.operation e.found).1 = e.answer := by
  generalize whole : history ++ [e] = polls at polled
  cases polled with
  | start => simp at whole
  | next earlier time told =>
    obtain ⟨rfl, last⟩ := List.append_inj' whole rfl
    cases last
    exact ⟨_, earlier, time, told⟩

theorem Polled.initial {first s : Stream} {history later : List Poll} (polled : Polled first (history ++ later) s) :
    ∃ s', Polled first history s' := by
  induction later using List.reverseRecOn generalizing s with
  | nil => exact ⟨s, by rwa [List.append_nil] at polled⟩
  | append_singleton later e ih =>
    rw [← List.append_assoc] at polled
    obtain ⟨s', earlier, _, _⟩ := polled.last
    exact ih earlier

/-- The poll since which a direction is waiting, after one more. -/
def Direction.note (d : Direction) (since : Option Poll) (e : Poll) : Option Poll :=
  if e.operation.direction? = some d then
    if e.answer = .pending then some (since.getD e) else none
  else since

/-- The first poll that left the direction waiting since it was last ready or its limit last ran out. -/
def Direction.since? (d : Direction) (history : List Poll) : Option Poll := history.foldl d.note none

namespace Direction

variable {d : Direction} {history : List Poll}

theorem since?_append (d : Direction) (history : List Poll) (e : Poll) :
    d.since? (history ++ [e]) = d.note (d.since? history) e := by
  rw [since?, List.foldl_append]
  rfl

/-- The direction has been waiting since the poll `first`, through the later polls `rest`. -/
structure Waits (d : Direction) (history : List Poll) (first : Poll) (rest : List Poll) : Prop where
  suffix : first :: rest <:+ history
  direction : first.operation.direction? = some d
  pending : first.answer = .pending
  still : ∀ e ∈ rest, e.operation.direction? = some d → e.answer = .pending

theorem Waits.snoc {first e : Poll} {rest : List Poll} (waits : d.Waits history first rest)
    (still : e.operation.direction? = some d → e.answer = .pending) : d.Waits (history ++ [e]) first (rest ++ [e]) := by
  obtain ⟨⟨before, split⟩, direction, pending, still'⟩ := waits
  refine ⟨⟨before, by rw [← split, List.append_assoc, List.cons_append]⟩, direction, pending, ?_⟩
  intro later member
  rcases List.mem_append.1 member with among | last
  · exact still' later among
  · rw [List.mem_singleton.1 last]
    exact still

/-- What a direction waits since is the first poll of a wait, before which it was not waiting. -/
theorem split_of_since? {first : Poll} (waiting : d.since? history = some first) :
    ∃ before rest, before ++ first :: rest = history ∧ d.since? before = none ∧ d.Waits history first rest := by
  induction history using List.reverseRecOn generalizing first with
  | nil => cases waiting
  | append_singleton history e ih =>
    have later (earlier : d.since? history = some first)
        (still : e.operation.direction? = some d → e.answer = .pending) :
        ∃ before rest, before ++ first :: rest = history ++ [e] ∧ d.since? before = none ∧
          d.Waits (history ++ [e]) first rest := by
      obtain ⟨before, rest, split, none_, waits⟩ := ih earlier
      exact ⟨before, rest ++ [e], by rw [← split, List.append_assoc, List.cons_append], none_, waits.snoc still⟩
    rw [since?_append, note] at waiting
    split at waiting
    · rename_i under
      split at waiting
      · rename_i pending
        cases before : d.since? history with
        | none =>
          rw [before] at waiting
          cases waiting
          exact ⟨history, [], rfl, before, ⟨history, rfl⟩, under, pending, fun _ member => absurd member List.not_mem_nil⟩
        | some earlier =>
          rw [before] at waiting
          cases waiting
          exact later before fun _ => pending
      · cases waiting
    · rename_i other
      exact later waiting fun under => absurd under other

theorem waits_of_since? {first : Poll} (waiting : d.since? history = some first) :
    ∃ rest, d.Waits history first rest := by
  obtain ⟨_, rest, _, _, waits⟩ := split_of_since? waiting
  exact ⟨rest, waits⟩

/-- A direction that waits through some polls has been waiting since the first of them, or since an earlier one. -/
theorem since?_of_waits {first : Poll} {before rest : List Poll} (split : before ++ first :: rest = history)
    (waits : d.Waits history first rest) : d.since? history = some ((d.since? before).getD first) := by
  subst split
  obtain ⟨-, direction, pending, still⟩ := waits
  have start : d.note (d.since? before) first = some ((d.since? before).getD first) := by
    rw [note, if_pos direction, if_pos pending]
  rw [since?, List.foldl_append, List.foldl_cons]
  change rest.foldl d.note (d.note (d.since? before) first) = _
  rw [start]
  induction rest with
  | nil => rfl
  | cons e rest ih =>
    have same : d.note (some ((d.since? before).getD first)) e = some ((d.since? before).getD first) := by
      rw [note]
      split
      · rename_i under
        rw [if_pos (still e List.mem_cons_self under)]
        rfl
      · rfl
    rw [List.foldl_cons, same]
    exact ih fun later member => still later (List.mem_cons_of_mem e member)

end Direction

section

variable {peer : Endpoint} {t : Timeouts} {history : List Poll} {s : Stream}

/-- A limit runs out a span after the poll since which its direction is waiting, and does not run otherwise. -/
theorem Polled.deadline (polled : Polled (.withTimeouts peer t) history s) (d : Direction) :
    (s.deadline d).limit = t.limit? d ∧
      ∀ limit, t.limit? d = some limit → (s.deadline d).due = (d.since? history).map fun e => Clock.due e.now limit := by
  induction polled with
  | start => cases d <;> exact ⟨rfl, fun _ _ => rfl⟩
  | @next history s e _ _ told ih =>
    obtain ⟨limit, due⟩ := ih
    by_cases under : e.operation.direction? = some d
    · obtain ⟨answer, deadline⟩ := s.poll_of_direction under e.now e.found
      rw [told] at answer
      refine ⟨by rw [deadline, Deadline.limit_watch, limit], fun span limited => ?_⟩
      rw [deadline, Direction.since?_append, Direction.note, if_pos under, answer]
      cases found : e.found with
      | pending =>
        simp only [Deadline.watch, Deadline.stall, limit, limited, due span limited]
        cases d.since? history <;> simp only [Option.map_none, Option.map_some, Option.getD_none, Option.getD_some] <;>
          split <;> rfl
      | moved | failed => rfl
    · rw [s.deadline_poll_of_ne under, Direction.since?_append, Direction.note, if_neg under]
      exact ⟨limit, due⟩

/-- What a caller is told. -/
inductive Answered (t : Timeouts) (history : List Poll) (e : Poll) : Prop
  | ready : e.found ≠ .pending → e.answer = e.found → Answered t history e
  | unlimited : e.found = .pending → (∀ d, e.operation.direction? = some d → t.limit? d = none) →
      e.answer = .pending → Answered t history e
  | waits {d limit} : e.found = .pending → e.operation.direction? = some d → t.limit? d = some limit →
      e.now < Clock.due ((d.since? history).getD e).now limit → e.answer = .pending → Answered t history e
  | expires {d limit} : e.found = .pending → e.operation.direction? = some d → t.limit? d = some limit →
      Clock.due ((d.since? history).getD e).now limit ≤ e.now →
      e.answer = .failed (Deadline.expiry e.operation limit) → Answered t history e

theorem Polled.answered {e : Poll} (polled : Polled (.withTimeouts peer t) (history ++ [e]) s) :
    Answered t history e := by
  obtain ⟨s', earlier, _, told⟩ := polled.last
  cases under : e.operation.direction? with
  | none =>
    rw [s'.poll_of_undirected under] at told
    by_cases found : e.found = .pending
    · exact .unlimited found (fun d same => by rw [under] at same; cases same) (told ▸ found)
    · exact .ready found told.symm
  | some d =>
    obtain ⟨limit, due⟩ := earlier.deadline d
    rw [(s'.poll_of_direction under _ _).1] at told
    by_cases found : e.found = .pending
    · rw [found] at told
      cases limited : t.limit? d with
      | none =>
        rw [Deadline.watch_of_unlimited (limit.trans limited)] at told
        refine .unlimited found (fun d' same => ?_) told.symm
        rw [under] at same
        cases same
        exact limited
      | some span =>
        have running : (s'.deadline d).due.getD (Clock.due e.now span) =
            Clock.due ((d.since? history).getD e).now span := by
          rw [due span limited]
          cases d.since? history <;> rfl
        simp only [Deadline.watch, Deadline.stall, limit.trans limited, running] at told
        split at told
        · rename_i late
          exact .expires found under limited late told.symm
        · rename_i early
          exact .waits found under limited (Nat.lt_of_not_le early) told.symm
    · rw [Deadline.watch_of_ready _ _ _ found] at told
      exact .ready found told.symm

end

end Handover
