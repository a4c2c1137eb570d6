import Handover.Proofs.Connection.Patience

namespace Handover

/-- The failure says that a time limit passed, one of the connection or one of the system. -/
def Failure.isTimeout : Failure → Bool
  | system number => number == 110
  | described kind _ => kind == .timedOut

/-- The attempt failed since a time limit passed. -/
def Attempt.isTimeout : Attempt → Bool
  | failed cause => cause.isTimeout
  | _ => false

/-- The poll without what its caller is told. -/
def Poll.asked (e : Poll) : Poll := { e with answer := .pending }

namespace Direction

/-- The polls under the limit on a direction. -/
def own (d : Direction) (history : List Poll) : List Poll :=
  history.filter fun e => e.operation.direction? = some d

/-- The polls that are not. -/
def others (d : Direction) (history : List Poll) : List Poll :=
  history.filter fun e => e.operation.direction? ≠ some d

/-- The poll is the first of its direction that was left waiting after the last one that was ready or given up. -/
def WaitsSince (d : Direction) (history : List Poll) (first : Poll) : Prop :=
  ∃ before rest, before ++ first :: rest = history ∧ d.Waits history first rest ∧
    ∀ last ∈ (d.own before).getLast?, last.answer ≠ .pending

variable {d : Direction}

/-- A direction is not waiting if the last poll of it was not left waiting. -/
theorem since?_eq_none_iff {history : List Poll} :
    d.since? history = none ↔ ∀ last ∈ (d.own history).getLast?, last.answer ≠ .pending := by
  induction history using List.reverseRecOn with
  | nil => simp [since?, own]
  | append_singleton history e ih =>
    rw [since?_append, note, own, List.filter_append]
    by_cases under : e.operation.direction? = some d
    · simp [under]
    · simpa [under, own] using ih

theorem since?_eq_some_iff {history : List Poll} {first : Poll} :
    d.since? history = some first ↔ d.WaitsSince history first := by
  constructor
  · intro waiting
    obtain ⟨before, rest, split, none_, waits⟩ := split_of_since? waiting
    exact ⟨before, rest, split, waits, since?_eq_none_iff.1 none_⟩
  · rintro ⟨before, rest, split, waits, ready⟩
    rw [since?_of_waits split waits, since?_eq_none_iff.2 ready]
    rfl

end Direction

/-- When a poll comes after others, nothing is found and the limit that was given for its direction has passed since the
first poll that left the direction waiting. -/
structure Poll.RunsOut (given : Timeouts) (d : Direction) (before : List Poll) (limit : Span) (e : Poll) : Prop where
  found : e.found = .pending
  limited : given.limit? d = some limit
  positive : limit.isZero = false
  late : ∃ first, d.WaitsSince before first ∧ first.now + limit.ticks ≤ e.now

section

variable {first s s' : Stream} {history history' : List Poll}

/-- The answers are determined by what was asked. -/
theorem Polled.determined (polled : Polled first history s) (again : Polled first history' s')
    (same : history'.map Poll.asked = history.map Poll.asked) : history' = history ∧ s' = s := by
  induction polled generalizing history' s' with
  | start =>
    cases again with
    | start => exact ⟨rfl, rfl⟩
    | next => simp at same
  | @next history s e _ _ told ih =>
    cases again with
    | start => simp at same
    | @next history' s' e' earlier _ told' =>
      rw [List.map_append, List.map_append] at same
      obtain ⟨init, last⟩ := List.append_inj' same rfl
      obtain ⟨rfl, rfl⟩ := ih earlier init
      -- Both polls ask the same, so the caller is told the same.
      obtain ⟨now, operation, serial, found, answer⟩ := e
      obtain ⟨now', operation', serial', found', answer'⟩ := e'
      cases last
      cases told.symm.trans told'
      exact ⟨rfl, rfl⟩

/-- Without the polls of one direction the others get the same answers. -/
theorem Polled.others (polled : Polled first history s) (d : Direction) :
    ∃ s', Polled first (d.others history) s' ∧ ∀ d', d' ≠ d → s'.deadline d' = s.deadline d' := by
  induction polled with
  | start => exact ⟨first, .start, fun _ _ => rfl⟩
  | @next history s e _ time told ih =>
    obtain ⟨s', polled', same⟩ := ih
    by_cases under : e.operation.direction? = some d
    · refine ⟨s', ?_, fun d' other => ?_⟩
      · simpa [Direction.others, under] using polled'
      · rw [same d' other, s.deadline_poll_of_ne]
        rw [under, Ne, Option.some.injEq]
        exact fun here => other here.symm
    · have answer : (s'.poll e.now e.operation e.found).1 = e.answer := by
        rw [← told]
        cases directed : e.operation.direction? with
        | none => rw [s.poll_of_undirected directed, s'.poll_of_undirected directed]
        | some d' =>
          rw [(s.poll_of_direction directed _ _).1, (s'.poll_of_direction directed _ _).1,
            same d' (by rintro rfl; exact under directed)]
      have next := polled'.next (fun earlier member => time earlier (List.mem_filter.1 member).1) answer
      refine ⟨_, by simpa [Direction.others, under] using next, fun d' other => ?_⟩
      by_cases here : e.operation.direction? = some d'
      · rw [(s.poll_of_direction here _ _).2, (s'.poll_of_direction here _ _).2, same d' other]
      · rw [s.deadline_poll_of_ne here, s'.deadline_poll_of_ne here, same d' other]

end

section

variable {peer : Endpoint} {read write : Option Span} {before history : List Poll} {e : Poll} {s : Stream} {d : Direction}

/-- A poll is given up if its limit has run out; in all other cases what the system says is passed on. -/
theorem Polled.answer_of_runsOut (polled : Polled (.withTimeouts peer (.effective read write)) (before ++ [e]) s)
    (under : e.operation.direction? = some d)
    (counted : ∀ limit, (Timeouts.mk read write).limit? d = some limit → limit.seconds ≤ Clock.maxSeconds) :
    (∀ limit, e.RunsOut ⟨read, write⟩ d before limit → e.answer = .failed (Deadline.expiry e.operation limit)) ∧
      ((∀ limit, ¬ e.RunsOut ⟨read, write⟩ d before limit) → e.answer = e.found) := by
  constructor
  · rintro limit ⟨found, limited, positive, start, since, late⟩
    have effective : (Timeouts.effective read write).limit? d = some limit := by
      rw [Timeouts.limit?_effective]
      exact positive?_eq_some.2 ⟨limited, positive⟩
    obtain ⟨_, rest, _, waits, _⟩ := since
    refine polled.expires_of_waits under effective found waits (Clock.passed_iff.2 ?_)
    rw [Clock.due_of_le _ (counted limit limited)]
    exact late
  · intro inTime
    by_cases found : e.found = .pending
    · by_contra given
      rw [found] at given
      obtain ⟨d', limit, start, under', effective, _, since, passed⟩ := polled.expires found given
      cases under.symm.trans under'
      rw [Timeouts.limit?_effective] at effective
      obtain ⟨limited, positive⟩ := positive?_eq_some.1 effective
      have late := passed.due
      rw [Clock.due_of_le _ (counted limit limited)] at late
      exact inTime limit ⟨found, limited, positive, start, Direction.since?_eq_some_iff.1 since, late⟩
    · exact (given_up_after_wait polled).1 found

/-- What a poll answers depends on the earlier polls of its direction alone. It is given up exactly if nothing is found
and the limit has run out; otherwise what the system says is passed on, as it always is without a limit. -/
theorem answers_of_history (polled : Polled (.withTimeouts peer (.effective read write)) history s) :
    (∀ before e after d, history = before ++ e :: after → e.operation.direction? = some d →
      (∀ limit, (Timeouts.mk read write).limit? d = some limit → limit.seconds ≤ Clock.maxSeconds) →
        (∀ limit, e.RunsOut ⟨read, write⟩ d before limit → e.answer = .failed (Deadline.expiry e.operation limit)) ∧
          ((∀ limit, ¬ e.RunsOut ⟨read, write⟩ d before limit) → e.answer = e.found) ∧
            (e.found.isTimeout = false → (e.answer.isTimeout = true ↔ ∃ limit, e.RunsOut ⟨read, write⟩ d before limit))) ∧
      (∀ d : Direction, (∃ s', Polled (.withTimeouts peer (.effective read write)) (d.others history) s') ∧
        ∀ again s', Polled (.withTimeouts peer (.effective read write)) again s' →
          again.map Poll.asked = (d.others history).map Poll.asked → again = d.others history) ∧
      ∀ e ∈ history, (∀ d limit, e.operation.direction? = some d → (Timeouts.mk read write).limit? d = some limit →
        limit.isZero = true) → e.answer = e.found := by
  have until_ : ∀ {before e after}, history = before ++ e :: after →
      ∃ s', Polled (.withTimeouts peer (.effective read write)) (before ++ [e]) s' := by
    rintro before e after rfl
    rw [List.append_cons] at polled
    exact polled.initial
  refine ⟨?_, fun d => ?_, ?_⟩
  · intro before e after d split under counted
    obtain ⟨s', earlier⟩ := until_ split
    obtain ⟨late, inTime⟩ := earlier.answer_of_runsOut under counted
    refine ⟨late, inTime, fun quiet => ⟨fun timeout => ?_, ?_⟩⟩
    · by_contra none_
      rw [inTime fun limit out => none_ ⟨limit, out⟩, quiet] at timeout
      cases timeout
    · rintro ⟨limit, out⟩
      rw [late limit out]
      rfl
  · obtain ⟨s', others, _⟩ := polled.others d
    exact ⟨⟨s', others⟩, fun again s'' polled' same => (others.determined polled' same).1⟩
  · intro e member unlimited
    obtain ⟨before, after, split⟩ := List.append_of_mem member
    obtain ⟨s', earlier⟩ := until_ split
    by_cases found : e.found = .pending
    · by_contra given
      rw [found] at given
      obtain ⟨d, limit, _, under, effective, _⟩ := earlier.expires found given
      rw [Timeouts.limit?_effective] at effective
      obtain ⟨limited, positive⟩ := positive?_eq_some.1 effective
      rw [unlimited d limit under limited] at positive
      cases positive
    · exact (given_up_after_wait earlier).1 found

/-- A read is given up 50 ms after the first that was left waiting, with or without the write between them. -/
theorem read_given_up_beside_write :
    (∃ s, Polled Sample.impatient [Sample.waiting 0 .read 0, Sample.waiting 20 .write 1, Sample.givenUp 50 .read 0] s) ∧
      (Sample.givenUp 50 .read 0).RunsOut ⟨some (.ofMillis 50), some (.ofMillis 50)⟩ .inward
        [Sample.waiting 0 .read 0, Sample.waiting 20 .write 1] (.ofMillis 50) ∧
      ∃ s, Polled Sample.impatient [Sample.waiting 0 .read 0, Sample.givenUp 50 .read 0] s := by
  have polled : Polled Sample.impatient
      (([] ++ [Sample.waiting 0 .read 0] ++ [Sample.waiting 20 .write 1]) ++ [Sample.givenUp 50 .read 0]) _ :=
    ((Polled.start.next (e := Sample.waiting 0 .read 0) (by decide) rfl).next (e := Sample.waiting 20 .write 1)
      (by decide) rfl).next (by decide) rfl
  obtain ⟨answers, without, _⟩ := answers_of_history polled
  have counted : ∀ limit, (Timeouts.mk (some (.ofMillis 50)) (some (.ofMillis 50))).limit? .inward = some limit →
      limit.seconds ≤ Clock.maxSeconds := by
    rintro limit ⟨⟩
    decide
  obtain ⟨_, _, exact_⟩ := answers [Sample.waiting 0 .read 0, Sample.waiting 20 .write 1] (Sample.givenUp 50 .read 0) []
    .inward rfl rfl counted
  obtain ⟨limit, out⟩ := (exact_ rfl).1 rfl
  obtain rfl : Span.ofMillis 50 = limit := Option.some.inj out.limited
  exact ⟨⟨_, polled⟩, out, (without .outward).1⟩

end

end Handover
