import Handover.Connection.Idle
import Handover.Proofs.Registry.Slots

namespace Handover

/-- The steps of a waiting task, each with what has to hold for it. -/
inductive Waiter.Next (active : Nat) (w : Waiter) : Waiter → Prop
  | register : w.place = .arriving → Next active w { w with place := .registered, woken := false }
  | read : w.place = .registered → Next active w { w with place := .informed active }
  | goBack : w.place = .informed 0 → Next active w { w with place := .returned }
  | park {n} : w.place = .informed (n + 1) → Next active w { w with place := .parked }
  | resume : w.place = .parked → w.woken = true → Next active w { w with place := .arriving }

theorem Waiter.next_of_next? {active : Nat} {w w' : Waiter} (step : w.next? active = some w') : w.Next active w' := by
  unfold next? at step
  split at step
  · rename_i place
    cases step
    exact .register place
  · rename_i place
    cases step
    exact .read place
  · rename_i found place
    cases step
    cases found with
    | zero => exact .goBack place
    | succ n => exact .park place
  · rename_i place
    split at step
    · rename_i woken
      cases step
      exact .resume place woken
    · cases step
  · cases step

/-- Only a task that has returned, or sleeps and has not been woken, cannot go on. -/
theorem Waiter.next?_isSome {w : Waiter} (active : Nat) (place : w.place ≠ .returned)
    (woken : w.place = .parked → w.woken = true) : (w.next? active).isSome = true := by
  unfold next?
  split
  · rfl
  · rfl
  · rfl
  · rename_i parked
    rw [if_pos (woken parked)]
    rfl
  · rename_i returned
    exact absurd returned place

namespace Idle

/-- Something that can happen to a tracker and the tasks that wait for it to be idle. -/
inductive Event where
  | take
  | release
  | announce
  | arrive (name : String)
  | advance (i : Nat)
deriving DecidableEq, Repr

/-- The next state, if the event can happen. -/
def step? (s : Idle) : Event → Option Idle
  | .take => some s.take
  | .release => s.release?
  | .announce => s.announce?
  | .arrive name => some (s.arrive name)
  | .advance i => s.advance? i

/-- Events happen one after the other. -/
inductive Leads (first : Idle) : List Event → Idle → Prop
  | start : Leads first [] first
  | next {events : List Event} {s s' : Idle} {e : Event} : Leads first events s → s.step? e = some s' →
      Leads first (events ++ [e]) s'

def steps? (s : Idle) : List Event → Option Idle
  | [] => some s
  | e :: rest => (s.step? e).bind fun s => steps? s rest

theorem Leads.steps {first s s' : Idle} {events : List Event} (leads : Leads first events s) (more : List Event)
    (made : s.steps? more = some s') : Leads first (events ++ more) s' := by
  induction more generalizing events s with
  | nil =>
    cases made
    rwa [List.append_nil]
  | cons e rest ih =>
    obtain ⟨next, step, later⟩ := Option.bind_eq_some_iff.1 made
    rw [List.append_cons]
    exact ih (leads.next step) later

/-- What an event does to the count and to the announcements that are due. -/
inductive Counts (s s' : Idle) : Event → Prop
  | take : s'.tracker.active = s.tracker.active + 1 → s'.unannounced = s.unannounced → Counts s s' .take
  | release : s.tracker.active = s'.tracker.active + 1 →
      s'.unannounced = s.unannounced + (if s'.tracker.active = 0 then 1 else 0) → Counts s s' .release
  | announce : s'.tracker = s.tracker → s.unannounced = s'.unannounced + 1 → Counts s s' .announce
  | arrive {name} : s'.tracker = s.tracker → s'.unannounced = s.unannounced → Counts s s' (.arrive name)
  | advance {i} : s'.tracker = s.tracker → s'.unannounced = s.unannounced → Counts s s' (.advance i)

/-- Where a task that is there after an event comes from: it has made its step, it was left alone or woken, or it has just
come. -/
inductive Origin (s : Idle) (i : Nat) (w' : Waiter) : Event → Prop
  | own {w} : s.waiters[i]? = some w → w.Next s.tracker.active w' → Origin s i w' (.advance i)
  | stays {e} : e ≠ .advance i → e ≠ .announce → s.waiters[i]? = some w' → Origin s i w' e
  | wakes {w} : s.waiters[i]? = some w → w' = w.wake → Origin s i w' .announce
  | comes {name} : w' = { name } → Origin s i w' (.arrive name)

section

variable {s s' : Idle} {e : Event} {i : Nat}

theorem advance?_eq_some (step : s.advance? i = some s') :
    ∃ w w', s.waiters[i]? = some w ∧ w.Next s.tracker.active w' ∧
      s' = { s with waiters := s.waiters.set i w' } := by
  obtain ⟨w, there, rest⟩ := Option.bind_eq_some_iff.1 step
  obtain ⟨w', next, same⟩ := Option.bind_eq_some_iff.1 rest
  exact ⟨w, w', there, Waiter.next_of_next? next, (Option.some.inj same).symm⟩

theorem counts_of_step? (step : s.step? e = some s') : Counts s s' e := by
  cases e with
  | take =>
    cases step
    exact .take rfl rfl
  | release =>
    obtain ⟨t, released, same⟩ := Option.bind_eq_some_iff.1 step
    cases same
    refine .release (Tracker.active_of_release? released) ?_
    simp [Tracker.isIdle]
  | announce =>
    simp only [step?, announce?] at step
    split at step
    · cases step
    · cases step
      refine .announce rfl ?_
      dsimp only
      omega
  | arrive name =>
    cases step
    exact .arrive rfl rfl
  | advance i =>
    obtain ⟨_, _, _, _, rfl⟩ := advance?_eq_some step
    exact .advance rfl rfl

theorem origin_of_step? (step : s.step? e = some s') {w' : Waiter} (there : s'.waiters[i]? = some w') :
    Origin s i w' e := by
  cases e with
  | take =>
    cases step
    exact .stays nofun nofun there
  | release =>
    obtain ⟨_, _, same⟩ := Option.bind_eq_some_iff.1 step
    cases same
    exact .stays nofun nofun there
  | announce =>
    simp only [step?, announce?] at step
    split at step
    · cases step
    · cases step
      rw [List.getElem?_map] at there
      obtain ⟨w, before, same⟩ := Option.map_eq_some_iff.1 there
      exact .wakes before same.symm
  | arrive name =>
    cases step
    rw [arrive, getElem?_append_last] at there
    split at there
    · cases there
      exact .comes rfl
    · exact .stays nofun nofun there
  | advance j =>
    obtain ⟨w, next, before, goes, rfl⟩ := advance?_eq_some step
    rw [List.getElem?_set] at there
    split at there
    · rename_i here
      subst here
      split at there
      · cases there
        exact .own before goes
      · cases there
    · rename_i elsewhere
      refine .stays ?_ nofun there
      rintro ⟨⟩
      exact elsewhere rfl

/-- A task that has seen live connections will learn of their end: it has been woken, one of them still lives, or the end
is about to be announced. -/
def Attended (s : Idle) (w : Waiter) : Prop :=
  w.place = .parked ∨ (∃ n, w.place = .informed (n + 1)) →
    w.woken = true ∨ s.tracker.active ≠ 0 ∨ s.unannounced ≠ 0

theorem Attended.stays {w : Waiter} (attended : s.Attended w) (counts : Counts s s' e) (quiet : e ≠ .announce) :
    s'.Attended w := by
  intro asleep
  refine (attended asleep).imp_right fun alive => ?_
  cases counts with
  | take active => exact .inl (by omega)
  | release active unannounced =>
    split at unannounced
    · exact .inr (by omega)
    · rename_i live
      exact .inl live
  | announce => exact absurd rfl quiet
  | arrive tracker unannounced | advance tracker unannounced => rwa [tracker, unannounced]

theorem Attended.next {w w' : Waiter} (attended : s.Attended w) (next : w.Next s.tracker.active w') : s.Attended w' := by
  intro asleep
  cases next with
  | register | goBack | resume => simp at asleep
  | read =>
    obtain ⟨n, live⟩ : ∃ n, s.tracker.active = n + 1 := by simpa using asleep
    exact .inr (.inl (by omega))
  | @park n place => exact attended (.inr ⟨n, place⟩)

theorem attended_wake (s : Idle) (w : Waiter) : s.Attended w.wake := by
  intro asleep
  rw [Waiter.place_wake] at asleep
  left
  rcases asleep with place | ⟨n, place⟩ <;> rw [Waiter.wake, place]

end

theorem Leads.attended {s : Idle} {events : List Event} (leads : Leads {} events s) : ∀ w ∈ s.waiters, s.Attended w := by
  induction leads with
  | start => exact fun _ member => absurd member List.not_mem_nil
  | @next events s s' e _ step ih =>
    intro w member
    obtain ⟨i, there⟩ := List.getElem?_of_mem member
    have counts := counts_of_step? step
    cases origin_of_step? step there with
    | own before goes => exact ((ih _ (List.mem_of_getElem? before)).next goes).stays counts nofun
    | stays _ quiet before => exact (ih _ (List.mem_of_getElem? before)).stays counts quiet
    | wakes before same => exact same ▸ s'.attended_wake _
    | comes same =>
      subst same
      intro asleep
      simp at asleep

section

variable {first s : Idle} {events : List Event} {e : Event} {i : Nat}

/-- A task stands where its last step has led it. -/
theorem Leads.lastStep (leads : Leads {} events s) {w : Waiter} (there : s.waiters[i]? = some w)
    (begun : w.place ≠ .arriving) :
    ∃ earlier rest q w₀ w₁, events = earlier ++ .advance i :: rest ∧ .advance i ∉ rest ∧ Leads {} earlier q ∧
      q.waiters[i]? = some w₀ ∧ w₀.Next q.tracker.active w₁ ∧ w₁.place = w.place := by
  induction leads generalizing w with
  | start => cases there
  | @next events s s' e leads step ih =>
    have later {w₀ : Waiter} (before : s.waiters[i]? = some w₀) (same : w₀.place = w.place) (other : e ≠ .advance i) :
        ∃ earlier rest q w₀ w₁, events ++ [e] = earlier ++ .advance i :: rest ∧ .advance i ∉ rest ∧
          Leads {} earlier q ∧ q.waiters[i]? = some w₀ ∧ w₀.Next q.tracker.active w₁ ∧ w₁.place = w.place := by
      obtain ⟨earlier, rest, q, w₁, w₂, split, none_, run, before, next, place⟩ := ih before (same ▸ begun)
      refine ⟨earlier, rest ++ [e], q, w₁, w₂, by rw [split, List.append_assoc, List.cons_append], ?_, run, before,
        next, place.trans same⟩
      rw [List.mem_append, List.mem_singleton, not_or]
      exact ⟨none_, other.symm⟩
    cases origin_of_step? step there with
    | own before next => exact ⟨events, [], s, _, w, rfl, List.not_mem_nil, leads, before, next, rfl⟩
    | stays other _ before => exact later before rfl other
    | wakes before woken => exact later before (by rw [woken, Waiter.place_wake]) nofun
    | comes fresh =>
      subst fresh
      exact absurd rfl begun

/-- The last step of a task was to read a count, which it found to be `found`. -/
def ReadLast (events : List Event) (i found : Nat) : Prop :=
  ∃ earlier rest q w, events = earlier ++ .advance i :: rest ∧ .advance i ∉ rest ∧ Leads {} earlier q ∧
    q.waiters[i]? = some w ∧ w.place = .registered ∧ q.tracker.active = found

theorem Leads.readLast (leads : Leads {} events s) {w : Waiter} {found : Nat} (there : s.waiters[i]? = some w)
    (informed : w.place = .informed found) : ReadLast events i found := by
  obtain ⟨earlier, rest, q, w₀, w₁, split, none_, run, before, next, place⟩ :=
    leads.lastStep there (by rw [informed]; nofun)
  rw [informed] at place
  cases next with
  | read registered =>
    cases place
    exact ⟨earlier, rest, q, w₀, split, none_, run, before, registered, rfl⟩
  | register | goBack | park | resume => cases place

/-- A task returns only after it has read a count of zero. While no connection is live and no end is still to be announced
it is not parked without having been woken, and it can go on unless it has returned. -/
theorem returns_after_reading_zero (leads : Leads {} events s) {w : Waiter} (there : s.waiters[i]? = some w) :
    (w.place = .returned → ∃ earlier rest, events = earlier ++ .advance i :: rest ∧ .advance i ∉ rest ∧
        ReadLast earlier i 0) ∧
      (s.tracker.active = 0 → s.unannounced = 0 → (w.place = .parked → w.woken = true) ∧
        (w.place ≠ .returned → (s.step? (.advance i)).isSome = true)) := by
  refine ⟨fun returned => ?_, fun idle announced => ?_⟩
  · obtain ⟨earlier, rest, q, w₀, w₁, split, none_, run, before, next, place⟩ :=
      leads.lastStep there (by rw [returned]; nofun)
    rw [returned] at place
    cases next with
    | goBack informed => exact ⟨earlier, rest, split, none_, run.readLast before informed⟩
    | register | read | park | resume => cases place
  · have woken (parked : w.place = .parked) : w.woken = true := by
      have attended := leads.attended w (List.mem_of_getElem? there) (.inl parked)
      simpa [idle, announced] using attended
    refine ⟨woken, fun place => ?_⟩
    obtain ⟨w', next⟩ := Option.isSome_iff_exists.1 (Waiter.next?_isSome s.tracker.active place woken)
    simp [step?, advance?, there, next]

end

end Idle

namespace Sample

/-- The last connection ends after a task has read the count and before it parks. -/
def overtaken : List Idle.Event :=
  [.take, .arrive "drain", .advance 0, .advance 0, .release, .advance 0, .announce]

end Sample

/-- A task that parks after the last connection has ended is woken, and returns after it has read a count of zero. -/
theorem overtaken_task_returns :
    ∃ s s', Idle.Leads {} Sample.overtaken s ∧ (∃ w, s.waiters[0]? = some w ∧ w.place = .parked ∧ w.woken = true) ∧
      Idle.Leads {} (Sample.overtaken ++ List.replicate 4 (.advance 0)) s' ∧
      (∃ w, s'.waiters[0]? = some w ∧ w.place = .returned) ∧
      ∃ earlier rest, Sample.overtaken ++ List.replicate 4 (.advance 0) = earlier ++ .advance 0 :: rest ∧
        .advance 0 ∉ rest ∧ Idle.ReadLast earlier 0 0 := by
  have parked : Idle.Leads {} Sample.overtaken _ := Idle.Leads.start.steps Sample.overtaken rfl
  have returned : Idle.Leads {} (Sample.overtaken ++ List.replicate 4 (.advance 0)) _ :=
    parked.steps (List.replicate 4 (.advance 0)) rfl
  obtain ⟨woken, _⟩ := (Idle.returns_after_reading_zero parked (i := 0) rfl).2 rfl rfl
  exact ⟨_, _, parked, ⟨_, rfl, rfl, woken rfl⟩, returned, ⟨_, rfl, rfl⟩,
    (Idle.returns_after_reading_zero returned (i := 0) rfl).1 rfl⟩

end Handover
