import Handover.Listener.Basic
import Handover.Proofs.Registry.Slots
import Handover.Proofs.Service.Lifecycle

namespace Handover

@[simp] theorem Listener.waiter_look (l : Listener) : l.look.2.waiter = l.waiter := by
  unfold look
  split
  · rfl
  · split <;> rfl

/-- Where a task stands that accepts on a listener. -/
inductive AcceptPlace where
  | away
  | registered
  | waiting
  | answered (result : Accept)
deriving DecidableEq, Repr

/-- A task that accepts on a listener. -/
structure Acceptor where
  place : AcceptPlace := .away
  woken : Bool := false
deriving DecidableEq, Repr

/-- Where a call stands that closes a listener. -/
inductive ClosePlace where
  | entered
  | shut
  | returned
deriving DecidableEq, Repr

/-- A listener, the tasks that accept on it and the calls that close it. -/
structure Accepting where
  listener : Listener
  tasks : List Acceptor := []
  closes : List ClosePlace := []
deriving DecidableEq, Repr

namespace Accepting

/-- Something that can happen to a listener on which tasks accept. -/
inductive Event where
  | come
  | register (i : Nat)
  | look (i : Nat)
  | close
  | shut (k : Nat)
  | wake (k : Nat)
  | arrive (arrival : Arrival)
  | nudge (i : Nat)
deriving DecidableEq, Repr

/-- A close wakes the task that is put down. -/
def Event.isWake : Event → Bool
  | wake _ => true
  | _ => false

/-- Where a task stands whose attempt came to this. -/
def placeAfter (result : Accept) : AcceptPlace := if result = .pending then .waiting else .answered result

@[simp] theorem placeAfter_eq_waiting {result : Accept} : placeAfter result = .waiting ↔ result = .pending := by
  unfold placeAfter
  split <;> simp [*]

/-- A task looks for what has arrived. -/
def look (s : Accepting) (i : Nat) (t : Acceptor) : Accepting :=
  let (result, listener) := s.listener.look
  { s with listener, tasks := s.tasks.set i { t with place := placeAfter result } }

/-- A task is woken. -/
def nudge (s : Accepting) (i : Nat) : Accepting :=
  { s with tasks := s.tasks.modify i fun t => { t with woken := true } }

/-- The task that is put down is woken. -/
def wake (s : Accepting) : Accepting :=
  let (waiter, listener) := s.listener.wake
  let s := { s with listener }
  match waiter with
  | none => s
  | some i => s.nudge i

/-- The next state, if the event can happen. -/
def step? (s : Accepting) : Event → Option Accepting
  | .come => some { s with tasks := s.tasks ++ [{}] }
  | .register i => do
    let t ← s.tasks[i]?
    if t.place = .registered then none
    else some { s with listener := s.listener.register i, tasks := s.tasks.set i ⟨.registered, false⟩ }
  | .look i => do
    let t ← s.tasks[i]?
    if t.place = .registered then some (s.look i t) else none
  | .close => some { s with closes := s.closes ++ [.entered] }
  | .shut k =>
    if s.closes[k]? = some .entered then some { s with listener := s.listener.shut, closes := s.closes.set k .shut }
    else none
  | .wake k => if s.closes[k]? = some .shut then some { s.wake with closes := s.closes.set k .returned } else none
  | .arrive arrival => some { s with listener := s.listener.arrive arrival }
  | .nudge i => some (s.nudge i)

/-- Events happen one after the other. -/
inductive Leads (first : Accepting) : List Event → Accepting → Prop
  | start : Leads first [] first
  | next {events : List Event} {s s' : Accepting} {e : Event} : Leads first events s → s.step? e = some s' →
      Leads first (events ++ [e]) s'

def steps? (s : Accepting) : List Event → Option Accepting
  | [] => some s
  | e :: rest => (s.step? e).bind fun s => steps? s rest

theorem Leads.steps {first s s' : Accepting} {events : List Event} (leads : Leads first events s) (more : List Event)
    (made : s.steps? more = some s') : Leads first (events ++ more) s' := by
  induction more generalizing events s with
  | nil =>
    cases made
    rwa [List.append_nil]
  | cons e rest ih =>
    obtain ⟨next, step, later⟩ := Option.bind_eq_some_iff.1 made
    rw [List.append_cons]
    exact ih (leads.next step) later

/-- What an event does, with what has to hold for it. -/
inductive Does (s : Accepting) : Event → Accepting → Prop
  | come : Does s .come { s with tasks := s.tasks ++ [{}] }
  | register {i t} : s.tasks[i]? = some t → t.place ≠ .registered →
      Does s (.register i) { s with listener := s.listener.register i, tasks := s.tasks.set i ⟨.registered, false⟩ }
  | look {i t} : s.tasks[i]? = some t → t.place = .registered → Does s (.look i) (s.look i t)
  | close : Does s .close { s with closes := s.closes ++ [.entered] }
  | shut {k} : s.closes[k]? = some .entered →
      Does s (.shut k) { s with listener := s.listener.shut, closes := s.closes.set k .shut }
  | wake {k} : s.closes[k]? = some .shut → Does s (.wake k) { s.wake with closes := s.closes.set k .returned }
  | arrive {arrival} : Does s (.arrive arrival) { s with listener := s.listener.arrive arrival }
  | nudge {i} : Does s (.nudge i) (s.nudge i)

/-- Where a task that is there after an event comes from: it has put itself down, it has looked, it was left alone or woken,
or it has just come. -/
inductive Origin (s : Accepting) (i : Nat) (t' : Acceptor) : Event → Prop
  | registers : t' = ⟨.registered, false⟩ → Origin s i t' (.register i)
  | looks {t} : s.tasks[i]? = some t → t.place = .registered →
      t' = { t with place := placeAfter s.listener.look.1 } → Origin s i t' (.look i)
  | stays {e t} : e ≠ .register i → e ≠ .look i → s.tasks[i]? = some t → t'.place = t.place →
      (t'.woken = true ↔ t.woken = true ∨ e = .nudge i ∨ e.isWake = true ∧ s.listener.waiter = some i) →
      Origin s i t' e
  | comes : t' = {} → Origin s i t' .come

section

variable {s s' : Accepting} {e : Event} {i : Nat} {t' : Acceptor}

theorem does_of_step? (step : s.step? e = some s') : Does s e s' := by
  cases e with
  | come | close | arrive | nudge =>
    cases step
    constructor
  | register i =>
    obtain ⟨t, there, rest⟩ := Option.bind_eq_some_iff.1 step
    split at rest
    · cases rest
    · rename_i place
      cases rest
      exact .register there place
  | look i =>
    obtain ⟨t, there, rest⟩ := Option.bind_eq_some_iff.1 step
    split at rest
    · rename_i place
      cases rest
      exact .look there place
    · cases rest
  | shut k =>
    simp only [step?] at step
    split at step
    · rename_i entered
      cases step
      exact .shut entered
    · cases step
  | wake k =>
    simp only [step?] at step
    split at step
    · rename_i shut
      cases step
      exact .wake shut
    · cases step

@[simp] theorem listener_nudge (s : Accepting) (j : Nat) : (s.nudge j).listener = s.listener := rfl

@[simp] theorem listener_wake (s : Accepting) : s.wake.listener = { s.listener with waiter := none } := by
  unfold wake
  cases down : s.listener.waiter <;> simp [Listener.wake, down]

/-- A task that is there after one was woken was there before, at the same place. -/
theorem getElem?_nudge {j : Nat} (there : (s.nudge j).tasks[i]? = some t') :
    ∃ t, s.tasks[i]? = some t ∧ t'.place = t.place ∧ (t'.woken = true ↔ t.woken = true ∨ j = i) := by
  rw [nudge, List.getElem?_modify] at there
  obtain ⟨t, before, same⟩ := Option.map_eq_some_iff.1 there
  refine ⟨t, before, ?_⟩
  subst same
  split
  · rename_i here
    exact ⟨rfl, by simp [here]⟩
  · rename_i elsewhere
    exact ⟨rfl, by simp [elsewhere]⟩

theorem getElem?_wake (there : s.wake.tasks[i]? = some t') :
    ∃ t, s.tasks[i]? = some t ∧ t'.place = t.place ∧
      (t'.woken = true ↔ t.woken = true ∨ s.listener.waiter = some i) := by
  unfold wake at there
  cases down : s.listener.waiter with
  | none =>
    simp only [Listener.wake, down] at there
    exact ⟨t', there, rfl, by simp⟩
  | some j =>
    simp only [Listener.wake, down] at there
    obtain ⟨t, before, place, woken⟩ := getElem?_nudge there
    exact ⟨t, before, place, by rw [woken, Option.some.injEq]⟩

theorem origin_of_step? (step : s.step? e = some s') (there : s'.tasks[i]? = some t') : Origin s i t' e := by
  have alone {e : Event} (other : e ≠ .register i ∧ e ≠ .look i ∧ e ≠ .nudge i ∧ e.isWake = false)
      (before : s.tasks[i]? = some t') : Origin s i t' e :=
    .stays other.1 other.2.1 before rfl (by simp [other])
  cases does_of_step? step with
  | come =>
    rw [getElem?_append_last] at there
    split at there
    · cases there
      exact .comes rfl
    · exact alone (by simp [Event.isWake]) there
  | @register j t before =>
    rw [List.getElem?_set] at there
    split at there
    · rename_i here
      subst here
      split at there <;> cases there
      exact .registers rfl
    · rename_i elsewhere
      exact alone (by simp [Event.isWake, elsewhere]) there
  | @look j t before place =>
    rw [look, List.getElem?_set] at there
    split at there
    · rename_i here
      subst here
      split at there <;> cases there
      exact .looks before place rfl
    · rename_i elsewhere
      exact alone (by simp [Event.isWake, elsewhere]) there
  | close | shut | arrive => exact alone (by simp [Event.isWake]) there
  | wake =>
    obtain ⟨t, before, place, woken⟩ := getElem?_wake there
    exact .stays nofun nofun before place (by simpa [Event.isWake] using woken)
  | nudge =>
    obtain ⟨t, before, place, woken⟩ := getElem?_nudge there
    exact .stays nofun nofun before place (by simpa [Event.isWake] using woken)

/-- The task that is put down is the one that has put itself down last, unless it was woken. -/
theorem waiter_of_step? (step : s.step? e = some s') :
    s'.listener.waiter = match e with
      | .register j => some j
      | .wake _ => none
      | _ => s.listener.waiter := by
  cases does_of_step? step with
  | come | register | close | shut | arrive | nudge => rfl
  | look => exact Listener.waiter_look _
  | wake => rw [listener_wake]

/-- A listener is closed by the step that closes the socket, and stays closed. -/
theorem isClosed_of_step? (step : s.step? e = some s') :
    s'.listener.isClosed = true ↔ s.listener.isClosed = true ∨ ∃ k, e = .shut k := by
  cases does_of_step? step with
  | come | close | register | arrive | nudge => simp [Listener.isClosed, Listener.register, Listener.arrive]
  | look => simp [look, Listener.isClosed, (Listener.look_frame s.listener).2]
  | shut => simp [Listener.isClosed, Listener.shut]
  | wake => simp [Listener.isClosed]

end

/-- One of the events is that a close wakes the task that is put down. -/
def Wakes (events : List Event) : Prop := ∃ e ∈ events, e.isWake = true

@[simp] theorem not_wakes_nil : ¬ Wakes [] := by simp [Wakes]

@[simp] theorem wakes_append {before after : List Event} : Wakes (before ++ after) ↔ Wakes before ∨ Wakes after := by
  simp [Wakes, or_and_right, exists_or]

@[simp] theorem wakes_cons {e : Event} {after : List Event} : Wakes (e :: after) ↔ e.isWake = true ∨ Wakes after := by
  simp [Wakes]

/-- What the calls that close a listener have done so far. -/
structure Closes (events : List Event) (s : Accepting) : Prop where
  closed {k} : .shut k ∈ events → s.listener.isClosed = true
  begun {c} : c ∈ s.closes → c ≠ .entered → s.listener.isClosed = true
  woken : Wakes events → s.listener.isClosed = true
  returned : .returned ∈ s.closes → Wakes events

/-- Where a call that closes the listener stands after an event: as before, or where the event has led it. -/
theorem closes_of_step? {s s' : Accepting} {e : Event} (step : s.step? e = some s') {c : ClosePlace}
    (member : c ∈ s'.closes) :
    c ∈ s.closes ∨ c = .entered ∨ (c = .shut ∧ ∃ k, e = .shut k) ∨
      (c = .returned ∧ e.isWake = true ∧ .shut ∈ s.closes) := by
  cases does_of_step? step with
  | come | register | look | arrive | nudge => exact .inl member
  | close =>
    rcases List.mem_append.1 member with earlier | new
    · exact .inl earlier
    · exact .inr (.inl (List.mem_singleton.1 new))
  | shut =>
    rcases List.mem_or_eq_of_mem_set member with earlier | same
    · exact .inl earlier
    · exact .inr (.inr (.inl ⟨same, _, rfl⟩))
  | wake shut =>
    rcases List.mem_or_eq_of_mem_set member with earlier | same
    · exact .inl earlier
    · exact .inr (.inr (.inr ⟨same, rfl, List.mem_of_getElem? shut⟩))

theorem Leads.closes {l : Listener} {s : Accepting} {events : List Event} (leads : Leads { listener := l } events s) :
    Closes events s := by
  induction leads with
  | start => exact ⟨nofun, nofun, nofun, nofun⟩
  | @next events s s' e _ step ih =>
    have stays (closed : s.listener.isClosed = true) : s'.listener.isClosed = true :=
      (isClosed_of_step? step).2 (.inl closed)
    refine ⟨fun {k} member => ?_, fun {c} member begun => ?_, fun wakes => ?_, fun member => ?_⟩
    · rcases List.mem_append.1 member with earlier | now
      · exact stays (ih.closed earlier)
      · exact (isClosed_of_step? step).2 (.inr ⟨k, (List.mem_singleton.1 now).symm⟩)
    · rcases closes_of_step? step member with earlier | rfl | ⟨-, shut⟩ | ⟨-, -, shut⟩
      · exact stays (ih.begun earlier begun)
      · exact absurd rfl begun
      · exact (isClosed_of_step? step).2 (.inr shut)
      · exact stays (ih.begun shut nofun)
    · rcases wakes_append.1 wakes with earlier | now
      · exact stays (ih.woken earlier)
      · cases does_of_step? step with
        | wake shut => exact stays (ih.begun (List.mem_of_getElem? shut) nofun)
        | come | register | look | close | shut | arrive | nudge => simp [Event.isWake] at now
    · rcases closes_of_step? step member with earlier | ⟨⟨⟩⟩ | ⟨⟨⟩, -⟩ | ⟨-, wakes, -⟩
      · exact wakes_append.2 (.inl (ih.returned earlier))
      · exact wakes_append.2 (.inr (wakes_cons.2 (.inl wakes)))

/-- No task puts itself down before the next wake. -/
def Undisturbed (after : List Event) : Prop := ∀ j, .register j ∉ after.takeWhile fun e => !e.isWake

theorem undisturbed_cons {e : Event} {after : List Event} :
    Undisturbed (e :: after) ↔ e.isWake = true ∨ (∀ j, e ≠ .register j) ∧ Undisturbed after := by
  unfold Undisturbed
  rw [List.takeWhile_cons]
  cases wakes : e.isWake with
  | true => simp
  | false =>
    simp only [Bool.not_false, if_true, List.mem_cons, not_or, forall_and, Bool.false_eq_true, false_or, ne_eq]
    exact and_congr_left' (forall_congr' fun j => not_congr eq_comm)

theorem undisturbed_append {after : List Event} {e : Event} :
    Undisturbed (after ++ [e]) ↔ Undisturbed after ∧ (Wakes after ∨ ∀ j, e ≠ .register j) := by
  induction after with
  | nil =>
    rw [List.nil_append, undisturbed_cons]
    cases e <;> simp [Event.isWake, Undisturbed]
  | cons e' after ih =>
    rw [List.cons_append, undisturbed_cons, undisturbed_cons, ih, wakes_cons]
    grind

/-- What has become of a task since it has last put itself down, after `before`. -/
structure Since (before after : List Event) (s : Accepting) (i : Nat) (t : Acceptor) : Prop where
  woken : t.woken = true ↔ .nudge i ∈ after ∨ Wakes after ∧ Undisturbed after
  down : s.listener.waiter = some i ↔ ¬ Wakes after ∧ Undisturbed after
  waiting : t.place = .waiting → ¬ Wakes before

theorem Since.next {before after : List Event} {s s' : Accepting} {e : Event} {i : Nat} {t t' : Acceptor}
    (since : Since before after s i t) (step : s.step? e = some s') (other : e ≠ .register i)
    (woken : t'.woken = true ↔ t.woken = true ∨ e = .nudge i ∨ e.isWake = true ∧ s.listener.waiter = some i)
    (waiting : t'.place = .waiting → ¬ Wakes before) : Since before (after ++ [e]) s' i t' := by
  have down := since.down
  refine ⟨?_, ?_, waiting⟩
  · rw [woken, since.woken, down, undisturbed_append, wakes_append, wakes_cons, List.mem_append, List.mem_singleton]
    by_cases wakes : Wakes after <;> cases e <;> simp [Event.isWake, wakes, or_right_comm, @eq_comm _ i]
  · rw [waiter_of_step? step, undisturbed_append, wakes_append, wakes_cons]
    cases e <;> simp_all [Event.isWake]

theorem Leads.since {l : Listener} {s : Accepting} {events : List Event} (leads : Leads { listener := l } events s)
    {i : Nat} {t : Acceptor} (there : s.tasks[i]? = some t) (begun : t.place ≠ .away) :
    ∃ before after, events = before ++ .register i :: after ∧ .register i ∉ after ∧ Since before after s i t := by
  induction leads generalizing t with
  | start => cases there
  | @next events s s' e leads step ih =>
    have later {t₀ : Acceptor} (there : s.tasks[i]? = some t₀) (begun : t₀.place ≠ .away) (other : e ≠ .register i)
        (woken : t.woken = true ↔ t₀.woken = true ∨ e = .nudge i ∨ e.isWake = true ∧ s.listener.waiter = some i)
        (waiting : t.place = .waiting → t₀.place = .waiting ∨ ¬ Wakes events) :
        ∃ before after, events ++ [e] = before ++ .register i :: after ∧ .register i ∉ after ∧
          Since before after s' i t := by
      obtain ⟨before, after, split, none_, since⟩ := ih there begun
      refine ⟨before, after ++ [e], by rw [split, List.append_assoc, List.cons_append], ?_,
        since.next step other woken fun waits => ?_⟩
      · rw [List.mem_append, List.mem_singleton, not_or]
        exact ⟨none_, other.symm⟩
      · refine (waiting waits).elim since.waiting fun quiet wakes => quiet ?_
        rw [split, wakes_append]
        exact .inl wakes
    cases origin_of_step? step there with
    | registers fresh =>
      subst fresh
      exact ⟨events, [], rfl, List.not_mem_nil, by simp, by simp [waiter_of_step? step, Undisturbed], nofun⟩
    | looks before place same =>
      subst same
      refine later before (by rw [place]; nofun) nofun (by simp [Event.isWake]) fun waits => .inr fun wakes => ?_
      rw [placeAfter_eq_waiting, Listener.look_of_isClosed (leads.closes.woken wakes)] at waits
      cases waits
    | stays other _ before place woken =>
      exact later before (place ▸ begun) other woken fun waits => .inl (place ▸ waits)
    | comes fresh =>
      subst fresh
      exact absurd rfl begun

/-- Once a close has the lock, every attempt finds the listener closed and takes nothing. Once a close has returned, a task
that waits has been woken exactly if something else has woken it or no task has put itself down between it and the next
wake. -/
theorem woken_iff_undisturbed {l : Listener} {s : Accepting} {events : List Event}
    (leads : Leads { listener := l } events s) :
    ((∃ k, .shut k ∈ events) → ∀ i s', s.step? (.look i) = some s' →
        s'.listener = s.listener ∧ ∃ woken, s'.tasks[i]? = some ⟨.answered .closed, woken⟩) ∧
      (.returned ∈ s.closes → s.listener.isClosed = true ∧
        ∀ i woken, s.tasks[i]? = some ⟨.waiting, woken⟩ →
          ∃ before after, events = before ++ .register i :: after ∧ .register i ∉ after ∧
            (woken = true ↔ .nudge i ∈ after ∨ Undisturbed after)) := by
  refine ⟨fun ⟨k, shut⟩ i s' step => ?_, fun returned => ⟨leads.closes.begun returned nofun, fun i woken there => ?_⟩⟩
  · have looked := Listener.look_of_isClosed (leads.closes.closed shut)
    cases does_of_step? step with
    | @look _ t there place =>
      obtain ⟨within, -⟩ := List.getElem?_eq_some_iff.1 there
      simp [look, looked, placeAfter, within]
  · obtain ⟨before, after, split, none_, since⟩ := leads.since there nofun
    have wakes := leads.closes.returned returned
    rw [split, wakes_append, wakes_cons] at wakes
    have later : Wakes after := by simpa [since.waiting rfl, Event.isWake] using wakes
    refine ⟨before, after, split, none_, ?_⟩
    rw [since.woken, and_iff_right later]

end Accepting

namespace Sample

/-- A listener on which nothing has arrived. -/
def quiet : Listener := .onHandle ⟨3, { identity := 7, endpoint := ⟨.v4 127 0 0 1, 80⟩ }⟩ ⟨none, none⟩

/-- A task waits in an accept. -/
def waitsFor (i : Nat) : List Accepting.Event := [.come, .register i, .look i]

/-- The listener is closed. -/
def closing : List Accepting.Event := [.close, .shut 0, .wake 0]

end Sample

/-- A task that waits alone is woken, and finds the listener closed. -/
theorem lone_task_ends :
    ∃ s s', Accepting.Leads { listener := Sample.quiet } (Sample.waitsFor 0 ++ Sample.closing) s ∧
      s.closes = [.returned] ∧ s.tasks = [⟨.waiting, true⟩] ∧
      (∃ before after, Sample.waitsFor 0 ++ Sample.closing = before ++ .register 0 :: after ∧ .register 0 ∉ after ∧
        (.nudge 0 ∈ after ∨ Accepting.Undisturbed after)) ∧
      Accepting.Leads { listener := Sample.quiet } (Sample.waitsFor 0 ++ Sample.closing ++ [.register 0]) s' ∧
      ∀ s'', s'.step? (.look 0) = some s'' → ∃ woken, s''.tasks[0]? = some ⟨.answered .closed, woken⟩ := by
  have closed : Accepting.Leads { listener := Sample.quiet } (Sample.waitsFor 0 ++ Sample.closing) _ :=
    Accepting.Leads.start.steps (Sample.waitsFor 0 ++ Sample.closing) rfl
  have again : Accepting.Leads { listener := Sample.quiet } (Sample.waitsFor 0 ++ Sample.closing ++ [.register 0]) _ :=
    closed.steps [.register 0] rfl
  obtain ⟨before, after, split, none_, woken⟩ :=
    ((Accepting.woken_iff_undisturbed closed).2 (by decide)).2 0 true rfl
  refine ⟨_, _, closed, rfl, rfl, ⟨before, after, split, none_, woken.1 rfl⟩, again, fun s'' step => ?_⟩
  exact ((Accepting.woken_iff_undisturbed again).1 ⟨0, by decide⟩ 0 s'' step).2

/-- Of two tasks that wait, the one that came first sleeps on after the close. -/
theorem first_task_sleeps_on :
    ∃ s, Accepting.Leads { listener := Sample.quiet } (Sample.waitsFor 0 ++ Sample.waitsFor 1 ++ Sample.closing) s ∧
      s.closes = [.returned] ∧ s.tasks = [⟨.waiting, false⟩, ⟨.waiting, true⟩] :=
  ⟨_, Accepting.Leads.start.steps (Sample.waitsFor 0 ++ Sample.waitsFor 1 ++ Sample.closing) rfl, rfl, rfl⟩

end Handover
