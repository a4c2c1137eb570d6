import Handover.Proofs.Service.Connections
import Handover.Proofs.Service.Expiry
import Handover.Proofs.Service.Looping
import Mathlib.Algebra.Group.Nat.Defs

namespace Handover

/-- Accepting failed. -/
def Accept.isFailed : Accept → Bool
  | failed _ => true
  | _ => false

/-- Something that a loop was told at a tick. -/
structure Heard where
  now : Nat
  loop : Nat
  result : Accept
deriving DecidableEq, Repr

namespace Heard

/-- What a single loop was told. -/
def ofLoop (i : Nat) (h : List Heard) : List Heard := h.filter (·.loop = i)

/-- The number of failures in a row that were heard last. -/
def failures (h : List Heard) : Nat := (h.reverse.takeWhile (·.result.isFailed)).length

/-- For how many milliseconds a loop pauses after a failure that comes after `j` others in a row. -/
def pause (j : Nat) : Nat := min (5 * 2 ^ j) 1000

/-- Nothing of this was that the listener is closed. -/
def Open (h : List Heard) : Prop := ∀ x ∈ h, x.result ≠ .closed

/-- What was heard after a failure was not heard before the pause was over. -/
def Paced (h : List Heard) : Prop :=
  ∀ before x y after, h = before ++ x :: y :: after → x.result.isFailed = true → x.now + pause (failures before) ≤ y.now

/-- If a failure was heard last, its pause is over at that tick. -/
def Rested (h : List Heard) (now : Nat) : Prop :=
  ∀ before x, h = before ++ [x] → x.result.isFailed = true → x.now + pause (failures before) ≤ now

theorem failures_append_singleton (h : List Heard) (x : Heard) :
    failures (h ++ [x]) = if x.result.isFailed = true then failures h + 1 else 0 := by
  rw [failures, List.reverse_append, List.reverse_singleton, List.singleton_append, List.takeWhile_cons]
  split <;> rfl

theorem Open.append_singleton {h : List Heard} {x : Heard} (open_ : Open h) (other : x.result ≠ .closed) :
    Open (h ++ [x]) := by
  intro y member
  rcases List.mem_append.1 member with before | last
  · exact open_ y before
  · rwa [List.mem_singleton.1 last]

theorem rested_of_not_failed {h : List Heard} {x : Heard} (other : x.result.isFailed = false) (now : Nat) :
    Rested (h ++ [x]) now := by
  intro before y same failed
  obtain ⟨_, last⟩ := List.append_inj' same rfl
  rw [← (List.cons.inj last).1, other] at failed
  cases failed

theorem Rested.later {h : List Heard} {now now' : Nat} (rested : Rested h now) (later : now ≤ now') : Rested h now' :=
  fun before x same failed => Nat.le_trans (rested before x same failed) later

theorem Paced.append_singleton {h : List Heard} {y : Heard} (paced : Paced h) (rested : Rested h y.now) :
    Paced (h ++ [y]) := by
  intro before x z after same failed
  rcases List.eq_nil_or_concat' after with rfl | ⟨after, last, rfl⟩
  · have split : h ++ [y] = (before ++ [x]) ++ [z] := by rw [same, List.append_assoc]; rfl
    obtain ⟨init, last⟩ := List.append_inj' split rfl
    rw [(List.cons.inj last).1] at rested
    exact rested before x init failed
  · have split : h ++ [y] = (before ++ x :: z :: after) ++ [last] := by rw [same, List.append_assoc]; rfl
    obtain ⟨init, _⟩ := List.append_inj' split rfl
    exact paced before x z after init failed

end Heard

namespace Lifecycle

open Heard

theorem longer_pause (j : Nat) : longer (.ofMillis (pause j)) = .ofMillis (pause (j + 1)) := by
  have double : 2 ^ (j + 1) = 2 * 2 ^ j := Nat.pow_succ'
  simp only [longer, Span.ofMillis, maxBackoff, Span.ofSeconds, Span.ofParts, pause, Span.mk.injEq, double]
  omega

theorem due_pause (now j : Nat) : Clock.due now (.ofMillis (pause j)) = now + pause j := by
  have bounded : pause j ≤ 1000 := Nat.min_le_right _ _
  rw [Clock.due_of_le]
  · simp only [Span.ticks, Span.ofMillis]
    omega
  · change pause j * 1000000 / 1000000000 ≤ 9223372036854775807
    omega

/-- Where a loop stands after what it was told. -/
inductive Stands (now : Nat) (h : List Heard) (loop : AcceptLoop) : Prop
  | going : LoopPlace.isLive loop.place = true → (∀ due, loop.place ≠ .pausing due) →
      loop.backoff = .ofMillis (pause (failures h)) → Open h → Rested h now → Stands now h loop
  | pausing {before x} : loop.place = .pausing (x.now + pause (failures before)) →
      loop.backoff = .ofMillis (pause (failures h)) → Open h → h = before ++ [x] → x.result.isFailed = true →
      Stands now h loop
  | ended {before x} : LoopPlace.isLive loop.place = false → loop.backoff.nanos ≤ 1000000000 →
      h = before ++ [x] → x.result = .closed → Open before → Stands now h loop

variable {now now' i : Nat} {h : List Heard} {loop loop' : AcceptLoop} {shut : Bool} {told : Option Accept}

theorem nanos_pause_le (j : Nat) : (Span.ofMillis (pause j)).nanos ≤ 1000000000 := by
  have bounded : pause j ≤ 1000 := Nat.min_le_right _ _
  simp only [Span.ofMillis]
  omega

theorem Stands.later (stands : Stands now h loop) (later : now ≤ now') : Stands now' h loop := by
  cases stands with
  | going live awake backoff open_ rested => exact .going live awake backoff open_ (rested.later later)
  | pausing place backoff open_ same failed => exact .pausing place backoff open_ same failed
  | ended left bound same closed open_ => exact .ended left bound same closed open_

/-- A loop that is told something was not pausing. -/
theorem Stands.rested (stands : Stands now h loop) (calling : loop.place = .calling) :
    loop.backoff = .ofMillis (pause (failures h)) ∧ Open h ∧ Rested h now := by
  cases stands with
  | going _ _ backoff open_ rested => exact ⟨backoff, open_, rested⟩
  | pausing place => cases place.symm.trans calling
  | ended left =>
    rw [calling] at left
    cases left

/-- A loop goes on from where it stands. -/
theorem Stands.turns (stands : Stands now h loop) (paced : Paced h) (turns : Turns now shut loop told loop') :
    Paced (h ++ (told.map (⟨now, i, ·⟩)).toList) ∧ Stands now (h ++ (told.map (⟨now, i, ·⟩)).toList) loop' := by
  have silent {loop' : AcceptLoop} (stands : Stands now h loop') : Paced (h ++ []) ∧ Stands now (h ++ []) loop' := by
    rw [List.append_nil]
    exact ⟨paced, stands⟩
  -- A loop that goes on from a place where it does not pause, to another one, has been told nothing.
  have moves {place place' : LoopPlace} (at_ : loop.place = place) (live : LoopPlace.isLive place = true)
      (awake : ∀ due, place ≠ .pausing due) (live' : LoopPlace.isLive place' = true) (awake' : ∀ due, place' ≠ .pausing due) :
      Paced (h ++ []) ∧ Stands now (h ++ []) { loop with place := place' } := by
    refine silent ?_
    cases stands with
    | going _ _ backoff open_ rested => exact .going live' awake' backoff open_ rested
    | pausing place => exact absurd (at_.symm.trans place) (awake _)
    | ended left =>
      rw [at_, live] at left
      cases left
  cases turns with
  | keep => exact silent stands
  | woken place => exact moves place rfl nofun rfl nofun
  | call place => exact place.elim (moves · rfl nofun rfl nofun) (moves · rfl nofun rfl nofun)
  | wait calling => exact moves calling rfl nofun rfl nofun
  | resume place due =>
    refine silent ?_
    cases stands with
    | going _ awake => exact absurd place (awake _)
    | @pausing before x place' backoff open_ same failed =>
      cases place.symm.trans place'
      refine .going rfl nofun backoff open_ fun before' x' same' _ => ?_
      obtain ⟨rfl, last⟩ := List.append_inj' (same.symm.trans same') rfl
      rw [← (List.cons.inj last).1]
      exact due
    | ended left =>
      rw [place] at left
      cases left
  | accept calling =>
    obtain ⟨_, open_, rested⟩ := stands.rested calling
    refine ⟨paced.append_singleton rested, .going ?_ ?_ ?_ (open_.append_singleton nofun) (rested_of_not_failed rfl now)⟩
    · rw [calling]
      rfl
    · intro due place
      cases calling.symm.trans place
    · rw [Option.map_some, Option.toList_some, failures_append_singleton]
      rfl
  | pause calling =>
    obtain ⟨backoff, open_, rested⟩ := stands.rested calling
    refine ⟨paced.append_singleton rested, .pausing ?_ ?_ (open_.append_singleton nofun) rfl rfl⟩
    · rw [backoff, due_pause]
    · rw [Option.map_some, Option.toList_some, failures_append_singleton, backoff, longer_pause]
      rfl
  | refuse calling =>
    obtain ⟨backoff, open_, rested⟩ := stands.rested calling
    refine ⟨paced.append_singleton rested, .ended rfl ?_ rfl rfl open_⟩
    rw [backoff]
    exact nanos_pause_le _
  | leave left left' =>
    refine silent ?_
    cases stands with
    | going live =>
      rw [left] at live
      cases live
    | pausing place =>
      rw [place] at left
      cases left
    | ended _ bound same closed open_ => exact .ended left' bound same closed open_

end Lifecycle

/-- What the loops of a service are told if the event happens at that moment. -/
def Moment.hears (m : Moment) : Event → List Heard
  | .loop i => (m.life.told i).toList.map (⟨m.now, i, ·⟩)
  | _ => []

/-- From one moment to another the loops are told these things, in order. -/
inductive Hears (first : Moment) : List Heard → Moment → Prop
  | start : Hears first [] first
  | event {h m e life} : Hears first h m → m.life.step? m.now e = some life → Hears first (h ++ m.hears e) ⟨m.now, life⟩
  | wait {h m} (now : Nat) : Hears first h m → m.now ≤ now → Hears first h ⟨now, m.life⟩

namespace Moment

open Lifecycle Heard

/-- Of all that happens to a service nothing is left out. -/
theorem exists_hears_of_leads {may : Moment → Nat → Prop} {m m' : Moment} (leads : Leads may m m') : ∃ h, Hears m h m' := by
  induction leads with
  | refl => exact ⟨[], .start⟩
  | tail _ last ih =>
    obtain ⟨h, hears⟩ := ih
    cases last with
    | event run => exact ⟨_, hears.event run⟩
    | wait now later => exact ⟨h, hears.wait now later⟩

theorem ofLoop_hears (m : Moment) (i : Nat) (e : Event) :
    ofLoop i (m.hears e) = ((m.life.tells i e).map (⟨m.now, i, ·⟩)).toList := by
  cases e with
  | loop j =>
    rw [hears, tells]
    cases told : m.life.told j with
    | none =>
      split
      · rename_i here
        rw [← here, told]
        rfl
      · rfl
    | some result =>
      split
      · rename_i here
        rw [← here, told]
        simp [ofLoop]
      · rename_i apart
        simp [ofLoop, apart]
  | _ => rfl

/-- A connection is heard of exactly when it is accepted. -/
theorem countP_hears (m : Moment) (e : Event) :
    (m.hears e).countP (·.result = .accepted) = if m.life.accepts e then 1 else 0 := by
  cases e with
  | loop i =>
    simp only [hears, told, accepts]
    split
    · rename_i told
      by_cases taken : (m.life.listener.poll i).1 = .accepted <;> simp [told.1, taken]
    · rename_i untold
      by_cases taken : (m.life.listener.poll i).1 = .accepted
      · have elsewhere : m.life.loops[i]?.map (·.place) ≠ some .calling :=
          fun calling => untold ⟨calling, by rw [taken]; decide⟩
        simp [elsewhere]
      · simp [taken]
  | _ => rfl

end Moment

namespace Hears

open Lifecycle Heard

variable {first m m' : Moment} {h h' : List Heard} {i : Nat}

/-- There is a task for each connection that was accepted. -/
theorem spawned (hears : Hears first h m) :
    m.life.connections.length = first.life.connections.length + h.countP (·.result = .accepted) := by
  induction hears with
  | start => rfl
  | @event h m e life _ run ih =>
    have accepted := (counting_of_step? run).accepted
    rw [List.countP_append, m.countP_hears]
    dsimp only
    omega
  | wait _ _ _ ih => exact ih

/-- How a loop has got on, if there is one at this place. -/
structure Follows (i : Nat) (h : List Heard) (m : Moment) : Prop where
  paced : Paced (ofLoop i h)
  stands : ∀ loop, m.life.loops[i]? = some loop → Stands m.now (ofLoop i h) loop
  unheard : m.life.loops[i]? = none → ofLoop i h = []

theorem Follows.event {e : Event} {life : Lifecycle} (follows : Follows i h m) (run : m.life.step? m.now e = some life) :
    Follows i (h ++ m.hears e) ⟨m.now, life⟩ := by
  have more : ofLoop i (h ++ m.hears e) = ofLoop i h ++ ((m.life.tells i e).map (⟨m.now, i, ·⟩)).toList := by
    rw [← m.ofLoop_hears i e]
    exact List.filter_append _ _
  cases atLoop : m.life.loops[i]? with
  | some loop =>
    obtain ⟨loop', there, turns⟩ := turns_of_step? run atLoop
    obtain ⟨paced, stands⟩ := (follows.stands loop atLoop).turns (i := i) follows.paced turns
    rw [← more] at paced stands
    refine ⟨paced, fun other atOther => ?_, fun vacant => ?_⟩
    · rwa [← Option.some.inj (there.symm.trans atOther)]
    · cases there.symm.trans vacant
  | none =>
    obtain ⟨untold, starts⟩ := starts_of_step? run atLoop
    rw [untold, follows.unheard atLoop] at more
    refine ⟨?_, fun loop there => ?_, fun _ => more⟩
    · intro before x y after same
      exact absurd (more.symm.trans same) (by simp)
    · rw [starts loop there, more]
      exact .going rfl nofun rfl (fun _ member => absurd member List.not_mem_nil) (fun before x same => by simp at same)

theorem follows (hears : Hears first h m) (fresh : first.life.loops = []) (i : Nat) : Follows i h m := by
  induction hears with
  | start =>
    refine ⟨fun before x y after same => by simp [ofLoop] at same, fun loop there => ?_, fun _ => rfl⟩
    rw [fresh] at there
    cases there
  | event _ run ih => exact ih.event run
  | wait now _ later ih => exact ⟨ih.paced, fun loop there => (ih.stands loop there).later later, ih.unheard⟩

/-- What has become of a pause that was to end at a tick, since the listener was closed in it. -/
inductive Notices (i due : Nat) (h : List Heard) (m : Moment) : Prop
  | pausing {loop} : m.life.isClosed = true → m.life.loops[i]? = some loop → loop.place = .pausing due →
      ofLoop i h = [] → Notices i due h m
  | calling {loop} : m.life.isClosed = true → m.life.loops[i]? = some loop → loop.place = .calling → due ≤ m.now →
      ofLoop i h = [] → Notices i due h m
  | ended {loop x} : m.life.isClosed = true → m.life.loops[i]? = some loop → LoopPlace.isLive loop.place = false →
      ofLoop i h = [x] → x.result = .closed → due ≤ x.now → Notices i due h m

theorem Notices.event {due : Nat} {e : Event} {life : Lifecycle} (notices : Notices i due h m)
    (run : m.life.step? m.now e = some life) : Notices i due (h ++ m.hears e) ⟨m.now, life⟩ := by
  have more : ofLoop i (h ++ m.hears e) = ofLoop i h ++ ((m.life.tells i e).map (⟨m.now, i, ·⟩)).toList := by
    rw [← m.ofLoop_hears i e]
    exact List.filter_append _ _
  have onward := (Advances.of_step? run).onward
  cases notices with
  | pausing closed atLoop place none_ =>
    obtain ⟨loop', there, turns⟩ := turns_of_step? run atLoop
    generalize m.life.tells i e = told at more turns
    cases turns with
    | keep => exact .pausing (onward.closed closed) there place (more.trans (by rw [none_]; rfl))
    | resume place' time =>
      cases place.symm.trans place'
      exact .calling (onward.closed closed) there rfl time (more.trans (by rw [none_]; rfl))
    | woken other | wait other | accept other | pause other | refuse other => cases place.symm.trans other
    | call other =>
      exact other.elim (fun other => by cases place.symm.trans other) fun other => by cases place.symm.trans other
    | leave left =>
      rw [place] at left
      cases left
  | calling closed atLoop place time none_ =>
    obtain ⟨loop', there, turns⟩ := turns_of_step? run atLoop
    rw [closed] at turns
    generalize m.life.tells i e = told at more turns
    cases turns with
    | keep => exact .calling (onward.closed closed) there place time (more.trans (by rw [none_]; rfl))
    | refuse => exact .ended (onward.closed closed) there rfl (more.trans (by rw [none_]; rfl)) rfl time
    | wait _ opened | accept _ opened | pause _ opened => cases opened
    | resume other | woken other => cases place.symm.trans other
    | call other =>
      exact other.elim (fun other => by cases place.symm.trans other) fun other => by cases place.symm.trans other
    | leave left =>
      rw [place] at left
      cases left
  | ended closed atLoop left heard result time =>
    obtain ⟨loop', there, turns⟩ := turns_of_step? run atLoop
    generalize m.life.tells i e = told at more turns
    cases turns with
    | keep => exact .ended (onward.closed closed) there left (more.trans (by rw [heard]; rfl)) result time
    | leave _ left' => exact .ended (onward.closed closed) there left' (more.trans (by rw [heard]; rfl)) result time
    | woken place | resume place | wait place | accept place | pause place | refuse place =>
      rw [place] at left
      cases left
    | call place => rcases place with place | place <;> rw [place] at left <;> cases left

theorem Notices.later {due : Nat} (notices : Notices i due [] m) (hears : Hears m h' m') : Notices i due h' m' := by
  induction hears with
  | start => exact notices
  | event _ run ih => exact ih.event run
  | wait _ _ later ih =>
    cases ih with
    | pausing closed atLoop place none_ => exact .pausing closed atLoop place none_
    | calling closed atLoop place time none_ => exact .calling closed atLoop place (Nat.le_trans time later) none_
    | ended closed atLoop left heard result time => exact .ended closed atLoop left heard result time

/-- The accept loops of a service after what they were told. -/
structure Retries (h : List Heard) (m : Moment) : Prop where
  spawned : m.life.connections.length = h.countP (·.result = .accepted)
  spawning : ∀ e life, m.life.step? m.now e = some life → (∃ x ∈ m.hears e, x.result = .accepted) →
    life.connections = m.life.connections ++ [.spawned]
  leaves : ∀ i loop, m.life.loops[i]? = some loop →
    (LoopPlace.isLive loop.place = false ↔ ∃ x ∈ ofLoop i h, x.result = .closed)
  last : ∀ i before x after, ofLoop i h = before ++ x :: after → x.result = .closed → after = []
  failing : ∀ i cause, m.life.told i = some (.failed cause) → ∃ life loop,
    m.life.stepLoop? m.now i =
      some (life, [.acceptFailed cause (.ofMillis (min (5 * 2 ^ failures (ofLoop i h)) 1000))]) ∧
    life.loops[i]? = some loop ∧ loop.place = .pausing (m.now + min (5 * 2 ^ failures (ofLoop i h)) 1000)
  pausing : ∀ i loop due, m.life.loops[i]? = some loop → loop.place = .pausing due →
    ∃ before x cause, ofLoop i h = before ++ [x] ∧ x.result = .failed cause ∧
      due = x.now + min (5 * 2 ^ failures before) 1000 ∧
      ∀ now, m.life.step? now (.loop i) = if due ≤ now then some (m.life.place i .calling) else none
  paced : ∀ i before x y after cause, ofLoop i h = before ++ x :: y :: after → x.result = .failed cause →
    x.now + min (5 * 2 ^ failures before) 1000 ≤ y.now
  bounded : ∀ loop ∈ m.life.loops, loop.backoff.nanos ≤ 1000000000
  noticed : ∀ i loop due, m.life.loops[i]? = some loop → loop.place = .pausing due → m.life.isClosed = true →
    (∀ h' m', Hears m h' m' → ofLoop i h' = [] ∨ ∃ x, ofLoop i h' = [x] ∧ x.result = .closed ∧ due ≤ x.now) ∧
    ∀ now, due ≤ now → ∃ l, m.life.step? now (.loop i) = some l ∧ l.told i = some .closed

theorem exists_closed_iff {now : Nat} {loop : AcceptLoop} (stands : Stands now h loop) :
    LoopPlace.isLive loop.place = false ↔ ∃ x ∈ h, x.result = .closed := by
  cases stands with
  | going live _ _ open_ => exact iff_of_false (by simp [live]) fun ⟨x, member, closed⟩ => open_ x member closed
  | pausing place _ open_ =>
    exact iff_of_false (by simp [place, LoopPlace.isLive]) fun ⟨x, member, closed⟩ => open_ x member closed
  | ended left _ same closed =>
    refine iff_of_true left ⟨_, ?_, closed⟩
    rw [same]
    exact List.mem_append_right _ List.mem_cons_self

theorem eq_nil_of_closed {now : Nat} {loop : AcceptLoop} (stands : Stands now h loop) {before after : List Heard}
    {x : Heard} (same : h = before ++ x :: after) (closed : x.result = .closed) : after = [] := by
  have member : x ∈ h := same ▸ List.mem_append_right _ List.mem_cons_self
  cases stands with
  | going _ _ _ open_ | pausing _ _ open_ => exact absurd closed (open_ x member)
  | @ended before' y _ _ same' _ open_ =>
    rcases List.eq_nil_or_concat' after with rfl | ⟨after, last, rfl⟩
    · rfl
    · have split : before' ++ [y] = (before ++ x :: after) ++ [last] := by rw [← same', same, List.append_assoc]; rfl
      obtain ⟨rfl, _⟩ := List.append_inj' split rfl
      exact absurd closed (open_ x (List.mem_append_right _ List.mem_cons_self))

theorem step?_of_pausing {l : Lifecycle} {loop : AcceptLoop} {due : Nat} (atLoop : l.loops[i]? = some loop)
    (place : loop.place = .pausing due) (now : Nat) :
    l.step? now (.loop i) = if due ≤ now then some (l.place i .calling) else none := by
  simp only [step?, stepLoop?, atLoop, place]
  split <;> rfl

/-- A loop that accepts in vain logs it and pauses. -/
theorem stepLoop?_of_failed {cause : Failure} (follows : Follows i h m)
    (told : m.life.told i = some (.failed cause)) : ∃ life loop,
      m.life.stepLoop? m.now i = some (life, [.acceptFailed cause (.ofMillis (pause (failures (ofLoop i h))))]) ∧
      life.loops[i]? = some loop ∧ loop.place = .pausing (m.now + pause (failures (ofLoop i h))) := by
  unfold Lifecycle.told at told
  split at told
  · rename_i calls
    obtain ⟨loop, atLoop, calling⟩ := Option.map_eq_some_iff.1 calls.1
    obtain ⟨backoff, _⟩ := (follows.stands loop atLoop).rested calling
    have bound : i < m.life.loops.length := (List.getElem?_eq_some_iff.1 atLoop).1
    have stepped : m.life.stepLoop? m.now i = some (m.life.accept m.now i loop) := by
      simp only [stepLoop?, atLoop, calling]
    obtain ⟨listener, polled⟩ : ∃ listener, m.life.listener.poll i = (.failed cause, listener) :=
      ⟨_, Prod.ext (Option.some.inj told) rfl⟩
    rw [stepped, accept, polled, backoff]
    exact ⟨_, _, rfl, List.getElem?_set_self bound, by rw [due_pause]⟩
  · cases told

/-- Whatever a service has come to, its accept loops retry like this. -/
theorem retries {start : Nat} {listener : Listener} {timeout : Option Span}
    (hears : Hears ⟨start, .onListener listener timeout⟩ h m) : Retries h m := by
  have follows := hears.follows rfl
  refine ⟨?spawned, ?spawning, ?leaves, ?last, ?failing, ?pausing, ?paced, ?bounded, ?noticed⟩
  case spawned =>
    rw [hears.spawned]
    exact Nat.zero_add _
  case spawning =>
    rintro e life run ⟨x, member, accepted⟩
    have accepts : m.life.accepts e = true := by
      by_contra other
      have none_ := m.countP_hears e
      rw [if_neg other, List.countP_eq_zero] at none_
      exact none_ x member (decide_eq_true accepted)
    cases counting_of_step? run with
    | accept _ _ more => exact more
    | keep _ other => rw [other] at accepts; cases accepts
    | proceed | finish => cases accepts
  case leaves => exact fun i loop atLoop => exists_closed_iff ((follows i).stands loop atLoop)
  case last =>
    intro i before x after same closed
    cases atLoop : m.life.loops[i]? with
    | some loop => exact eq_nil_of_closed ((follows i).stands loop atLoop) same closed
    | none =>
      rw [(follows i).unheard atLoop] at same
      simp at same
  case failing => exact fun i cause told => stepLoop?_of_failed (follows i) told
  case pausing =>
    intro i loop due atLoop place
    cases (follows i).stands loop atLoop with
    | going _ awake => exact absurd place (awake due)
    | @pausing before x place' _ _ same failed =>
      cases place.symm.trans place'
      cases result : x.result with
      | failed cause => exact ⟨before, x, cause, same, result, rfl, step?_of_pausing atLoop place⟩
      | pending | accepted | closed => rw [result] at failed; cases failed
    | ended left =>
      rw [place] at left
      cases left
  case paced =>
    intro i before x y after cause same failed
    exact (follows i).paced before x y after same (by rw [failed]; rfl)
  case bounded =>
    intro loop member
    obtain ⟨i, atLoop⟩ := List.getElem?_of_mem member
    cases (follows i).stands loop atLoop with
    | going _ _ backoff | pausing _ backoff => exact backoff ▸ nanos_pause_le _
    | ended _ bound => exact bound
  case noticed =>
    intro i loop due atLoop place closed
    refine ⟨fun h' m' later => ?_, fun now time => ?_⟩
    · cases (Notices.pausing closed atLoop place rfl : Notices i due [] m).later later with
      | pausing _ _ _ none_ | calling _ _ _ _ none_ => exact Or.inl none_
      | ended _ _ _ heard result time => exact Or.inr ⟨_, heard, result, time⟩
    · refine ⟨_, (step?_of_pausing atLoop place now).trans (if_pos time), ?_⟩
      rcases m.life.listener.poll_cases i with ⟨_, refused⟩ | ⟨opened, _⟩
      · have atPlace : ((m.life.place i .calling).loops[i]?).map (·.place) = some .calling := by
          rw [getElem?_place, if_pos rfl, atLoop]
          rfl
        have heard : (m.life.place i .calling).listener.poll i = (.closed, m.life.listener.register i) := refused
        have answered : Accept.closed ≠ .pending := by decide
        rw [told, if_pos ⟨atPlace, by rwa [heard]⟩, heard]
      · rw [show m.life.listener.isClosed = true from closed] at opened
        cases opened

end Hears

/-- A loop pauses for five and then for ten milliseconds, accepts a connection, and finds out after another pause of five
that the listener was closed in it. -/
theorem closed_in_third_pause :
    ∃ h m, Hears (Sample.newborn none) h m ∧
      h.map (fun x => (x.now, x.result)) = [(0, .failed .addressNotAvailable), (5, .failed .addressNotAvailable),
        (15, .accepted), (15, .failed .addressNotAvailable), (20, .closed)] ∧
      Hears.Retries h m := by
  have begun : Hears (Sample.newborn none) _ _ := (Hears.start.event (e := .run) rfl).event (e := .loop 0) rfl
  have arrived := ((begun.event (e := .arrive (.failure .addressNotAvailable)) rfl).event
    (e := .arrive (.failure .addressNotAvailable)) rfl).event (e := .arrive .connection) rfl
  have first := (arrived.event (e := .arrive (.failure .addressNotAvailable)) rfl).event (e := .loop 0) rfl
  have second := ((first.wait 5 (by decide)).event (e := .loop 0) rfl).event (e := .loop 0) rfl
  have accepted := ((second.wait 15 (by decide)).event (e := .loop 0) rfl).event (e := .loop 0) rfl
  have third := (accepted.event (e := .loop 0) rfl).event (e := .close) rfl
  have closed := ((third.wait 20 (by decide)).event (e := .loop 0) rfl).event (e := .loop 0) rfl
  exact ⟨_, _, closed, rfl, closed.retries⟩

end Handover
