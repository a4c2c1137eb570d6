import Handover.Proofs.Registry.Slots
import Handover.Proofs.Service.Lifecycle
import Mathlib.Data.List.Basic
import Mathlib.Logic.Relation

namespace Handover

theorem mem_modify {α : Type} {f : α → α} {l : List α} {i : Nat} {a : α} (member : a ∈ l.modify i f) :
    a ∈ l ∨ ∃ b, l[i]? = some b ∧ a = f b := by
  obtain ⟨j, at_⟩ := List.getElem?_of_mem member
  rw [List.getElem?_modify] at at_
  obtain ⟨b, before, same⟩ := Option.map_eq_some_iff.1 at_
  by_cases here : i = j
  · subst here
    rw [if_pos rfl] at same
    exact Or.inr ⟨b, before, same.symm⟩
  · rw [if_neg here] at same
    exact Or.inl (same ▸ List.mem_of_getElem? before)

theorem any_getElem?_set {α : Type} {p : α → Bool} {l : List α} {i : Nat} {a b : α} (at_ : l[i]? = some b) (j : Nat) :
    (l.set i a)[j]?.any p = if i = j then p a else l[j]?.any p := by
  rw [List.getElem?_set]
  split
  · rw [if_pos (List.getElem?_eq_some_iff.1 at_).1]
    rfl
  · rfl

theorem countP_set_of_getElem? {α : Type} {p : α → Bool} {l : List α} {i : Nat} {a b : α} (at_ : l[i]? = some b) :
    (l.set i a).countP p + (if p b then 1 else 0) = l.countP p + (if p a then 1 else 0) := by
  rw [List.set_eq_modify]
  exact countP_modify at_

namespace Phase

/-- The place of the phase in a life. -/
def rank : Phase → Nat
  | initializing => 0
  | running => 1
  | draining => 2
  | terminated => 3

/-- A stop has taken effect. -/
def isPast : Phase → Bool
  | initializing | running => false
  | draining | terminated => true

/-- A phase that can follow another one. -/
inductive Next : Phase → Phase → Prop
  | start : Next initializing running
  | cancel : Next initializing draining
  | stop : Next running draining
  | finish : Next draining terminated

theorem isPast_iff {p : Phase} : p.isPast = true ↔ 2 ≤ p.rank := by
  cases p <;> decide

theorem eq_terminated_iff {p : Phase} : p = terminated ↔ 3 ≤ p.rank := by
  cases p <;> decide

theorem rank_le_of_next {p q : Phase} (next : p.Next q) : p.rank ≤ q.rank := by
  cases next <;> decide

end Phase

/-- Something that can happen to a service. -/
inductive Event where
  | start
  | run
  | stop
  | stopping (i : Nat)
  | close
  | loop (i : Nat)
  | look
  | force
  | connection (i : Nat) (ok : Bool)
  | arrive (arrival : Arrival)
  | trouble (cause : Option Failure)
deriving DecidableEq, Repr

/-- The slot of the connection is not given back. -/
def ConnectionPlace.isLive : ConnectionPlace → Bool
  | ended _ => false
  | _ => true

/-- The stop has taken effect, and its task is not over. -/
def StopPlace.isUnderway : StopPlace → Bool
  | closing | arming => true
  | _ => false

/-- The loop has made a stop take effect, which is not over. -/
def LoopPlace.isUnderway : LoopPlace → Bool
  | stopping stop => stop.isUnderway
  | _ => false

/-- A loop that waited may have been woken. Nothing else has become of the loops. -/
structure Woken (before after : List AcceptLoop) : Prop where
  member : ∀ loop ∈ after, loop ∈ before ∨ loop.place = .waiting true
  underway : (after.map fun loop => loop.place.isUnderway) = before.map fun loop => loop.place.isUnderway

theorem Woken.refl (loops : List AcceptLoop) : Woken loops loops := ⟨fun _ member => Or.inl member, rfl⟩

theorem Listener.poll_cases (l : Listener) (task : Nat) :
    l.isClosed = true ∧ l.poll task = (.closed, l.register task) ∨
      l.isClosed = false ∧
        (l.poll task = (.pending, l.register task) ∨
          (∃ rest, l.backlog = .connection :: rest ∧
            l.poll task = (.accepted, { l.register task with backlog := rest, tracker := l.tracker.take })) ∨
          ∃ cause backlog, l.poll task = (.failed cause, { l.register task with backlog })) := by
  unfold poll look
  split
  · rename_i closed
    exact Or.inl ⟨closed, rfl⟩
  · rename_i opened
    refine Or.inr ⟨Bool.eq_false_iff.2 opened, ?_⟩
    split
    · exact Or.inr (Or.inr ⟨_, _, rfl⟩)
    · exact Or.inl rfl
    · rename_i rest _ backlog
      exact Or.inr (Or.inl ⟨rest, backlog, rfl⟩)
    · exact Or.inr (Or.inr ⟨_, _, rfl⟩)

namespace Lifecycle

/-- The next life, if the event can happen at that tick. -/
def step? (now : Nat) (l : Lifecycle) : Event → Option Lifecycle
  | .start => some l.start.2
  | .run => some l.run
  | .stop => some l.stop
  | .stopping i => l.stepStopping? now i
  | .close => some l.closeListener
  | .loop i => (l.stepLoop? now i).map (·.1)
  | .look => (l.lookWatchdog? now).map (·.1)
  | .force => l.stepForcing?
  | .connection i ok => l.stepConnection? i ok
  | .arrive arrival => some (l.arrive arrival)
  | .trouble cause => some (l.trouble cause)

def Happens (l l' : Lifecycle) : Prop := ∃ now e, l.step? now e = some l'

/-- Events happen one after the other, each at a tick of its own. -/
abbrev Leads : Lifecycle → Lifecycle → Prop := Relation.ReflTransGen Happens

def steps? (l : Lifecycle) : List (Nat × Event) → Option Lifecycle
  | [] => some l
  | (now, e) :: rest => (l.step? now e).bind fun l => steps? l rest

theorem leads_of_steps? {l l' : Lifecycle} (events : List (Nat × Event)) (made : l.steps? events = some l') :
    l.Leads l' := by
  induction events generalizing l with
  | nil =>
    cases made
    exact .refl
  | cons event rest ih =>
    obtain ⟨next, first, later⟩ := Option.bind_eq_some_iff.1 made
    exact (Relation.ReflTransGen.single ⟨event.1, event.2, first⟩).trans (ih later)

theorem wakeLoop_eq (l : Lifecycle) (i : Nat) : ∃ loops, l.wakeLoop i = { l with loops } ∧ Woken l.loops loops := by
  refine ⟨_, rfl, ?_, ?_⟩
  · intro loop member
    rcases mem_modify member with before | ⟨before, atLoop, rfl⟩
    · exact Or.inl before
    · split
      · exact Or.inr rfl
      · exact Or.inl (List.mem_of_getElem? atLoop)
  · refine List.ext_getElem? fun j => ?_
    rw [List.getElem?_map, List.getElem?_map, List.getElem?_modify]
    cases l.loops[j]? with
    | none => rfl
    | some loop =>
      simp only [Option.map_eq_map, Option.map_some, Option.some.injEq]
      split
      · split
        · rename_i waits
          rw [waits]
          rfl
        · rfl
      · rfl

theorem nudge_eq (l : Lifecycle) : ∃ loops, l.nudge = { l with loops } ∧ Woken l.loops loops := by
  unfold nudge
  split
  · exact ⟨l.loops, rfl, .refl _⟩
  · exact l.wakeLoop_eq _

theorem closeListener_eq (l : Lifecycle) :
    ∃ loops, l.closeListener = { l with listener := l.listener.close.2, loops } ∧ Woken l.loops loops := by
  unfold closeListener
  dsimp only
  split
  · exact ⟨l.loops, rfl, .refl _⟩
  · exact ({ l with listener := l.listener.close.2 } : Lifecycle).wakeLoop_eq _

theorem start_eq (l : Lifecycle) :
    l.start.2 = l ∨ l.phase = .initializing ∧ l.start.2 = { l with phase := .running } := by
  unfold start enter
  split
  · rename_i first
    refine Or.inr ⟨?_, rfl⟩
    cases phase : l.phase <;> rw [phase] at first <;> first | rfl | cases first
  · exact Or.inl rfl

theorem terminate_eq (l : Lifecycle) :
    l.terminate = l ∧ l.phase ≠ .draining ∨ l.phase = .draining ∧ l.terminate = { l with phase := .terminated } := by
  unfold terminate enter
  cases phase : l.phase with
  | draining => exact Or.inr ⟨rfl, by simp⟩
  | initializing | running | terminated => exact Or.inl ⟨by simp, by simp⟩

theorem phase_terminate {l : Lifecycle} (past : l.phase.isPast = true) : l.terminate.phase = .terminated := by
  rcases l.terminate_eq with ⟨same, other⟩ | ⟨_, ended⟩
  · rw [same]
    cases phase : l.phase with
    | terminated => rfl
    | draining => exact absurd phase other
    | initializing | running =>
      rw [phase] at past
      cases past
  · rw [ended]

theorem arm_eq (l : Lifecycle) (now : Nat) :
    l.drainTimeout = none ∧ l.arm now = l ∨
      ∃ limit, l.drainTimeout = some limit ∧ l.arm now = { l with watchdog := some (Clock.due now limit) } := by
  unfold arm
  split
  · rename_i unlimited
    exact Or.inl ⟨unlimited, rfl⟩
  · rename_i limit limited
    exact Or.inr ⟨limit, limited, rfl⟩

theorem beginStop_cases (l : Lifecycle) :
    l.phase.isPast = true ∧ l.beginStop = (false, l) ∨
      l.phase.Next .draining ∧ l.beginStop = (true, { l with phase := .draining }) := by
  unfold beginStop enter
  cases l.phase with
  | initializing => exact Or.inr ⟨.cancel, rfl⟩
  | running => exact Or.inr ⟨.stop, rfl⟩
  | draining | terminated => exact Or.inl ⟨rfl, rfl⟩

/-- A task that stops the service goes on from its place to another. -/
inductive Stopping (now : Nat) (l : Lifecycle) : StopPlace → StopPlace → Lifecycle → Prop
  | take : l.phase.Next .draining → Stopping now l .entered .closing { l with phase := .draining }
  | late : l.phase.isPast = true → Stopping now l .entered (.finished false) l
  | close : Stopping now l .closing .arming l.closeListener
  | arm : Stopping now l .arming (.finished true) (l.arm now)

theorem stepStop?_eq_some {l l' : Lifecycle} {now : Nat} {stop stop' : StopPlace}
    (run : l.stepStop? now stop = some (stop', l')) : Stopping now l stop stop' l' := by
  cases stop with
  | entered =>
    rcases l.beginStop_cases with ⟨past, same⟩ | ⟨next, taken⟩
    · rw [stepStop?, same] at run
      cases run
      exact .late past
    · rw [stepStop?, taken] at run
      cases run
      exact .take next
  | closing =>
    cases run
    exact .close
  | arming =>
    cases run
    exact .arm
  | finished => cases run

/-- An accept loop goes on from its place to another, or accepts. -/
inductive Looping (now : Nat) (l : Lifecycle) (i : Nat) (loop : AcceptLoop) : Lifecycle → Prop
  | start : loop.place = .starting → Looping now l i loop (l.start.2.place i .calling)
  | wait : loop.place = .calling → l.isClosed = false →
      Looping now l i loop (({ l with listener := l.listener.register i } : Lifecycle).place i (.waiting false))
  | refuse : loop.place = .calling → l.isClosed = true →
      Looping now l i loop (({ l with listener := l.listener.register i } : Lifecycle).place i (.stopping .entered))
  | accept {rest} : loop.place = .calling → l.isClosed = false → l.listener.backlog = .connection :: rest →
      Looping now l i loop
        { l with
          listener := { l.listener.register i with backlog := rest, tracker := l.listener.tracker.take }
          loops := l.loops.set i { loop with backoff := minBackoff }
          connections := l.connections ++ [.spawned] }
  | pause {backlog} : loop.place = .calling → l.isClosed = false →
      Looping now l i loop
        { l with
          listener := { l.listener.register i with backlog }
          loops := l.loops.set i { place := .pausing (Clock.due now loop.backoff), backoff := longer loop.backoff } }
  | wake : loop.place = .waiting true → Looping now l i loop (l.place i .calling)
  | resume {due} : loop.place = .pausing due → due ≤ now → Looping now l i loop (l.place i .calling)
  | stop {stop stop' l'} : loop.place = .stopping stop → Stopping now l stop stop' l' →
      Looping now l i loop (l'.place i (.stopping stop'))
  | stopped {effective} : loop.place = .stopping (.finished effective) → Looping now l i loop (l.place i .draining)
  | drained : loop.place = .draining → l.active = 0 ∨ l.forced = true → Looping now l i loop (l.place i .ending)
  | finish : loop.place = .ending → Looping now l i loop (l.terminate.place i .returned)

theorem looping_of_accept {l : Lifecycle} {now i : Nat} {loop : AcceptLoop} (calling : loop.place = .calling) :
    Looping now l i loop (l.accept now i loop).1 := by
  unfold accept
  rcases l.listener.poll_cases i with
    ⟨closed, refused⟩ | ⟨opened, empty | ⟨rest, backlog, taken⟩ | ⟨cause, backlog, failed⟩⟩
  · rw [refused]
    exact .refuse calling closed
  · rw [empty]
    exact .wait calling opened
  · rw [taken]
    exact .accept calling opened backlog
  · rw [failed]
    exact .pause calling opened

theorem stepLoop?_eq_some {l l' : Lifecycle} {now i : Nat} {notices : List Notice}
    (run : l.stepLoop? now i = some (l', notices)) : ∃ loop, l.loops[i]? = some loop ∧ Looping now l i loop l' := by
  unfold stepLoop? at run
  split at run
  · cases run
  rename_i loop atLoop
  refine ⟨loop, atLoop, ?_⟩
  split at run
  · rename_i atPlace
    cases run
    exact .start atPlace
  · rename_i atPlace
    have accepted : (l.accept now i loop).1 = l' := congrArg Prod.fst (Option.some.inj run)
    rw [← accepted]
    exact looping_of_accept atPlace
  · rename_i atPlace
    split at run
    · rename_i woken
      cases run
      rw [woken] at atPlace
      exact .wake atPlace
    · cases run
  · rename_i atPlace
    split at run
    · rename_i due
      cases run
      exact .resume atPlace due
    · cases run
  · rename_i stop atPlace
    split at run
    · rename_i stopped
      cases run
      exact .stop atPlace (stepStop?_eq_some stopped)
    · rename_i finished
      cases run
      cases stop with
      | finished => exact .stopped atPlace
      | entered | closing | arming => cases finished
  · rename_i atPlace
    split at run
    · rename_i idle
      cases run
      refine .drained atPlace ?_
      rcases Bool.or_eq_true_iff.1 idle with none_ | forced
      · exact Or.inl (beq_iff_eq.1 none_)
      · exact Or.inr forced
    · cases run
  · rename_i atPlace
    cases run
    exact .finish atPlace
  · cases run

theorem stepStopping?_eq_some {l l' : Lifecycle} {now i : Nat} (run : l.stepStopping? now i = some l') :
    ∃ stop stop' next, l.stops[i]? = some stop ∧ Stopping now l stop stop' next ∧
      l' = { next with stops := next.stops.set i stop' } := by
  obtain ⟨stop, atStop, later⟩ := Option.bind_eq_some_iff.1 run
  obtain ⟨⟨stop', next⟩, step, same⟩ := Option.bind_eq_some_iff.1 later
  exact ⟨stop, stop', next, atStop, stepStop?_eq_some step, (Option.some.inj same).symm⟩

/-- The task of a connection goes on, or ends and gives its slot back. -/
inductive Connecting (l : Lifecycle) (i : Nat) : Lifecycle → Prop
  | proceed {place place'} : l.connections[i]? = some place → place.isLive = true → place'.isLive = true →
      l.forced = false → Connecting l i { l with connections := l.connections.set i place' }
  | finish {place how tracker} : l.connections[i]? = some place → place.isLive = true →
      (how = .forced ↔ l.forced = true) → l.active = tracker.active + 1 →
      Connecting l i
        { l with listener := { l.listener with tracker }, connections := l.connections.set i (.ended how) }

theorem stepConnection?_cases {l l' : Lifecycle} {i : Nat} {ok : Bool} (run : l.stepConnection? i ok = some l') :
    Connecting l i l' := by
  unfold stepConnection? at run
  split at run
  · cases run
  · cases run
  rename_i place notEnded atPlace
  have live : place.isLive = true := by
    cases place with
    | ended how => exact absurd rfl (notEnded how)
    | _ => rfl
  have ended : ∀ {how}, (how = .forced ↔ l.forced = true) → l.endConnection? i how = some l' → Connecting l i l' := by
    intro how same run
    obtain ⟨tracker, released, ended⟩ := Option.bind_eq_some_iff.1 run
    cases ended
    exact .finish atPlace live same (Tracker.active_of_release? released)
  split at run
  · rename_i forced
    exact ended (by simp [forced]) run
  · rename_i unforced
    have unforced := Bool.eq_false_iff.2 unforced
    split at run
    · cases run
      exact .proceed atPlace live rfl unforced
    · split at run
      · cases run
        exact .proceed atPlace live rfl unforced
      · exact ended (by simp [unforced]) run
    · refine ended ?_ run
      cases ok <;> simp [unforced]

theorem lookWatchdog?_eq_some {l l' : Lifecycle} {now : Nat} {notices : List Notice}
    (run : l.lookWatchdog? now = some (l', notices)) :
    ∃ due, l.watchdog = some due ∧ due ≤ now ∧
      (l.phase = .draining ∧ l' = { l with watchdog := none, forcing := some .forcing } ∨
        l.phase ≠ .draining ∧ l' = { l with watchdog := none }) := by
  unfold lookWatchdog? at run
  split at run
  · rename_i due limit set _
    split at run
    · rename_i time
      refine ⟨due, set, time, ?_⟩
      split at run
      · rename_i draining
        cases run
        exact Or.inl ⟨draining, rfl⟩
      · rename_i finished
        cases run
        exact Or.inr ⟨finished, rfl⟩
    · cases run
  · cases run

theorem stepForcing?_eq_some {l l' : Lifecycle} (run : l.stepForcing? = some l') :
    l.forcing = some .forcing ∧ l' = { l with forced := true, forcing := some .ending } ∨
      l.forcing = some .ending ∧ l' = { l.terminate with forcing := none } := by
  unfold stepForcing? at run
  split at run
  · rename_i place
    exact Or.inl ⟨place, (Option.some.inj run).symm⟩
  · rename_i place
    exact Or.inr ⟨place, (Option.some.inj run).symm⟩
  · cases run

/-- What an event makes of a life. All that is said of a single event below is read off these cases. -/
inductive Occurs (now : Nat) (l : Lifecycle) : Event → Lifecycle → Prop
  | start : Occurs now l .start l.start.2
  | run : Occurs now l .run l.run
  | stop : Occurs now l .stop l.stop
  | stopping {i stop stop' next} : l.stops[i]? = some stop → Stopping now l stop stop' next →
      Occurs now l (.stopping i) { next with stops := next.stops.set i stop' }
  | close : Occurs now l .close l.closeListener
  | loop {i loop l'} : l.loops[i]? = some loop → Looping now l i loop l' → Occurs now l (.loop i) l'
  | expire {due} : l.watchdog = some due → due ≤ now → l.phase = .draining →
      Occurs now l .look { l with watchdog := none, forcing := some .forcing }
  | lapse {due} : l.watchdog = some due → l.phase ≠ .draining → Occurs now l .look { l with watchdog := none }
  | force : l.forcing = some .forcing → Occurs now l .force { l with forced := true, forcing := some .ending }
  | finish : l.forcing = some .ending → Occurs now l .force { l.terminate with forcing := none }
  | connection {i ok l'} : Connecting l i l' → Occurs now l (.connection i ok) l'
  | arrive {arrival listener} : l.listener.Later listener → listener.tracker = l.listener.tracker →
      Occurs now l (.arrive arrival) ({ l with listener } : Lifecycle).nudge
  | trouble {cause listener} : l.listener.Later listener → listener.tracker = l.listener.tracker →
      Occurs now l (.trouble cause) ({ l with listener } : Lifecycle).nudge

theorem occurs_of_step? {l l' : Lifecycle} {now : Nat} {e : Event} (run : l.step? now e = some l') :
    Occurs now l e l' := by
  cases e with
  | start =>
    cases run
    exact .start
  | run =>
    cases run
    exact .run
  | stop =>
    cases run
    exact .stop
  | stopping i =>
    obtain ⟨stop, stop', next, atStop, step, rfl⟩ := stepStopping?_eq_some run
    exact .stopping atStop step
  | close =>
    cases run
    exact .close
  | loop i =>
    obtain ⟨⟨_, notices⟩, stepped, rfl⟩ := Option.map_eq_some_iff.1 run
    obtain ⟨loop, atLoop, step⟩ := stepLoop?_eq_some stepped
    exact .loop atLoop step
  | look =>
    obtain ⟨⟨_, notices⟩, looked, rfl⟩ := Option.map_eq_some_iff.1 run
    obtain ⟨due, set, time, ⟨draining, rfl⟩ | ⟨finished, rfl⟩⟩ := lookWatchdog?_eq_some looked
    · exact .expire set time draining
    · exact .lapse set finished
  | force =>
    rcases stepForcing?_eq_some run with ⟨place, rfl⟩ | ⟨place, rfl⟩
    · exact .force place
    · exact .finish place
  | connection i ok => exact .connection (stepConnection?_cases run)
  | arrive arrival =>
    cases run
    exact .arrive ⟨rfl, Or.inl rfl, rfl, rfl⟩ rfl
  | trouble cause =>
    cases run
    exact .trouble ⟨rfl, Or.inl rfl, rfl, rfl⟩ rfl

/-- What a single step can do to a life. -/
structure Advances (l l' : Lifecycle) : Prop where
  listener : l.listener.Later l'.listener
  phase : l'.phase = l.phase ∨ l.phase.Next l'.phase
  forced : l.forced = true → l'.forced = true
  accepted : l.isClosed = true → l'.connections.length = l.connections.length
  active : l.isClosed = true → l'.active ≤ l.active

namespace Advances

theorem refl (l : Lifecycle) : l.Advances l := ⟨.refl _, Or.inl rfl, id, fun _ => rfl, fun _ => Nat.le_refl _⟩

/-- Where tasks stand does not matter to what a step does. -/
theorem tasks {l l' : Lifecycle} (advances : l.Advances l') (loops : List AcceptLoop) (stops : List StopPlace)
    (watchdog : Option Nat) (forcing : Option ForcePlace) :
    l.Advances { l' with loops, stops, watchdog, forcing } :=
  ⟨advances.listener, advances.phase, advances.forced, advances.accepted, advances.active⟩

theorem start (l : Lifecycle) : l.Advances l.start.2 := by
  rcases l.start_eq with same | ⟨first, started⟩
  · rw [same]
    exact .refl l
  · rw [started]
    exact ⟨.refl _, Or.inr (first ▸ .start), id, fun _ => rfl, fun _ => Nat.le_refl _⟩

theorem terminate (l : Lifecycle) : l.Advances l.terminate := by
  rcases l.terminate_eq with ⟨same, _⟩ | ⟨draining, ended⟩
  · rw [same]
    exact .refl l
  · rw [ended]
    exact ⟨.refl _, Or.inr (draining ▸ .finish), id, fun _ => rfl, fun _ => Nat.le_refl _⟩

theorem closeListener (l : Lifecycle) : l.Advances l.closeListener := by
  obtain ⟨loops, closed, _⟩ := l.closeListener_eq
  rw [closed]
  exact ⟨.close l.listener, Or.inl rfl, id, fun _ => rfl, fun _ => Nat.le_refl _⟩

theorem arm (l : Lifecycle) (now : Nat) : l.Advances (l.arm now) := by
  rcases l.arm_eq now with ⟨_, same⟩ | ⟨limit, _, armed⟩
  · rw [same]
    exact .refl l
  · rw [armed]
    exact (refl l).tasks l.loops l.stops _ l.forcing

/-- What arrives at the listener is neither accepted nor lost at once. -/
theorem nudge {l : Lifecycle} {listener : Listener} (later : l.listener.Later listener)
    (tracker : listener.tracker = l.listener.tracker) : l.Advances ({ l with listener } : Lifecycle).nudge := by
  obtain ⟨loops, nudged, _⟩ := ({ l with listener } : Lifecycle).nudge_eq
  rw [nudged]
  exact ⟨later, Or.inl rfl, id, fun _ => rfl, fun _ => Nat.le_of_eq (congrArg Tracker.active tracker)⟩

theorem stopping {l l' : Lifecycle} {now : Nat} {stop stop' : StopPlace} (step : Stopping now l stop stop' l') :
    l.Advances l' := by
  cases step with
  | take next => exact ⟨.refl _, Or.inr next, id, fun _ => rfl, fun _ => Nat.le_refl _⟩
  | late => exact .refl l
  | close => exact .closeListener l
  | arm => exact .arm l now

theorem looping {l l' : Lifecycle} {now i : Nat} {loop : AcceptLoop} (step : Looping now l i loop l') :
    l.Advances l' := by
  have polled : ∀ {listener : Listener} {loops : List AcceptLoop}, listener.socket = l.listener.socket →
      listener.descriptor = l.listener.descriptor → listener.timeouts = l.listener.timeouts →
      listener.transport = l.listener.transport → listener.tracker = l.listener.tracker →
        l.Advances { l with listener, loops } := by
    intro listener loops socket descriptor timeouts transport tracker
    exact ⟨⟨socket, Or.inl descriptor, timeouts, transport⟩, Or.inl rfl, id, fun _ => rfl,
      fun _ => Nat.le_of_eq (congrArg Tracker.active tracker)⟩
  cases step with
  | start => exact (start l).tasks _ _ _ _
  | wait | refuse | pause => exact polled rfl rfl rfl rfl rfl
  | accept _ opened =>
    -- What is said of a closed listener is void, since only an open one accepts.
    refine ⟨⟨rfl, Or.inl rfl, rfl, rfl⟩, Or.inl rfl, id, fun closed => ?_, fun closed => ?_⟩ <;>
    · rw [opened] at closed
      cases closed
  | wake | resume | stopped | drained => exact (refl l).tasks _ _ _ _
  | stop _ step => exact (stopping step).tasks _ _ _ _
  | finish => exact (terminate l).tasks _ _ _ _

theorem connecting {l l' : Lifecycle} {i : Nat} (step : Connecting l i l') : l.Advances l' := by
  cases step with
  | proceed => exact ⟨.refl _, Or.inl rfl, id, fun _ => List.length_set, fun _ => Nat.le_refl _⟩
  | @finish _ _ tracker _ _ _ released =>
    refine ⟨⟨rfl, Or.inl rfl, rfl, rfl⟩, Or.inl rfl, id, fun _ => List.length_set, fun _ => ?_⟩
    change tracker.active ≤ l.active
    omega

theorem of_step? {l l' : Lifecycle} {now : Nat} {e : Event} (run : l.step? now e = some l') : l.Advances l' := by
  cases occurs_of_step? run with
  | start => exact .start l
  | run | stop | expire | lapse => exact (refl l).tasks _ _ _ _
  | stopping _ step => exact (stopping step).tasks _ _ _ _
  | close => exact .closeListener l
  | loop _ step => exact looping step
  | force => exact ⟨.refl _, Or.inl rfl, fun _ => rfl, fun _ => rfl, fun _ => Nat.le_refl _⟩
  | finish => exact (terminate l).tasks _ _ _ _
  | connection step => exact connecting step
  | arrive later tracker | trouble later tracker => exact nudge later tracker

end Advances

/-- What no event takes back. -/
structure Onward (l l' : Lifecycle) : Prop where
  listener : l.listener.Later l'.listener
  phase : l.phase.rank ≤ l'.phase.rank
  forced : l.forced = true → l'.forced = true
  accepted : l.isClosed = true → l'.connections.length = l.connections.length
  active : l.isClosed = true → l'.active ≤ l.active

theorem Advances.onward {l l' : Lifecycle} (advances : l.Advances l') : l.Onward l' := by
  refine ⟨advances.listener, ?_, advances.forced, advances.accepted, advances.active⟩
  rcases advances.phase with same | next
  · exact Nat.le_of_eq (congrArg Phase.rank same.symm)
  · exact Phase.rank_le_of_next next

namespace Onward

theorem closed {l l' : Lifecycle} (onward : l.Onward l') (closed : l.isClosed = true) : l'.isClosed = true := by
  have none_ : l.listener.descriptor = none := Option.isNone_iff_eq_none.1 closed
  refine Option.isNone_iff_eq_none.2 ?_
  rcases onward.listener.descriptor with same | gone
  · exact same.trans none_
  · exact gone

theorem past {l l' : Lifecycle} (onward : l.Onward l') (past : l.phase.isPast = true) : l'.phase.isPast = true :=
  Phase.isPast_iff.2 (Nat.le_trans (Phase.isPast_iff.1 past) onward.phase)

theorem terminated {l l' : Lifecycle} (onward : l.Onward l') (ended : l.phase = .terminated) :
    l'.phase = .terminated :=
  Phase.eq_terminated_iff.2 (Nat.le_trans (Phase.eq_terminated_iff.1 ended) onward.phase)

theorem trans {l l' l'' : Lifecycle} (first : l.Onward l') (second : l'.Onward l'') : l.Onward l'' where
  listener := first.listener.trans second.listener
  phase := Nat.le_trans first.phase second.phase
  forced := second.forced ∘ first.forced
  accepted shut := (second.accepted (first.closed shut)).trans (first.accepted shut)
  active shut := Nat.le_trans (second.active (first.closed shut)) (first.active shut)

theorem of_leads {l l' : Lifecycle} (leads : l.Leads l') : l.Onward l' := by
  induction leads with
  | refl => exact (Advances.refl l).onward
  | tail _ last ih =>
    obtain ⟨now, e, run⟩ := last
    exact ih.trans (Advances.of_step? run).onward

end Onward

end Lifecycle

end Handover
