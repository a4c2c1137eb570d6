import Handover.Service.Lifecycle

namespace Handover

/-- A service logs it. -/
def Notice.isOfService : Notice → Bool
  | .acceptFailed .. | .drainExpired .. => true
  | _ => false

/-- What can have become of a listener: it is the same but for its connections, or it is closed. -/
structure Listener.Later (before after : Listener) : Prop where
  socket : after.socket = before.socket
  descriptor : after.descriptor = before.descriptor ∨ after.descriptor = none
  timeouts : after.timeouts = before.timeouts
  transport : after.transport = before.transport

namespace Listener.Later

theorem refl (l : Listener) : Later l l := ⟨rfl, Or.inl rfl, rfl, rfl⟩

theorem trans {l l' l'' : Listener} (first : Later l l') (second : Later l' l'') : Later l l'' := by
  refine ⟨second.socket.trans first.socket, ?_, second.timeouts.trans first.timeouts,
    second.transport.trans first.transport⟩
  rcases second.descriptor with same | closed
  · rcases first.descriptor with same' | closed'
    · exact Or.inl (same.trans same')
    · exact Or.inr (same.trans closed')
  · exact Or.inr closed

theorem close (l : Listener) : Later l l.close.2 := ⟨rfl, Or.inr rfl, rfl, rfl⟩

theorem handle? {l l' : Listener} (later : Later l l') {h : Handle} (held : l'.handle? = some h) :
    l.handle? = some h := by
  rcases later.descriptor with same | closed
  · rw [← held, Listener.handle?, Listener.handle?, same, later.socket]
  · rw [Listener.handle?, closed] at held
    cases held

end Listener.Later

theorem Listener.look_frame (l : Listener) :
    l.Later l.look.2 ∧ l.look.2.descriptor = l.descriptor := by
  unfold look
  split
  · exact ⟨.refl l, rfl⟩
  · split <;> exact ⟨⟨rfl, Or.inl rfl, rfl, rfl⟩, rfl⟩

theorem Listener.look_ne_closed {l : Listener} (opened : l.isClosed = false) : l.look.1 ≠ .closed := by
  unfold look
  rw [opened]
  intro closed
  rw [if_neg Bool.false_ne_true] at closed
  split at closed <;> cases closed

namespace Lifecycle

@[simp] theorem listener_enter (l : Lifecycle) (sources : List Phase) (target : Phase) :
    (l.enter sources target).2.listener = l.listener := by
  unfold enter
  split <;> rfl

@[simp] theorem listener_place (l : Lifecycle) (i : Nat) (place : LoopPlace) :
    (l.place i place).listener = l.listener := rfl

@[simp] theorem listener_arm (l : Lifecycle) (now : Nat) : (l.arm now).listener = l.listener := by
  unfold arm
  split <;> rfl

@[simp] theorem listener_nudge (l : Lifecycle) : l.nudge.listener = l.listener := by
  unfold nudge
  split <;> rfl

@[simp] theorem listener_closeListener (l : Lifecycle) : l.closeListener.listener = l.listener.close.2 := by
  unfold closeListener
  dsimp only [Listener.close, Listener.wake]
  split <;> rfl

theorem later_closeListener (l : Lifecycle) : l.listener.Later l.closeListener.listener := by
  rw [listener_closeListener]
  exact .close l.listener

theorem later_shutdown (l : Lifecycle) (now : Nat) : l.listener.Later (l.shutdown now).2.listener := by
  unfold shutdown
  split
  · rename_i kept run
    have same := listener_enter l [.initializing, .running] .draining
    rw [show l.enter [.initializing, .running] .draining = (false, kept) from run] at same
    exact same ▸ .refl _
  · rename_i begun run
    have same := listener_enter l [.initializing, .running] .draining
    rw [show l.enter [.initializing, .running] .draining = (true, begun) from run] at same
    rw [listener_arm, ← same]
    exact later_closeListener begun

theorem later_stepStop? {l l' : Lifecycle} {now : Nat} {stop stop' : StopPlace}
    (run : l.stepStop? now stop = some (stop', l')) : l.listener.Later l'.listener := by
  cases stop with
  | entered =>
    simp only [stepStop?, Option.some.injEq, Prod.mk.injEq] at run
    rw [← run.2, beginStop, listener_enter]
    exact .refl _
  | closing =>
    cases run
    exact later_closeListener l
  | arming =>
    cases run
    rw [listener_arm]
    exact .refl _
  | finished => cases run

theorem later_accept (l : Lifecycle) (now i : Nat) (loop : AcceptLoop) :
    l.listener.Later (l.accept now i loop).1.listener := by
  have registered : l.listener.Later (l.listener.register i) := ⟨rfl, Or.inl rfl, rfl, rfl⟩
  have looked := registered.trans (Listener.look_frame (l.listener.register i)).1
  unfold accept
  dsimp only [Listener.poll]
  split <;> exact looked

/-- No step of an accept loop changes the socket; only a loop that stops the service closes it. -/
theorem later_stepLoop? {l l' : Lifecycle} {now i : Nat} {notices : List Notice}
    (run : l.stepLoop? now i = some (l', notices)) : l.listener.Later l'.listener := by
  unfold stepLoop? at run
  split at run
  · cases run
  · rename_i loop atLoop
    split at run
    · cases run
      rw [listener_place, start, listener_enter]
      exact .refl _
    · have accepted : (l.accept now i loop).1 = l' := congrArg Prod.fst (Option.some.inj run)
      rw [← accepted]
      exact later_accept l now i loop
    · split at run
      · cases run
        exact .refl _
      · cases run
    · split at run
      · cases run
        exact .refl _
      · cases run
    · split at run
      · rename_i stopped
        cases run
        rw [listener_place]
        exact later_stepStop? stopped
      · cases run
        exact .refl _
    · split at run
      · cases run
        exact .refl _
      · cases run
    · cases run
      rw [listener_place, terminate, listener_enter]
      exact .refl _
    · cases run

theorem later_fireWatchdog? {l l' : Lifecycle} {now : Nat} {notices : List Notice}
    (run : l.fireWatchdog? now = some (l', notices)) : l.listener.Later l'.listener := by
  unfold fireWatchdog? at run
  split at run
  · split at run
    · split at run
      · cases run
        rw [terminate, listener_enter]
        exact .refl _
      · cases run
        exact .refl _
    · cases run
  · cases run

/-- What a service logs concerns its accepting and its draining. -/
theorem notices_stepLoop? {l l' : Lifecycle} {now i : Nat} {notices : List Notice}
    (run : l.stepLoop? now i = some (l', notices)) : ∀ notice ∈ notices, notice.isOfService = true := by
  unfold stepLoop? at run
  split at run
  · cases run
  · rename_i loop atLoop
    split at run
    case h_2 =>
      have logged : (l.accept now i loop).2 = notices := congrArg Prod.snd (Option.some.inj run)
      rw [← logged]
      unfold accept
      dsimp only
      split <;> simp [Notice.isOfService]
    all_goals
      try split at run
      all_goals
        cases run
        try exact fun notice member => absurd member List.not_mem_nil

theorem notices_fireWatchdog? {l l' : Lifecycle} {now : Nat} {notices : List Notice}
    (run : l.fireWatchdog? now = some (l', notices)) : ∀ notice ∈ notices, notice.isOfService = true := by
  unfold fireWatchdog? at run
  split at run
  · split at run
    · split at run <;> cases run <;> simp [Notice.isOfService]
    · cases run
  · cases run

theorem endConnection?_eq_some {l l' : Lifecycle} {i : Nat} {how : ConnectionEnd}
    (run : l.endConnection? i how = some l') : ∃ tracker, l' = { l with
      listener := { l.listener with tracker }
      connections := l.connections.set i (.ended how) } := by
  obtain ⟨tracker, _, ended⟩ := Option.bind_eq_some_iff.1 run
  exact ⟨tracker, (Option.some.inj ended).symm⟩

/-- The task of a connection changes nothing but the connections. -/
theorem stepConnection?_eq_some {l l' : Lifecycle} {i : Nat} {ok : Bool} (run : l.stepConnection? i ok = some l') :
    ∃ tracker connections, l' = { l with listener := { l.listener with tracker }, connections } := by
  have ended : ∀ {how}, l.endConnection? i how = some l' →
      ∃ tracker connections, l' = { l with listener := { l.listener with tracker }, connections } := by
    intro how run
    obtain ⟨tracker, rfl⟩ := endConnection?_eq_some run
    exact ⟨tracker, _, rfl⟩
  unfold stepConnection? at run
  split at run
  · cases run
  · cases run
  · split at run
    · exact ended run
    · split at run
      · cases run
        exact ⟨l.listener.tracker, _, rfl⟩
      · split at run
        · cases run
          exact ⟨l.listener.tracker, _, rfl⟩
        · exact ended run
      · exact ended run

theorem later_stepConnection? {l l' : Lifecycle} {i : Nat} {ok : Bool} (run : l.stepConnection? i ok = some l') :
    l.listener.Later l'.listener := by
  obtain ⟨tracker, connections, rfl⟩ := stepConnection?_eq_some run
  exact ⟨rfl, Or.inl rfl, rfl, rfl⟩

/-- Something arriving changes nothing but the backlog and which loop is woken. -/
theorem later_arrive (l : Lifecycle) (arrival : Arrival) : l.listener.Later (l.arrive arrival).listener := by
  rw [arrive, listener_nudge]
  exact ⟨rfl, Or.inl rfl, rfl, rfl⟩

/-- A loop that has not found the listener closed. -/
def LoopPlace.isLive : LoopPlace → Bool
  | .starting | .calling | .waiting _ | .pausing _ => true
  | _ => false

/-- The service accepts connections, or is about to: nothing has stopped it or closed its listener. -/
structure IsLive (l : Lifecycle) : Prop where
  opened : l.listener.isClosed = false
  phase : l.phase = .initializing ∨ l.phase = .running
  loops : ∀ loop ∈ l.loops, LoopPlace.isLive loop.place = true

theorem isLive_onListener {listener : Listener} (opened : listener.isClosed = false) (drainTimeout : Option Span) :
    (onListener listener drainTimeout).IsLive := ⟨opened, Or.inl rfl, by simp [onListener]⟩

namespace IsLive

theorem start {l : Lifecycle} (live : l.IsLive) : l.start.2.IsLive := by
  unfold Lifecycle.start enter
  split
  · exact ⟨live.opened, Or.inr rfl, live.loops⟩
  · exact live

theorem run {l : Lifecycle} (live : l.IsLive) : l.run.IsLive := by
  refine ⟨live.opened, live.phase, ?_⟩
  intro loop member
  rcases List.mem_append.1 member with before | last
  · exact live.loops loop before
  · rw [List.mem_singleton.1 last]
    rfl

theorem of_modify {l : Lifecycle} (live : l.IsLive) {i : Nat} {f : AcceptLoop → AcceptLoop}
    (kept : ∀ loop, LoopPlace.isLive loop.place = true → LoopPlace.isLive (f loop).place = true) :
    ({ l with loops := l.loops.modify i f } : Lifecycle).IsLive := by
  refine ⟨live.opened, live.phase, ?_⟩
  intro loop member
  obtain ⟨j, atLoop⟩ := List.getElem?_of_mem member
  rw [List.getElem?_modify] at atLoop
  obtain ⟨before, atBefore, same⟩ := Option.map_eq_some_iff.1 atLoop
  have wasLive := live.loops before (List.mem_of_getElem? atBefore)
  subst same
  split
  · exact kept before wasLive
  · exact wasLive

theorem place {l : Lifecycle} (live : l.IsLive) (i : Nat) {place : LoopPlace} (on : LoopPlace.isLive place = true) :
    (l.place i place).IsLive := live.of_modify fun _ _ => on

theorem wakeLoop {l : Lifecycle} (live : l.IsLive) (i : Nat) : (l.wakeLoop i).IsLive := by
  refine live.of_modify fun loop on => ?_
  split
  · rfl
  · exact on

theorem nudge {l : Lifecycle} (live : l.IsLive) : l.nudge.IsLive := by
  unfold Lifecycle.nudge
  split
  · exact live
  · exact live.wakeLoop _

theorem arrive {l : Lifecycle} (live : l.IsLive) (arrival : Arrival) : (l.arrive arrival).IsLive :=
  nudge ⟨live.opened, live.phase, live.loops⟩

theorem set {l : Lifecycle} (live : l.IsLive) (i : Nat) {loop : AcceptLoop} (on : LoopPlace.isLive loop.place = true) :
    ({ l with loops := l.loops.set i loop } : Lifecycle).IsLive := by
  refine ⟨live.opened, live.phase, ?_⟩
  intro other member
  rcases List.mem_or_eq_of_mem_set member with before | rfl
  · exact live.loops other before
  · exact on

/-- A loop that accepts at an open listener goes on. -/
theorem accept {l : Lifecycle} (live : l.IsLive) (now i : Nat) {loop : AcceptLoop}
    (on : LoopPlace.isLive loop.place = true) : (l.accept now i loop).1.IsLive := by
  have descriptor := (Listener.look_frame (l.listener.register i)).2
  have stillOpen : ((l.listener.register i).look).2.isClosed = false := by
    rw [Listener.isClosed, descriptor]
    exact live.opened
  have looked : ({ l with listener := ((l.listener.register i).look).2 } : Lifecycle).IsLive :=
    ⟨stillOpen, live.phase, live.loops⟩
  have notClosed := Listener.look_ne_closed (l := l.listener.register i) live.opened
  unfold Lifecycle.accept
  dsimp only [Listener.poll]
  split
  · exact looked.place i rfl
  · rename_i closed
    exact absurd closed notClosed
  · have kept : ({ l with
        listener := ((l.listener.register i).look).2
        loops := l.loops.set i { loop with backoff := minBackoff } } : Lifecycle).IsLive :=
      looked.set i on
    exact ⟨kept.opened, kept.phase, kept.loops⟩
  · exact looked.set i rfl

theorem stepLoop? {l l' : Lifecycle} (live : l.IsLive) {now i : Nat} {notices : List Notice}
    (run : l.stepLoop? now i = some (l', notices)) : l'.IsLive := by
  unfold Lifecycle.stepLoop? at run
  split at run
  · cases run
  · rename_i loop atLoop
    have on := live.loops loop (List.mem_of_getElem? atLoop)
    split at run
    · cases run
      exact live.start.place i rfl
    · have accepted : (l.accept now i loop).1 = l' := congrArg Prod.fst (Option.some.inj run)
      rw [← accepted]
      exact live.accept now i on
    · split at run
      · cases run
        exact live.place i rfl
      · cases run
    · split at run
      · cases run
        exact live.place i rfl
      · cases run
    all_goals
      rename_i atPlace
      rw [atPlace] at on
      cases on

theorem fireWatchdog? {l l' : Lifecycle} (live : l.IsLive) {now : Nat} {notices : List Notice}
    (run : l.fireWatchdog? now = some (l', notices)) : l'.IsLive := by
  unfold Lifecycle.fireWatchdog? at run
  split at run
  · split at run
    · split at run
      · rename_i draining
        rcases live.phase with phase | phase <;> rw [phase] at draining <;> cases draining
      · cases run
        exact ⟨live.opened, live.phase, live.loops⟩
    · cases run
  · cases run

theorem stepConnection? {l l' : Lifecycle} (live : l.IsLive) {i : Nat} {ok : Bool}
    (run : l.stepConnection? i ok = some l') : l'.IsLive := by
  obtain ⟨tracker, connections, rfl⟩ := stepConnection?_eq_some run
  exact ⟨live.opened, live.phase, live.loops⟩

end IsLive

end Lifecycle

end Handover
