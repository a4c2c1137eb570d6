import Handover.Proofs.Service.Events

namespace Handover

/-- How many stops can yet take effect. -/
def Phase.stopsLeft (p : Phase) : Nat := if p.isPast then 0 else 1

theorem Phase.stopsLeft_of_next {p : Phase} (next : p.Next draining) : p.stopsLeft = 1 := by
  cases next <;> rfl

/-- What holds of a life while a task that stops it stands somewhere. -/
def StopPlace.Fits (l : Lifecycle) : StopPlace → Prop
  | entered => True
  | closing | finished false => l.phase.isPast = true
  | arming | finished true => l.phase.isPast = true ∧ l.isClosed = true

/-- What holds of a life while an accept loop stands somewhere. A loop that has found the drain done may end the life a
step later, since with a closed listener nothing is active again. -/
def LoopPlace.Fits (l : Lifecycle) : LoopPlace → Prop
  | starting | calling | waiting _ | pausing _ => True
  | stopping stop => l.isClosed = true ∧ stop.Fits l
  | draining => l.isClosed = true ∧ l.phase.isPast = true
  | ending => l.isClosed = true ∧ l.phase.isPast = true ∧ (l.active = 0 ∨ l.forced = true)
  | returned => l.isClosed = true ∧ l.phase = .terminated

/-- A listener that is closed and a drain that is over stay so. -/
theorem Lifecycle.Onward.drained {l l' : Lifecycle} (onward : l.Onward l') (closed : l.isClosed = true)
    (drained : l.active = 0 ∨ l.forced = true) : l'.active = 0 ∨ l'.forced = true := by
  rcases drained with idle | forced
  · have := onward.active closed
    exact Or.inl (by omega)
  · exact Or.inr (onward.forced forced)

theorem StopPlace.Fits.onward {l l' : Lifecycle} {stop : StopPlace} (fits : stop.Fits l) (onward : l.Onward l') :
    stop.Fits l' := by
  cases stop with
  | entered => trivial
  | closing => exact onward.past fits
  | arming => exact ⟨onward.past fits.1, onward.closed fits.2⟩
  | finished effective =>
    cases effective with
    | false => exact onward.past fits
    | true => exact ⟨onward.past fits.1, onward.closed fits.2⟩

theorem LoopPlace.Fits.onward {l l' : Lifecycle} {place : LoopPlace} (fits : place.Fits l) (onward : l.Onward l') :
    place.Fits l' := by
  cases place with
  | starting | calling | waiting | pausing => trivial
  | stopping stop => exact ⟨onward.closed fits.1, fits.2.onward onward⟩
  | draining => exact ⟨onward.closed fits.1, onward.past fits.2⟩
  | ending => exact ⟨onward.closed fits.1, onward.past fits.2.1, onward.drained fits.1 fits.2.2⟩
  | returned => exact ⟨onward.closed fits.1, onward.terminated fits.2⟩

namespace Lifecycle

/-- Every task stands where it can, and the connections are counted. -/
structure Sound (l : Lifecycle) : Prop where
  stops : ∀ stop ∈ l.stops, stop.Fits l
  loops : ∀ loop ∈ l.loops, loop.place.Fits l
  watchdog : ∀ due, l.watchdog = some due → l.isClosed = true ∧ l.phase.isPast = true
  forcing : ∀ place, l.forcing = some place →
    l.isClosed = true ∧ l.phase.isPast = true ∧ (place = .ending → l.forced = true)
  forced : l.forced = true → l.isClosed = true ∧ l.phase.isPast = true
  ended : l.phase = .terminated → l.isClosed = true ∧ (l.active = 0 ∨ l.forced = true)
  count : l.active = l.connections.countP ConnectionPlace.isLive

namespace Sound

theorem onListener (handle : Handle) (timeouts : Timeouts) (drainTimeout : Option Span) :
    (onListener (.onHandle handle timeouts) drainTimeout).Sound where
  stops _ member := absurd member List.not_mem_nil
  loops _ member := absurd member List.not_mem_nil
  watchdog _ := nofun
  forcing _ := nofun
  forced := nofun
  ended := nofun
  count := rfl

/-- A step keeps a life sound that neither starts a watchdog or its force, nor ends the life. -/
theorem keep {l l' : Lifecycle} (sound : l.Sound) (onward : l.Onward l')
    (stops : ∀ stop ∈ l'.stops, stop ∈ l.stops ∨ stop.Fits l')
    (loops : ∀ loop ∈ l'.loops, loop ∈ l.loops ∨ loop.place.Fits l')
    (watchdog : ∀ due, l'.watchdog = some due → l.watchdog = some due) (forcing : l'.forcing = l.forcing)
    (forced : l'.forced = l.forced) (ended : l'.phase = .terminated → l.phase = .terminated)
    (count : l'.active = l'.connections.countP ConnectionPlace.isLive) : l'.Sound where
  stops stop member := (stops stop member).elim (fun before => (sound.stops stop before).onward onward) id
  loops loop member := (loops loop member).elim (fun before => (sound.loops loop before).onward onward) id
  watchdog due set := by
    obtain ⟨closed, past⟩ := sound.watchdog due (watchdog due set)
    exact ⟨onward.closed closed, onward.past past⟩
  forcing place at_ := by
    obtain ⟨closed, past, last⟩ := sound.forcing place (forcing ▸ at_)
    exact ⟨onward.closed closed, onward.past past, fun ending => onward.forced (last ending)⟩
  forced on := by
    obtain ⟨closed, past⟩ := sound.forced (forced ▸ on)
    exact ⟨onward.closed closed, onward.past past⟩
  ended finished := by
    obtain ⟨closed, drained⟩ := sound.ended (ended finished)
    exact ⟨onward.closed closed, onward.drained closed drained⟩
  count := count

/-- Tasks go on while the rest stays as it is. -/
theorem tasks {l : Lifecycle} (sound : l.Sound) {loops : List AcceptLoop} {stops : List StopPlace}
    (fitsLoops : ∀ loop ∈ loops, loop ∈ l.loops ∨ loop.place.Fits l)
    (fitsStops : ∀ stop ∈ stops, stop ∈ l.stops ∨ stop.Fits l) : ({ l with loops, stops } : Lifecycle).Sound := by
  have onward : l.Onward { l with loops, stops } := ((Advances.refl l).tasks _ _ _ _).onward
  refine sound.keep onward ?_ ?_ (fun _ set => set) rfl rfl id sound.count
  · intro stop member
    exact (fitsStops stop member).imp_right fun fits => fits.onward onward
  · intro loop member
    exact (fitsLoops loop member).imp_right fun fits => fits.onward onward

theorem place {l : Lifecycle} (sound : l.Sound) (i : Nat) {place : LoopPlace} (fits : place.Fits l) :
    (l.place i place).Sound := by
  refine sound.tasks (fun loop member => ?_) fun stop member => Or.inl member
  rcases mem_modify member with before | ⟨_, _, rfl⟩
  · exact Or.inl before
  · exact Or.inr fits

theorem woken {l : Lifecycle} (sound : l.Sound) {loops : List AcceptLoop} (woken : Woken l.loops loops) :
    ({ l with loops } : Lifecycle).Sound := by
  refine sound.tasks (fun loop member => ?_) fun stop member => Or.inl member
  rcases woken.member loop member with before | waits
  · exact Or.inl before
  · right
    rw [waits]
    trivial

theorem listener {l : Lifecycle} (sound : l.Sound) (listener : Listener) (later : l.listener.Later listener)
    (tracker : listener.tracker = l.listener.tracker) : ({ l with listener } : Lifecycle).Sound := by
  have active : listener.tracker.active = l.active := congrArg Tracker.active tracker
  have advances : l.Advances { l with listener } :=
    ⟨later, Or.inl rfl, id, fun _ => rfl, fun _ => Nat.le_of_eq active⟩
  exact sound.keep advances.onward (fun _ => Or.inl) (fun _ => Or.inl) (fun _ => id) rfl rfl id
    (active.trans sound.count)

theorem nudge {l : Lifecycle} (sound : l.Sound) : l.nudge.Sound := by
  obtain ⟨loops, nudged, woken⟩ := l.nudge_eq
  rw [nudged]
  exact sound.woken woken

theorem closeListener {l : Lifecycle} (sound : l.Sound) : l.closeListener.Sound := by
  obtain ⟨loops, closed, woken⟩ := l.closeListener_eq
  rw [closed]
  exact (sound.listener _ (.close l.listener) rfl).woken woken

theorem start {l : Lifecycle} (sound : l.Sound) : l.start.2.Sound := by
  have onward := (Advances.start l).onward
  rcases l.start_eq with same | ⟨_, started⟩
  · rw [same]
    exact sound
  · rw [started] at onward ⊢
    exact sound.keep onward (fun _ => Or.inl) (fun _ => Or.inl) (fun _ => id) rfl rfl nofun sound.count

/-- A service ends that is closed and has drained. -/
theorem terminate {l : Lifecycle} (sound : l.Sound) (closed : l.isClosed = true)
    (drained : l.active = 0 ∨ l.forced = true) : l.terminate.Sound := by
  have onward := (Advances.terminate l).onward
  rcases l.terminate_eq with ⟨same, _⟩ | ⟨_, ended⟩
  · rw [same]
    exact sound
  · rw [ended] at onward ⊢
    refine { sound with
      stops := fun stop member => (sound.stops stop member).onward onward
      loops := fun loop member => (sound.loops loop member).onward onward
      watchdog := fun due set => ⟨closed, rfl⟩
      forcing := fun place at_ => ⟨closed, rfl, (sound.forcing place at_).2.2⟩
      forced := fun _ => ⟨closed, rfl⟩
      ended := fun _ => ⟨closed, drained⟩ }

theorem arm {l : Lifecycle} (sound : l.Sound) (now : Nat) (closed : l.isClosed = true)
    (past : l.phase.isPast = true) : (l.arm now).Sound := by
  rcases l.arm_eq now with ⟨_, same⟩ | ⟨limit, _, armed⟩
  · rw [same]
    exact sound
  · rw [armed]
    have onward : l.Onward { l with watchdog := some (Clock.due now limit) } :=
      ((Advances.refl l).tasks _ _ _ _).onward
    exact { sound with
      stops := fun stop member => (sound.stops stop member).onward onward
      loops := fun loop member => (sound.loops loop member).onward onward
      watchdog := fun _ _ => ⟨closed, past⟩ }

theorem stopping {l next : Lifecycle} {now : Nat} {stop stop' : StopPlace} (sound : l.Sound)
    (step : Stopping now l stop stop' next) (fits : stop.Fits l) : next.Sound ∧ stop'.Fits next := by
  have onward := (Advances.stopping step).onward
  cases step with
  | take => exact ⟨sound.keep onward (fun _ => Or.inl) (fun _ => Or.inl) (fun _ => id) rfl rfl nofun sound.count, rfl⟩
  | late past => exact ⟨sound, past⟩
  | close =>
    have closed : l.closeListener.isClosed = true := by
      rw [isClosed, listener_closeListener]
      rfl
    exact ⟨sound.closeListener, onward.past fits, closed⟩
  | arm => exact ⟨sound.arm now fits.2 fits.1, onward.past fits.1, onward.closed fits.2⟩

theorem looping {l l' : Lifecycle} {now i : Nat} {loop : AcceptLoop} (sound : l.Sound)
    (atLoop : l.loops[i]? = some loop) (step : Looping now l i loop l') : l'.Sound := by
  have fits := sound.loops loop (List.mem_of_getElem? atLoop)
  have onward := (Advances.looping step).onward
  cases step with
  | start => exact sound.start.place i trivial
  | wait => exact (sound.listener (l.listener.register i) ⟨rfl, Or.inl rfl, rfl, rfl⟩ rfl).place i trivial
  | refuse _ closed =>
    exact (sound.listener (l.listener.register i) ⟨rfl, Or.inl rfl, rfl, rfl⟩ rfl).place i ⟨closed, trivial⟩
  | accept calling =>
    refine sound.keep onward (fun _ => Or.inl) (fun other member => ?_) (fun _ => id) rfl rfl id ?_
    · rcases List.mem_or_eq_of_mem_set member with before | rfl
      · exact Or.inl before
      · right
        rw [show ({ loop with backoff := minBackoff } : AcceptLoop).place = .calling from calling]
        trivial
    · change l.active + 1 = (l.connections ++ [ConnectionPlace.spawned]).countP ConnectionPlace.isLive
      rw [List.countP_append, ← sound.count]
      rfl
  | pause =>
    refine sound.keep onward (fun _ => Or.inl) (fun other member => ?_) (fun _ => id) rfl rfl id sound.count
    rcases List.mem_or_eq_of_mem_set member with before | rfl
    · exact Or.inl before
    · exact Or.inr trivial
  | wake | resume => exact sound.place i trivial
  | stop atPlace step =>
    rw [atPlace] at fits
    obtain ⟨next, fits'⟩ := sound.stopping step fits.2
    exact next.place i ⟨(Advances.stopping step).onward.closed fits.1, fits'⟩
  | @stopped effective atPlace =>
    rw [atPlace] at fits
    refine sound.place i ⟨fits.1, ?_⟩
    cases effective with
    | false => exact fits.2
    | true => exact fits.2.1
  | drained atPlace idle =>
    rw [atPlace] at fits
    exact sound.place i ⟨fits.1, fits.2, idle⟩
  | finish atPlace =>
    rw [atPlace] at fits
    obtain ⟨closed, past, drained⟩ := fits
    exact (sound.terminate closed drained).place i
      ⟨(Advances.terminate l).onward.closed closed, phase_terminate past⟩

theorem connecting {l l' : Lifecycle} {i : Nat} (sound : l.Sound) (step : Connecting l i l') : l'.Sound := by
  have onward := (Advances.connecting step).onward
  cases step with
  | @proceed place place' atPlace live live' =>
    refine sound.keep onward (fun _ => Or.inl) (fun _ => Or.inl) (fun _ => id) rfl rfl id ?_
    have counted := countP_set_of_getElem? (p := ConnectionPlace.isLive) (a := place') atPlace
    rw [live, live'] at counted
    exact sound.count.trans (Nat.add_right_cancel counted).symm
  | @finish place how tracker atPlace live _ released =>
    refine sound.keep onward (fun _ => Or.inl) (fun _ => Or.inl) (fun _ => id) rfl rfl id ?_
    have counted := countP_set_of_getElem? (p := ConnectionPlace.isLive) (a := .ended how) atPlace
    rw [live] at counted
    have count := sound.count
    change _ + 1 = _ + 0 at counted
    change tracker.active = (l.connections.set i (.ended how)).countP ConnectionPlace.isLive
    omega

theorem step? {l l' : Lifecycle} {now : Nat} {e : Event} (sound : l.Sound) (run : l.step? now e = some l') :
    l'.Sound := by
  have onward := (Advances.of_step? run).onward
  cases occurs_of_step? run with
  | start => exact sound.start
  | run =>
    refine sound.tasks (fun loop member => ?_) fun _ => Or.inl
    rcases List.mem_append.1 member with before | last
    · exact Or.inl before
    · right
      rw [List.mem_singleton.1 last]
      trivial
  | stop =>
    refine sound.tasks (fun _ => Or.inl) fun stop member => ?_
    rcases List.mem_append.1 member with before | last
    · exact Or.inl before
    · right
      rw [List.mem_singleton.1 last]
      trivial
  | stopping atStop step =>
    obtain ⟨sound', fits⟩ := sound.stopping step (sound.stops _ (List.mem_of_getElem? atStop))
    refine sound'.tasks (fun _ => Or.inl) fun other member => ?_
    rcases List.mem_or_eq_of_mem_set member with before | rfl
    · exact Or.inl before
    · exact Or.inr fits
  | close => exact sound.closeListener
  | loop atLoop step => exact sound.looping atLoop step
  | expire set =>
    obtain ⟨closed, past⟩ := sound.watchdog _ set
    exact { sound with
      stops := fun stop member => (sound.stops stop member).onward onward
      loops := fun loop member => (sound.loops loop member).onward onward
      watchdog := fun _ => nofun
      forcing := fun place at_ => ⟨closed, past, fun ending => by cases at_; cases ending⟩ }
  | lapse => exact sound.keep onward (fun _ => Or.inl) (fun _ => Or.inl) (fun _ => nofun) rfl rfl id sound.count
  | force place =>
    obtain ⟨closed, past, _⟩ := sound.forcing _ place
    exact { sound with
      stops := fun stop member => (sound.stops stop member).onward onward
      loops := fun loop member => (sound.loops loop member).onward onward
      forcing := fun _ _ => ⟨closed, past, fun _ => rfl⟩
      forced := fun _ => ⟨closed, past⟩
      ended := fun _ => ⟨closed, Or.inr rfl⟩ }
  | finish place =>
    -- The watchdog called for force a step earlier, which excuses the connections that are still live.
    obtain ⟨closed, _, last⟩ := sound.forcing _ place
    have ended := sound.terminate closed (Or.inr (last rfl))
    have same : l.terminate.Onward { l.terminate with forcing := none } :=
      ((Advances.refl l.terminate).tasks _ _ _ _).onward
    exact { ended with
      stops := fun stop member => (ended.stops stop member).onward same
      loops := fun loop member => (ended.loops loop member).onward same
      forcing := fun _ => nofun }
  | connection step => exact sound.connecting step
  | arrive later tracker | trouble later tracker => exact (sound.listener _ later tracker).nudge

theorem leads {l l' : Lifecycle} (sound : l.Sound) (leads : l.Leads l') : l'.Sound := by
  induction leads with
  | refl => exact sound
  | tail _ last ih =>
    obtain ⟨now, e, run⟩ := last
    exact ih.step? run

end Sound

/-- The tasks whose stop has taken effect and is not over. -/
def underway (l : Lifecycle) : Nat :=
  l.stops.countP StopPlace.isUnderway + l.loops.countP fun loop => loop.place.isUnderway

/-- The stops that are under way, and the one that has yet to take effect. -/
def stopsLeft (l : Lifecycle) : Nat := l.underway + l.phase.stopsLeft

/-- The event is the return of a stop that took effect, if it can happen now. -/
def returns (l : Lifecycle) : Event → Bool
  | .stopping i => l.stops[i]? = some .arming
  | .loop i => l.loops[i]?.map (·.place) = some (.stopping .arming)
  | _ => false

theorem underway_place {l : Lifecycle} {i : Nat} {loop : AcceptLoop} (place : LoopPlace)
    (atLoop : l.loops[i]? = some loop) :
    (l.place i place).underway + (if loop.place.isUnderway then 1 else 0) =
      l.underway + (if place.isUnderway then 1 else 0) := by
  have counted := countP_modify (p := fun loop : AcceptLoop => loop.place.isUnderway)
    (f := fun loop => { loop with place }) atLoop
  unfold underway
  change l.stops.countP _ + (l.loops.modify i _).countP _ + _ = _
  dsimp only at counted
  omega

theorem underway_eq {l l' : Lifecycle} (stops : l'.stops = l.stops)
    (loops : (l'.loops.map fun loop => loop.place.isUnderway) = l.loops.map fun loop => loop.place.isUnderway) :
    l'.underway = l.underway := by
  have counted := congrArg (List.countP id) loops
  rw [List.countP_map, List.countP_map] at counted
  change (l'.loops.countP fun loop => loop.place.isUnderway) = l.loops.countP fun loop => loop.place.isUnderway
    at counted
  rw [underway, underway, stops, counted]

/-- A task that stops the service uses up the one stop that can take effect, and is done with it when it returns. -/
theorem Stopping.stopsLeft {l next : Lifecycle} {now : Nat} {stop stop' : StopPlace}
    (step : Stopping now l stop stop' next) :
    next.stops = l.stops ∧
      (next.loops.map fun loop => loop.place.isUnderway) = (l.loops.map fun loop => loop.place.isUnderway) ∧
      (if stop'.isUnderway then 1 else 0) + next.phase.stopsLeft + (if stop = .arming then 1 else 0) =
        (if stop.isUnderway then 1 else 0) + l.phase.stopsLeft := by
  cases step with
  | take next =>
    refine ⟨rfl, rfl, ?_⟩
    rw [Phase.stopsLeft_of_next next]
    rfl
  | late => exact ⟨rfl, rfl, rfl⟩
  | close =>
    obtain ⟨loops, closed, woken⟩ := l.closeListener_eq
    rw [closed]
    exact ⟨rfl, woken.underway, rfl⟩
  | arm =>
    rcases l.arm_eq now with ⟨_, same⟩ | ⟨limit, _, armed⟩
    · rw [same]
      exact ⟨rfl, rfl, by simp [StopPlace.isUnderway, Nat.add_comm]⟩
    · rw [armed]
      exact ⟨rfl, rfl, by simp [StopPlace.isUnderway, Nat.add_comm]⟩

theorem Stopping.stopsLeft_set {l next : Lifecycle} {now i : Nat} {stop stop' : StopPlace}
    (step : Stopping now l stop stop' next) (atStop : l.stops[i]? = some stop) :
    ({ next with stops := next.stops.set i stop' } : Lifecycle).stopsLeft +
      (if l.returns (.stopping i) then 1 else 0) = l.stopsLeft := by
  obtain ⟨stops, loops, spent⟩ := step.stopsLeft
  have counted := countP_set_of_getElem? (p := StopPlace.isUnderway) (a := stop') atStop
  have same := underway_eq stops loops
  have returning : l.returns (.stopping i) = decide (stop = .arming) := by
    rw [returns, atStop]
    exact decide_eq_decide.2 Option.some_inj
  rw [returning]
  unfold Lifecycle.stopsLeft underway at *
  rw [stops] at same ⊢
  dsimp only at *
  simp only [decide_eq_true_eq] at *
  omega

theorem stopsLeft_place {l next : Lifecycle} {i : Nat} {loop : AcceptLoop} (place : LoopPlace)
    (stops : next.stops = l.stops)
    (loops : (next.loops.map fun loop => loop.place.isUnderway) = l.loops.map fun loop => loop.place.isUnderway)
    (atLoop : l.loops[i]? = some loop) :
    (next.place i place).stopsLeft + (if loop.place.isUnderway then 1 else 0) =
      l.underway + (if place.isUnderway then 1 else 0) + next.phase.stopsLeft := by
  have atNext := congrArg (·[i]?) loops
  simp only [List.getElem?_map, atLoop, Option.map_some] at atNext
  obtain ⟨loop', atLoop', alike⟩ := Option.map_eq_some_iff.1 atNext
  have moved := underway_place place atLoop'
  rw [alike, underway_eq stops loops] at moved
  unfold stopsLeft
  change (next.place i place).underway + next.phase.stopsLeft + _ = _
  omega

theorem stopsLeft_looping {l l' : Lifecycle} {now i : Nat} {loop : AcceptLoop} (atLoop : l.loops[i]? = some loop)
    (step : Looping now l i loop l') : l'.stopsLeft + (if l.returns (.loop i) then 1 else 0) = l.stopsLeft := by
  have returning : l.returns (.loop i) = decide (loop.place = .stopping .arming) := by
    rw [returns, atLoop]
    exact decide_eq_decide.2 Option.some_inj
  rw [returning]
  have quiet : ∀ {next : Lifecycle} {place : LoopPlace}, next.stops = l.stops → next.loops = l.loops →
      next.phase.stopsLeft = l.phase.stopsLeft → loop.place.isUnderway = false → place.isUnderway = false →
      (next.place i place).stopsLeft + (if decide (loop.place = .stopping .arming) then 1 else 0) = l.stopsLeft := by
    intro next place stops loops left other finished
    have moved := stopsLeft_place place stops (congrArg _ loops) atLoop
    have elsewhere : loop.place ≠ .stopping .arming := by
      intro arming
      rw [arming] at other
      cases other
    rw [finished, other, left] at moved
    rw [if_neg (by simpa using elsewhere)]
    exact moved
  -- A loop that accepts or pauses is replaced as a whole, and is not stopping before or after.
  have replaced : ∀ {next : Lifecycle} {loop' : AcceptLoop}, next.stops = l.stops →
      next.loops = l.loops.set i loop' → next.phase = l.phase → loop.place = .calling →
      loop'.place.isUnderway = false →
      next.stopsLeft + (if decide (loop.place = .stopping .arming) then 1 else 0) = l.stopsLeft := by
    intro next loop' stops loops phase calling finished
    have counted := countP_set_of_getElem? (p := fun loop : AcceptLoop => loop.place.isUnderway) (a := loop') atLoop
    rw [calling, finished] at counted
    rw [if_neg (by rw [calling]; decide), stopsLeft, underway, stops, loops, phase]
    exact congrArg (l.stops.countP StopPlace.isUnderway + · + l.phase.stopsLeft) counted
  cases step with
  | start starting =>
    rcases l.start_eq with same | ⟨first, started⟩
    · rw [same]
      exact quiet rfl rfl rfl (by rw [starting]; rfl) rfl
    · rw [started]
      exact quiet rfl rfl (by rw [first]; rfl) (by rw [starting]; rfl) rfl
  | wait calling => exact quiet rfl rfl rfl (by rw [calling]; rfl) rfl
  | refuse calling => exact quiet rfl rfl rfl (by rw [calling]; rfl) rfl
  | accept calling => exact replaced rfl rfl rfl calling (by rw [calling]; rfl)
  | pause calling => exact replaced rfl rfl rfl calling rfl
  | wake woken => exact quiet rfl rfl rfl (by rw [woken]; rfl) rfl
  | resume pausing => exact quiet rfl rfl rfl (by rw [pausing]; rfl) rfl
  | @stop stop stop' next atPlace step =>
    obtain ⟨stops, loops, spent⟩ := step.stopsLeft
    have moved := stopsLeft_place (.stopping stop') stops loops atLoop
    have underway : ∀ stop, (LoopPlace.stopping stop).isUnderway = stop.isUnderway := fun _ => rfl
    rw [atPlace, underway, underway] at moved
    rw [atPlace]
    simp only [decide_eq_true_eq, LoopPlace.stopping.injEq]
    unfold stopsLeft at *
    omega
  | stopped atPlace => exact quiet rfl rfl rfl (by rw [atPlace]; rfl) rfl
  | drained atPlace => exact quiet rfl rfl rfl (by rw [atPlace]; rfl) rfl
  | finish atPlace =>
    rcases l.terminate_eq with ⟨same, _⟩ | ⟨draining, ended⟩
    · rw [same]
      exact quiet rfl rfl rfl (by rw [atPlace]; rfl) rfl
    · rw [ended]
      exact quiet rfl rfl (by rw [draining]; rfl) (by rw [atPlace]; rfl) rfl

/-- The stops that are left stay the same, but for one that took effect and returns. -/
theorem stopsLeft_step? {l l' : Lifecycle} {now : Nat} {e : Event} (run : l.step? now e = some l') :
    l'.stopsLeft + (if l.returns e then 1 else 0) = l.stopsLeft := by
  have quiet : l.returns e = false → l'.phase.stopsLeft = l.phase.stopsLeft → l'.underway = l.underway →
      l'.stopsLeft + (if l.returns e then 1 else 0) = l.stopsLeft := by
    intro other left same
    rw [other, stopsLeft, stopsLeft, same, left]
    rfl
  cases occurs_of_step? run with
  | stopping atStop step => exact step.stopsLeft_set atStop
  | loop atLoop step => exact stopsLeft_looping atLoop step
  | start =>
    rcases l.start_eq with same | ⟨first, started⟩
    · exact quiet rfl (by rw [same]) (by rw [same])
    · refine quiet rfl ?_ ?_ <;> rw [started]
      · rw [first]
        rfl
      · rfl
  | run =>
    refine quiet rfl rfl ?_
    change l.stops.countP _ + (l.loops ++ _).countP _ = _
    rw [List.countP_append]
    rfl
  | stop =>
    refine quiet rfl rfl ?_
    change (l.stops ++ _).countP _ + l.loops.countP _ = _
    rw [List.countP_append]
    rfl
  | close =>
    obtain ⟨loops, closed, woken⟩ := l.closeListener_eq
    refine quiet rfl ?_ (underway_eq ?_ ?_) <;> rw [closed]
    exact woken.underway
  | expire | lapse | force => exact quiet rfl rfl rfl
  | finish =>
    rcases l.terminate_eq with ⟨same, _⟩ | ⟨draining, ended⟩
    · have tasks : l.terminate.underway = l.underway := congrArg underway same
      exact quiet rfl (congrArg (·.phase.stopsLeft) same) tasks
    · refine quiet rfl ?_ ?_ <;> rw [ended]
      · rw [draining]
        rfl
      · rfl
  | connection step => cases step <;> exact quiet rfl rfl rfl
  | arrive | trouble =>
    refine quiet rfl ?_ (underway_eq ?_ ?_)
    all_goals
      obtain ⟨loops, nudged, woken⟩ := nudge_eq _
      rw [nudged]
    exact woken.underway

theorem stopsLeft_leads {l l' : Lifecycle} (leads : l.Leads l') : l'.stopsLeft ≤ l.stopsLeft := by
  induction leads with
  | refl => exact Nat.le_refl _
  | tail _ last ih =>
    obtain ⟨now, e, run⟩ := last
    have := stopsLeft_step? run
    omega

/-- A stop that is about to return as the one that took effect is one of those left. -/
theorem not_returns_of_stopsLeft {l : Lifecycle} {e : Event} (none_ : l.stopsLeft = 0) : l.returns e = false := by
  have idle : l.stops.countP StopPlace.isUnderway = 0 ∧ (l.loops.countP fun loop => loop.place.isUnderway) = 0 := by
    unfold stopsLeft underway at none_
    omega
  rw [List.countP_eq_zero, List.countP_eq_zero] at idle
  rw [← Bool.not_eq_true]
  intro returns
  cases e with
  | stopping i =>
    exact idle.1 .arming (List.mem_of_getElem? (of_decide_eq_true returns)) rfl
  | loop i =>
    obtain ⟨loop, atLoop, place⟩ := Option.map_eq_some_iff.1 (of_decide_eq_true returns)
    refine idle.2 loop (List.mem_of_getElem? atLoop) ?_
    rw [place]
    rfl
  | _ => cases returns

/-- The event that led here was the return of a stop, which says that it took effect. -/
def stoppedBy (l : Lifecycle) : Event → Bool
  | .stopping i => l.stops[i]? = some (.finished true)
  | .loop i => l.loops[i]?.map (·.place) = some (.stopping (.finished true))
  | _ => false

theorem place_of_modify {l : Lifecycle} {i : Nat} {place place' : LoopPlace}
    (at_ : (l.place i place).loops[i]?.map (·.place) = some place') : place = place' := by
  obtain ⟨loop, atLoop, same⟩ := Option.map_eq_some_iff.1 at_
  change (l.loops.modify i _)[i]? = some loop at atLoop
  rw [List.getElem?_modify] at atLoop
  obtain ⟨before, _, moved⟩ := Option.map_eq_some_iff.1 atLoop
  rw [if_pos rfl] at moved
  rw [← same, ← moved]

theorem arming_of_stopping {l next : Lifecycle} {now : Nat} {stop : StopPlace}
    (step : Stopping now l stop (.finished true) next) : stop = .arming := by
  cases step
  rfl

theorem arming_of_looping {l l' : Lifecycle} {now i : Nat} {loop : AcceptLoop} (atLoop : l.loops[i]? = some loop)
    (step : Looping now l i loop l') (finished : l'.loops[i]?.map (·.place) = some (.stopping (.finished true))) :
    loop.place = .stopping .arming := by
  have replaced : ∀ loop' : AcceptLoop, (l.loops.set i loop')[i]?.map (·.place) = some loop'.place := by
    intro loop'
    rw [List.getElem?_set_self (List.getElem?_eq_some_iff.1 atLoop).1]
    rfl
  cases step with
  | stop atPlace step =>
    cases place_of_modify finished
    rw [atPlace, arming_of_stopping step]
  | accept calling =>
    have stands := Option.some.inj ((replaced _).symm.trans finished)
    rw [calling] at stands
    cases stands
  | pause =>
    cases Option.some.inj ((replaced _).symm.trans finished)
  | _ => cases place_of_modify finished

/-- A stop that says it took effect was about to return. -/
theorem returns_of_stoppedBy {l l' : Lifecycle} {now : Nat} {e : Event} (run : l.step? now e = some l')
    (stopped : l'.stoppedBy e = true) : l.returns e = true := by
  cases occurs_of_step? run with
  | @stopping i stop stop' next atStop step =>
    have after := List.getElem?_set_self (a := stop')
      (by rw [step.stopsLeft.1]; exact (List.getElem?_eq_some_iff.1 atStop).1 : i < next.stops.length)
    have same : stop' = .finished true := Option.some.inj (after.symm.trans (of_decide_eq_true stopped))
    subst same
    rw [arming_of_stopping step] at atStop
    exact decide_eq_true atStop
  | loop atLoop step =>
    have arming := arming_of_looping atLoop step (of_decide_eq_true stopped)
    exact decide_eq_true (by rw [atLoop, Option.map_some, arming])
  | _ => cases stopped

/-- What a life keeps to from some point on. -/
structure Safe (l : Lifecycle) : Prop where
  forward : ∀ l', l.Happens l' → l'.phase = l.phase ∨ l.phase.Next l'.phase
  final : l.phase = .terminated → ∀ l', l.Leads l' → l'.phase = .terminated
  stopped : ∀ now e l', l.step? now e = some l' → l'.stoppedBy e = true → ∀ l'', l'.Leads l'' →
    l''.isClosed = true ∧ l''.connections.length = l'.connections.length ∧
      ∀ now e l₃, l''.step? now e = some l₃ → l₃.stoppedBy e = false
  closed : l.phase = .terminated → l.isClosed = true
  drained : l.phase = .terminated → l.forced = false → ∀ l', l.Leads l' →
    l'.active = 0 ∧ ∀ connection ∈ l'.connections, connection.isLive = false
  returned : ∀ loop ∈ l.loops, loop.place = .returned → l.phase = .terminated

theorem Sound.idle {l : Lifecycle} (sound : l.Sound) (idle : l.active = 0) :
    ∀ connection ∈ l.connections, connection.isLive = false := by
  have count := sound.count
  rw [idle] at count
  intro connection member
  exact Bool.eq_false_iff.2 (List.countP_eq_zero.1 count.symm connection member)

/-- A stop that is about to return as the one that took effect has closed the listener. -/
theorem Sound.of_returns {l : Lifecycle} {e : Event} (sound : l.Sound) (returns : l.returns e = true) :
    l.phase.isPast = true ∧ l.isClosed = true := by
  cases e with
  | stopping i => exact sound.stops .arming (List.mem_of_getElem? (of_decide_eq_true returns))
  | loop i =>
    obtain ⟨loop, atLoop, place⟩ := Option.map_eq_some_iff.1 (of_decide_eq_true returns)
    have fits := sound.loops loop (List.mem_of_getElem? atLoop)
    rw [place] at fits
    exact fits.2
  | _ => cases returns

/-- Whatever happens to a service, its life is safe. -/
theorem safe_of_leads {handle : Handle} {timeouts : Timeouts} {drainTimeout : Option Span} {l : Lifecycle}
    (leads : (onListener (.onHandle handle timeouts) drainTimeout).Leads l) : l.Safe := by
  have sound := (Sound.onListener handle timeouts drainTimeout).leads leads
  have left : l.stopsLeft ≤ 1 := stopsLeft_leads leads
  refine ⟨?forward, ?final, ?stopped, ?closed, ?drained, ?returned⟩
  case forward =>
    rintro l' ⟨now, e, run⟩
    exact (Advances.of_step? run).phase
  case final => exact fun ended l' later => (Onward.of_leads later).terminated ended
  case stopped =>
    intro now e l' run stopped l'' later
    have returns := returns_of_stoppedBy run stopped
    have closed := (Advances.of_step? run).onward.closed (sound.of_returns returns).2
    have onward := Onward.of_leads later
    -- At most one stop was left, and this one used it up by its return.
    have spent : l''.stopsLeft = 0 := by
      have used := stopsLeft_step? run
      have onward := stopsLeft_leads later
      rw [if_pos returns] at used
      omega
    refine ⟨onward.closed closed, onward.accepted closed, fun now e l₃ run => ?_⟩
    by_contra again
    have returns := returns_of_stoppedBy run (Bool.not_eq_false _ ▸ again)
    rw [not_returns_of_stopsLeft spent] at returns
    cases returns
  case closed => exact fun ended => (sound.ended ended).1
  case drained =>
    intro ended unforced l' later
    obtain ⟨closed, idle | forced⟩ := sound.ended ended
    · have active := (Onward.of_leads later).active closed
      rw [idle, Nat.le_zero] at active
      exact ⟨active, (sound.leads later).idle active⟩
    · rw [unforced] at forced
      cases forced
  case returned =>
    intro loop member finished
    have fits := sound.loops loop member
    rw [finished] at fits
    exact fits.2

end Lifecycle

namespace Sample

/-- A service on a listener, which lets connections a minute to end. -/
def service : Lifecycle :=
  .onListener (.onHandle ⟨3, { identity := 7, endpoint := ⟨.v4 127 0 0 1, 80⟩ }⟩ ⟨none, none⟩) (some (.ofSeconds 60))

/-- It accepts a connection and is stopped twice. -/
def stopped : List Event :=
  [.run, .loop 0, .arrive .connection, .loop 0, .loop 0, .stop, .stop, .stopping 0, .stopping 1, .stopping 0,
    .stopping 0]

/-- Its loop finds the listener closed, the connection ends, and the loop returns. -/
def drained : List Event :=
  List.replicate 4 (.loop 0) ++ List.replicate 3 (.connection 0 true) ++ List.replicate 2 (.loop 0)

end Sample

/-- A service that was stopped twice while a connection was live, and has drained. -/
theorem drained_service_is_safe :
    ∃ stopped ended : Lifecycle, Sample.service.Leads stopped ∧ stopped.stops = [.finished true, .finished false] ∧
      stopped.active = 1 ∧ stopped.Leads ended ∧ ended.phase = .terminated ∧ ended.forced = false ∧
      ended.connections = [.ended .served] ∧ stopped.Safe ∧ ended.Safe := by
  obtain ⟨stopped, made⟩ : ∃ l, Sample.service.steps? (Sample.stopped.map (0, ·)) = some l := ⟨_, rfl⟩
  have first := Lifecycle.leads_of_steps? _ made
  obtain ⟨ended, made'⟩ : ∃ l, stopped.steps? (Sample.drained.map (0, ·)) = some l := by
    cases made
    exact ⟨_, rfl⟩
  have second := Lifecycle.leads_of_steps? _ made'
  have safe := Lifecycle.safe_of_leads first
  have safe' := Lifecycle.safe_of_leads (first.trans second)
  cases made
  cases made'
  exact ⟨_, _, first, rfl, rfl, second, rfl, rfl, rfl, safe, safe'⟩

end Handover
