import Handover.Proofs.Service.Timing

namespace Handover

/-- The task has ended. -/
def ConnectionPlace.hasEnded (place : ConnectionPlace) : Bool := !place.isLive

@[simp] theorem ConnectionPlace.hasEnded_spawned : spawned.hasEnded = false := rfl

@[simp] theorem ConnectionPlace.hasEnded_ended (how : ConnectionEnd) : (ended how).hasEnded = true := rfl

theorem ConnectionPlace.hasEnded_of_isLive {place : ConnectionPlace} (live : place.isLive = true) :
    place.hasEnded = false := by
  rw [hasEnded, live]
  rfl

theorem length_eq_live_add_ended (connections : List ConnectionPlace) :
    connections.length =
      connections.countP ConnectionPlace.isLive + connections.countP ConnectionPlace.hasEnded := by
  rw [List.length_eq_countP_add_countP ConnectionPlace.isLive]
  congr 2
  funext place
  simp [ConnectionPlace.hasEnded]

namespace Lifecycle

/-- The task of the connection has ended. -/
def hasEnded (l : Lifecycle) (i : Nat) : Bool := l.connections[i]?.any ConnectionPlace.hasEnded

theorem hasEnded_of_getElem? {l : Lifecycle} {i : Nat} {place : ConnectionPlace}
    (at_ : l.connections[i]? = some place) : l.hasEnded i = place.hasEnded := by
  rw [hasEnded, at_]
  rfl

theorem hasEnded_of_set {l l' : Lifecycle} {j : Nat} {place place' : ConnectionPlace}
    (at_ : l.connections[j]? = some place) (set : l'.connections = l.connections.set j place') (i : Nat) :
    l'.hasEnded i = if j = i then place'.hasEnded else l.hasEnded i := by
  rw [hasEnded, set, any_getElem?_set at_]
  rfl

/-- The event accepts a connection, if it can happen now. -/
def accepts (l : Lifecycle) : Event → Bool
  | .loop i => l.loops[i]?.map (·.place) = some .calling ∧ (l.listener.poll i).1 = .accepted
  | _ => false

/-- The event lowers the count. -/
def lowers (l : Lifecycle) (_ : Event) (l' : Lifecycle) : Bool := l'.active < l.active

/-- The event is a step of the task of a connection, and lowers the count. -/
def lowersBy (i : Nat) (l : Lifecycle) : Event → Lifecycle → Bool
  | .connection j ok, l' => j = i && l.lowers (.connection j ok) l'
  | _, _ => false

/-- The number of events of some kind in a course of events. -/
def tally (kind : Lifecycle → Event → Lifecycle → Bool) (l : Lifecycle) : List (Nat × Event) → Nat
  | [] => 0
  | (now, e) :: rest =>
    match l.step? now e with
    | none => 0
    | some l' => (if kind l e l' then 1 else 0) + tally kind l' rest

/-- A measure that goes up by one with each event of a kind, and with no other, counts them. -/
theorem tally_eq {kind : Lifecycle → Event → Lifecycle → Bool} (measure : Lifecycle → Nat)
    (step : ∀ {l now e l'}, l.step? now e = some l' → measure l' = measure l + if kind l e l' then 1 else 0)
    {b l : Lifecycle} {events : List (Nat × Event)} (made : b.steps? events = some l) :
    measure l = measure b + b.tally kind events := by
  induction events generalizing b with
  | nil =>
    cases made
    rfl
  | cons event rest ih =>
    obtain ⟨now, e⟩ := event
    obtain ⟨next, first, later⟩ := Option.bind_eq_some_iff.1 made
    have here := step first
    have there := ih later
    rw [tally, first]
    dsimp only
    omega

/-- What an event makes of the connections and of their count. -/
inductive Counting (l : Lifecycle) : Event → Lifecycle → Prop
  | keep {e l'} : (∀ i ok, e ≠ .connection i ok) → l.accepts e = false → l'.connections = l.connections →
      l'.active = l.active → Counting l e l'
  | accept {i l'} : l.accepts (.loop i) = true → l.isClosed = false → l'.connections = l.connections ++ [.spawned] →
      l'.active = l.active + 1 → Counting l (.loop i) l'
  | proceed {i ok place place' l'} : l.connections[i]? = some place → place.isLive = true → place'.isLive = true →
      l.forced = false → l'.connections = l.connections.set i place' → l'.active = l.active →
      Counting l (.connection i ok) l'
  | finish {i ok place how l'} : l.connections[i]? = some place → place.isLive = true →
      l'.connections = l.connections.set i (.ended how) → l.active = l'.active + 1 → Counting l (.connection i ok) l'

theorem active_start (l : Lifecycle) : l.start.2.active = l.active := by
  rcases l.start_eq with same | ⟨_, started⟩
  · rw [same]
  · rw [started]
    rfl

theorem active_terminate (l : Lifecycle) : l.terminate.active = l.active := by
  rcases l.terminate_eq with ⟨same, _⟩ | ⟨_, ended⟩
  · rw [same]
  · rw [ended]
    rfl

theorem active_closeListener (l : Lifecycle) : l.closeListener.active = l.active := by
  obtain ⟨loops, closed, _⟩ := l.closeListener_eq
  rw [closed]
  rfl

theorem active_nudge (l : Lifecycle) : l.nudge.active = l.active := by
  obtain ⟨loops, nudged, _⟩ := l.nudge_eq
  rw [nudged]
  rfl

theorem Stopping.active {l next : Lifecycle} {now : Nat} {stop stop' : StopPlace}
    (step : Stopping now l stop stop' next) : next.active = l.active := by
  cases step with
  | take | late => rfl
  | close => exact l.active_closeListener
  | arm =>
    rcases l.arm_eq now with ⟨_, same⟩ | ⟨limit, _, armed⟩
    · rw [same]
    · rw [armed]
      rfl

theorem counting_of_accept {l : Lifecycle} {now i : Nat} {loop : AcceptLoop} (atLoop : l.loops[i]? = some loop)
    (calling : loop.place = .calling) : Counting l (.loop i) (l.accept now i loop).1 := by
  have accepts : l.accepts (.loop i) = decide ((l.listener.poll i).1 = .accepted) := by
    simp [accepts, atLoop, calling]
  unfold accept
  rcases l.listener.poll_cases i with
    ⟨_, refused⟩ | ⟨opened, empty | ⟨rest, _, taken⟩ | ⟨cause, backlog, failed⟩⟩
  · rw [refused] at accepts ⊢
    exact .keep nofun accepts rfl rfl
  · rw [empty] at accepts ⊢
    exact .keep nofun accepts rfl rfl
  · rw [taken] at accepts ⊢
    exact .accept accepts opened rfl rfl
  · rw [failed] at accepts ⊢
    exact .keep nofun accepts rfl rfl

theorem Looping.counting {l l' : Lifecycle} {now i : Nat} {loop : AcceptLoop} (atLoop : l.loops[i]? = some loop)
    (elsewhere : loop.place ≠ .calling) (step : Looping now l i loop l') : Counting l (.loop i) l' := by
  have other : l.accepts (.loop i) = false := by
    simp [accepts, atLoop, elsewhere]
  cases step with
  | start => exact .keep nofun other l.quiet_start.connections l.active_start
  | wait calling | refuse calling | accept calling | pause calling => exact absurd calling elsewhere
  | wake | resume | stopped | drained => exact .keep nofun other rfl rfl
  | stop _ stop => exact .keep nofun other stop.connections stop.active
  | finish => exact .keep nofun other l.quiet_terminate.connections l.active_terminate

/-- Every event bears on the connections in one of these ways. -/
theorem counting_of_step? {l l' : Lifecycle} {now : Nat} {e : Event} (run : l.step? now e = some l') :
    Counting l e l' := by
  cases occurs_of_step? run with
  | @loop i loop _ atLoop step =>
    by_cases calling : loop.place = .calling
    · have taken : l.step? now (.loop i) = some (l.accept now i loop).1 := by
        simp [step?, stepLoop?, atLoop, calling]
      rw [Option.some.inj (run.symm.trans taken)]
      exact counting_of_accept atLoop calling
    · exact step.counting atLoop calling
  | connection step =>
    cases step with
    | proceed at_ live live' unforced => exact .proceed at_ live live' unforced rfl rfl
    | finish at_ live _ released => exact .finish at_ live rfl released
  | start => exact .keep nofun rfl l.quiet_start.connections l.active_start
  | run | stop | expire | lapse | force => exact .keep nofun rfl rfl rfl
  | stopping _ step => exact .keep nofun rfl step.connections step.active
  | close => exact .keep nofun rfl l.quiet_closeListener.connections l.active_closeListener
  | finish => exact .keep nofun rfl l.quiet_terminate.connections l.active_terminate
  | arrive _ tracker | trouble _ tracker =>
    exact .keep nofun rfl (quiet_nudge _).connections ((active_nudge _).trans (congrArg Tracker.active tracker))

namespace Counting

variable {l l' : Lifecycle} {e : Event}

theorem accepted (counting : Counting l e l') :
    l'.connections.length = l.connections.length + if l.accepts e then 1 else 0 := by
  cases counting with
  | keep _ other same => rw [other, same]; rfl
  | accept accepts _ more => rw [accepts, more, List.length_append]; rfl
  | proceed _ _ _ _ set | finish _ _ set => rw [set, List.length_set]; rfl

/-- As many tasks end as the count is lowered by. -/
theorem ended (counting : Counting l e l') :
    l'.connections.countP ConnectionPlace.hasEnded =
      l.connections.countP ConnectionPlace.hasEnded + if l.lowers e l' then 1 else 0 := by
  unfold lowers
  cases counting with
  | keep _ _ same active => simp [same, active]
  | accept _ _ more active => simp [more, active]
  | @proceed i _ place place' _ at_ live live' _ set active =>
    have counted := countP_set_of_getElem? (p := ConnectionPlace.hasEnded) (a := place') at_
    rw [ConnectionPlace.hasEnded_of_isLive live, ConnectionPlace.hasEnded_of_isLive live'] at counted
    simpa [set, active] using counted
  | @finish i _ place how _ at_ live set active =>
    have counted := countP_set_of_getElem? (p := ConnectionPlace.hasEnded) (a := .ended how) at_
    rw [ConnectionPlace.hasEnded_of_isLive live] at counted
    simpa [set, active] using counted

/-- A task that ends lowers the count, by a step of its own, and does nothing of the kind again. -/
theorem hasEnded (counting : Counting l e l') (i : Nat) :
    (l'.hasEnded i).toNat = (l.hasEnded i).toNat + if lowersBy i l e l' then 1 else 0 := by
  cases counting with
  | keep _ _ same active =>
    have idle : lowersBy i l e l' = false := by
      cases e <;> simp [lowersBy, lowers, active]
    rw [idle, Lifecycle.hasEnded, same]
    rfl
  | accept _ _ more =>
    rw [Lifecycle.hasEnded, Lifecycle.hasEnded, more, getElem?_append_last]
    split
    · rename_i here
      simp [← here, lowersBy]
    · rfl
  | @proceed j ok place place' _ at_ live live' _ set active =>
    have idle : lowersBy i l (.connection j ok) l' = false := by simp [lowersBy, lowers, active]
    rw [idle, hasEnded_of_set at_ set]
    split
    · rename_i here
      rw [← here, hasEnded_of_getElem? at_, ConnectionPlace.hasEnded_of_isLive live,
        ConnectionPlace.hasEnded_of_isLive live']
      rfl
    · rfl
  | @finish j _ place how _ at_ live set active =>
    rw [hasEnded_of_set at_ set]
    by_cases here : j = i
    · rw [← here, hasEnded_of_getElem? at_, ConnectionPlace.hasEnded_of_isLive live]
      simp [lowersBy, lowers, active]
    · simp [lowersBy, here]

/-- Where force is used nothing is accepted, and a task that takes a step ends. -/
theorem live_of_forced (counting : Counting l e l') (forced : l.forced = true) (closed : l.isClosed = true) {i : Nat}
    {place : ConnectionPlace} (at_ : l'.connections[i]? = some place) (live : place.isLive = true) :
    l.connections[i]? = some place ∧ ∀ ok, e ≠ .connection i ok := by
  cases counting with
  | keep others _ same => exact ⟨same ▸ at_, fun ok => others i ok⟩
  | accept _ opened =>
    rw [closed] at opened
    cases opened
  | proceed _ _ _ unforced =>
    rw [forced] at unforced
    cases unforced
  | @finish j _ _ how _ _ _ set =>
    rw [set, List.getElem?_set] at at_
    split at at_
    · split at at_
      · cases at_
        cases live
      · cases at_
    · rename_i elsewhere
      exact ⟨at_, fun ok same => elsewhere (Event.connection.inj same).1⟩

end Counting

/-- A connection whose task has yet to end after force was called for was live then, and its task has taken no step. -/
theorem live_of_steps? {l l' : Lifecycle} {events : List (Nat × Event)} (made : l.steps? events = some l')
    (forced : l.forced = true) (closed : l.isClosed = true) {i : Nat} {place : ConnectionPlace}
    (at_ : l'.connections[i]? = some place) (live : place.isLive = true) :
    l.connections[i]? = some place ∧ ∀ now ok, (now, .connection i ok) ∉ events := by
  induction events generalizing l with
  | nil =>
    cases made
    exact ⟨at_, fun _ _ => List.not_mem_nil⟩
  | cons event rest ih =>
    obtain ⟨next, first, later⟩ := Option.bind_eq_some_iff.1 made
    have advances := Advances.of_step? first
    obtain ⟨there, none_⟩ := ih later (advances.forced forced) (advances.onward.closed closed)
    obtain ⟨here, other⟩ := (counting_of_step? first).live_of_forced forced closed there live
    refine ⟨here, fun now ok member => ?_⟩
    rcases List.mem_cons.1 member with same | after
    · exact other ok (congrArg Prod.snd same).symm
    · exact none_ now ok after

/-- The task of a live connection can take its next step, since there is a slot to give back. -/
theorem Sound.stepConnection? {l : Lifecycle} (sound : l.Sound) {i : Nat} {place : ConnectionPlace}
    (at_ : l.connections[i]? = some place) (live : place.isLive = true) (ok : Bool) :
    ∃ l', l.stepConnection? i ok = some l' := by
  have taken : l.active ≠ 0 := by
    rw [sound.count]
    exact Nat.pos_iff_ne_zero.1 (List.countP_pos_iff.2 ⟨place, List.mem_of_getElem? at_, live⟩)
  have ends : ∀ how, ∃ l', l.endConnection? i how = some l' := by
    intro how
    have released : l.listener.tracker.release? = some ⟨l.active - 1⟩ := if_neg taken
    exact ⟨_, by rw [endConnection?, released]; rfl⟩
  unfold Lifecycle.stepConnection?
  rw [at_]
  cases place with
  | ended => cases live
  | spawned | readying | serving =>
    dsimp only
    repeat' split
    all_goals first | exact ends _ | exact ⟨_, rfl⟩

/-- The connections of a service are counted exactly. -/
structure Counted (b : Lifecycle) (events : List (Nat × Event)) (l : Lifecycle) : Prop where
  accepted : l.connections.length = b.tally (fun l e _ => l.accepts e) events
  live : l.active = l.connections.countP ConnectionPlace.isLive
  balance : l.active + b.tally lowers events = b.tally (fun l e _ => l.accepts e) events
  once : ∀ i place, l.connections[i]? = some place → b.tally (lowersBy i) events = if place.isLive then 0 else 1
  able : ∀ i place, l.connections[i]? = some place → place.isLive = true → ∀ now ok,
    ∃ l', l.step? now (.connection i ok) = some l'
  settles : l.forced = true → ∀ rest l', l.steps? rest = some l' →
    (∀ i place, l.connections[i]? = some place → place.isLive = true → ∃ now ok, (now, .connection i ok) ∈ rest) →
    l'.active = 0

/-- Whatever happens to a service, its connections are counted exactly. -/
theorem connections_counted {handle : Handle} {timeouts : Timeouts} {drainTimeout : Option Span}
    {events : List (Nat × Event)} {l : Lifecycle}
    (made : (onListener (.onHandle handle timeouts) drainTimeout).steps? events = some l) :
    Counted (onListener (.onHandle handle timeouts) drainTimeout) events l := by
  have sound := (Sound.onListener handle timeouts drainTimeout).leads (leads_of_steps? events made)
  have accepted : l.connections.length = 0 + _ :=
    tally_eq (·.connections.length) (fun run => (counting_of_step? run).accepted) made
  have ended : l.connections.countP ConnectionPlace.hasEnded = 0 + _ :=
    tally_eq (·.connections.countP ConnectionPlace.hasEnded) (fun run => (counting_of_step? run).ended) made
  rw [Nat.zero_add] at accepted ended
  refine ⟨accepted, sound.count, ?balance, ?once, ?able, ?settles⟩
  case balance =>
    have parted := length_eq_live_add_ended l.connections
    rw [← sound.count] at parted
    omega
  case once =>
    intro i place at_
    have counted : (l.hasEnded i).toNat = 0 + _ :=
      tally_eq (fun l => (l.hasEnded i).toNat) (fun run => (counting_of_step? run).hasEnded i) made
    rw [Nat.zero_add, hasEnded_of_getElem? at_, ConnectionPlace.hasEnded] at counted
    rw [← counted]
    cases place.isLive <;> rfl
  case able => exact fun i place at_ live now ok => sound.stepConnection? at_ live ok
  case settles =>
    intro forced rest l' later all
    have sound' := sound.leads (leads_of_steps? rest later)
    rw [sound'.count, List.countP_eq_zero]
    intro place member live
    obtain ⟨i, at_⟩ := List.getElem?_of_mem member
    obtain ⟨before, none_⟩ := live_of_steps? later forced (sound.forced forced).1 at_ live
    obtain ⟨now, ok, step⟩ := all i place before live
    exact none_ now ok step

end Lifecycle

namespace Sample

/-- A service accepts five connections. The first is served, the second fails and the third cannot be made ready; the
fourth is with its handler and the task of the fifth has not run when the service is stopped. -/
def crowd : List Event :=
  List.flatten [[.run, .loop 0], List.replicate 5 (.arrive .connection), List.replicate 6 (.loop 0),
    List.replicate 3 (.connection 0 true), [.connection 1 true, .connection 1 true, .connection 1 false],
    [.connection 2 true, .connection 2 false, .connection 3 true, .connection 3 true],
    [.stop, .stopping 0, .stopping 0, .stopping 0]]

/-- A minute later it is ended by force. -/
def crowded : List (Nat × Event) := crowd.map (0, ·) ++ [(60000, .look), (60000, .force)]

end Sample

/-- Five connections that come to five ends. -/
theorem five_connections_counted :
    ∃ forced settled : Lifecycle, Sample.service.steps? Sample.crowded = some forced ∧
      forced.connections = [.ended .served, .ended .failed, .ended .unready, .serving, .spawned] ∧
      forced.forced = true ∧ forced.active = 2 ∧
      forced.steps? [(60000, .connection 4 true), (60001, .connection 3 true)] = some settled ∧
      settled.connections = [.ended .served, .ended .failed, .ended .unready, .ended .forced, .ended .forced] ∧
      settled.active = 0 ∧ Lifecycle.Counted Sample.service Sample.crowded forced := by
  obtain ⟨forced, made⟩ : ∃ l, Sample.service.steps? Sample.crowded = some l := ⟨_, rfl⟩
  obtain ⟨settled, made'⟩ : ∃ l,
      forced.steps? [(60000, .connection 4 true), (60001, .connection 3 true)] = some l := by
    cases made
    exact ⟨_, rfl⟩
  have counted := Lifecycle.connections_counted made
  refine ⟨forced, settled, made, ?_, ?_, ?_, made', ?_, ?_, counted⟩ <;>
  · cases made
    cases made'
    rfl

end Handover
