import Handover.Proofs.Service.Timing

namespace Handover

/-- On a path to where something holds that did not hold at first there is a step at which it came about. -/
theorem exists_crossing {α : Type} {r : α → α → Prop} {P : α → Prop} {a b : α} (path : Relation.ReflTransGen r a b)
    (before : ¬ P a) (after : P b) :
    ∃ c d, Relation.ReflTransGen r a c ∧ ¬ P c ∧ r c d ∧ P d ∧ Relation.ReflTransGen r d b := by
  induction path with
  | refl => exact absurd after before
  | @tail c d first last ih =>
    by_cases reached : P c
    · obtain ⟨x, y, path, not_, step, holds, rest⟩ := ih reached
      exact ⟨x, y, path, not_, step, holds, rest.tail last⟩
    · exact ⟨c, d, first, reached, last, after, .refl⟩

/-- A service at a tick of the clock. -/
structure Moment where
  now : Nat
  life : Lifecycle

namespace Moment

/-- Something happens to the service at the tick, or time passes as far as it may. -/
inductive Passes (may : Moment → Nat → Prop) (m : Moment) : Moment → Prop
  | event {e life} : m.life.step? m.now e = some life → Passes may m ⟨m.now, life⟩
  | wait (now : Nat) : m.now ≤ now → may m now → Passes may m ⟨now, m.life⟩

abbrev Leads (may : Moment → Nat → Prop) : Moment → Moment → Prop := Relation.ReflTransGen (Passes may)

/-- No time passes while a stop that took effect or the use of force is under way, and none beyond the tick at which
the watchdog looks. -/
def Prompt (m : Moment) (now : Nat) : Prop :=
  now = m.now ∨ m.life.underway = 0 ∧ m.life.forcing = none ∧ ∀ due, m.life.watchdog = some due → now ≤ due

/-- A stop took effect at the one moment, and the other came of it. -/
def Stopped (may : Moment → Nat → Prop) (s m : Moment) : Prop :=
  s.life.phase.isPast = false ∧
    ∃ e life, s.life.step? s.now e = some life ∧ life.phase = .draining ∧ Leads may ⟨s.now, life⟩ m

/-- When the limit had passed since the stop at `s`, the watchdog found the service draining at `w`, and `m` came of
it. -/
structure Expired (may : Moment → Nat → Prop) (limit : Span) (s w m : Moment) : Prop where
  stopped : Stopped may s w
  draining : w.life.phase = .draining
  time : Clock.due s.now limit ≤ w.now
  looked : ∃ life, w.life.step? w.now .look = some life ∧ Leads may ⟨w.now, life⟩ m

variable {may : Moment → Nat → Prop} {m m' : Moment}

theorem life_of_leads (leads : Leads may m m') : m.life.Leads m'.life := by
  induction leads with
  | refl => exact .refl
  | tail _ last ih =>
    cases last with
    | event run => exact ih.tail ⟨_, _, run⟩
    | wait => exact ih

theorem now_le_of_leads (leads : Leads may m m') : m.now ≤ m'.now := by
  induction leads with
  | refl => exact Nat.le_refl _
  | tail _ last ih =>
    cases last with
    | event => exact ih
    | wait _ later => exact Nat.le_trans ih later

theorem limit_of_leads (leads : Leads may m m') : m'.life.drainTimeout = m.life.drainTimeout := by
  induction leads with
  | refl => rfl
  | tail _ last ih =>
    cases last with
    | event run => exact (Lifecycle.timing_of_step? run).1.trans ih
    | wait => exact ih

/-- The watchdog is never set for an earlier tick than the limit allows. -/
structure Watched (s : Nat) (m : Moment) : Prop where
  now : s ≤ m.now
  watchdog : ∀ due, m.life.watchdog = some due →
    ∃ limit, m.life.drainTimeout = some limit ∧ Clock.due s limit ≤ due

theorem Watched.passes {s : Nat} (watched : Watched s m) (passes : Passes may m m') : Watched s m' := by
  obtain ⟨later, watchdog⟩ := watched
  cases passes with
  | wait _ after => exact ⟨Nat.le_trans later after, watchdog⟩
  | event run =>
    obtain ⟨same, timing⟩ := Lifecycle.timing_of_step? run
    refine ⟨later, fun due set => ?_⟩
    dsimp only at set ⊢
    rw [same]
    cases timing with
    | keep _ kept => exact watchdog due (kept ▸ set)
    | @arm limit limited _ armed =>
      rw [armed] at set
      cases set
      exact ⟨limit, limited, Clock.due_le_due limit later⟩
    | expire _ _ _ _ unset => rw [unset] at set; cases set
    | lapse _ _ unset => rw [unset] at set; cases set
    | force _ kept => exact watchdog due (kept ▸ set)
    | finish _ kept => exact watchdog due (kept ▸ set)

theorem Watched.leads {s : Nat} (watched : Watched s m) (leads : Leads may m m') : Watched s m' := by
  induction leads with
  | refl => exact watched
  | tail _ last ih => exact ih.passes last

/-- A service as it comes to be. -/
def born (start : Nat) (handle : Handle) (timeouts : Timeouts) (timeout : Option Span) : Moment :=
  ⟨start, .onListener (.onHandle handle timeouts) timeout⟩

section

variable {start : Nat} {handle : Handle} {timeouts : Timeouts} {timeout : Option Span} {s : Moment}

theorem sound_of_leads (leads : Leads may (born start handle timeouts timeout) m) : m.life.Sound :=
  (Lifecycle.Sound.onListener handle timeouts timeout).leads (life_of_leads leads)

theorem limit_eq (leads : Leads may (born start handle timeouts timeout) m) :
    m.life.drainTimeout = positive? timeout :=
  limit_of_leads leads

theorem Stopped.leads (stopped : Stopped may s m) : Leads may s m := by
  obtain ⟨_, e, life, run, _, rest⟩ := stopped
  exact (Relation.ReflTransGen.single (.event run)).trans rest

theorem Stopped.trans (stopped : Stopped may s m) (later : Leads may m m') : Stopped may s m' := by
  obtain ⟨before, e, life, run, draining, rest⟩ := stopped
  exact ⟨before, e, life, run, draining, rest.trans later⟩

theorem Expired.leads {limit : Span} {w : Moment} (expired : Expired may limit s w m) : Leads may w m := by
  obtain ⟨life, look, rest⟩ := expired.looked
  exact (Relation.ReflTransGen.single (.event look)).trans rest

/-- A stop that has taken effect did so at some moment. -/
theorem stopped_of_past (leads : Leads may (born start handle timeouts timeout) m)
    (past : m.life.phase.isPast = true) :
    ∃ s, Leads may (born start handle timeouts timeout) s ∧ Stopped may s m := by
  obtain ⟨s, s', first, before, step, after, rest⟩ :=
    exists_crossing (P := fun m : Moment => m.life.phase.isPast = true) leads nofun past
  refine ⟨s, first, Bool.eq_false_iff.2 before, ?_⟩
  cases step with
  | wait => exact absurd after before
  | @event e life run =>
    refine ⟨e, life, run, ?_, rest⟩
    rcases (Lifecycle.Advances.of_step? run).phase with same | next
    · exact absurd (same ▸ after) before
    · exact Phase.eq_draining_of_next next (Bool.eq_false_iff.2 before) after

theorem unwatched_of_step {life : Lifecycle} {e : Event} (sound : s.life.Sound) (before : s.life.phase.isPast = false)
    (run : s.life.step? s.now e = some life) : s.life.returns e = false ∧ life.Unwatched := by
  have other : s.life.returns e = false := by
    rw [← Bool.not_eq_true]
    intro returns
    rw [(sound.of_returns returns).1] at before
    cases before
  exact ⟨other, (sound.unwatched before).step? run (Or.inr other)⟩

theorem Stopped.watched (sound : s.life.Sound) (stopped : Stopped may s m) : Watched s.now m := by
  obtain ⟨before, e, life, run, _, rest⟩ := stopped
  have unwatched := (unwatched_of_step sound before run).2
  have watched : Watched s.now ⟨s.now, life⟩ := by
    refine ⟨Nat.le_refl _, fun due set => ?_⟩
    dsimp only at set
    rw [unwatched.watchdog] at set
    cases set
  exact watched.leads rest

/-- Force is only used once the watchdog has found the service draining. -/
theorem expired_of_forced (leads : Leads may (born start handle timeouts timeout) m) (forced : m.life.forced = true) :
    ∃ limit s w, positive? timeout = some limit ∧ Leads may (born start handle timeouts timeout) s ∧
      Expired may limit s w m := by
  obtain ⟨s, first, stopped⟩ := stopped_of_past leads ((sound_of_leads leads).forced forced).2
  have sound := sound_of_leads first
  obtain ⟨before, e, life, run, draining, rest⟩ := stopped
  have unwatched := (unwatched_of_step sound before run).2
  -- The first step at which force comes into play can only be a look of the watchdog.
  obtain ⟨w, w', later, not_, step, used, rest⟩ :=
    exists_crossing (P := fun m : Moment => m.life.forcing ≠ none ∨ m.life.forced = true) rest
      (by simp [unwatched.forcing, unwatched.forced]) (Or.inr forced)
  obtain ⟨idle, unforced⟩ := not_or.1 not_
  cases step with
  | wait => exact absurd used not_
  | @event e' life' look =>
    have stopped : Stopped may s w := ⟨before, e, life, run, draining, later⟩
    cases (Lifecycle.timing_of_step? look).2 with
    | expire at_ set time draining' =>
      obtain ⟨limit, limited, due⟩ := (stopped.watched sound).watchdog _ set
      rw [limit_eq (first.trans stopped.leads)] at limited
      subst at_
      exact ⟨limit, s, w, limited, first, stopped, draining', Nat.le_trans due time, life', look, rest⟩
    | keep _ _ forcing forced' | arm _ _ _ forcing forced' | lapse _ _ _ forcing forced' =>
      refine absurd ?_ not_
      exact used.imp (fun some_ => forcing ▸ some_) fun on => forced' ▸ on
    | force at_ | finish at_ => exact absurd (by rw [at_]; simp) idle

/-- A watchdog that forces the end goes on until the service has ended. -/
theorem terminated_of_forcing {life : Lifecycle} {now : Nat} (past : life.phase.isPast = true)
    (forcing : life.forcing ≠ none) (leads : Leads may ⟨now, life⟩ m) :
    m.life.forcing ≠ none ∨ m.life.phase = .terminated := by
  induction leads with
  | refl => exact Or.inl forcing
  | @tail m m' first last ih =>
    have past' : m.life.phase.isPast = true := (Lifecycle.Onward.of_leads (life_of_leads first)).past past
    cases last with
    | wait => exact ih
    | event run =>
      have ended : m.life.phase = .terminated → _ := (Lifecycle.Advances.of_step? run).onward.terminated
      cases (Lifecycle.timing_of_step? run).2 with
      | keep _ _ same | arm _ _ _ same | lapse _ _ _ same => exact ih.imp (fun some_ => same ▸ some_) ended
      | expire _ _ _ _ _ some_ => exact Or.inl (by rw [some_]; simp)
      | force _ _ some_ => exact Or.inl (by rw [some_]; simp)
      | finish _ _ phase => exact Or.inr (phase.trans (Lifecycle.phase_terminate past'))

theorem unwatched_of_unlimited (leads : Leads may (born start handle timeouts timeout) m)
    (unlimited : positive? timeout = none) : m.life.Unwatched := by
  induction leads with
  | refl => exact ⟨rfl, rfl, rfl⟩
  | tail first last ih =>
    cases last with
    | wait => exact ih
    | event run => exact ih.step? run (Or.inl ((limit_eq first).trans unlimited))

/-- A service that was stopped at `s` is not late: it has ended, or is being ended by force, or its watchdog is set for
the tick at which the limit has passed, or the stop is still under way at `s`. -/
structure OnTime (s : Nat) (limit : Span) (m : Moment) : Prop where
  limited : m.life.drainTimeout = some limit
  past : m.life.phase.isPast = true
  single : m.life.underway ≤ 1
  stands : m.life.phase = .terminated ∨
    m.now ≤ Clock.due s limit ∧
      (m.life.forcing ≠ none ∨ m.life.watchdog = some (Clock.due s limit) ∧ m.life.underway = 0 ∨
        m.now = s ∧ m.life.underway = 1)

/-- Once a stop has taken effect, a task that is under way with it stays so until it returns. -/
theorem underway_of_step? {l l' : Lifecycle} {now : Nat} {e : Event} (run : l.step? now e = some l')
    (past : l.phase.isPast = true) : l'.underway + (if l.returns e then 1 else 0) = l.underway := by
  have left := Lifecycle.stopsLeft_step? run
  have past' := (Lifecycle.Advances.of_step? run).onward.past past
  rw [Lifecycle.stopsLeft, Lifecycle.stopsLeft, Phase.stopsLeft, Phase.stopsLeft, if_pos past, if_pos past'] at left
  omega

theorem OnTime.event {s : Nat} {limit : Span} {life : Lifecycle} {e : Event} (onTime : OnTime s limit m)
    (run : m.life.step? m.now e = some life) : OnTime s limit ⟨m.now, life⟩ := by
  obtain ⟨limited, past, single, stands⟩ := onTime
  have onward := (Lifecycle.Advances.of_step? run).onward
  have tasks := underway_of_step? run past
  obtain ⟨same, timing⟩ := Lifecycle.timing_of_step? run
  refine ⟨same.trans limited, onward.past past, by dsimp only; omega, ?_⟩
  rcases stands with ended | ⟨time, stands⟩
  · exact Or.inl (onward.terminated ended)
  cases timing with
  | keep idle watchdog forcing =>
    have other : m.life.returns e = false := idle.resolve_left (by rw [limited]; simp)
    rw [other] at tasks
    refine Or.inr ⟨time, ?_⟩
    dsimp only
    rwa [watchdog, forcing, show life.underway = m.life.underway from tasks]
  | arm limited' returns watchdog forcing =>
    rw [if_pos returns] at tasks
    refine Or.inr ⟨time, ?_⟩
    rcases stands with some_ | ⟨_, idle⟩ | ⟨now, _⟩
    · exact Or.inl (forcing ▸ some_)
    · omega
    -- No time has passed since the stop took effect, so that the watchdog is set for the limit from then on.
    · refine Or.inr (Or.inl ⟨?_, by dsimp only; omega⟩)
      rw [watchdog, now, Option.some.inj (limited'.symm.trans limited)]
  | expire _ _ _ _ _ some_ => exact Or.inr ⟨time, Or.inl (by rw [some_]; simp)⟩
  | force _ _ some_ => exact Or.inr ⟨time, Or.inl (by rw [some_]; simp)⟩
  | lapse _ finished =>
    rcases Phase.eq_of_isPast past with draining | ended
    · exact absurd draining finished
    · exact Or.inl (onward.terminated ended)
  | finish _ _ phase => exact Or.inl (phase.trans (Lifecycle.phase_terminate past))

theorem OnTime.passes {s : Nat} {limit : Span} (onTime : OnTime s limit m) (passes : Passes Prompt m m') :
    OnTime s limit m' := by
  cases passes with
  | event run => exact onTime.event run
  | wait now later prompt =>
    obtain ⟨limited, past, single, stands⟩ := onTime
    refine ⟨limited, past, single, stands.imp_right fun ⟨time, stands⟩ => ?_⟩
    dsimp only
    rcases prompt with rfl | ⟨tasks, none_, watchdog⟩
    · exact ⟨time, stands⟩
    rcases stands with some_ | ⟨set, idle⟩ | ⟨_, underway⟩
    · exact absurd none_ some_
    · exact ⟨watchdog _ set, Or.inr (Or.inl ⟨set, idle⟩)⟩
    · omega

/-- A watchdog that is not late lets no service drain beyond the limit. -/
theorem Stopped.due {limit : Span} (leads : Leads may (born start handle timeouts timeout) s)
    (limited : positive? timeout = some limit) (stopped : Stopped Prompt s m) (draining : m.life.phase = .draining) :
    m.now ≤ Clock.due s.now limit := by
  obtain ⟨before, e, life, run, taken, rest⟩ := stopped
  have sound := sound_of_leads leads
  have left : s.life.stopsLeft ≤ 1 := Lifecycle.stopsLeft_leads (life_of_leads leads)
  have used := Lifecycle.stopsLeft_step? run
  rw [(unwatched_of_step sound before run).1] at used
  have tasks : s.life.stopsLeft = s.life.underway + 1 ∧ life.stopsLeft = life.underway := by
    rw [Lifecycle.stopsLeft, Lifecycle.stopsLeft, Phase.stopsLeft, Phase.stopsLeft, before, taken]
    exact ⟨rfl, rfl⟩
  -- The one stop that was left is the task that is under way now.
  have first : OnTime s.now limit ⟨s.now, life⟩ := by
    have underway : life.underway = 1 := by
      simp only [Bool.false_eq_true, ↓reduceIte] at used
      omega
    refine ⟨(Lifecycle.timing_of_step? run).1.trans ((limit_eq leads).trans limited), by dsimp only; rw [taken]; rfl,
      by dsimp only; omega, Or.inr ⟨Clock.le_due s.now limit, Or.inr (Or.inr ⟨rfl, underway⟩)⟩⟩
  have onTime : OnTime s.now limit m := by
    clear draining
    induction rest with
    | refl => exact first
    | tail _ last ih => exact ih.passes last
  rcases onTime.stands with ended | ⟨time, _⟩
  · rw [draining] at ended
    cases ended
  · exact time

/-- The watchdog is only ever set where there is a drain timeout. -/
theorem limited_of_watchdog {due : Nat} (leads : Leads may (born start handle timeouts timeout) m)
    (set : m.life.watchdog = some due) : ∃ limit, m.life.drainTimeout = some limit := by
  rw [← Option.ne_none_iff_exists']
  intro unlimited
  rw [limit_eq leads] at unlimited
  rw [(unwatched_of_unlimited leads unlimited).watchdog] at set
  cases set

/-- A watchdog that finds the service draining ends it then and there, whatever else happens. -/
theorem ended_of_due {due : Nat} (leads : Leads may (born start handle timeouts timeout) m)
    (draining : m.life.phase = .draining) (set : m.life.watchdog = some due) (time : due ≤ m.now) :
    (∃ life notices, m.life.fireWatchdog? m.now = some (life, notices) ∧ life.phase = .terminated ∧
        life.forced = true ∧ life.connections = m.life.connections) ∧
      ∃ life, m.life.step? m.now .look = some life ∧
        ∀ m', Leads may ⟨m.now, life⟩ m' → m'.life.forcing = none → m'.life.phase = .terminated := by
  obtain ⟨limit, limited⟩ := limited_of_watchdog leads set
  constructor
  · refine ⟨_, _, by rw [Lifecycle.fireWatchdog?, set, limited]; dsimp only; rw [if_pos time, if_pos draining],
      ?_, ?_, ?_⟩
    · exact Lifecycle.phase_terminate (by rw [draining]; rfl)
    · exact (Lifecycle.quiet_terminate _).forced
    · exact (Lifecycle.quiet_terminate _).connections
  · refine ⟨{ m.life with watchdog := none, forcing := some .forcing }, ?_, fun m' later finished => ?_⟩
    · simp [Lifecycle.step?, Lifecycle.lookWatchdog?, set, limited, time, draining]
    · have past : ({ m.life with watchdog := none, forcing := some .forcing } : Lifecycle).phase.isPast = true := by
        dsimp only
        rw [draining]
        rfl
      exact (terminated_of_forcing past (Option.some_ne_none _) later).resolve_left fun some_ => some_ finished

/-- Without a drain timeout no connection is closed by force. -/
theorem not_closed_of_unlimited (leads : Leads may (born start handle timeouts timeout) m)
    (unlimited : positive? timeout = none) (i : Nat) : m.life.connections[i]? ≠ some (.ended .forced) := by
  induction leads with
  | refl => nofun
  | tail first last ih =>
    cases last with
    | wait => exact ih
    | event run =>
      intro after
      have forced := Lifecycle.forced_of_closing run ih after
      rw [(unwatched_of_unlimited first unlimited).forced] at forced
      cases forced

/-- How force is used on a service with that drain timeout, at a moment of its life. -/
structure Timely (may : Moment → Nat → Prop) (timeout : Option Span) (b m : Moment) : Prop where
  closing : ∀ m' (i : Nat), Passes may m m' → m.life.connections[i]? ≠ some (.ended .forced) →
    m'.life.connections[i]? = some (.ended .forced) →
    ∃ limit s w, timeout = some limit ∧ limit.isZero = false ∧ Leads may b s ∧ Expired may limit s w m ∧
      w.now ≤ m'.now ∧ (limit.seconds ≤ Clock.maxSeconds → s.now + limit.ticks ≤ w.now)
  ending : ∀ due, m.life.phase = .draining → m.life.watchdog = some due → due ≤ m.now →
    (∃ life notices, m.life.fireWatchdog? m.now = some (life, notices) ∧ life.phase = .terminated ∧
        life.forced = true ∧ life.connections = m.life.connections) ∧
      ∃ life, m.life.step? m.now .look = some life ∧
        ∀ m', Leads may ⟨m.now, life⟩ m' → m'.life.forcing = none → m'.life.phase = .terminated
  prompt : ∀ limit s, timeout = some limit → limit.isZero = false → limit.seconds ≤ Clock.maxSeconds → Leads may b s →
    (Stopped Prompt s m → m.life.phase = .draining → m.now ≤ s.now + limit.ticks) ∧
      ∀ w, Expired Prompt limit s w m →
        w.now = s.now + limit.ticks ∧ (m.life.phase = .draining → m.now = w.now)
  unlimited : (∀ limit, timeout = some limit → limit.isZero = true) →
    m.life.forced = false ∧ (∀ i : Nat, m.life.connections[i]? ≠ some (.ended .forced)) ∧
      ∀ m', Passes may m m' → m.life.phase = .draining → m'.life.phase ≠ .draining →
        ∃ (i : Nat) (loop : AcceptLoop), m.life.step? m.now (.loop i) = some m'.life ∧
          m.life.loops[i]? = some loop ∧ loop.place = .ending ∧ m.life.isClosed = true ∧ m.life.active = 0 ∧
          ∀ connection ∈ m.life.connections, connection.isLive = false

/-- Force is used exactly when the watchdog is due. -/
theorem timely_of_leads (leads : Leads may (born start handle timeouts timeout) m) :
    Timely may timeout (born start handle timeouts timeout) m := by
  have sound := sound_of_leads leads
  refine ⟨?closing, ?ending, ?prompt, ?unlimited⟩
  case closing =>
    intro m' i passes before after
    have forced : m.life.forced = true := by
      cases passes with
      | wait => exact absurd after before
      | event run => exact Lifecycle.forced_of_closing run before after
    obtain ⟨limit, s, w, limited, first, expired⟩ := expired_of_forced leads forced
    obtain ⟨given, positive⟩ := positive?_eq_some.1 limited
    refine ⟨limit, s, w, given, positive, first, expired, ?_, fun counted => ?_⟩
    · exact now_le_of_leads (expired.leads.tail passes)
    · have time := expired.time
      rwa [Clock.due_of_le _ counted] at time
  case ending => exact fun due draining set time => ended_of_due leads draining set time
  case prompt =>
    intro limit s given positive counted first
    have limited := positive?_eq_some.2 ⟨given, positive⟩
    have bound : ∀ {m}, Stopped Prompt s m → m.life.phase = .draining → m.now ≤ s.now + limit.ticks := by
      intro m stopped draining
      have time := stopped.due first limited draining
      rwa [Clock.due_of_le _ counted] at time
    refine ⟨bound, fun w expired => ?_⟩
    have time := expired.time
    rw [Clock.due_of_le _ counted] at time
    have exact_ := Nat.le_antisymm (bound expired.stopped expired.draining) time
    refine ⟨exact_, fun draining => Nat.le_antisymm ?_ (now_le_of_leads expired.leads)⟩
    rw [exact_]
    exact bound (expired.stopped.trans expired.leads) draining
  case unlimited =>
    intro zero
    have unlimited : positive? timeout = none := positive?_eq_none.2 zero
    have unwatched := unwatched_of_unlimited leads unlimited
    refine ⟨unwatched.forced, not_closed_of_unlimited leads unlimited, fun m' passes draining finished => ?_⟩
    cases passes with
    | wait => exact absurd draining finished
    | event run =>
      rcases Lifecycle.ending_of_step? run draining finished with ⟨i, loop, rfl, atLoop, ending⟩ | forcing
      · have fits := sound.loops loop (List.mem_of_getElem? atLoop)
        rw [ending] at fits
        obtain ⟨closed, _, drained⟩ := fits
        have idle : m.life.active = 0 := drained.resolve_right (by simp [unwatched.forced])
        exact ⟨i, loop, run, atLoop, ending, closed, idle, sound.idle idle⟩
      · rw [unwatched.forcing] at forcing
        cases forcing

end

/-- Events that follow each other at one tick. -/
theorem leads_of_events {life : Lifecycle} (events : List Event)
    (made : m.life.steps? (events.map (m.now, ·)) = some life) : Leads may m ⟨m.now, life⟩ := by
  induction events generalizing m with
  | nil =>
    cases made
    exact .refl
  | cons e events ih =>
    obtain ⟨next, first, rest⟩ := Option.bind_eq_some_iff.1 made
    exact (Relation.ReflTransGen.single (.event first)).trans (ih (m := ⟨m.now, next⟩) rest)

end Moment

namespace Sample

/-- A service comes to be at tick 0, and accepts a connection. -/
def newborn (timeout : Option Span) : Moment :=
  .born 0 ⟨3, { identity := 7, endpoint := ⟨.v4 127 0 0 1, 80⟩ }⟩ ⟨none, none⟩ timeout

def accepting : List Event := [.run, .loop 0, .arrive .connection, .loop 0]

/-- A stop, while the connection is live. -/
def halting : List Event := [.stop, .stopping 0, .stopping 0, .stopping 0, .connection 0 true, .connection 0 true]

end Sample

/-- A service with a drain timeout of a minute closes a connection by force a minute after the stop; one with a drain
timeout of zero still drains then. -/
theorem force_after_a_minute :
    (∃ m m' : Moment, m.now = 60005 ∧ Moment.Passes Moment.Prompt m m' ∧
      m.life.connections = [.serving] ∧ m'.life.connections = [.ended .forced] ∧
      Moment.Timely Moment.Prompt (some (.ofSeconds 60)) (Sample.newborn (some (.ofSeconds 60))) m) ∧
    ∃ m : Moment, m.now = 60005 ∧ m.life.phase = .draining ∧ m.life.connections = [.serving] ∧
      Moment.Timely Moment.Prompt (some (.ofSeconds 0)) (Sample.newborn (some (.ofSeconds 0))) m := by
  constructor
  · have accepted : Moment.Leads Moment.Prompt (Sample.newborn (some (.ofSeconds 60))) _ :=
      Moment.leads_of_events Sample.accepting rfl
    have waited := accepted.tail (.wait 5 (by decide) (Or.inr ⟨rfl, rfl, nofun⟩))
    have stopped := waited.trans (Moment.leads_of_events Sample.halting rfl)
    have due := stopped.tail (.wait 60005 (by decide) (Or.inr ⟨rfl, rfl, by rintro _ ⟨⟩; decide⟩))
    have forced := due.trans (Moment.leads_of_events [.look, .force] rfl)
    exact ⟨_, _, rfl, .event (e := .connection 0 true) rfl, rfl, rfl, Moment.timely_of_leads forced⟩
  · have accepted : Moment.Leads Moment.Prompt (Sample.newborn (some (.ofSeconds 0))) _ :=
      Moment.leads_of_events Sample.accepting rfl
    have stopped := accepted.trans (Moment.leads_of_events Sample.halting rfl)
    have waited := stopped.tail (.wait 60005 (by decide) (Or.inr ⟨rfl, rfl, nofun⟩))
    exact ⟨_, rfl, rfl, rfl, Moment.timely_of_leads waited⟩

end Handover
