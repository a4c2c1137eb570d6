import Handover.Proofs.Server.Living
import Handover.Proofs.Service.Events

namespace Handover

/-- The event neither stops a service nor closes its listener. -/
def Event.isHarmless : Event → Bool
  | start | run | loop _ | connection _ _ | arrive _ => true
  | _ => false

/-- Nothing but calls, the handling of signals and the handle of a service stops one. -/
def Move.mayStop : Move → Bool
  | call _ | signals | closeListener _ | shutdown _ => true
  | _ => false

namespace Lifecycle

/-- The listener is closed, or a stop has taken effect. -/
def IsDead (l : Lifecycle) : Prop := l.isClosed = true ∨ l.phase.isPast = true

theorem IsLive.step? {l l' : Lifecycle} {now : Nat} {e : Event} (live : l.IsLive) (harmless : e.isHarmless = true)
    (run : l.step? now e = some l') : l'.IsLive := by
  cases e with
  | start =>
    cases run
    exact live.start
  | run =>
    cases run
    exact live.run
  | loop i =>
    obtain ⟨⟨_, notices⟩, step, rfl⟩ := Option.map_eq_some_iff.1 run
    exact live.stepLoop? step
  | connection i ok => exact live.stepConnection? run
  | arrive arrival =>
    cases run
    exact live.arrive arrival
  | stop | stopping | close | look | force | trouble => cases harmless

/-- A watchdog that looks does no more than its single steps. -/
theorem onward_fireWatchdog? {l l' : Lifecycle} {now : Nat} {notices : List Notice}
    (run : l.fireWatchdog? now = some (l', notices)) : l.Onward l' := by
  unfold fireWatchdog? at run
  split at run
  · split at run
    · split at run
      · cases run
        have forced : l.Onward { l with watchdog := none, forced := true } :=
          ⟨.refl _, Nat.le_refl _, fun _ => rfl, fun _ => rfl, fun _ => Nat.le_refl _⟩
        exact forced.trans (Advances.terminate _).onward
      · cases run
        exact ((Advances.refl l).tasks _ _ _ _).onward
    · cases run
  · cases run

theorem onward_shutdown (l : Lifecycle) (now : Nat) :
    l.Onward (l.shutdown now).2 ∧ (l.shutdown now).2.phase.isPast = true := by
  rcases l.beginStop_cases with ⟨past, late⟩ | ⟨next, taken⟩
  · rw [shutdown, late]
    exact ⟨(Advances.refl l).onward, past⟩
  · rw [shutdown, taken]
    have take : Stopping now l .entered .closing { l with phase := .draining } := .take next
    have took : l.Onward { l with phase := .draining } := (Advances.stopping take).onward
    have rest := (Advances.closeListener { l with phase := .draining }).onward.trans (Advances.arm _ now).onward
    exact ⟨took.trans rest, rest.past rfl⟩

end Lifecycle

namespace Server

/-- The move stops the service at the ordinal, or closes its listener. -/
inductive Stops (p : Server) (o : Nat) : Move → Prop
  | close : Stops p o (.closeListener o)
  | shutdown : Stops p o (.shutdown o)
  | signal {turn rest} : p.signals = .closing turn (o :: rest) → Stops p o .signals
  | late {i c} : p.calls[i]? = some c → c.place = .counted o → p.stopping = true → Stops p o (.call i)

/-- How a move touches the life of the service at an ordinal, if it does. -/
inductive Touches (now : Nat) (p : Server) (o : Nat) (l : Lifecycle) : Move → Lifecycle → Prop
  | keep {m} : ¬ p.Stops o m → Touches now p o l m l
  | start {i c} : p.calls[i]? = some c → c.place = .attached o → Touches now p o l (.call i) l.start.2
  | run {i c} : p.calls[i]? = some c → c.place = .ready o → Touches now p o l (.call i) l.run
  | late {i c} : p.calls[i]? = some c → c.place = .counted o → p.stopping = true →
      Touches now p o l (.call i) (l.shutdown now).2
  | signal {turn rest} : p.signals = .closing turn (o :: rest) → Touches now p o l .signals (l.shutdown now).2
  | loop {i l' notices} : l.stepLoop? now i = some (l', notices) → Touches now p o l (.loop o i) l'
  | watchdog {l' notices} : l.fireWatchdog? now = some (l', notices) → Touches now p o l (.watchdog o) l'
  | connection {i peer ok ok' l'} : l.stepConnection? i ok' = some l' →
      Touches now p o l (.connection o i peer ok) l'
  | arrive {arrival} : Touches now p o l (.arrive o arrival) (l.arrive arrival)
  | close : Touches now p o l (.closeListener o) l.closeListener
  | shutdown : Touches now p o l (.shutdown o) (l.shutdown now).2

/-- What a move makes of the life of the service at an ordinal. -/
inductive Bears (now : Nat) (p : Server) (o : Nat) (m : Move) (l : Lifecycle) : Lifecycle → Prop
  | keep : ¬ p.Stops o m → Bears now p o m l l
  | event {e l'} : ¬ p.Stops o m → e.isHarmless = true → l.step? now e = some l' → Bears now p o m l l'
  | watchdog {l' notices} : ¬ p.Stops o m → l.fireWatchdog? now = some (l', notices) → Bears now p o m l l'
  | close : p.Stops o m → Bears now p o m l l.closeListener
  | stop : p.Stops o m → Bears now p o m l (l.shutdown now).2

namespace Bears

variable {now o : Nat} {p : Server} {m : Move} {l l' : Lifecycle}

theorem onward (bears : Bears now p o m l l') : l.Onward l' := by
  cases bears with
  | keep => exact (Lifecycle.Advances.refl l).onward
  | event _ _ run => exact (Lifecycle.Advances.of_step? run).onward
  | watchdog _ run => exact Lifecycle.onward_fireWatchdog? run
  | close => exact (Lifecycle.Advances.closeListener l).onward
  | stop => exact (l.onward_shutdown now).1

theorem live (bears : Bears now p o m l l') (going : ¬ p.Stops o m) (live : l.IsLive) : l'.IsLive := by
  cases bears with
  | keep => exact live
  | event _ harmless run => exact live.step? harmless run
  | watchdog _ run => exact live.fireWatchdog? run
  | close stops | stop stops => exact absurd stops going

theorem dead (bears : Bears now p o m l l') (stops : p.Stops o m) : l'.IsDead := by
  cases bears with
  | keep going | event going | watchdog going => exact absurd stops going
  | close =>
    left
    rw [Lifecycle.isClosed, Lifecycle.listener_closeListener]
    rfl
  | stop => exact Or.inr (l.onward_shutdown now).2

theorem still_dead (bears : Bears now p o m l l') (dead : l.IsDead) : l'.IsDead :=
  dead.imp bears.onward.closed bears.onward.past

end Bears

theorem service?_alter {p : Server} {o : Nat} {s : Service} (there : p.registry.service? o = some s) (o' : Nat)
    (f : Lifecycle → Lifecycle × List Notice) :
    (p.alter o' f).registry.service? o = some (if o' = o then { s with life := (f s.life).1 } else s) := by
  unfold Server.alter
  split
  · rename_i none_
    rw [there, if_neg]
    rintro rfl
    rw [none_] at there
    cases there
  · rename_i s' there'
    obtain ⟨_, _, service, _⟩ := p.registry.views_update o' fun _ => { s' with life := (f s'.life).1 }
    dsimp only
    rw [service]
    by_cases here : o' = o
    · subst here
      rw [there] at there'
      cases there'
      rw [if_pos rfl, if_pos rfl, there]
      rfl
    · rw [if_neg here, if_neg here, there]

/-- A step of the handling of signals stops one service, or leaves all as they are. -/
theorem Handling.slots_or_close {site : Site} {now : Nat} {p p' : Server} (step : Handling site now p p') :
    (∃ turn o rest, p.signals = .closing turn (o :: rest) ∧ p' = (p.shutdown now o).moveSignals (.closing turn rest)) ∨
      p'.registry.slots = p.registry.slots ∧ ∀ turn o rest, p.signals ≠ .closing turn (o :: rest) := by
  cases step with
  | close place => exact Or.inl ⟨_, _, _, place, rfl⟩
  | ignore place =>
    refine Or.inr ⟨?_, by simp [place]⟩
    rw [registry_answer]
    rfl
  | rest place =>
    refine Or.inr ⟨?_, by simp [place]⟩
    change (p.answer _ _).registry.slots = _
    rw [registry_answer]
  | breakOff next =>
    refine Or.inr ⟨rfl, fun turn o rest place => ?_⟩
    rw [place] at next
    cases next
  | take place | before place | after place | turn place | stop place | skip place | begin_ place | list place
  | closed place | capture place | refuse place | empty place | launch place | fail place =>
    exact Or.inr ⟨rfl, by simp [place]⟩

theorem not_stops {p : Server} {o : Nat} {m : Move} (calm : m.mayStop = false) : ¬ p.Stops o m := by
  rintro (_ | _ | _ | _) <;> cases calm

theorem not_stops_call {p : Server} {i o : Nat} {c : Call} (atCall : p.calls[i]? = some c)
    (going : ∀ o, c.place = .counted o → p.stopping = false) : ¬ p.Stops o (.call i) := by
  rintro (_ | _ | _ | ⟨atCall', place, stopping⟩)
  rw [atCall] at atCall'
  cases atCall'
  rw [going o place] at stopping
  cases stopping

section

variable {site : Site} {now o : Nat} {p p' : Server} {s : Service}

def Touched (now : Nat) (p : Server) (o : Nat) (m : Move) (s : Service) (p' : Server) : Prop :=
  ∃ s', p'.registry.service? o = some s' ∧ Touches now p o s.life m s'.life

theorem Touched.of_same {m : Move} (going : ¬ p.Stops o m) (there : p'.registry.service? o = some s) :
    Touched now p o m s p' := ⟨s, there, .keep going⟩

/-- The life of the service at one ordinal goes on, and the others stay as they are. -/
theorem touched_alter {m : Move} {o' : Nat} {f : Lifecycle → Lifecycle × List Notice}
    (there : p.registry.service? o = some s) (here : o' = o → Touches now p o s.life m (f s.life).1)
    (elsewhere : o' ≠ o → ¬ p.Stops o m) : Touched now p o m s (p.alter o' f) := by
  by_cases same : o' = o
  · refine ⟨_, service?_alter there o' f, ?_⟩
    rw [if_pos same]
    exact here same
  · refine ⟨_, service?_alter there o' f, ?_⟩
    rw [if_neg same]
    exact .keep (elsewhere same)

theorem touched_alter? {m : Move} {o' : Nat} {f : Lifecycle → Option (Lifecycle × List Notice)}
    (there : p.registry.service? o = some s) (going : ¬ p.Stops o m)
    (touches : o' = o → ∀ l l' notices, f l = some (l', notices) → Touches now p o l m l')
    (run : p.alter? o' f = some p') : Touched now p o m s p' := by
  obtain ⟨s', life, notices, there', step, rfl⟩ := alter?_eq_some run
  refine touched_alter there (fun same => ?_) fun _ => going
  have atSame := there'
  rw [same, there] at atSame
  cases atSame
  exact touches same _ _ _ step

theorem touched_advance {i : Nat} {c : Call} {place : CallPlace} {q : Server} (claims : p.Claims)
    (there : p.registry.service? o = some s) (atCall : p.calls[i]? = some c)
    (advance : Advance site now p c place q) : Touched now p o (.call i) s (q.moveCall i place) := by
  have kept : (∀ o, c.place = .counted o → p.stopping = false) → q.registry.service? o = some s →
      Touched now p o (.call i) s (q.moveCall i place) :=
    fun going there => .of_same (not_stops_call atCall going) there
  cases advance with
  | start atPlace =>
    have going : ¬ p.Stops o (.call i) := not_stops_call atCall (by simp [atPlace])
    exact touched_alter there (fun same => .start atCall (same ▸ atPlace)) fun _ => going
  | run atPlace =>
    have going : ¬ p.Stops o (.call i) := not_stops_call atCall (by simp [atPlace])
    exact touched_alter there (fun same => .run atCall (same ▸ atPlace)) fun _ => going
  | @stop o' atPlace stopping =>
    refine touched_alter there (fun same => .late atCall (same ▸ atPlace) stopping) ?_
    rintro other (_ | _ | _ | ⟨atCall', atPlace', _⟩)
    rw [atCall] at atCall'
    cases atCall'
    rw [atPlace] at atPlace'
    cases atPlace'
    exact other rfl
  | stay _ going => exact kept (fun _ _ => going) there
  | claim atPlace reserved =>
    obtain ⟨_, _, _, _, service, _⟩ := Registry.reserve_eq_ok reserved
    exact kept (by simp [atPlace]) ((service o).trans there)
  | release atPlace =>
    obtain ⟨_, _, service, _⟩ := p.registry.views_release _
    exact kept (by simp [atPlace]) ((service o).trans there)
  | @attach o' _ _ atPlace attached =>
    obtain ⟨vacant, _, _, service, _⟩ :=
      Registry.attach_eq_ok attached (claims.address atCall (o := o') (by rw [atPlace]; rfl))
    have apart : o' ≠ o := by
      rintro rfl
      rw [vacant] at there
      cases there
    exact kept (by simp [atPlace]) (by rw [service, if_neg apart, there])
  | notify atPlace =>
    have same : p.notifyParent.registry = p.registry := by
      unfold notifyParent
      split <;> rfl
    exact kept (by simp [atPlace]) (by rw [same, there])
  | refuse atPlace | pass atPlace | repeated atPlace | unready atPlace | ready atPlace | unbound atPlace | bind atPlace
  | beyond atPlace | unusable atPlace | adopt atPlace | lose atPlace | count atPlace | countAdoption atPlace
  | complete atPlace | finish atPlace => exact kept (by simp [atPlace]) there

/-- Every move touches a service in one of these ways. -/
theorem touched_of_move? {m : Move} (claims : p.Claims) (there : p.registry.service? o = some s)
    (run : p.move? site now m = some p') : Touched now p o m s p' := by
  cases m with
  | call i =>
    obtain ⟨c, place, q, atCall, advance, rfl⟩ := stepCall?_eq_some run
    exact touched_advance claims there atCall advance
  | signals =>
    rcases (stepSignals?_eq_some run).slots_or_close with ⟨turn, o', rest, place, rfl⟩ | ⟨slots, calm⟩
    · refine touched_alter there (fun same => .signal (same ▸ place)) ?_
      rintro other (_ | _ | place')
      rw [place] at place'
      cases place'
      exact other rfl
    · refine .of_same ?_ (by rw [Registry.service?, slots]; exact there)
      rintro (_ | _ | place)
      exact calm _ _ _ place
  | loop o' i =>
    simp only [Server.move?] at run
    exact touched_alter? there (not_stops rfl) (fun same l l' notices step => same ▸ .loop step) run
  | watchdog o' =>
    simp only [Server.move?] at run
    exact touched_alter? there (not_stops rfl) (fun same l l' notices step => same ▸ .watchdog step) run
  | connection o' i peer ok =>
    have touched {ok' : Bool} {q : Server} (step : p.advanceConnection? o' i ok' = some q) :
        Touched now p o (.connection o' i peer ok) s q := by
      refine touched_alter? there (not_stops rfl) (fun same l l' notices step => ?_) step
      obtain ⟨next, taken, made⟩ := Option.map_eq_some_iff.1 step
      cases made
      exact same ▸ .connection taken
    obtain ⟨_, q, step, rfl | ⟨c, rfl⟩⟩ := (connects_of_stepConnection? run).advance
    · exact touched step
    · obtain ⟨s', there', touches⟩ := touched step
      exact ⟨s', there', touches⟩
  | arrive o' arrival =>
    simp only [Server.move?] at run
    refine touched_alter? there (not_stops rfl) (fun same l l' notices step => ?_) run
    cases step
    exact same ▸ .arrive
  | closeListener o' =>
    cases run
    refine touched_alter there (fun same => same ▸ .close) ?_
    rintro other ⟨⟩
    exact other rfl
  | shutdown o' =>
    cases run
    refine touched_alter there (fun same => same ▸ .shutdown) ?_
    rintro other ⟨⟩
    exact other rfl
  | review =>
    rcases review?_eq_some run with rfl | ⟨_, _, rfl⟩
    · exact .of_same (not_stops rfl) there
    · exact .of_same (not_stops rfl) there
  | serve =>
    cases run
    exact .of_same (not_stops rfl) there
  | trigger d =>
    cases run
    exact .of_same (not_stops rfl) ((p.trigger_frame _).2.2.2.2.1 ▸ there)
  | deliver number =>
    obtain ⟨_, _, rfl⟩ := deliver?_eq_some run
    exact .of_same (not_stops rfl) ((p.trigger_frame _).2.2.2.2.1 ▸ there)
  | listen =>
    cases run
    exact .of_same (not_stops rfl) there
  | register =>
    obtain ⟨hooks, _, rfl⟩ := register_eq_some run
    exact .of_same (not_stops rfl) there
  | replacementEnds serial =>
    cases run
    refine .of_same (not_stops rfl) ?_
    rw [registry_replacementEnds]
    exact there

theorem Touches.bears {m : Move} {l l' : Lifecycle} (touches : Touches now p o l m l') : Bears now p o m l l' := by
  cases touches with
  | keep going => exact .keep going
  | start atCall atPlace => exact .event (e := .start) (not_stops_call atCall (by simp [atPlace])) rfl rfl
  | run atCall atPlace => exact .event (e := .run) (not_stops_call atCall (by simp [atPlace])) rfl rfl
  | late atCall atPlace stopping => exact .stop (.late atCall atPlace stopping)
  | signal place => exact .stop (.signal place)
  | @loop i _ _ step => exact .event (e := .loop i) (not_stops rfl) rfl (by rw [Lifecycle.step?, step]; rfl)
  | watchdog step => exact .watchdog (not_stops rfl) step
  | @connection i _ _ ok _ step => exact .event (e := .connection i ok) (not_stops rfl) rfl step
  | @arrive arrival => exact .event (e := .arrive arrival) (not_stops rfl) rfl rfl
  | close => exact .close .close
  | shutdown => exact .stop .shutdown

def Continues (now : Nat) (p : Server) (o : Nat) (m : Move) (s : Service) (p' : Server) : Prop :=
  ∃ s', p'.registry.service? o = some s' ∧ Bears now p o m s.life s'.life

/-- Every move bears on a service in one of these ways. -/
theorem continues_of_move? {m : Move} (claims : p.Claims) (there : p.registry.service? o = some s)
    (run : p.move? site now m = some p') : Continues now p o m s p' := by
  obtain ⟨s', there', touches⟩ := touched_of_move? claims there run
  exact ⟨s', there', touches.bears⟩

/-- A service only appears on the listener that a call has opened. -/
theorem appears_of_move? {m : Move} (claims : p.Claims) (vacant : p.registry.service? o = none)
    (run : p.move? site now m = some p') (there : p'.registry.service? o = some s) :
    ∃ (i : Nat) (c : Call) (l : Listener), p.calls[i]? = some c ∧ c.place = .opened o l ∧
      p'.calls[i]? = some { c with place := .attached o } ∧ s.life = .onListener l p.settings.drainTimeout := by
  have same : p'.registry.service? o = p.registry.service? o → False := by
    intro same
    rw [vacant, there] at same
    cases same
  rcases move?_cases run with ⟨i, c, place, q, _, atCall, advance, rfl⟩ | ⟨address, options, _, rfl⟩ | ⟨_, frame⟩
  · rcases advance.registry_cases with ⟨o', _, _, reserved⟩ | ⟨o', l, atPlace, rfl, attached⟩ | ⟨o', _, _, _, released⟩ |
      ⟨aged, _⟩
    · obtain ⟨_, _, _, _, service, _⟩ := Registry.reserve_eq_ok reserved
      exact (same (service o)).elim
    · obtain ⟨_, _, _, service, _⟩ :=
        Registry.attach_eq_ok attached (claims.address atCall (o := o') (by rw [atPlace]; rfl))
      have after := (service o).symm.trans there
      by_cases here : o' = o
      · subst here
        rw [if_pos rfl] at after
        refine ⟨i, c, l, atCall, atPlace, ?_, congrArg Service.life (Option.some.inj after).symm⟩
        rw [calls_moveCall, if_pos rfl, advance.calls, atCall]
        rfl
      · rw [if_neg here, vacant] at after
        cases after
    · obtain ⟨_, _, service, _⟩ := p.registry.views_release o'
      refine (same ?_).elim
      change q.registry.service? o = _
      rw [released, service]
    · exact (same (((aged.service? o).eq_none_iff.2 vacant).trans vacant.symm)).elim
  · exact (same rfl).elim
  · exact (same (((frame.registry.service? o).eq_none_iff.2 vacant).trans vacant.symm)).elim

end

end Server

end Handover
