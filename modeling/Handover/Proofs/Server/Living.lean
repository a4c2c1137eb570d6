import Handover.Proofs.Server.Handling
import Handover.Proofs.Server.Onward

namespace Handover

/-- The number is that of a signal that stops a process. -/
def Signal.stops (number : Int) : Bool := (ofNumber? number).any isStop

namespace Move

/-- A listener is closed, or a service stopped, from outside. -/
def closes : Move → Bool
  | closeListener _ | shutdown _ => true
  | _ => false

/-- Nothing from outside stops the process, a service or a listener. -/
def isQuiet : Move → Bool
  | trigger d => !Signal.stops d.number
  | deliver number => !Signal.stops number
  | closeListener _ | shutdown _ => false
  | _ => true

theorem closes_of_isQuiet {m : Move} (quiet : m.isQuiet = true) : m.closes = false := by
  cases m <;> first | rfl | cases quiet

end Move

namespace Server

/-- Everything that is open is accepting, or about to. -/
structure Living (p : Server) : Prop where
  service : ∀ {o : Nat} {s : Service}, p.registry.service? o = some s → s.life.IsLive
  call : ∀ {i : Nat} {c : Call} {o : Nat} {l : Listener}, p.calls[i]? = some c → c.place = .opened o l →
    l.isClosed = false

theorem Living.of_blank {p : Server} (blank : p.Blank) : p.Living := by
  refine ⟨?_, ?_⟩
  · intro o s there
    rw [blank.service] at there
    cases there
  · intro i c o l atCall
    rw [blank.calls] at atCall
    cases atCall

theorem Living.of_slots {p p' : Server} (living : p.Living) (slots : p'.registry.slots = p.registry.slots)
    (calls : p'.calls = p.calls) : p'.Living := by
  refine ⟨?_, ?_⟩
  · intro o s there
    rw [Registry.service?, slots] at there
    exact living.service there
  · intro i c o l atCall
    rw [calls] at atCall
    exact living.call atCall

theorem Living.alter {p : Server} (living : p.Living) (o : Nat) {f : Lifecycle → Lifecycle × List Notice}
    (kept : ∀ l : Lifecycle, l.IsLive → (f l).1.IsLive) : (p.alter o f).Living := by
  unfold Server.alter
  split
  · exact living
  · rename_i s there
    obtain ⟨_, _, service, _, _⟩ := p.registry.views_update o fun _ => { s with life := (f s.life).1 }
    refine ⟨?_, fun atCall place => living.call atCall place⟩
    intro o' s' there'
    dsimp only at there'
    rw [service] at there'
    split at there'
    · obtain ⟨before, atBefore, rfl⟩ := Option.map_eq_some_iff.1 there'
      exact kept _ (living.service there)
    · exact living.service there'

theorem Living.alter? {p p' : Server} (living : p.Living) {o : Nat}
    {f : Lifecycle → Option (Lifecycle × List Notice)}
    (kept : ∀ (l l' : Lifecycle) notices, f l = some (l', notices) → l.IsLive → l'.IsLive)
    (run : p.alter? o f = some p') : p'.Living := by
  obtain ⟨s, life, notices, there, step, rfl⟩ := alter?_eq_some run
  have next := kept _ _ _ step (living.service there)
  exact living.alter o fun _ _ => next

theorem Living.moveCall {q : Server} {i : Nat} {place : CallPlace} (living : q.Living)
    (opened : ∀ o l, place = .opened o l → l.isClosed = false) : (q.moveCall i place).Living := by
  refine ⟨fun there => living.service there, ?_⟩
  intro j d o l atCall held
  rw [calls_moveCall] at atCall
  split at atCall
  · obtain ⟨before, _, rfl⟩ := Option.map_eq_some_iff.1 atCall
    exact opened o l held
  · exact living.call atCall held

theorem Living.advance {site : Site} {now : Nat} {p q : Server} {i : Nat} {c : Call} {place : CallPlace}
    (living : p.Living) (claims : p.Claims) (going : p.stopping = false) (atCall : p.calls[i]? = some c)
    (advance : Advance site now p c place q) : (q.moveCall i place).Living := by
  have closed : ∀ {place : CallPlace}, place.opened? = none → ∀ o l, place = .opened o l → l.isClosed = false := by
    intro place none_ o l held
    rw [held] at none_
    cases none_
  have goOn : ∀ (q : Server) (place : CallPlace), q.registry.slots = p.registry.slots → q.calls = p.calls →
      place.opened? = none → (q.moveCall i place).Living :=
    fun q place slots calls none_ => (living.of_slots slots calls).moveCall (closed none_)
  cases advance with
  | start => exact (living.alter _ fun l live => live.start).moveCall (closed rfl)
  | run => exact (living.alter _ fun l live => live.run).moveCall (closed rfl)
  | stop _ stopping =>
    rw [going] at stopping
    cases stopping
  | bind =>
    refine Living.moveCall (q := { p with nextSocket := p.nextSocket + 1 }) (living.of_slots rfl rfl) ?_
    intro o l held
    cases held
    rfl
  | @adopt o =>
    refine Living.moveCall (q := { p with handed := p.handed.set o none }) (living.of_slots rfl rfl) ?_
    intro o l held
    cases held
    rfl
  | claim _ reserved =>
    obtain ⟨_, _, _, _, service, _, _⟩ := Registry.reserve_eq_ok reserved
    refine Living.moveCall ⟨?_, living.call⟩ (closed rfl)
    intro o s there
    dsimp only at there
    rw [service] at there
    exact living.service there
  | release =>
    obtain ⟨_, _, service, _, _⟩ := p.registry.views_release _
    refine Living.moveCall ⟨?_, living.call⟩ (closed rfl)
    intro o s there
    simp only [record] at there
    rw [service] at there
    exact living.service there
  | attach atPlace attached =>
    have named := claims.address atCall (by rw [atPlace]; rfl)
    obtain ⟨_, _, _, service, _, _⟩ := Registry.attach_eq_ok attached named
    refine Living.moveCall ⟨?_, living.call⟩ (closed rfl)
    intro o s there
    dsimp only at there
    rw [service] at there
    split at there
    · cases there
      exact Lifecycle.isLive_onListener (living.call atCall atPlace) _
    · exact living.service there
  | notify =>
    have same : p.notifyParent.registry.slots = p.registry.slots ∧ p.notifyParent.calls = p.calls := by
      unfold notifyParent
      split <;> exact ⟨rfl, rfl⟩
    exact goOn _ _ same.1 same.2 rfl
  | _ => exact goOn _ _ rfl rfl rfl

/-- While the process is not stopping, no move stops a service but one that closes it from outside. -/
theorem Living.move? {site : Site} {now : Nat} {p p' : Server} {m : Move} (living : p.Living) (claims : p.Claims)
    (going : p.stopping = false) (calm : p.signals.isClosing = false) (open_ : m.closes = false)
    (run : p.move? site now m = some p') : p'.Living := by
  cases m with
  | call i =>
    obtain ⟨c, place, q, atCall, advance, rfl⟩ := stepCall?_eq_some run
    exact living.advance claims going atCall advance
  | signals =>
    have same : Frame p p' := .move? run (fun i h => by cases h) (fun a o h => by cases h)
    rcases (stepSignals?_eq_some run).slots with slots | closing
    · exact living.of_slots slots same.calls
    · rw [calm] at closing
      cases closing
  | loop o i => exact living.alter? (fun l l' notices step live => live.stepLoop? step) run
  | watchdog o => exact living.alter? (fun l l' notices step live => live.fireWatchdog? step) run
  | connection o i peer ok =>
    have kept {ok' : Bool} {q : Server} (step : p.advanceConnection? o i ok' = some q) : q.Living := by
      refine living.alter? (fun l l' notices step live => ?_) step
      obtain ⟨next, taken, same⟩ := Option.map_eq_some_iff.1 step
      cases same
      exact live.stepConnection? taken
    obtain ⟨_, q, step, rfl | ⟨c, rfl⟩⟩ := (connects_of_stepConnection? run).advance
    · exact kept step
    · exact (kept step).of_slots rfl rfl
  | arrive o arrival =>
    simp only [Server.move?] at run
    refine living.alter? (fun l l' notices step live => ?_) run
    cases step
    exact live.arrive arrival
  | closeListener | shutdown => cases open_
  | serve address options =>
    cases run
    refine ⟨fun there => living.service there, ?_⟩
    intro i c o l atCall place
    rw [Server.serve, getElem?_append_last] at atCall
    split at atCall
    · cases atCall
      cases place
    · exact living.call atCall place
  | review =>
    rcases review?_eq_some run with rfl | ⟨_, _, rfl⟩
    · exact living.of_slots rfl rfl
    · exact living.of_slots rfl rfl
  | trigger d =>
    cases run
    unfold trigger
    split <;> exact living.of_slots rfl rfl
  | deliver number =>
    obtain ⟨_, _, rfl⟩ := deliver?_eq_some run
    unfold trigger
    split <;> exact living.of_slots rfl rfl
  | listen =>
    cases run
    exact living.of_slots rfl rfl
  | register phase number hook =>
    obtain ⟨hooks, _, rfl⟩ := register_eq_some run
    exact living.of_slots rfl rfl
  | replacementEnds serial =>
    cases run
    exact living.of_slots (by simp) (by simp)

end Server

end Handover
