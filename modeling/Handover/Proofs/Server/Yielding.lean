import Handover.Proofs.Server.Stopping
import Handover.Proofs.Server.Tracing
import Mathlib.Algebra.GroupWithZero.Nat

namespace Handover

/-- The signal that is taken up, as long as it has had no effect. -/
def SignalPlace.upcoming? : SignalPlace → Option Turn
  | before turn _ | acting turn => some turn
  | _ => none

/-- How many steps are left, at most, until a call that has recorded its service has looked again whether the process is
stopping. -/
def CallPlace.unlooked : CallPlace → Nat
  | attached _ => 4
  | started _ => 3
  | completing _ => 2
  | counted _ => 1
  | _ => 0

theorem CallPlace.unlooked_pos {place : CallPlace} {o : Nat} (unchecked : place.unchecked? = some o) :
    0 < place.unlooked := by
  cases place with
  | attached | started | completing | counted => exact Nat.succ_pos _
  | entered | admitted | reserved | readied | opened | ready | serving | abandoning | returned => cases unchecked

namespace Server

/-- A stop has arrived: it waits, it is taken up, or the process is marked; or a hook has broken off the handling. -/
inductive Yields (p : Server) : Prop
  | waiting {d : Dispatch} : d ∈ p.queue → Signal.stops d.number = true → Yields p
  | upcoming {turn : Turn} : p.signals.upcoming? = some turn → turn.signal.isStop = true → Yields p
  | stopping : p.stopping = true → Yields p
  | brokenOff : p.signals = .ended → Yields p

section

variable {site : Site} {now : Nat} {p p' : Server} {m : Move}

/-- A stop that waits is taken up in its turn. -/
theorem Handling.yields_of_waiting (step : Handling site now p p') {d : Dispatch} (member : d ∈ p.queue)
    (stops : Signal.stops d.number = true) : p'.Yields := by
  cases step with
  | take place queue named =>
    rw [queue] at member
    rcases List.mem_cons.1 member with rfl | later
    · rw [Signal.stops, named] at stops
      exact .upcoming rfl stops
    · exact .waiting later stops
  | ignore place queue unnamed =>
    rw [queue] at member
    rcases List.mem_cons.1 member with rfl | later
    · rw [Signal.stops, unnamed] at stops
      cases stops
    · refine .waiting ?_ stops
      rw [queue_answer]
      exact later
  | breakOff => exact .brokenOff rfl
  | close =>
    refine .waiting ?_ stops
    change d ∈ (p.shutdown now _).queue
    rw [shutdown, (Apart.alter p _ _).queue]
    exact member
  | rest =>
    refine .waiting ?_ stops
    change d ∈ (p.answer _ _).queue
    rw [queue_answer]
    exact member
  | before | after | turn | stop | skip | begin_ | list | closed | capture | refuse | empty | launch | fail =>
    exact .waiting member stops

/-- A stop that is taken up marks the process once the hooks before it have run. -/
theorem Handling.yields_of_upcoming (step : Handling site now p p') {turn : Turn}
    (upcoming : p.signals.upcoming? = some turn) (isStop : turn.signal.isStop = true) : p'.Yields := by
  cases step with
  | before place | turn place =>
    rw [place] at upcoming
    cases upcoming
    exact .upcoming rfl isStop
  | breakOff => exact .brokenOff rfl
  | stop => exact .stopping rfl
  | skip place other | begin_ place other =>
    rw [place] at upcoming
    cases upcoming
    rw [other] at isStop
    cases isStop
  | take place | ignore place | after place | list place | close place | closed place | capture place | refuse place
  | empty place | launch place | fail place | rest place =>
    rw [place] at upcoming
    cases upcoming

theorem mem_queue_trigger {d e : Dispatch} (going : p.signals ≠ .ended) :
    e ∈ (p.trigger d).queue ↔ e ∈ p.queue ∨ e = d := by
  unfold trigger
  split
  · rename_i ended _
    exact absurd ended going
  · rename_i ended _
    exact absurd ended going
  · rw [List.mem_append, List.mem_singleton]

/-- Whatever moves are made, a stop that has arrived is not forgotten. -/
theorem Yields.move? (yields : p.Yields) (run : p.move? site now m = some p') : p'.Yields := by
  rcases move?_apart run with apart | ⟨_, step⟩ | ⟨d, _, rfl⟩ | ⟨serial, _, rfl⟩
  · cases yields with
    | waiting member stops => exact .waiting (apart.queue ▸ member) stops
    | upcoming taken isStop => exact .upcoming (apart.signals ▸ taken) isStop
    | stopping marked => exact .stopping (apart.stopping.trans marked)
    | brokenOff ended => exact .brokenOff (apart.signals.trans ended)
  · cases yields with
    | waiting member stops => exact (stepSignals?_eq_some step).yields_of_waiting member stops
    | upcoming taken isStop => exact (stepSignals?_eq_some step).yields_of_upcoming taken isStop
    | stopping marked => exact .stopping (stopping_of_move? run marked)
    | brokenOff ended =>
      rw [stepSignals?, ended] at step
      cases step
  · obtain ⟨stopping, signals, _⟩ := p.trigger_frame d
    by_cases ended : p.signals = .ended
    · exact .brokenOff (signals.trans ended)
    · cases yields with
      | waiting member stops => exact .waiting ((mem_queue_trigger ended).2 (Or.inl member)) stops
      | upcoming taken isStop => exact .upcoming (signals ▸ taken) isStop
      | stopping marked => exact .stopping (stopping.trans marked)
      | brokenOff broken => exact absurd broken ended
  · cases yields with
    | waiting member stops => exact .waiting (by rwa [queue_replacementEnds]) stops
    | upcoming taken isStop => exact .upcoming (by rwa [signals_replacementEnds]) isStop
    | stopping marked => exact .stopping (by rwa [stopping_replacementEnds])
    | brokenOff ended => exact .brokenOff (by rwa [signals_replacementEnds])

/-- A stop from the system arrives in a process that handles signals, and only there. -/
theorem deliver?_terminate (p : Server) :
    p.deliver? Signal.terminate.number =
      if p.listens then some (p.trigger { number := Signal.terminate.number }) else none := by
  rw [deliver?, Signal.ofNumber?_number, Option.isSome_some, Bool.and_true]

theorem yields_of_deliver? (arrives : p.deliver? Signal.terminate.number = some p') : p'.Yields := by
  rw [deliver?_terminate] at arrives
  split at arrives
  · cases arrives
    by_cases ended : p.signals = .ended
    · exact .brokenOff ((p.trigger_frame _).2.1.trans ended)
    · exact .waiting ((mem_queue_trigger ended).2 (Or.inr rfl)) rfl
  · cases arrives

/-- What a process keeps to about stops, from its start on. -/
structure Steady (p : Server) : Prop where
  claims : p.Claims
  lives : p.LiveUntilClosed
  sweeping : p.Sweeping

theorem Steady.of_blank (blank : p.Blank) : p.Steady := by
  refine ⟨.of_blank blank, ?_, ?_⟩
  · intro o s there
    rw [blank.service] at there
    cases there
  · intro stopping
    rw [blank.stopping] at stopping
    cases stopping

theorem Steady.move? (steady : p.Steady) (run : p.move? site now m = some p') : p'.Steady := by
  obtain ⟨claims, lives, sweeping⟩ := steady
  exact ⟨claims.move? run, lives.move? claims run, sweeping.move? claims lives run⟩

/-- The handling of signals has nothing left to do. -/
def Rests (p : Server) : Prop := p.signals = .idle ∧ p.queue = [] ∨ p.signals = .ended

/-- The process is marked and every service is stopped, or its call is about to stop it; or a hook has broken off the
handling. -/
def Quits (p : Server) : Prop := p.signals = .ended ∨ p.stopping = true ∧ ∀ o, p.Caught o

theorem Yields.quits (yields : p.Yields) (steady : p.Steady) (rests : p.Rests) : p.Quits := by
  rcases rests with ⟨idle, empty⟩ | ended
  · have stopping : p.stopping = true := by
      cases yields with
      | waiting member =>
        rw [empty] at member
        cases member
      | upcoming taken =>
        rw [idle] at taken
        cases taken
      | stopping marked => exact marked
      | brokenOff ended =>
        rw [idle] at ended
        cases ended
    refine Or.inr ⟨stopping, fun o => (steady.sweeping stopping o).resolve_right ?_⟩
    rw [idle]
    exact id
  · exact Or.inl ended

theorem Quits.move? (quits : p.Quits) (steady : p.Steady) (run : p.move? site now m = some p') : p'.Quits := by
  obtain ⟨claims, lives, _⟩ := steady
  rcases quits with ended | ⟨stopping, caught⟩
  · left
    rcases move?_apart run with apart | ⟨_, step⟩ | ⟨d, _, rfl⟩ | ⟨serial, _, rfl⟩
    · exact apart.signals.trans ended
    · rw [stepSignals?, ended] at step
      cases step
    · exact (p.trigger_frame d).2.1.trans ended
    · exact (p.signals_replacementEnds serial).trans ended
  · exact Or.inr ⟨stopping_of_move? run stopping, fun o => (caught o).move? stopping claims lives run⟩

theorem Run.yields (run : Reach p p') (yields : p.Yields) : p'.Yields :=
  run.keep (fun yields _ move => yields.move? move) yields

theorem Run.steady (run : Reach p p') (steady : p.Steady) : p'.Steady :=
  run.keep (fun steady _ move => steady.move? move) steady

theorem Run.quits (run : Reach p p') (quits : p.Quits) (steady : p.Steady) : p'.Quits := by
  induction run with
  | start => exact quits
  | next earlier _ move ih => exact ih.move? (earlier.steady steady) move

theorem Quits.stopped (quits : p.Quits) (looked : ∀ c ∈ p.calls, c.place.unlooked = 0) :
    p.signals = .ended ∨ p.stopping = true ∧ ∀ o s, p.registry.service? o = some s → s.life.IsStopped := by
  refine quits.imp_right fun ⟨stopping, caught⟩ => ⟨stopping, fun o s there => ?_⟩
  rcases caught o with stopped | ⟨i, c, atCall, unchecked⟩
  · exact stopped s there
  · have left := CallPlace.unlooked_pos unchecked
    rw [looked c (List.mem_of_getElem? atCall)] at left
    cases left

theorem Advance.unlooked_lt {c : Call} {place : CallPlace} {q : Server} (advance : Advance site now p c place q)
    (left : 0 < c.place.unlooked) : place.unlooked < c.place.unlooked := by
  cases advance with
  | start atPlace | count atPlace | countAdoption atPlace | complete atPlace | notify atPlace | stop atPlace
  | stay atPlace => simp [atPlace, CallPlace.unlooked]
  | refuse atPlace | pass atPlace | repeated atPlace | claim atPlace | unready atPlace | ready atPlace
  | unbound atPlace | bind atPlace | beyond atPlace | unusable atPlace | adopt atPlace | lose atPlace | attach atPlace
  | run atPlace | finish atPlace | release atPlace => simp [atPlace, CallPlace.unlooked] at left

theorem exists_move?_of_unlooked {i : Nat} {c : Call} (atCall : p.calls[i]? = some c) (left : 0 < c.place.unlooked)
    (site : Site) (now : Nat) : ∃ q, p.move? site now (.call i) = some q := by
  rw [Server.move?, stepCall?, atCall]
  dsimp only
  cases place : c.place with
  | attached | started | completing | counted => exact ⟨_, rfl⟩
  | entered | admitted | reserved | readied | opened | ready | serving | abandoning | returned =>
    rw [place] at left
    cases left

/-- How many steps are left until every call has looked again that has recorded a service, at most. -/
def unlooked (p : Server) : Nat := (p.calls.map (·.place.unlooked)).sum

theorem sum_map_modify_lt {α : Type} {g : α → Nat} {f : α → α} {l : List α} {i : Nat} {a : α}
    (there : l[i]? = some a) (less : g (f a) < g a) : ((l.modify i f).map g).sum < (l.map g).sum := by
  induction l generalizing i with
  | nil => cases there
  | cons b l ih =>
    cases i with
    | zero =>
      cases there
      simpa using less
    | succ i => simpa using ih there

theorem unlooked_lt_of_move? {i : Nat} {c : Call} (atCall : p.calls[i]? = some c) (left : 0 < c.place.unlooked)
    (run : p.move? site now (.call i) = some p') : p'.unlooked < p.unlooked := by
  obtain ⟨d, place, q, atOther, advance, rfl⟩ := stepCall?_eq_some run
  cases atCall.symm.trans atOther
  rw [unlooked, unlooked, moveCall, advance.calls]
  exact sum_map_modify_lt atCall (advance.unlooked_lt left)

/-- By themselves, the calls come to look again whether the process is stopping. -/
theorem calls_settle (site : Site) (now : Nat) (p : Server) :
    ∃ (is : List Nat) (q : Server), p.moves? site now (is.map .call) = some q ∧ ∀ c ∈ q.calls, c.place.unlooked = 0 := by
  induction measure : p.unlooked using Nat.strongRecOn generalizing p with
  | ind n ih =>
    -- As long as a call is left that has not looked, it can be moved, which lowers the number of steps that are left.
    by_cases done : ∀ c ∈ p.calls, c.place.unlooked = 0
    · exact ⟨[], p, rfl, done⟩
    · push Not at done
      obtain ⟨c, member, left⟩ := done
      obtain ⟨i, atCall⟩ := List.getElem?_of_mem member
      have left := Nat.pos_of_ne_zero left
      obtain ⟨p', run⟩ := exists_move?_of_unlooked atCall left site now
      obtain ⟨is, q, made, settled⟩ := ih p'.unlooked (measure ▸ unlooked_lt_of_move? atCall left run) p' rfl
      refine ⟨i :: is, q, ?_, settled⟩
      rw [List.map_cons, moves?, run]
      exact made

theorem moves?_append (site : Site) (now : Nat) (p : Server) (ms ms' : List Move) :
    p.moves? site now (ms ++ ms') = (p.moves? site now ms).bind fun q => q.moves? site now ms' := by
  induction ms generalizing p with
  | nil => rfl
  | cons m ms ih =>
    rw [List.cons_append, moves?, moves?]
    cases p.move? site now m with
    | none => rfl
    | some q => exact ih q

/-- A process that keeps to a stop: whenever the handling of signals rests, the stop has taken effect, and by itself the
process stops every service, unless a hook has broken off the handling. -/
structure Obeys (p : Server) : Prop where
  rest : p.Rests → p.Quits
  comes : ∀ site now, ∃ (n : Nat) (is : List Nat) (q : Server),
    p.moves? site now (List.replicate n .signals ++ is.map .call) = some q ∧
      (q.signals = .ended ∨ q.stopping = true ∧ ∀ o s, q.registry.service? o = some s → s.life.IsStopped)

theorem Yields.obeys (yields : p.Yields) (steady : p.Steady) : p.Obeys := by
  refine ⟨yields.quits steady, fun site now => ?_⟩
  obtain ⟨n, handled, made, rests⟩ := settles site now p
  obtain ⟨is, q, made', looked⟩ := calls_settle site now handled
  refine ⟨n, is, q, by rw [moves?_append, made]; exact made', ?_⟩
  have first : Reach p handled := Run.start.moves site now _ made
  have second : Reach handled q := Run.start.moves site now _ made'
  have quits := (first.yields yields).quits (first.steady steady) rests
  exact (second.quits quits (first.steady steady)).stopped looked

end

end Server

end Handover
