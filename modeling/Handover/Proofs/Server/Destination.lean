import Handover.Proofs.Server.Withdrawing

namespace Handover

namespace CallPlace

/-- The steps that a call makes at most before it has a listener or is over. -/
@[simp] def ahead : CallPlace → Nat
  | entered => 5
  | admitted => 4
  | reserved _ => 3
  | readied .. => 2
  | abandoning .. => 1
  | _ => 0

/-- The call has a listener or has failed. -/
def isOutcome : CallPlace → Bool
  | opened .. | returned (some _) => true
  | _ => false

/-- The call has recorded its service. -/
def isCommitted : CallPlace → Bool
  | attached _ | started _ | completing _ | counted _ | ready _ | serving _ | returned none => true
  | _ => false

/-- Where a call comes that fails or goes on. -/
def orFail {α : Type} (next : α → CallPlace) : Except Fault α → CallPlace
  | .error fault => returned (some fault)
  | .ok found => next found

/-- Where a call comes that fails or opens its listener. -/
def orOpened (o : Nat) (t : Transport) : Except Fault Listener → CallPlace := orFail fun l => opened o (l.through t)

end CallPlace

namespace Server

/-- A process that was not started as a replacement was handed nothing that could be lost. -/
theorem Spares.table {p p' : Server} {i : Nat} {a : String} {fault : Fault} (spares : p.Spares i a fault p')
    (parent : p.role = .parent) : p'.table = p.table := by
  rcases spares.handed with kept | ⟨_, _, misfit, _⟩
  · rw [Server.table, Server.table, untaken, untaken, kept, spares.handles]
  · cases parent.symm.trans misfit.child

theorem Spares.listenerFor {p p' : Server} {i o : Nat} {a : String} {fault : Fault} (spares : p.Spares i a fault p')
    (other : p.registry.address? o ≠ some a ∨ p'.handed = p.handed) (site : Site) (address : String) (options : Options) :
    p'.listenerFor site address options o = p.listenerFor site address options o := by
  refine listenerFor_congr (by rw [spares.same]) (by rw [spares.same]) (by rw [spares.same]) spares.table ?_ _ _ _
  intro _
  rcases spares.handed with kept | ⟨o', named, _, taken⟩
  · rw [handedAt?, kept, handedAt?]
  · rcases other with other | kept
    · have apart : o' ≠ o := by
        rintro rfl
        exact other named
      rw [handedAt?, taken, List.getElem?_set_ne apart, handedAt?]
    · rw [handedAt?, kept, handedAt?]

/-- Where a call comes that has a claim, if it is left to itself. -/
def destinationOf (site : Site) (p : Server) (address : String) (options : Options) (o : Nat) : CallPlace :=
  .orFail (fun t => .orOpened o t (p.listenerFor site address options o))
    (Transport.load site.provider site.files options.encryption)

/-- Where a call comes if it is left to itself: it has a listener, or it is over. -/
def destination (site : Site) (p : Server) (c : Call) : CallPlace :=
  match c.place with
  | .entered =>
    if p.stopping then .returned (some .shuttingDown)
    else .orFail (fun found => p.destinationOf site c.address c.options found.1) (p.registry.reserve c.address)
  | .admitted => .orFail (fun found => p.destinationOf site c.address c.options found.1) (p.registry.reserve c.address)
  | .reserved o => p.destinationOf site c.address c.options o
  | .readied o t => .orOpened o t (p.listenerFor site c.address c.options o)
  | .abandoning _ fault => .returned (some fault)
  | place => place

theorem listenerFor_of_step {site : Site} {now : Nat} {p p' : Server} {i : Nat} {c d : Call} (claims : p.Claims)
    (atCall : p.calls[i]? = some c) (run : p.stepCall? site now i = some p') (after : p'.calls[i]? = some d)
    (early : 1 < d.place.ahead) (site' : Site) (address : String) (options : Options) (o : Nat) :
    p'.listenerFor site' address options o = p.listenerFor site' address options o := by
  -- Nothing is lost in these steps: what is lost is lost when the call gives up.
  have mayFail : d.place.MayFail .shuttingDown := by
    cases place : d.place with
    | entered | admitted | reserved => trivial
    | readied => rfl
    | abandoning => simp [place] at early
    | _ => simp [place] at early
  have spares := (spares_of_mayFail claims atCall run after mayFail).2
  refine spares.listenerFor (.inr ?_) site' address options
  rcases spares.handed with kept | ⟨_, _, misfit, _⟩
  · exact kept
  · cases misfit.fault

theorem destinationOf_of_step {site : Site} {now : Nat} {p p' : Server} {i : Nat} {c d : Call} (claims : p.Claims)
    (atCall : p.calls[i]? = some c) (run : p.stepCall? site now i = some p') (after : p'.calls[i]? = some d)
    (early : 1 < d.place.ahead) (site' : Site) (address : String) (options : Options) (o : Nat) :
    p'.destinationOf site' address options o = p.destinationOf site' address options o := by
  rw [destinationOf, destinationOf, listenerFor_of_step claims atCall run after early]

/-- A call that has no listener yet and is not over makes a step, which brings it nearer to where it comes and does not
change this. -/
theorem destination_of_step {p : Server} {i : Nat} {c : Call} (claims : p.Claims) (atCall : p.calls[i]? = some c)
    (early : 0 < c.place.ahead) (site : Site) (now : Nat) :
    ∃ p' place, p.stepCall? site now i = some p' ∧ p'.calls[i]? = some { c with place } ∧
      place.ahead < c.place.ahead ∧ p'.destination site { c with place } = p.destination site c := by
  cases atPlace : c.place with
  | entered =>
    cases stopping : p.stopping with
    | true =>
      have step : p.stepCall? site now i = some (p.endCall i c (some .shuttingDown)) := by
        simp only [stepCall?, atCall, atPlace, stopping, if_true]
      refine ⟨_, _, step, moved_moveCall atCall rfl _, by simp, ?_⟩
      simp only [destination, atPlace, stopping, if_true]
    | false =>
      have step : p.stepCall? site now i = some (p.moveCall i .admitted) := by
        simp only [stepCall?, atCall, atPlace, stopping, Bool.false_eq_true, if_false]
      have moved := moved_moveCall atCall rfl .admitted
      refine ⟨_, _, step, moved, by simp, ?_⟩
      simp only [destination, atPlace, stopping, Bool.false_eq_true, if_false,
        destinationOf_of_step claims atCall step moved (by simp)]
      rfl
  | admitted =>
    have step : p.stepCall? site now i = some (p.claim i c) := by simp only [stepCall?, atCall, atPlace]
    unfold Server.claim at step
    split at step
    · rename_i refused
      refine ⟨_, _, step, moved_moveCall atCall rfl _, by simp, ?_⟩
      simp only [destination, atPlace, refused, CallPlace.orFail]
    · rename_i o registry reserved
      have moved := moved_moveCall (q := { p with registry }) atCall rfl (.reserved o)
      refine ⟨_, _, step, moved, by simp, ?_⟩
      simp only [destination, atPlace, reserved, CallPlace.orFail,
        destinationOf_of_step claims atCall step moved (by simp)]
  | reserved o =>
    have step : p.stepCall? site now i = some (p.ready site i c o) := by simp only [stepCall?, atCall, atPlace]
    unfold Server.ready at step
    split at step
    · rename_i refused
      refine ⟨_, _, step, moved_moveCall atCall rfl _, by simp, ?_⟩
      simp only [destination, destinationOf, atPlace, refused, CallPlace.orFail]
    · rename_i t loaded
      have moved := moved_moveCall atCall rfl (.readied o t)
      refine ⟨_, _, step, moved, by simp, ?_⟩
      simp only [destination, destinationOf, atPlace, loaded, CallPlace.orFail,
        listenerFor_of_step claims atCall step moved (by simp)]
  | readied o t =>
    have step := stepCall?_of_readied site now atCall atPlace
    cases given : p.listenerFor site c.address c.options o with
    | error fault =>
      obtain ⟨handed, opens, _⟩ := openListener_of_error i t given
      rw [opens] at step
      refine ⟨_, _, step, moved_moveCall atCall rfl _, by simp, ?_⟩
      simp only [destination, atPlace, given, CallPlace.orOpened, CallPlace.orFail]
    | ok l =>
      obtain ⟨q, calls, opens⟩ := openListener_of_ok i t given
      rw [opens] at step
      refine ⟨_, _, step, moved_moveCall atCall calls _, by simp, ?_⟩
      simp only [destination, atPlace, given, CallPlace.orOpened, CallPlace.orFail]
  | abandoning o fault =>
    have step : p.stepCall? site now i =
        some (({ p with registry := p.registry.release o } : Server).endCall i c (some fault)) := by
      simp only [stepCall?, atCall, atPlace]
    refine ⟨_, _, step, moved_moveCall atCall rfl _, by simp, ?_⟩
    simp only [destination, atPlace]
  | opened | attached | started | completing | counted | ready | serving | returned =>
    rw [atPlace] at early
    cases early

theorem destination_of_ahead {site : Site} {p : Server} {c : Call} (done : c.place.ahead = 0) :
    p.destination site c = c.place := by
  cases atPlace : c.place with
  | entered | admitted | reserved | readied | abandoning =>
    rw [atPlace] at done
    cases done
  | _ => simp only [destination, atPlace]

/-- Left to itself, a call comes to where it was bound for. -/
theorem arrives {p : Server} {i : Nat} {c : Call} (claims : p.Claims) (atCall : p.calls[i]? = some c) (site : Site)
    (now : Nat) :
    ∃ k q d, p.moves? site now (List.replicate k (.call i)) = some q ∧ q.calls[i]? = some d ∧
      d.place = p.destination site c := by
  induction steps : c.place.ahead using Nat.strongRecOn generalizing p c with
  | ind n ih =>
    subst steps
    by_cases early : 0 < c.place.ahead
    · obtain ⟨p', place, step, moved, nearer, same⟩ := destination_of_step claims atCall early site now
      have move : p.move? site now (.call i) = some p' := step
      obtain ⟨k, q, d, made, after, come⟩ := ih _ nearer (claims.move? move) moved rfl
      refine ⟨k + 1, q, d, ?_, after, come.trans same⟩
      rw [List.replicate_succ, moves?, move]
      exact made
    · exact ⟨0, p, c, rfl, atCall, (destination_of_ahead (Nat.eq_zero_of_not_pos early)).symm⟩

theorem Advance.isCommitted {site : Site} {now : Nat} {p q : Server} {i : Nat} {c : Call} {place : CallPlace}
    (claims : p.Claims) (atCall : p.calls[i]? = some c) (advance : Advance site now p c place q)
    (done : c.place.ahead = 0) : place.isCommitted = true := by
  cases advance with
  | attach | start | count | countAdoption | complete | notify | stop | stay | run | finish => rfl
  | lose atPlace refused => exact absurd refused (Adopts.not_lose claims atCall atPlace)
  | refuse atPlace | pass atPlace | repeated atPlace | claim atPlace | unready atPlace | ready atPlace
  | unbound atPlace | bind atPlace | beyond atPlace | unusable atPlace | adopt atPlace | release atPlace =>
    rw [atPlace] at done
    cases done

theorem Run.isCommitted {may : Server → Site → Move → Prop} {p q : Server} (run : Run may p q) (claims : p.Claims)
    {i : Nat} {c : Call} (atCall : p.calls[i]? = some c) (before : c.place.isCommitted = true) :
    ∃ d, q.calls[i]? = some d ∧ d.place.isCommitted = true := by
  induction run with
  | start => exact ⟨c, atCall, before⟩
  | next earlier _ move ih =>
    obtain ⟨d, there, committed⟩ := ih
    rcases call_of_move? move there with still | ⟨place, q, rfl, advance, _, moved⟩
    · exact ⟨d, still, committed⟩
    · refine ⟨{ d with place }, moved, advance.isCommitted (earlier.claims claims) there ?_⟩
      cases atPlace : d.place with
      | entered | admitted | reserved | readied | abandoning =>
        rw [atPlace] at committed
        cases committed
      | _ => rfl

end Server

end Handover
