import Handover.Proofs.Registry.Operations
import Handover.Proofs.Restart.Mapping
import Handover.Proofs.Server.Opening

namespace Handover

namespace CallPlace

theorem ordinal?_of_claim? {place : CallPlace} {o : Nat} (claim : place.claim? = some o) : place.ordinal? = some o := by
  cases place with
  | reserved | readied | opened | abandoning => exact claim
  | _ => cases claim

/-- A call at this place can still end with the fault. -/
def MayFail (fault : Fault) : CallPlace → Prop
  | entered | admitted | reserved _ => True
  | readied .. => fault.isEncryption = false
  | abandoning _ found => found = fault
  | returned found => found = some fault
  | opened .. | attached _ | started _ | completing _ | counted _ | ready _ | serving _ => False

/-- The call has tried to claim its address. -/
def isPastClaim : CallPlace → Bool
  | entered | admitted | returned (some .shuttingDown) => false
  | _ => true

end CallPlace

namespace Server

theorem filterMap_handle?_moveCall {p : Server} {i : Nat} {c : Call} {place : CallPlace} (atCall : p.calls[i]? = some c)
    (before : Call.handle? c = none) (after : Call.handle? { c with place } = none) :
    (p.moveCall i place).calls.filterMap Call.handle? = p.calls.filterMap Call.handle? := by
  refine filterMap_modify fun d there => ?_
  cases atCall.symm.trans there
  rw [before, after]

/-- A step by which a call comes nearer to its failure, as seen by everything else. Its address may be claimed or given
up, and what was handed over at its ordinal is taken if it is of the wrong sort. -/
structure Spares (i : Nat) (a : String) (fault : Fault) (p p' : Server) : Prop where
  same : p' = { p with calls := p'.calls, journal := p'.journal, registry := p'.registry, handed := p'.handed }
  calls : ∀ j, j ≠ i → p'.calls[j]? = p.calls[j]?
  journal : p'.journal = p.journal ∨ p'.journal = p.journal ++ [.returned a (some fault)]
  registry : p.registry.AlikeBut a p'.registry
  handles : p'.handles = p.handles
  handed : p'.handed = p.handed ∨
    ∃ o, p.registry.address? o = some a ∧ p.Misfit a o fault ∧ p'.handed = p.handed.set o none

theorem Spares.of_step {p q : Server} {i : Nat} {c : Call} {fault : Fault} (atCall : p.calls[i]? = some c)
    (place : CallPlace) (before : Call.handle? c = none) (after : Call.handle? { c with place } = none)
    (same : q = { p with journal := q.journal, registry := q.registry, handed := q.handed })
    (journal : q.journal = p.journal ∨ q.journal = p.journal ++ [.returned c.address (some fault)])
    (registry : p.registry.AlikeBut c.address q.registry)
    (handed : q.handed = p.handed ∨ ∃ o, p.registry.address? o = some c.address ∧ p.Misfit c.address o fault ∧
      q.handed = p.handed.set o none) : p.Spares i c.address fault (q.moveCall i place) := by
  have calls : q.calls = p.calls := by rw [same]
  have signals : q.signals = p.signals := by rw [same]
  refine ⟨?_, ?_, journal, registry, ?_, handed⟩
  · exact congrArg (fun r : Server => { r with calls := (q.moveCall i place).calls }) same
  · intro j other
    rw [calls_moveCall, if_neg (Ne.symm other), calls]
  · have atCall' : q.calls[i]? = some c := by rw [calls, atCall]
    have held := filterMap_handle?_moveCall atCall' before after
    simp only [Server.handles, held, calls]
    simp only [moveCall, signals, Registry.services_congr registry.service?]

theorem spares_of_readied {site : Site} {now : Nat} {p p' : Server} {i o : Nat} {t : Transport} {c d : Call}
    {fault : Fault} (claims : p.Claims) (atCall : p.calls[i]? = some c) (atPlace : c.place = .readied o t)
    (run : p.stepCall? site now i = some p') (after : p'.calls[i]? = some d) (mayFail : d.place.MayFail fault) :
    c.place.MayFail fault ∧ p.Spares i c.address fault p' := by
  rw [stepCall?_of_readied site now atCall atPlace, Option.some.injEq] at run
  have named := claims.address atCall (o := o) (by rw [atPlace]; rfl)
  cases given : p.listenerFor site c.address c.options o with
  | error found =>
    obtain ⟨handed, opens, taken⟩ := openListener_of_error i t given
    rw [opens] at run
    subst run
    rw [calls_moveCall, if_pos rfl] at after
    cases (congrArg _ atCall).symm.trans after
    obtain rfl : found = fault := mayFail
    refine ⟨?_, .of_step atCall _ (by rw [Call.handle?, atPlace]) rfl rfl (.inl rfl) (.refl _ _) ?_⟩
    · rw [atPlace]
      exact not_isEncryption_listenerFor given
    · rcases taken with kept | ⟨misfit, lost⟩
      · exact .inl kept
      · exact .inr ⟨o, named, misfit, lost⟩
  | ok l =>
    obtain ⟨q, calls, opens⟩ := openListener_of_ok i t given
    rw [opens] at run
    subst run
    rw [calls_moveCall, if_pos rfl, calls] at after
    cases (congrArg _ atCall).symm.trans after
    exact mayFail.elim

/-- If a call can end with some fault after a step, it could before, and the step spares everything else. -/
theorem spares_of_mayFail {site : Site} {now : Nat} {p p' : Server} {i : Nat} {c d : Call} {fault : Fault}
    (claims : p.Claims) (atCall : p.calls[i]? = some c) (run : p.stepCall? site now i = some p')
    (after : p'.calls[i]? = some d) (mayFail : d.place.MayFail fault) :
    c.place.MayFail fault ∧ p.Spares i c.address fault p' := by
  obtain ⟨c', place, q, atCall', advance, same⟩ := stepCall?_eq_some run
  cases atCall.symm.trans atCall'
  have reached : d = { c with place } := by
    rw [same, moved_moveCall atCall advance.calls] at after
    exact (Option.some.inj after).symm
  subst reached
  cases advance with
  | refuse atPlace | repeated atPlace =>
    subst same
    cases mayFail
    refine ⟨by rw [atPlace]; trivial, .of_step atCall _ ?_ rfl rfl (.inr rfl) (.refl _ _) (.inl rfl)⟩
    rw [Call.handle?, atPlace]
  | pass atPlace | ready atPlace | unready atPlace =>
    subst same
    refine ⟨by rw [atPlace]; trivial, .of_step atCall _ ?_ rfl rfl (.inl rfl) (.refl _ _) (.inl rfl)⟩
    rw [Call.handle?, atPlace]
  | claim atPlace reserved =>
    subst same
    refine ⟨by rw [atPlace]; trivial, .of_step atCall _ ?_ rfl rfl (.inl rfl) (.reserve reserved) (.inl rfl)⟩
    rw [Call.handle?, atPlace]
  | release atPlace =>
    subst same
    cases mayFail
    have named := claims.address atCall (by rw [atPlace]; rfl)
    refine ⟨by rw [atPlace]; rfl, .of_step atCall _ ?_ rfl rfl (.inr rfl) (.release named) (.inl rfl)⟩
    rw [Call.handle?, atPlace]
  | unbound atPlace | bind atPlace | beyond atPlace | unusable atPlace | adopt atPlace =>
    exact spares_of_readied claims atCall atPlace run after mayFail
  | lose atPlace refused => exact absurd refused (Adopts.not_lose claims atCall atPlace)
  | attach | start | count | countAdoption | complete | notify | stop | stay | run => exact mayFail.elim
  | finish => cases mayFail

/-- A call stays, and what it can still end with it could end with before. -/
theorem Run.call {may : Server → Site → Move → Prop} {p q : Server} (run : Run may p q) (claims : p.Claims) {i : Nat}
    {c : Call} (atCall : p.calls[i]? = some c) :
    ∃ d, q.calls[i]? = some d ∧ d.address = c.address ∧ ∀ fault, d.place.MayFail fault → c.place.MayFail fault := by
  induction run with
  | start => exact ⟨c, atCall, rfl, fun _ => id⟩
  | next earlier _ move ih =>
    obtain ⟨d, there, address, back⟩ := ih
    rcases call_of_move? move there with still | ⟨place, q, rfl, _, _, moved⟩
    · exact ⟨d, still, address, back⟩
    · refine ⟨{ d with place }, moved, address, fun fault mayFail => back fault ?_⟩
      exact (spares_of_mayFail (earlier.claims claims) there move moved mayFail).1

/-- Each step of a call that fails in the end spares everything else, and before any of them the call could still fail
as it does. -/
theorem Run.spares {may : Server → Site → Move → Prop} {p p' q : Server} {site : Site} {now i : Nat} {c d : Call}
    {fault : Fault} (claims : p.Claims) (atCall : p.calls[i]? = some c) (step : p.move? site now (.call i) = some p')
    (later : Run may p' q) (ended : q.calls[i]? = some d) (failed : d.place = .returned (some fault)) :
    d.address = c.address ∧ c.place.MayFail fault ∧ p.Spares i c.address fault p' := by
  obtain ⟨c', place, q', atCall', advance, rfl⟩ := stepCall?_eq_some step
  cases atCall.symm.trans atCall'
  have moved := moved_moveCall atCall advance.calls place
  obtain ⟨d', there, address, back⟩ := later.call (claims.move? step) moved
  cases ended.symm.trans there
  exact ⟨address, spares_of_mayFail claims atCall step moved (back fault (by rw [failed]; rfl))⟩

/-- Every claim is that of a service or of a call that holds it. -/
def Held (p : Server) : Prop :=
  ∀ o, p.registry.isClaimed o = true → (∃ s, p.registry.service? o = some s) ∨
    ∃ (i : Nat) (c : Call), p.calls[i]? = some c ∧ c.place.claim? = some o

/-- A call keeps its claim until its service is recorded or it gives up. -/
theorem Advance.claim_cases {site : Site} {now : Nat} {p q : Server} {i o : Nat} {c : Call} {place : CallPlace}
    (claims : p.Claims) (atCall : p.calls[i]? = some c) (advance : Advance site now p c place q)
    (claim : c.place.claim? = some o) :
    place.claim? = some o ∨ (∃ s, q.registry.service? o = some s) ∨ q.registry.isClaimed o = false := by
  have same {o' : Nat} {place' : CallPlace} (atPlace : c.place = place') (held : place'.claim? = some o') : o = o' :=
    Option.some.inj (claim.symm.trans (by rw [atPlace]; exact held))
  cases advance with
  | unready atPlace | ready atPlace | unbound atPlace | bind atPlace | beyond atPlace | unusable atPlace | adopt atPlace =>
    exact .inl (by rw [same atPlace rfl]; rfl)
  | lose atPlace refused => exact absurd refused (Adopts.not_lose claims atCall atPlace)
  | attach atPlace attached =>
    obtain rfl := same atPlace rfl
    obtain ⟨_, _, _, service, _, _⟩ := Registry.attach_eq_ok attached (claims.address atCall (by rw [atPlace]; rfl))
    exact .inr (.inl ⟨_, by rw [service, if_pos rfl]⟩)
  | release atPlace =>
    obtain rfl := same atPlace rfl
    obtain ⟨_, isClaimed, _⟩ := p.registry.views_release o
    refine .inr (.inr ?_)
    change (p.registry.release o).isClaimed o = false
    rw [isClaimed, (claims.claim atCall claim).2]
    simp
  | refuse atPlace | pass atPlace | repeated atPlace | claim atPlace | start atPlace | count atPlace
  | countAdoption atPlace | complete atPlace | notify atPlace | stop atPlace | stay atPlace | run atPlace
  | finish atPlace =>
    rw [atPlace] at claim
    cases claim

/-- Only the call itself claims an ordinal or records a service at it in a step. -/
theorem Advance.isClaimed {site : Site} {now : Nat} {p q : Server} {i o : Nat} {c : Call} {place : CallPlace}
    (claims : p.Claims) (atCall : p.calls[i]? = some c) (advance : Advance site now p c place q)
    (claimed : q.registry.isClaimed o = true) :
    p.registry.isClaimed o = true ∨ place.claim? = some o ∨ ∃ s, q.registry.service? o = some s := by
  rcases advance.registry_cases with ⟨o', _, rfl, reserved⟩ | ⟨o', l, atPlace, rfl, attached⟩ |
    ⟨o', _, _, rfl, released⟩ | ⟨aged, _, _⟩
  · obtain ⟨_, _, _, isClaimed, _⟩ := Registry.reserve_eq_ok reserved
    rw [isClaimed, Bool.or_eq_true, decide_eq_true_eq] at claimed
    rcases claimed with rfl | before
    · exact .inr (.inl rfl)
    · exact .inl before
  · obtain ⟨_, _, isClaimed, service, _, _⟩ :=
      Registry.attach_eq_ok attached (claims.address atCall (by rw [atPlace]; rfl))
    rw [isClaimed, Bool.or_eq_true, decide_eq_true_eq] at claimed
    rcases claimed with rfl | before
    · exact .inr (.inr ⟨_, by rw [service, if_pos rfl]⟩)
    · exact .inl before
  · obtain ⟨_, isClaimed, _⟩ := p.registry.views_release o'
    rw [released, isClaimed, Bool.and_eq_true] at claimed
    exact .inl claimed.1
  · exact .inl (aged.isClaimed o ▸ claimed)

theorem Held.advance {site : Site} {now : Nat} {p q : Server} {i : Nat} {c : Call} {place : CallPlace}
    (claims : p.Claims) (held : p.Held) (atCall : p.calls[i]? = some c) (advance : Advance site now p c place q) :
    (q.moveCall i place).Held := by
  intro o claimed
  have moved := moved_moveCall atCall advance.calls place
  rcases advance.isClaimed claims atCall claimed with before | own | served
  · rcases held o before with ⟨s, there⟩ | ⟨j, d, atOther, claim⟩
    · obtain ⟨s', there', _⟩ := (Onward.of_advance claims atCall advance).service? there
      exact .inl ⟨s', there'⟩
    · by_cases here : i = j
      · subst here
        cases atCall.symm.trans atOther
        rcases advance.claim_cases claims atCall claim with still | served | free
        · exact .inr ⟨i, _, moved, still⟩
        · exact .inl served
        · cases claimed.symm.trans free
      · refine .inr ⟨j, d, ?_, claim⟩
        rw [calls_moveCall, if_neg here, advance.calls, atOther]
  · exact .inr ⟨i, _, moved, own⟩
  · exact .inl served

theorem Held.move? {site : Site} {now : Nat} {p p' : Server} {m : Move} (claims : p.Claims) (held : p.Held)
    (run : p.move? site now m = some p') : p'.Held := by
  rcases move?_cases run with ⟨i, c, place, q, _, atCall, advance, rfl⟩ | ⟨address, options, _, rfl⟩ | ⟨_, same⟩
  · exact held.advance claims atCall advance
  · intro o claimed
    rcases held o claimed with served | ⟨j, d, atOther, claim⟩
    · exact .inl served
    · exact .inr ⟨j, d, List.getElem?_append_left (List.getElem?_eq_some_iff.1 atOther).1 ▸ atOther, claim⟩
  · intro o claimed
    rw [same.registry.isClaimed] at claimed
    rcases held o claimed with ⟨s, there⟩ | ⟨j, d, atOther, claim⟩
    · have later := same.registry.service? o
      rw [there] at later
      obtain ⟨s', there', _⟩ := later.of_some
      exact .inl ⟨s', there'⟩
    · exact .inr ⟨j, d, same.calls ▸ atOther, claim⟩

theorem Held.of_blank {p : Server} (blank : p.Blank) : p.Held := by
  intro o claimed
  rw [blank.free] at claimed
  cases claimed

/-- The address of a call that has tried to claim it has an ordinal. -/
def Known (p : Server) : Prop :=
  ∀ (i : Nat) (c : Call), p.calls[i]? = some c → c.place.isPastClaim = true → ∃ o, p.registry.address? o = some c.address

theorem Known.move? {site : Site} {now : Nat} {p p' : Server} {m : Move} (claims : p.Claims)
    (known : p.Known) (run : p.move? site now m = some p') : p'.Known := by
  intro i d after past
  have onward := Onward.move? claims run
  rcases call_before_move? run after with before | fresh | ⟨c, q, _, atCall, advance, rfl⟩
  · obtain ⟨o, named⟩ := known i d before past
    exact ⟨o, onward.address? named⟩
  · rw [fresh] at past
    cases past
  · have address : d.address = c.address := by
      rw [calls_moveCall, if_pos rfl, advance.calls, atCall] at after
      rw [← Option.some.inj after]
    rw [address]
    -- The steps up to the claim do not bring a call past it, but for the claim itself, which finds the ordinal.
    cases already : c.place.isPastClaim with
    | true =>
      obtain ⟨o, named⟩ := known i c atCall already
      exact ⟨o, onward.address? named⟩
    | false =>
      generalize reached : d.place = place at advance past
      cases advance with
      | refuse => cases past
      | pass => cases past
      | repeated _ refused =>
        obtain ⟨_, o, named, _⟩ := Registry.reserve_eq_error refused
        exact ⟨o, named⟩
      | claim _ reserved =>
        obtain ⟨known, _⟩ := Registry.reserve_eq_ok reserved
        exact ⟨_, (known _).trans (if_pos rfl)⟩
      | unready atPlace | ready atPlace | unbound atPlace | bind atPlace | beyond atPlace | unusable atPlace
      | adopt atPlace | lose atPlace | attach atPlace | start atPlace | count atPlace | countAdoption atPlace
      | complete atPlace | notify atPlace | stop atPlace | stay atPlace | run atPlace | finish atPlace
      | release atPlace =>
        rw [atPlace] at already
        cases already

theorem Known.of_blank {p : Server} (blank : p.Blank) : p.Known := by
  intro i c atCall
  simp [blank.calls] at atCall

/-- Whenever the ordinal is not claimed, a call that comes to claim the address gets it. -/
def Reclaims (q : Server) (a : String) (o : Nat) : Prop :=
  ∀ {q' : Server} {site : Site} {now j : Nat} {c : Call}, Reach q q' → q'.registry.isClaimed o = false →
    q'.calls[j]? = some c → c.place = .admitted → c.address = a →
      ∃ q'', q'.move? site now (.call j) = some q'' ∧ q''.calls[j]? = some { c with place := .reserved o }

theorem reclaims {q : Server} (claims : q.Claims) {a : String} {o : Nat} (named : q.registry.address? o = some a) :
    q.Reclaims a o := by
  intro q' site now j c later free atCall atPlace address
  have named' := (later.onward claims).address? named
  have taken := Registry.reserve_of_known (later.claims claims).sound named'
  rw [free, if_neg Bool.false_ne_true] at taken
  have step : q'.move? site now (.call j) = some (q'.claim j c) := by
    rw [Server.move?, stepCall?, atCall]
    dsimp only
    rw [atPlace]
  refine ⟨_, step, ?_⟩
  subst address
  rw [Server.claim, taken]
  dsimp only
  rw [calls_moveCall, if_pos rfl, atCall]
  rfl

section

variable {markers : Markers} {settings : Settings} {arguments : List OsText} {files : List (Option OpenFile)}
  {parent nextSocket start : Nat}

/-- Every step of a call that fails in the end spares everything else, and a call that fails since its files cannot be
used never gets to open a listener. At the end the address is claimed only if another call has claimed it, and has an
ordinal that the next claim gets, unless the call was refused since the process is stopping. -/
theorem failed_call_is_undone {p p' q : Server} {site : Site} {now i : Nat} {c d : Call} {fault : Fault}
    (run : Reach (Server.start markers settings arguments files parent nextSocket start) p)
    (atCall : p.calls[i]? = some c) (step : p.move? site now (.call i) = some p') (later : Reach p' q)
    (ended : q.calls[i]? = some d) (failed : d.place = .returned (some fault)) :
    p.Spares i c.address fault p' ∧ (fault.isEncryption = true → ∀ o t, c.place ≠ .readied o t) ∧
      (∀ o, q.registry.address? o = some c.address → (q.registry.isClaimed o = true →
        (∃ s, q.registry.service? o = some s) ∨ ∃ (j : Nat) (e : Call), j ≠ i ∧ q.calls[j]? = some e ∧
          e.address = c.address ∧ e.place.claim? = some o) ∧ q.Reclaims c.address o) ∧
      (∀ o, c.place.ordinal? = some o → q.registry.address? o = some c.address) ∧
      (fault ≠ .shuttingDown → ∃ o, q.registry.address? o = some c.address) := by
  have blank := Blank.start markers settings arguments files parent nextSocket start
  have claims := run.claims (.of_blank blank)
  obtain ⟨address, mayFail, spares⟩ := later.spares claims atCall step ended failed
  have whole : Reach (Server.start markers settings arguments files parent nextSocket start) q :=
    (run.next trivial step).trans later
  have claims' := whole.claims (.of_blank blank)
  have held : q.Held :=
    whole.keep_of_claims (fun claims held move => held.move? claims move) (.of_blank blank) (.of_blank blank)
  have known : q.Known :=
    whole.keep_of_claims (fun claims known move => known.move? claims move) (.of_blank blank) (.of_blank blank)
  have onward := (Onward.move? claims step).trans (later.onward (claims.move? step))
  refine ⟨spares, ?_, fun o named => ⟨fun claimed => ?_, reclaims claims' named⟩,
    fun o ordinal => onward.address? (claims.address atCall ordinal), fun other => ?_⟩
  · intro unusable o t place
    rw [place] at mayFail
    cases unusable.symm.trans mayFail
  · rcases held o claimed with served | ⟨j, e, atOther, claim⟩
    · exact .inl served
    · refine .inr ⟨j, e, ?_, atOther, ?_, claim⟩
      · rintro rfl
        cases ended.symm.trans atOther
        rw [failed] at claim
        cases claim
      · have ordinal : e.place.ordinal? = some o := CallPlace.ordinal?_of_claim? claim
        exact Option.some.inj ((claims'.address atOther ordinal).symm.trans named)
  · rw [← address]
    refine known i d ended ?_
    rw [failed]
    cases fault with
    | shuttingDown => exact absurd rfl other
    | _ => rfl

end

end Server

namespace Sample

/-- The files for encrypted connections, none of which is there. -/
def encrypted : Options := { encryption := some ⟨.ofString "cert.pem", .ofString "key.pem", none⟩ }

def unreadable : Fault := .encryption "Failed to open cert.pem: No such file or directory (os error 2)"

/-- A call has claimed its address. -/
def claiming : Server := after fresh [.serve "127.0.0.1:80" encrypted, .call 0, .call 0]

/-- A replacement to which a socket without an endpoint was handed over. -/
def misled : Server :=
  Server.start (.inherited []) .standard []
    [some (.socket { identity := 5, kind := .unix, endpoint := ⟨.v4 0 0 0 0, 0⟩ })] 7 9 0

end Sample

/-- A call whose files cannot be read leaves its address to the next one, which gets the same ordinal. -/
theorem unreadable_files_release_address :
    ∃ p p' q fault, Server.Reach Sample.fresh p ∧ p.move? Sample.site 0 (.call 0) = some p' ∧ Server.Reach p' q ∧
      fault.isEncryption = true ∧ q.calls.map (·.place) = [.returned (some fault)] ∧
      p.Spares 0 "127.0.0.1:80" fault p' ∧ p.registry.isClaimed 0 = true ∧ q.registry.isClaimed 0 = false ∧
      q.registry.address? 0 = some "127.0.0.1:80" ∧ q.Reclaims "127.0.0.1:80" 0 := by
  have run : Server.Reach Sample.fresh Sample.claiming :=
    Server.Run.start.moves Sample.site 0 [.serve "127.0.0.1:80" Sample.encrypted, .call 0, .call 0] rfl
  have later : Server.Reach (Sample.after Sample.claiming [.call 0]) (Sample.after Sample.claiming [.call 0, .call 0]) :=
    Server.Run.start.moves Sample.site 0 [.call 0] rfl
  have step : Sample.claiming.move? Sample.site 0 (.call 0) = some (Sample.after Sample.claiming [.call 0]) := rfl
  have ended : (Sample.after Sample.claiming [.call 0, .call 0]).calls[0]? =
      some ⟨"127.0.0.1:80", Sample.encrypted, .returned (some Sample.unreadable)⟩ := rfl
  obtain ⟨spares, _, claim, ordinal, _⟩ := Server.failed_call_is_undone run rfl step later ended rfl
  have named := ordinal 0 rfl
  exact ⟨_, _, _, _, run, step, later, rfl, rfl, spares, rfl, rfl, named, (claim 0 named).2⟩

/-- A call that fails since a socket without an endpoint was handed over for it takes the socket. -/
theorem misfit_is_taken :
    ∃ q, Server.Reach Sample.misled q ∧
      q.calls.map (·.place) = [.returned (some (.inherit "127.0.0.1:80" 3 "invalid argument"))] ∧
      Sample.misled.handedAt? 0 ≠ none ∧ q.handedAt? 0 = none :=
  ⟨_, Server.Run.start.moves Sample.site 0 (Sample.serving "127.0.0.1:80" 0 5) rfl, rfl, nofun, rfl⟩

end Handover
