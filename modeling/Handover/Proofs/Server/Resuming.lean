import Handover.Proofs.Encryption.Loading
import Handover.Proofs.Server.Adoption
import Handover.Proofs.Server.Handling

namespace Handover

namespace CallPlace

/-- The call has claimed its address, or has tried to. -/
def isPast : CallPlace → Bool
  | entered | admitted => false
  | _ => true

/-- The service of the call is recorded. -/
def isServed : CallPlace → Bool
  | attached _ | started _ | completing _ | counted _ | ready _ | serving _ | returned none => true
  | _ => false

/-- The adoption of the call is counted, and the parent is told if it was the last. -/
def isCounted : CallPlace → Bool
  | counted _ | ready _ | serving _ | returned none => true
  | _ => false

/-- How many steps a call has made on the way to its service. -/
def progress : CallPlace → Nat
  | entered => 0
  | admitted => 1
  | reserved _ => 2
  | readied .. => 3
  | opened _ _ => 4
  | _ => 5

theorem isServed_of_isCounted {place : CallPlace} (counted : place.isCounted = true) : place.isServed = true := by
  cases place with
  | returned fault => cases fault <;> first | rfl | cases counted
  | _ => first | rfl | cases counted

theorem progress_lt {place : CallPlace} (unserved : place.isServed = false) (unfailed : place.fault? = none) :
    place.progress < 5 := by
  cases place with
  | returned fault =>
    cases fault with
    | none => cases unserved
    | some fault => cases unfailed
  | abandoning => cases unfailed
  | attached | started | completing | counted | ready | serving => cases unserved
  | entered | admitted | reserved | readied | opened =>
    simp only [progress]
    omega

/-- A call that is counted is neither about to be counted nor about to tell the parent. -/
theorem not_uncounted_of_isCounted {place : CallPlace} (counted : place.isCounted = true) :
    place.isUncounted = false ∧ place.isCompleting = false := by
  cases place <;> first | exact ⟨rfl, rfl⟩ | cases counted

end CallPlace

/-- Wherever the process runs, the files of the encryption can be used, if there is one. -/
def Call.Loads (c : Call) (sites : Site → Prop) : Prop :=
  ∀ site, sites site → ∃ t : Transport, t.Fits site.provider site.files c.options.encryption

namespace Server

theorem Advance.isPast {site : Site} {now : Nat} {p q : Server} {c : Call} {place : CallPlace}
    (advance : Advance site now p c place q) (past : c.place.isPast = true) : place.isPast = true := by
  cases advance with
  | pass atPlace =>
    rw [atPlace] at past
    cases past
  | _ => rfl

theorem Advance.isServed {site : Site} {now : Nat} {p q : Server} {c : Call} {place : CallPlace}
    (advance : Advance site now p c place q) (served : place.isServed = true) :
    c.place.isServed = true ∨ ∃ o l, c.place = .opened o l ∧
      p.registry.attach o (.onListener c.address c.options l p.settings.drainTimeout) = .ok q.registry := by
  cases advance with
  | attach atPlace attached => exact Or.inr ⟨_, _, atPlace, attached⟩
  | start atPlace | count atPlace | countAdoption atPlace | complete atPlace | notify atPlace | stop atPlace
  | stay atPlace | run atPlace | finish atPlace =>
    rw [atPlace]
    exact Or.inl rfl
  | _ => cases served

/-- A step that does not fail brings a call nearer to its service. -/
theorem Advance.progress {site : Site} {now : Nat} {p q : Server} {c : Call} {place : CallPlace}
    (advance : Advance site now p c place q) (unfailed : place.fault? = none) :
    place.isServed = true ∨ place.progress = c.place.progress + 1 := by
  cases advance with
  | pass atPlace | claim atPlace | ready atPlace | bind atPlace | adopt atPlace =>
    rw [atPlace]
    exact Or.inr rfl
  | attach => exact Or.inl rfl
  | refuse | repeated | unready | unbound | beyond | unusable | lose | release => cases unfailed
  | start | count | countAdoption | complete | notify | stop | stay | run | finish => exact Or.inl rfl

/-- A call that is on the way to its service can make a step. -/
theorem stepCall?_of_unserved (site : Site) (now : Nat) {p : Server} {i : Nat} {c : Call}
    (atCall : p.calls[i]? = some c) (unserved : c.place.isServed = false) (unfailed : c.place.fault? = none) :
    ∃ p', p.stepCall? site now i = some p' := by
  obtain ⟨address, options, place⟩ := c
  unfold stepCall?
  rw [atCall]
  cases place with
  | returned fault =>
    cases fault with
    | none => cases unserved
    | some fault => cases unfailed
  | abandoning => cases unfailed
  | attached | started | completing | counted | ready | serving => cases unserved
  | _ => exact ⟨_, rfl⟩

/-- Moves are made at some sites only, and the calls that begin are for addresses of a list, one for each at most. -/
def Resumes (addresses : List String) (sites : Site → Prop) (p : Server) (site : Site) (m : Move) : Prop :=
  sites site ∧ ∀ address options, m = .serve address options → address ∈ addresses ∧ ∀ c ∈ p.calls, c.address ≠ address

/-- Between the beginnings of calls any moves can be made. -/
theorem Run.resume {addresses : List String} {sites : Site → Prop} {first p p' : Server}
    (run : Run (Resumes addresses sites) first p) {site : Site} (here : sites site) (now : Nat) (ms : List Move)
    (others : ∀ m ∈ ms, m.isServe = false) (made : p.moves? site now ms = some p') :
    Run (Resumes addresses sites) first p' := by
  refine run.makes (fun m member q => ⟨here, fun address options same => ?_⟩) made
  have other := others m member
  rw [same] at other
  cases other

theorem Run.serving {addresses : List String} {sites : Site → Prop} {first p p' : Server}
    (run : Run (Resumes addresses sites) first p) {site : Site} (here : sites site) (now : Nat) {address : String}
    (options : Options) (member : address ∈ addresses) (fresh : ∀ c ∈ p.calls, c.address ≠ address) (i steps : Nat)
    (made : p.moves? site now (.serve address options :: List.replicate steps (.call i)) = some p') :
    Run (Resumes addresses sites) first p' := by
  obtain ⟨next, move, later⟩ := Option.bind_eq_some_iff.1 made
  have begun := run.next ⟨here, fun address options same => by cases same; exact ⟨member, fresh⟩⟩ move
  exact begun.resume here now _ (fun m among => by rw [List.eq_of_mem_replicate among]; rfl) later

/-- Only addresses of a list are known and called, each of them once, and only by its call is an address claimed. -/
structure Resuming (addresses : List String) (p : Server) : Prop where
  known : ∀ {o : Nat} {a : String}, p.registry.address? o = some a → a ∈ addresses
  called : ∀ {i : Nat} {c : Call}, p.calls[i]? = some c → c.address ∈ addresses
  once : ∀ {i j : Nat} {c d : Call}, p.calls[i]? = some c → p.calls[j]? = some d → c.address = d.address → i = j
  claimed : ∀ {o : Nat} {a : String}, p.registry.isClaimed o = true → p.registry.address? o = some a →
    ∃ (i : Nat) (c : Call), p.calls[i]? = some c ∧ c.address = a ∧ c.place.isPast = true
  served : ∀ {i : Nat} {c : Call}, p.calls[i]? = some c → c.place.isServed = true →
    ∃ o s, p.registry.service? o = some s ∧ s.address = c.address

namespace Resuming

variable {addresses : List String}

theorem of_blank {p : Server} (blank : p.Blank) (known : ∀ {o a}, p.registry.address? o = some a → a ∈ addresses) :
    p.Resuming addresses := by
  refine ⟨known, ?_, ?_, ?_, ?_⟩
  · intro i c atCall
    rw [blank.calls] at atCall
    cases atCall
  · intro i j c d atCall
    rw [blank.calls] at atCall
    cases atCall
  · intro o a claimed
    rw [blank.free] at claimed
    cases claimed
  · intro i c atCall
    rw [blank.calls] at atCall
    cases atCall

theorem frame {p p' : Server} (resuming : p.Resuming addresses) (onward : p.Onward p') (same : Frame p p') :
    p'.Resuming addresses := by
  refine ⟨?_, ?_, ?_, ?_, ?_⟩
  · intro o a named
    rw [same.registry.address?] at named
    exact resuming.known named
  · rw [same.calls]
    exact resuming.called
  · rw [same.calls]
    exact resuming.once
  · intro o a claimed named
    rw [same.registry.isClaimed] at claimed
    rw [same.registry.address?] at named
    rw [same.calls]
    exact resuming.claimed claimed named
  · intro i c atCall served
    rw [same.calls] at atCall
    obtain ⟨o, s, there, address⟩ := resuming.served atCall served
    obtain ⟨s', there', address', _⟩ := onward.service? there
    exact ⟨o, s', there', address'.trans address⟩

theorem serve {p : Server} (resuming : p.Resuming addresses) {address : String} (options : Options)
    (member : address ∈ addresses) (first : ∀ c ∈ p.calls, c.address ≠ address) :
    (p.serve address options).Resuming addresses := by
  have origin : ∀ {i : Nat} {c : Call}, (p.serve address options).calls[i]? = some c →
      i = p.calls.length ∧ c = { address, options } ∨ p.calls[i]? = some c := by
    intro i c atCall
    rw [Server.serve, getElem?_append_last] at atCall
    split at atCall
    · rename_i last
      exact Or.inl ⟨last.symm, (Option.some.inj atCall).symm⟩
    · exact Or.inr atCall
  have stays : ∀ {i : Nat} {c : Call}, p.calls[i]? = some c → (p.serve address options).calls[i]? = some c := by
    intro i c atCall
    rw [Server.serve, List.getElem?_append_left (List.getElem?_eq_some_iff.1 atCall).1]
    exact atCall
  refine ⟨fun named => resuming.known named, ?_, ?_, ?_, ?_⟩
  · intro i c atCall
    rcases origin atCall with ⟨_, rfl⟩ | before
    · exact member
    · exact resuming.called before
  · intro i j c d atCall atOther same
    rcases origin atCall with ⟨rfl, rfl⟩ | before <;> rcases origin atOther with ⟨rfl, rfl⟩ | before'
    · rfl
    · exact absurd same.symm (first d (List.mem_of_getElem? before'))
    · exact absurd same (first c (List.mem_of_getElem? before))
    · exact resuming.once before before' same
  · intro o a claimed named
    obtain ⟨i, c, before, rest⟩ := resuming.claimed claimed named
    exact ⟨i, c, stays before, rest⟩
  · intro i c atCall served
    rcases origin atCall with ⟨_, rfl⟩ | before
    · cases served
    · exact resuming.served before served

/-- A step of a call claims its own address at most. -/
theorem claims_of_advance {site : Site} {now : Nat} {p q : Server} {i : Nat} {c : Call} {place : CallPlace}
    (claims : p.Claims) (atCall : p.calls[i]? = some c) (advance : Advance site now p c place q) {o : Nat} {a : String}
    (named : q.registry.address? o = some a) :
    (a = c.address ∨ p.registry.address? o = some a) ∧
      (q.registry.isClaimed o = true → a = c.address ∧ place.isPast = true ∨
        p.registry.isClaimed o = true ∧ p.registry.address? o = some a) := by
  rcases advance.registry_cases with ⟨o', atPlace, rfl, reserved⟩ | ⟨o', l, atPlace, rfl, attached⟩ |
    ⟨o', fault, atPlace, rfl, released⟩ | ⟨registry, _⟩
  · obtain ⟨address, _, _, isClaimed, _, _, _⟩ := Registry.reserve_eq_ok reserved
    rw [address] at named
    rw [isClaimed]
    by_cases same : o' = o
    · rw [if_pos same] at named
      cases named
      exact ⟨Or.inl rfl, fun _ => Or.inl ⟨rfl, rfl⟩⟩
    · rw [if_neg same] at named
      refine ⟨Or.inr named, fun claimed => Or.inr ⟨?_, named⟩⟩
      rw [decide_eq_false same, Bool.false_or] at claimed
      exact claimed
  · have here := claims.address atCall (o := o') (by rw [atPlace]; rfl)
    obtain ⟨_, address, isClaimed, _⟩ := Registry.attach_eq_ok attached here
    rw [address] at named
    rw [isClaimed]
    refine ⟨Or.inr named, fun claimed => ?_⟩
    by_cases same : o' = o
    · subst same
      exact Or.inl ⟨Option.some.inj (named.symm.trans here), rfl⟩
    · rw [decide_eq_false same, Bool.false_or] at claimed
      exact Or.inr ⟨claimed, named⟩
  · obtain ⟨address, isClaimed, _⟩ := p.registry.views_release o'
    rw [released, address] at named
    rw [released, isClaimed]
    refine ⟨Or.inr named, fun claimed => Or.inr ⟨?_, named⟩⟩
    exact (Bool.and_eq_true_iff.1 claimed).1
  · rw [registry.address?] at named
    rw [registry.isClaimed]
    exact ⟨Or.inr named, fun claimed => Or.inr ⟨claimed, named⟩⟩

theorem advance {site : Site} {now : Nat} {p q : Server} {i : Nat} {c : Call} {place : CallPlace}
    (resuming : p.Resuming addresses) (claims : p.Claims) (atCall : p.calls[i]? = some c)
    (advance : Advance site now p c place q) : (q.moveCall i place).Resuming addresses := by
  have onward := Onward.of_advance claims atCall advance
  have atCall' : q.calls[i]? = some c := by rw [advance.calls, atCall]
  have moved : (q.moveCall i place).calls[i]? = some { c with place } := by
    rw [calls_moveCall, if_pos rfl, atCall']
    rfl
  have origin : ∀ {j : Nat} {d : Call}, (q.moveCall i place).calls[j]? = some d →
      ∃ d' : Call, p.calls[j]? = some d' ∧ d'.address = d.address := by
    intro j d atOther
    rcases calls_moveCall_eq_some atCall' atOther with ⟨rfl, rfl⟩ | ⟨_, before⟩
    · exact ⟨c, atCall, rfl⟩
    · rw [advance.calls] at before
      exact ⟨d, before, rfl⟩
  refine ⟨?_, ?_, ?_, ?_, ?_⟩
  · intro o a named
    rcases (claims_of_advance claims atCall advance named).1 with rfl | before
    · exact resuming.called atCall
    · exact resuming.known before
  · intro j d atOther
    obtain ⟨d', before, same⟩ := origin atOther
    exact same ▸ resuming.called before
  · intro j k d e atOther atThird same
    obtain ⟨d', before, same'⟩ := origin atOther
    obtain ⟨e', before', same''⟩ := origin atThird
    exact resuming.once before before' (same'.trans (same.trans same''.symm))
  · intro o a claimed named
    rcases (claims_of_advance claims atCall advance named).2 claimed with ⟨rfl, past⟩ | ⟨before, named'⟩
    · exact ⟨i, _, moved, rfl, past⟩
    · obtain ⟨j, d, atOther, same, past⟩ := resuming.claimed before named'
      by_cases own : i = j
      · subst own
        cases atCall.symm.trans atOther
        exact ⟨i, _, moved, same, advance.isPast past⟩
      · refine ⟨j, d, ?_, same, past⟩
        rw [calls_moveCall, if_neg own, advance.calls]
        exact atOther
  · intro j d atOther served
    have carry : ∀ {e : Call}, (∃ o s, p.registry.service? o = some s ∧ s.address = e.address) →
        ∃ o s, (q.moveCall i place).registry.service? o = some s ∧ s.address = e.address := by
      rintro e ⟨o, s, there, address⟩
      obtain ⟨s', there', address', _⟩ := onward.service? there
      exact ⟨o, s', there', address'.trans address⟩
    rcases calls_moveCall_eq_some atCall' atOther with ⟨rfl, rfl⟩ | ⟨_, before⟩
    · rcases advance.isServed served with before | ⟨o, l, atPlace, attached⟩
      · exact carry (e := c) (resuming.served atCall before)
      · have here := claims.address atCall (o := o) (by rw [atPlace]; rfl)
        obtain ⟨_, _, _, service, _⟩ := Registry.attach_eq_ok attached here
        exact ⟨o, _, (service o).trans (if_pos rfl), rfl⟩
    · rw [advance.calls] at before
      exact carry (resuming.served before served)

theorem move? {site : Site} {now : Nat} {p p' : Server} {m : Move} (resuming : p.Resuming addresses)
    {sites : Site → Prop} (claims : p.Claims) (resumes : p.Resumes addresses sites site m)
    (run : p.move? site now m = some p') : p'.Resuming addresses := by
  rcases move?_cases run with ⟨i, c, place, q, _, atCall, advance, rfl⟩ | ⟨address, options, rfl, rfl⟩ | ⟨_, same⟩
  · exact resuming.advance claims atCall advance
  · obtain ⟨member, first⟩ := resumes.2 address options rfl
    exact resuming.serve options member first
  · exact resuming.frame (.of_frame same) same

theorem not_repeated {p : Server} {i : Nat} {c : Call} {fault : Fault} (resuming : p.Resuming addresses)
    (atCall : p.calls[i]? = some c) (atPlace : c.place = .admitted) :
    p.registry.reserve c.address ≠ .error fault := by
  intro refused
  obtain ⟨_, o, named, claimed⟩ := Registry.reserve_eq_error refused
  obtain ⟨j, d, atOther, same, past⟩ := resuming.claimed claimed named
  have own := resuming.once atOther atCall same
  subst own
  cases atCall.symm.trans atOther
  rw [atPlace] at past
  cases past

end Resuming

/-- What is handed over for a call that is about to open its listener is there, and is a socket. -/
def Stocked (p : Server) : Prop :=
  ∀ (i : Nat) (c : Call) (o : Nat) (t : Transport), p.calls[i]? = some c → c.place = .readied o t →
    o < p.inherited ∧ ∃ s, p.handedAt? o = some (.socket s) ∧ s.kind ≠ .unix

/-- Calls fail only since the files of their encryption cannot be loaded at a site. -/
def Intact (sites : Site → Prop) (p : Server) : Prop :=
  ∀ (i : Nat) (c : Call) (fault : Fault), p.calls[i]? = some c → c.place.fault? = some fault →
    ∃ site, sites site ∧ Transport.load site.provider site.files c.options.encryption = .error fault

theorem Intact.unfailed {sites : Site → Prop} {p : Server} {i : Nat} {c : Call} (intact : p.Intact sites)
    (atCall : p.calls[i]? = some c) (loads : c.Loads sites) : c.place.fault? = none := by
  cases failed : c.place.fault? with
  | none => rfl
  | some fault =>
    obtain ⟨site, here, refused⟩ := intact _ _ _ atCall failed
    obtain ⟨t, fits⟩ := loads site here
    rw [Transport.load_eq_ok_iff.2 fits] at refused
    cases refused

/-- In a replacement that serves each address once and is not stopping, a step of a call can fail for one reason only. -/
theorem fault_of_advance {site : Site} {now : Nat} {p q : Server} {i : Nat} {c : Call} {place : CallPlace}
    {addresses : List String} {fault : Fault} (claims : p.Claims) (resuming : p.Resuming addresses)
    (stocked : p.Stocked) (child : p.role = .child) (going : p.stopping = false) (atCall : p.calls[i]? = some c)
    (advance : Advance site now p c place q) (failed : place.fault? = some fault) :
    c.place.fault? = some fault ∨ Transport.load site.provider site.files c.options.encryption = .error fault := by
  cases advance with
  | refuse _ stopping =>
    rw [going] at stopping
    cases stopping
  | repeated atPlace refused => exact absurd refused (resuming.not_repeated atCall atPlace)
  | unready _ refused =>
    cases failed
    exact Or.inr refused
  | unbound _ parent =>
    rw [child] at parent
    cases parent
  | beyond atPlace _ outside =>
    have := (stocked _ _ _ _ atCall atPlace).1
    omega
  | unusable atPlace _ _ useless =>
    obtain ⟨_, s, there, kind⟩ := stocked _ _ _ _ atCall atPlace
    exact absurd (useless s there) kind
  | lose atPlace refused => exact absurd refused (Adopts.not_lose claims atCall atPlace)
  | release atPlace =>
    rw [atPlace]
    exact Or.inl failed
  | _ => cases failed

theorem Intact.move? {sites : Site → Prop} {site : Site} {now : Nat} {p p' : Server} {m : Move}
    {addresses : List String} (intact : p.Intact sites) (here : sites site) (claims : p.Claims)
    (resuming : p.Resuming addresses) (stocked : p.Stocked) (child : p.role = .child) (going : p.stopping = false)
    (run : p.move? site now m = some p') : p'.Intact sites := by
  intro j d fault atOther failed
  rcases move?_cases run with ⟨i, c, place, q, _, atCall, advance, rfl⟩ | ⟨address, options, _, rfl⟩ | ⟨_, same⟩
  · have atCall' : q.calls[i]? = some c := by rw [advance.calls, atCall]
    rcases calls_moveCall_eq_some atCall' atOther with ⟨rfl, rfl⟩ | ⟨_, before⟩
    · rcases fault_of_advance claims resuming stocked child going atCall advance failed with before | refused
      · exact intact i c fault atCall before
      · exact ⟨site, here, refused⟩
    · rw [advance.calls] at before
      exact intact _ _ _ before failed
  · rw [Server.serve, getElem?_append_last] at atOther
    split at atOther
    · cases atOther
      cases failed
    · exact intact _ _ _ atOther failed
  · rw [same.calls] at atOther
    exact intact _ _ _ atOther failed

end Server

end Handover
