import Handover.Proofs.Restart.Mapping

namespace Handover

/-- The ordinal whose service is recorded, and whose adoption the call is still to count. -/
def CallPlace.uncounted? : CallPlace → Option Nat
  | attached o | started o => some o
  | _ => none

namespace Server

def isAttached (p : Server) (o : Nat) : Bool := (p.registry.service? o).isSome

/-- A call is still to count the adoption of what stands at the ordinal. -/
def isAwaited (p : Server) (o : Nat) : Bool := p.calls.any fun c => c.place.uncounted? == some o

/-- The adoption of what stands at the ordinal is counted. -/
def isSettled (p : Server) (o : Nat) : Bool := p.isAttached o && !p.isAwaited o

theorem isAwaited_iff {p : Server} {o : Nat} :
    p.isAwaited o = true ↔ ∃ (i : Nat) (c : Call), p.calls[i]? = some c ∧ c.place.uncounted? = some o := by
  rw [isAwaited, List.any_eq_true]
  constructor
  · rintro ⟨c, member, same⟩
    obtain ⟨i, atCall⟩ := List.getElem?_of_mem member
    exact ⟨i, c, atCall, beq_iff_eq.1 same⟩
  · rintro ⟨i, c, atCall, same⟩
    exact ⟨c, List.mem_of_getElem? atCall, beq_iff_eq.2 same⟩

theorem isAttached_frame {p p' : Server} (same : Frame p p') (o : Nat) : p'.isAttached o = p.isAttached o := by
  have later := same.registry.service? o
  rw [isAttached, isAttached, Bool.eq_iff_iff, Option.isSome_iff_ne_none, Option.isSome_iff_ne_none]
  exact not_congr later.eq_none_iff

/-- A step of a call records a service, counts its adoption, or does neither. -/
theorem Advance.count_cases {site : Site} {now : Nat} {p q : Server} {c : Call} {place : CallPlace}
    (advance : Advance site now p c place q) :
    (∃ o l, c.place = .opened o l ∧ place = .attached o ∧ q.adopted = p.adopted ∧
        p.registry.attach o (.onListener c.address c.options l p.settings.drainTimeout) = .ok q.registry) ∨
      (∃ o, c.place = .started o ∧ place.uncounted? = none ∧ q.registry = p.registry ∧
        (p.role = .parent ∧ q.adopted = p.adopted ∨ p.role = .child ∧ q.adopted = p.adopted + 1)) ∨
      place.uncounted? = c.place.uncounted? ∧ (∀ o, c.place ≠ .started o) ∧ q.adopted = p.adopted ∧
        ∀ o, q.isAttached o = p.isAttached o := by
  have framed : ∀ {q : Server}, Frame p q → q.adopted = p.adopted ∧ ∀ o, q.isAttached o = p.isAttached o :=
    fun same => ⟨same.adopted, isAttached_frame same⟩
  cases advance with
  | attach atPlace attached => exact Or.inl ⟨_, _, atPlace, rfl, rfl, attached⟩
  | count atPlace parent => exact Or.inr (Or.inl ⟨_, atPlace, rfl, rfl, Or.inl ⟨parent, rfl⟩⟩)
  | countAdoption atPlace child => exact Or.inr (Or.inl ⟨_, atPlace, rfl, rfl, Or.inr ⟨child, rfl⟩⟩)
  | complete atPlace child => exact Or.inr (Or.inl ⟨_, atPlace, rfl, rfl, Or.inr ⟨child, rfl⟩⟩)
  | start atPlace => exact Or.inr (Or.inr ⟨by rw [atPlace]; rfl, by simp [atPlace], framed (.startService p _)⟩)
  | run atPlace => exact Or.inr (Or.inr ⟨by rw [atPlace]; rfl, by simp [atPlace], framed (.runService p _)⟩)
  | stop atPlace => exact Or.inr (Or.inr ⟨by rw [atPlace]; rfl, by simp [atPlace], framed (.shutdown p now _)⟩)
  | notify atPlace =>
    have same : p.notifyParent.adopted = p.adopted ∧ p.notifyParent.registry = p.registry := by
      unfold notifyParent
      split <;> exact ⟨rfl, rfl⟩
    refine Or.inr (Or.inr ⟨by rw [atPlace]; rfl, by simp [atPlace], same.1, fun o => ?_⟩)
    rw [isAttached, isAttached, same.2]
  | claim atPlace reserved =>
    obtain ⟨_, _, _, _, service, _⟩ := Registry.reserve_eq_ok reserved
    exact Or.inr (Or.inr ⟨by rw [atPlace]; rfl, by simp [atPlace], rfl, fun o => congrArg Option.isSome (service o)⟩)
  | @release o _ atPlace =>
    obtain ⟨_, _, service, _⟩ := p.registry.views_release o
    exact Or.inr (Or.inr ⟨by rw [atPlace]; rfl, by simp [atPlace], rfl, fun o => congrArg Option.isSome (service o)⟩)
  | refuse atPlace | pass atPlace | repeated atPlace | unready atPlace | ready atPlace | unbound atPlace
  | bind atPlace | beyond atPlace | unusable atPlace | adopt atPlace | lose atPlace | stay atPlace | finish atPlace =>
    exact Or.inr (Or.inr ⟨by rw [atPlace]; rfl, by simp [atPlace], rfl, fun o => rfl⟩)

theorem isAwaited_moveCall {p q : Server} {i o : Nat} {c : Call} {place : CallPlace} (atCall : p.calls[i]? = some c)
    (calls : q.calls = p.calls) :
    (q.moveCall i place).isAwaited o = true ↔
      place.uncounted? = some o ∨
        ∃ (j : Nat) (d : Call), i ≠ j ∧ p.calls[j]? = some d ∧ d.place.uncounted? = some o := by
  have atCall' : q.calls[i]? = some c := by rw [calls, atCall]
  rw [isAwaited_iff]
  constructor
  · rintro ⟨j, d, after, same⟩
    rcases calls_moveCall_eq_some atCall' after with ⟨rfl, rfl⟩ | ⟨other, before⟩
    · exact Or.inl same
    · exact Or.inr ⟨j, d, other, calls ▸ before, same⟩
  · rintro (same | ⟨j, d, other, before, same⟩)
    · refine ⟨i, { c with place }, ?_, same⟩
      rw [calls_moveCall, if_pos rfl, atCall']
      rfl
    · refine ⟨j, d, ?_, same⟩
      rw [calls_moveCall, if_neg other, calls, before]

theorem isAwaited_of_same {p q : Server} {i o : Nat} {c : Call} {place : CallPlace} (atCall : p.calls[i]? = some c)
    (calls : q.calls = p.calls) (same : place.uncounted? = some o ↔ c.place.uncounted? = some o) :
    (q.moveCall i place).isAwaited o = p.isAwaited o := by
  rw [Bool.eq_iff_iff, isAwaited_moveCall atCall calls, isAwaited_iff, same]
  constructor
  · rintro (uncounted | ⟨j, d, _, before, uncounted⟩)
    · exact ⟨i, c, atCall, uncounted⟩
    · exact ⟨j, d, before, uncounted⟩
  · rintro ⟨j, d, before, uncounted⟩
    by_cases here : i = j
    · subst here
      rw [atCall] at before
      cases before
      exact Or.inl uncounted
    · exact Or.inr ⟨j, d, here, before, uncounted⟩

theorem Claims.vacant {p : Server} {i o : Nat} {c : Call} {l : Listener} (claims : p.Claims)
    (atCall : p.calls[i]? = some c) (atPlace : c.place = .opened o l) : p.isAttached o = false := by
  rw [isAttached, (claims.claim atCall (o := o) (by rw [atPlace]; rfl)).2]
  rfl

theorem Claims.isAttached_attach {p q : Server} {i o : Nat} {c : Call} {l : Listener} {service : Service}
    (claims : p.Claims) (atCall : p.calls[i]? = some c) (atPlace : c.place = .opened o l)
    (attached : p.registry.attach o service = .ok q.registry) (o' : Nat) :
    q.isAttached o' = (decide (o = o') || p.isAttached o') := by
  obtain ⟨_, _, _, there, _⟩ :=
    Registry.attach_eq_ok attached (claims.address atCall (o := o) (by rw [atPlace]; rfl))
  rw [isAttached, isAttached, there]
  by_cases here : o = o'
  · rw [if_pos here, decide_eq_true here]
    rfl
  · rw [if_neg here, decide_eq_false here, Bool.false_or]

/-- Adoptions are counted one by one, by the calls that have recorded the services. -/
structure Tallied (p : Server) : Prop where
  attached : ∀ {i : Nat} {c : Call} {o : Nat}, p.calls[i]? = some c → c.place.uncounted? = some o →
    p.isAttached o = true
  alone : ∀ {i j : Nat} {c d : Call} {o : Nat}, p.calls[i]? = some c → p.calls[j]? = some d →
    c.place.uncounted? = some o → d.place.uncounted? = some o → i = j
  inside : p.role = .child → ∀ o, p.isAttached o = true → o < p.inherited
  own : p.role = .parent → p.inherited = 0
  count : p.adopted = (List.range p.inherited).countP p.isSettled

namespace Tallied

theorem keep {p p' : Server} (tallied : p.Tallied) (role : p'.role = p.role) (inherited : p'.inherited = p.inherited)
    (adopted : p'.adopted = p.adopted) (attached : ∀ o, p'.isAttached o = p.isAttached o)
    (calls : ∀ {i : Nat} {d : Call} {o : Nat}, p'.calls[i]? = some d → d.place.uncounted? = some o →
      ∃ c, p.calls[i]? = some c ∧ c.place.uncounted? = some o)
    (settled : ∀ o, p'.isSettled o = p.isSettled o) : p'.Tallied where
  attached := by
    intro i d o atCall uncounted
    obtain ⟨c, before, same⟩ := calls atCall uncounted
    exact (attached o).trans (tallied.attached before same)
  alone := by
    intro i j d e o atCall atOther uncounted other
    obtain ⟨c, before, same⟩ := calls atCall uncounted
    obtain ⟨c', before', same'⟩ := calls atOther other
    exact tallied.alone before before' same same'
  inside := by
    intro child o there
    rw [inherited]
    exact tallied.inside (role ▸ child) o (attached o ▸ there)
  own parent := inherited.trans (tallied.own (role ▸ parent))
  count := by
    rw [adopted, inherited, tallied.count]
    exact List.countP_congr fun o _ => by rw [settled]

theorem isSettled_frame {p p' : Server} (same : Frame p p') (o : Nat) : p'.isSettled o = p.isSettled o := by
  rw [isSettled, isSettled, isAttached_frame same, isAwaited, isAwaited, same.calls]

theorem frame {p p' : Server} (tallied : p.Tallied) (same : Frame p p') : p'.Tallied := by
  refine tallied.keep same.role same.inherited same.adopted (isAttached_frame same) ?_ (isSettled_frame same)
  intro i d o atCall uncounted
  rw [same.calls] at atCall
  exact ⟨d, atCall, uncounted⟩

theorem isSettled_serve (p : Server) (address : String) (options : Options) (o : Nat) :
    (p.serve address options).isSettled o = p.isSettled o := by
  have same : (p.serve address options).isAwaited o = p.isAwaited o := by
    rw [isAwaited, Server.serve, List.any_append]
    exact Bool.or_false _
  rw [isSettled, isSettled, same]
  rfl

theorem serve {p : Server} (tallied : p.Tallied) (address : String) (options : Options) :
    (p.serve address options).Tallied := by
  refine tallied.keep rfl rfl rfl (fun _ => rfl) ?_ (isSettled_serve p address options)
  intro i d o atCall uncounted
  rw [Server.serve, getElem?_append_last] at atCall
  split at atCall
  · cases atCall
    cases uncounted
  · exact ⟨d, atCall, uncounted⟩

section

variable {p q : Server} {i : Nat} {c : Call}

theorem isSettled_goOn {place : CallPlace} (atCall : p.calls[i]? = some c) (calls : q.calls = p.calls)
    (service : ∀ o, q.isAttached o = p.isAttached o) (same : place.uncounted? = c.place.uncounted?) (o : Nat) :
    (q.moveCall i place).isSettled o = p.isSettled o := by
  have awaited : (q.moveCall i place).isAwaited o = p.isAwaited o := isAwaited_of_same atCall calls (by rw [same])
  rw [isSettled, isSettled, awaited, ← service]
  rfl

theorem goOn {place : CallPlace} (tallied : p.Tallied) (atCall : p.calls[i]? = some c) (calls : q.calls = p.calls)
    (role : q.role = p.role) (inherited : q.inherited = p.inherited) (adopted : q.adopted = p.adopted)
    (service : ∀ o, q.isAttached o = p.isAttached o) (same : place.uncounted? = c.place.uncounted?) :
    (q.moveCall i place).Tallied := by
  have atCall' : q.calls[i]? = some c := by rw [calls, atCall]
  refine tallied.keep role inherited adopted service ?_ (isSettled_goOn atCall calls service same)
  intro j d o after uncounted
  rcases calls_moveCall_eq_some atCall' after with ⟨rfl, rfl⟩ | ⟨_, before⟩
  · exact ⟨c, atCall, same ▸ uncounted⟩
  · exact ⟨d, calls ▸ before, uncounted⟩

variable {o : Nat}

/-- What is recorded is awaited at first. -/
theorem isSettled_attach (atCall : p.calls[i]? = some c) (before : c.place.uncounted? = none)
    (calls : q.calls = p.calls) (vacant : p.isAttached o = false)
    (service : ∀ o', q.isAttached o' = (decide (o = o') || p.isAttached o')) (o' : Nat) :
    (q.moveCall i (.attached o)).isSettled o' = p.isSettled o' := by
  rw [isSettled, isSettled, show (q.moveCall i (.attached o)).isAttached o' = q.isAttached o' from rfl, service]
  by_cases here : o = o'
  · subst here
    have awaited : (q.moveCall i (.attached o)).isAwaited o = true := (isAwaited_moveCall atCall calls).2 (Or.inl rfl)
    rw [awaited, vacant]
    simp
  · have same : (q.moveCall i (.attached o)).isAwaited o' = p.isAwaited o' := by
      refine isAwaited_of_same atCall calls ?_
      rw [before]
      simp [CallPlace.uncounted?, here]
    rw [same, decide_eq_false here, Bool.false_or]

theorem attach (tallied : p.Tallied) (atCall : p.calls[i]? = some c) (before : c.place.uncounted? = none)
    (calls : q.calls = p.calls) (role : q.role = p.role) (inherited : q.inherited = p.inherited)
    (adopted : q.adopted = p.adopted) (inside : p.role = .child → o < p.inherited) (vacant : p.isAttached o = false)
    (service : ∀ o', q.isAttached o' = (decide (o = o') || p.isAttached o')) :
    (q.moveCall i (.attached o)).Tallied := by
  have atCall' : q.calls[i]? = some c := by rw [calls, atCall]
  have none_ : ∀ {j : Nat} {d : Call}, p.calls[j]? = some d → d.place.uncounted? ≠ some o := by
    intro j d before uncounted
    rw [tallied.attached before uncounted] at vacant
    cases vacant
  refine ⟨?_, ?_, ?_, fun parent => inherited.trans (tallied.own (role ▸ parent)), ?_⟩
  · intro j d o' after uncounted
    rw [show (q.moveCall i (.attached o)).isAttached o' = q.isAttached o' from rfl, service]
    rcases calls_moveCall_eq_some atCall' after with ⟨rfl, rfl⟩ | ⟨_, before⟩
    · cases uncounted
      simp
    · rw [tallied.attached (calls ▸ before) uncounted, Bool.or_true]
  · intro j k d e o' after after' uncounted uncounted'
    rcases calls_moveCall_eq_some atCall' after with ⟨rfl, rfl⟩ | ⟨_, before⟩ <;>
      rcases calls_moveCall_eq_some atCall' after' with ⟨rfl, rfl⟩ | ⟨_, before'⟩
    · rfl
    · cases uncounted
      exact absurd uncounted' (none_ (calls ▸ before'))
    · cases uncounted'
      exact absurd uncounted (none_ (calls ▸ before))
    · exact tallied.alone (calls ▸ before) (calls ▸ before') uncounted uncounted'
  · intro child o' there
    change q.isAttached o' = true at there
    rw [service, Bool.or_eq_true, decide_eq_true_eq] at there
    change o' < q.inherited
    rw [inherited]
    rcases there with rfl | before
    · exact inside (role ▸ child)
    · exact tallied.inside (role ▸ child) o' before
  · change q.adopted = (List.range q.inherited).countP _
    rw [adopted, inherited, tallied.count]
    exact List.countP_congr fun o' _ => by rw [isSettled_attach atCall before calls vacant service]

/-- A call counts what it has recorded, which nobody else is to count. -/
theorem isSettled_count {place : CallPlace} (tallied : p.Tallied) (atCall : p.calls[i]? = some c)
    (atPlace : c.place = .started o) (after : place.uncounted? = none) (calls : q.calls = p.calls)
    (registry : q.registry = p.registry) :
    p.isSettled o = false ∧ ∀ o', (q.moveCall i place).isSettled o' = (decide (o = o') || p.isSettled o') := by
  have uncounted : c.place.uncounted? = some o := by rw [atPlace]; rfl
  have there := tallied.attached atCall uncounted
  have attached : ∀ o', (q.moveCall i place).isAttached o' = p.isAttached o' := by
    intro o'
    change (q.registry.service? o').isSome = _
    rw [registry]
    rfl
  refine ⟨?_, fun o' => ?_⟩
  · rw [isSettled, isAwaited_iff.2 ⟨i, c, atCall, uncounted⟩, Bool.not_true, Bool.and_false]
  by_cases here : o = o'
  · subst here
    have no_longer : (q.moveCall i place).isAwaited o = false := by
      rw [← Bool.not_eq_true, isAwaited_moveCall atCall calls, after]
      rintro (same | ⟨j, d, elsewhere, before, uncounted'⟩)
      · cases same
      · exact elsewhere (tallied.alone atCall before uncounted uncounted')
    rw [isSettled, attached, there, no_longer, decide_eq_true rfl]
    rfl
  · have same : (q.moveCall i place).isAwaited o' = p.isAwaited o' := by
      refine isAwaited_of_same atCall calls ?_
      rw [after, uncounted]
      simp [here]
    rw [isSettled, isSettled, attached, same, decide_eq_false here, Bool.false_or]

theorem countAdoption {place : CallPlace} (tallied : p.Tallied) (atCall : p.calls[i]? = some c)
    (atPlace : c.place = .started o) (after : place.uncounted? = none) (calls : q.calls = p.calls)
    (role : q.role = p.role) (inherited : q.inherited = p.inherited) (registry : q.registry = p.registry)
    (adopted : p.role = .parent ∧ q.adopted = p.adopted ∨ p.role = .child ∧ q.adopted = p.adopted + 1) :
    (q.moveCall i place).Tallied := by
  have atCall' : q.calls[i]? = some c := by rw [calls, atCall]
  have attached : ∀ o', (q.moveCall i place).isAttached o' = p.isAttached o' := by
    intro o'
    change (q.registry.service? o').isSome = _
    rw [registry]
    rfl
  have kept : ∀ {j : Nat} {d : Call} {o' : Nat}, (q.moveCall i place).calls[j]? = some d →
      d.place.uncounted? = some o' → p.calls[j]? = some d := by
    intro j d o' moved uncounted'
    rcases calls_moveCall_eq_some atCall' moved with ⟨rfl, rfl⟩ | ⟨_, before⟩
    · rw [after] at uncounted'
      cases uncounted'
    · exact calls ▸ before
  obtain ⟨off, settled⟩ := tallied.isSettled_count atCall atPlace after calls registry
  refine ⟨?_, ?_, ?_, fun parent => inherited.trans (tallied.own (role ▸ parent)), ?_⟩
  · intro j d o' moved uncounted'
    rw [attached]
    exact tallied.attached (kept moved uncounted') uncounted'
  · intro j k d e o' moved moved' uncounted' uncounted''
    exact tallied.alone (kept moved uncounted') (kept moved' uncounted'') uncounted' uncounted''
  · intro child o' there
    rw [attached] at there
    change o' < q.inherited
    rw [inherited]
    exact tallied.inside (role ▸ child) o' there
  · change q.adopted = (List.range q.inherited).countP _
    rw [inherited]
    rcases adopted with ⟨parent, same⟩ | ⟨child, more⟩
    · rw [same, tallied.count, tallied.own parent]
      rfl
    · have inside := tallied.inside child o (tallied.attached atCall (by rw [atPlace]; rfl))
      rw [more, tallied.count]
      refine (countP_range_of_turn (o := o) inside off ?_ fun o' other => ?_).symm
      · rw [settled, decide_eq_true rfl, Bool.true_or]
      · rw [settled, decide_eq_false (Ne.symm other), Bool.false_or]

end

theorem advance {site : Site} {now : Nat} {p q : Server} {i : Nat} {c : Call} {place : CallPlace} (tallied : p.Tallied)
    (claims : p.Claims) (inside : p.role = .child → ∀ o l, c.place = .opened o l → o < p.inherited)
    (atCall : p.calls[i]? = some c) (advance : Advance site now p c place q) : (q.moveCall i place).Tallied := by
  have calls := advance.calls
  obtain ⟨role, inherited, _⟩ := Onward.fields_of_advance advance
  rcases advance.count_cases with ⟨o, l, atPlace, rfl, adopted, attached⟩ | ⟨o, atPlace, after, registry, adopted⟩ |
    ⟨same, _, adopted, service⟩
  · exact tallied.attach atCall (by rw [atPlace]; rfl) calls role inherited adopted
      (fun child => inside child o l atPlace) (claims.vacant atCall atPlace)
      (claims.isAttached_attach atCall atPlace attached)
  · exact tallied.countAdoption atCall atPlace after calls role inherited registry adopted
  · exact tallied.goOn atCall calls role inherited adopted service same

theorem move? {site : Site} {now : Nat} {p p' : Server} {m : Move} (tallied : p.Tallied) (claims : p.Claims)
    (inside : p.role = .child → ∀ (i : Nat) (c : Call) (o : Nat) (l : Listener), p.calls[i]? = some c →
      c.place = .opened o l → o < p.inherited) (run : p.move? site now m = some p') : p'.Tallied := by
  rcases move?_cases run with ⟨i, c, place, q, _, atCall, advance, rfl⟩ | ⟨address, options, _, rfl⟩ | ⟨_, same⟩
  · exact tallied.advance claims (fun child o l atPlace => inside child i c o l atCall atPlace) atCall advance
  · exact tallied.serve address options
  · exact tallied.frame same

theorem start (markers : Markers) (settings : Settings) (arguments : List OsText)
    (handed : List (Option OpenFile)) (parent nextSocket now : Nat) :
    (Server.start markers settings arguments handed parent nextSocket now).Tallied := by
  have blank := Blank.start markers settings arguments handed parent nextSocket now
  have vacant : ∀ o, (Server.start markers settings arguments handed parent nextSocket now).isAttached o = false := by
    intro o
    rw [isAttached, blank.service]
    rfl
  have adopted : (Server.start markers settings arguments handed parent nextSocket now).adopted = 0 := by
    unfold Server.start
    dsimp only
    split <;> rfl
  have own : (Server.start markers settings arguments handed parent nextSocket now).role = .parent →
      (Server.start markers settings arguments handed parent nextSocket now).inherited = 0 := by
    unfold Server.start
    dsimp only
    split
    · rename_i parent
      intro
      change markers.inheritedCount = 0
      rw [Markers.inheritedCount, parent]
    · rename_i child
      intro parent
      rw [child] at parent
      cases parent
  refine ⟨?_, ?_, ?_, own, ?_⟩
  · intro i c o atCall
    simp [blank.calls] at atCall
  · intro i j c d o atCall
    simp [blank.calls] at atCall
  · intro _ o there
    rw [vacant] at there
    cases there
  · rw [adopted, eq_comm, List.countP_eq_zero]
    intro o _
    rw [isSettled, vacant]
    exact Bool.false_ne_true

/-- What is counted stays counted. -/
theorem settled_of_move? {site : Site} {now : Nat} {p p' : Server} {m : Move} {o : Nat} (tallied : p.Tallied)
    (claims : p.Claims) (run : p.move? site now m = some p') (settled : p.isSettled o = true) :
    p'.isSettled o = true := by
  rcases move?_cases run with ⟨i, c, place, q, _, atCall, advance, rfl⟩ | ⟨address, options, _, rfl⟩ | ⟨_, same⟩
  · rcases advance.count_cases with ⟨o', l, atPlace, rfl, _, attached⟩ | ⟨o', atPlace, after, registry, _⟩ |
      ⟨same, _, _, service⟩
    · rwa [isSettled_attach atCall (by rw [atPlace]; rfl) advance.calls (claims.vacant atCall atPlace)
        (claims.isAttached_attach atCall atPlace attached)]
    · rw [(tallied.isSettled_count atCall atPlace after advance.calls registry).2, settled, Bool.or_true]
    · rwa [isSettled_goOn atCall advance.calls service same]
  · rwa [isSettled_serve]
  · rwa [isSettled_frame same]

end Tallied

/-- The move counts the adoption of what was handed over at the ordinal. -/
def Counts (p : Server) (m : Move) (p' : Server) (o : Nat) : Prop :=
  p'.adopted = p.adopted + 1 ∧ ∃ i c, m = .call i ∧ p.calls[i]? = some c ∧ c.place = .started o

theorem Tallied.counts {site : Site} {now : Nat} {p p' : Server} {m : Move} (tallied : p.Tallied)
    (run : p.move? site now m = some p') :
    p'.adopted = p.adopted ∨ ∃ o, o < p.inherited ∧ Counts p m p' o := by
  rcases move?_cases run with ⟨i, c, place, q, rfl, atCall, advance, rfl⟩ | ⟨address, options, _, rfl⟩ | ⟨_, same⟩
  · rcases advance.count_cases with ⟨_, _, _, _, same, _⟩ | ⟨o, atPlace, _, _, ⟨_, same⟩ | ⟨child, more⟩⟩ |
      ⟨_, _, same, _⟩
    · exact Or.inl same
    · exact Or.inl same
    · exact Or.inr ⟨o, tallied.inside child o (tallied.attached atCall (by rw [atPlace]; rfl)), more, i, c, rfl, atCall,
        atPlace⟩
    · exact Or.inl same
  · exact Or.inl rfl
  · exact Or.inl same.adopted

/-- What a move counts was not counted before, and is afterwards. -/
theorem Counts.turns {site : Site} {now : Nat} {p p' : Server} {m : Move} {o : Nat} (counts : Counts p m p' o)
    (tallied : p.Tallied) (run : p.move? site now m = some p') : p'.isSettled o = true := by
  obtain ⟨_, i, c, rfl, atCall, atPlace⟩ := counts
  obtain ⟨c', place, q, atCall', advance, rfl⟩ := stepCall?_eq_some run
  rw [atCall] at atCall'
  cases atCall'
  rcases advance.count_cases with ⟨_, _, other, _⟩ | ⟨o', atPlace', after, registry, _⟩ | ⟨_, elsewhere, _⟩
  · rw [atPlace] at other
    cases other
  · rw [atPlace] at atPlace'
    cases atPlace'
    rw [(tallied.isSettled_count atCall atPlace after advance.calls registry).2, decide_eq_true rfl, Bool.true_or]
  · exact absurd atPlace (elsewhere o)

theorem Counts.unsettled {p p' : Server} {m : Move} {o : Nat} (counts : Counts p m p' o) : p.isSettled o = false := by
  obtain ⟨_, i, c, _, atCall, atPlace⟩ := counts
  rw [isSettled, isAwaited_iff.2 ⟨i, c, atCall, by rw [atPlace]; rfl⟩, Bool.not_true, Bool.and_false]

theorem Tallied.count_attached {p : Server} (tallied : p.Tallied) (ordinals : List Nat) :
    ordinals.countP p.isSettled + ordinals.countP p.isAwaited = ordinals.countP p.isAttached := by
  have attached : ∀ o, p.isAwaited o = true → p.isAttached o = true := by
    intro o awaited
    obtain ⟨i, c, atCall, uncounted⟩ := isAwaited_iff.1 awaited
    exact tallied.attached atCall uncounted
  induction ordinals with
  | nil => rfl
  | cons o rest ih =>
    have this := attached o
    rw [List.countP_cons, List.countP_cons, List.countP_cons, isSettled, ← ih]
    cases awaited : p.isAwaited o with
    | true =>
      rw [this awaited]
      simp only [Bool.not_true, Bool.and_false, Bool.false_eq_true, ↓reduceIte]
      omega
    | false =>
      simp only [Bool.not_false, Bool.and_true, Bool.false_eq_true, ↓reduceIte]
      omega

theorem Advance.completing {site : Site} {now o : Nat} {p q : Server} {c : Call} {place : CallPlace}
    (advance : Advance site now p c place q) (atPlace : place = .completing o) :
    c.place = .started o ∧ q.adopted = p.adopted + 1 ∧ q.adopted = q.inherited := by
  cases advance with
  | complete started _ full =>
    cases atPlace
    exact ⟨started, rfl, full⟩
  | _ => cases atPlace

section

variable {markers : Markers} {settings : Settings} {arguments : List OsText} {files : List (Option OpenFile)}
  {parent nextSocket start : Nat} {p : Server}

theorem start_role (markers : Markers) (settings : Settings) (arguments : List OsText) (files : List (Option OpenFile))
    (parent nextSocket start : Nat) :
    (Server.start markers settings arguments files parent nextSocket start).role = markers.role := by
  unfold Server.start
  dsimp only
  split <;> rfl

theorem Run.adopts_of_child {may : Server → Site → Move → Prop}
    (run : Run may (Server.start markers settings arguments files parent nextSocket start) p)
    (child : p.role = .child) : p.Adopts files := by
  have claims := Claims.start markers settings arguments files parent nextSocket start
  obtain ⟨graceful, order⟩ := markers
  cases graceful with
  | true => exact run.adopts claims (.start order settings arguments parent nextSocket start)
  | false =>
    rw [(run.onward claims).role] at child
    cases child

theorem Run.tallied {may : Server → Site → Move → Prop}
    (run : Run may (Server.start markers settings arguments files parent nextSocket start) p) : p.Tallied := by
  induction run with
  | start => exact .start _ _ _ _ _ _ _
  | next earlier _ move ih =>
    refine ih.move? (earlier.claims (.start _ _ _ _ _ _ _)) (fun child i c o l atCall atPlace => ?_) move
    exact ((earlier.adopts_of_child child).opened atCall atPlace).1.inside

theorem Run.settled {may : Server → Site → Move → Prop} {q : Server} {o : Nat} (run : Run may p q) (claims : p.Claims)
    (tallied : ∀ {q}, Run may p q → q.Tallied) (settled : p.isSettled o = true) : q.isSettled o = true := by
  induction run with
  | start => exact settled
  | next earlier _ move ih => exact (tallied earlier).settled_of_move? (earlier.claims claims) move ih

/-- On the way a call has brought the counter to the number of what was handed over. -/
def CompletedBy (first : Server) (i : Nat) (p : Server) : Prop :=
  ∃ o q q', Reach first q ∧ (∃ site now, q.move? site now (.call i) = some q') ∧ Counts q (.call i) q' o ∧
    q'.adopted = q'.inherited ∧ Reach q' p

theorem CompletedBy.next {first q : Server} {i : Nat} (completed : CompletedBy first i p) {site : Site} {now : Nat}
    {m : Move} (move : p.move? site now m = some q) : CompletedBy first i q := by
  obtain ⟨o, before, after, first, step, counts, full, later⟩ := completed
  exact ⟨o, before, after, first, step, counts, full, later.next trivial move⟩

/-- A call that is about to tell the parent was the one that counted the last adoption. -/
theorem Run.completed {first : Server} {i o : Nat} {c : Call} (run : Reach first p) (blank : first.calls = [])
    (atCall : p.calls[i]? = some c) (atPlace : c.place = .completing o) : CompletedBy first i p := by
  induction run generalizing c with
  | start =>
    rw [blank] at atCall
    cases atCall
  | @next p p' site now m earlier allowed move ih =>
    rcases move?_cases move with ⟨j, d, place, q, rfl, atOther, advance, rfl⟩ | ⟨address, options, _, rfl⟩ | ⟨_, same⟩
    · rcases calls_moveCall_eq_some (by rw [advance.calls, atOther]) atCall with ⟨rfl, rfl⟩ | ⟨_, kept⟩
      · obtain ⟨started, more, full⟩ := advance.completing atPlace
        exact ⟨o, p, _, earlier, ⟨site, now, move⟩, ⟨more, j, d, rfl, atOther, started⟩, full, .start⟩
      · exact (ih (advance.calls ▸ kept) atPlace).next move
    · rw [Server.serve, getElem?_append_last] at atCall
      split at atCall
      · cases atCall
        cases atPlace
      · exact (ih atCall atPlace).next move
    · exact (ih (same.calls ▸ atCall) atPlace).next move

/-- Only a call that has counted the last adoption tells the parent. -/
theorem completing_of_telling {site : Site} {now : Nat} {p' : Server} {m : Move} (run : p.move? site now m = some p')
    (telling : p'.notifications ≠ p.notifications) :
    ∃ i c o, m = .call i ∧ p.calls[i]? = some c ∧ c.place = .completing o := by
  rcases hushed_of_move? run with hushed | ⟨i, c, o, _, same, atCall, atPlace, _⟩
  · exact absurd hushed.notifications telling
  · exact ⟨i, c, o, same, atCall, atPlace⟩

/-- A process that was not started as a replacement adopts nothing and tells nobody. -/
theorem Run.untold (run : Reach (Server.start markers settings arguments files parent nextSocket start) p)
    (own : markers.graceful = false) : p.adopted = 0 ∧ p.notifications = 0 := by
  have role : (Server.start markers settings arguments files parent nextSocket start).role = .parent := by
    rw [start_role, Markers.role, own]
    rfl
  have none_ : ∀ {p}, Reach (Server.start markers settings arguments files parent nextSocket start) p →
      p.adopted = 0 := by
    intro p run
    have tallied := run.tallied
    rw [tallied.count, tallied.own ((run.onward (.start _ _ _ _ _ _ _)).role.trans role)]
    rfl
  refine ⟨none_ run, ?_⟩
  induction run with
  | start => exact (Blank.start _ _ _ _ _ _ _).notifications
  | @next p p' site now m earlier _ move ih =>
    by_cases same : p'.notifications = p.notifications
    · exact same.trans ih
    · obtain ⟨i, c, o, _, atCall, atPlace⟩ := completing_of_telling move same
      obtain ⟨_, q, q', first, ⟨site, now, step⟩, ⟨more, _⟩, _⟩ :=
        earlier.completed (Blank.start _ _ _ _ _ _ _).calls atCall atPlace
      rw [none_ (first.next trivial step)] at more
      cases more

end

/-- What holds of the counter of a process, and of telling the parent, at any point of a run. -/
structure Counted (first p : Server) : Prop where
  count : p.adopted + (List.range p.inherited).countP p.isAwaited = (List.range p.inherited).countP p.isAttached
  bound : p.adopted ≤ p.inherited
  single : ∀ site now m p', p.move? site now m = some p' →
    p'.adopted = p.adopted ∨ ∃ o, o < p.inherited ∧ Counts p m p' o
  once : ∀ site now m p' o, p.move? site now m = some p' → Counts p m p' o →
    ∀ q m' q', Reach p' q → ¬ Counts q m' q' o
  told : p.notifications ≤ 1
  teller : ∀ site now m p', p.move? site now m = some p' → p'.notifications ≠ p.notifications →
    ∃ i, m = .call i ∧ CompletedBy first i p
  due : p.role = .child →
    p.notifications + p.calls.countP (·.place.isCompleting) = if p.adopted = p.inherited then 1 else 0
  heard : p.tellings = if 1 < p.parent then p.notifications else 0

/-- Adoptions are counted exactly, and the last one is followed by telling the parent. -/
theorem adoptions_counted {markers : Markers} {settings : Settings} {arguments : List OsText}
    {files : List (Option OpenFile)} {parent nextSocket start : Nat} {p : Server}
    (run : Reach (Server.start markers settings arguments files parent nextSocket start) p) :
    Counted (Server.start markers settings arguments files parent nextSocket start) p ∧
      (markers.graceful = false → p.notifications = 0) := by
  have tallied := run.tallied
  have claims := run.claims (.start _ _ _ _ _ _ _)
  have heard := (run.notifies (.start _ _ _ _ _ _ _)).tellings
  refine ⟨⟨?count, ?bound, ?single, ?once, ?told, ?teller, ?due, heard⟩, fun own => (run.untold own).2⟩
  case count =>
    rw [tallied.count]
    exact tallied.count_attached _
  case bound =>
    rw [tallied.count]
    exact Nat.le_trans List.countP_le_length (Nat.le_of_eq List.length_range)
  case single => exact fun site now m p' move => tallied.counts move
  case once =>
    intro site now m p' o move counts q m' q' later again
    -- What was counted is settled from then on, while a call that counts still awaits what it counts.
    have settled : q.isSettled o = true := by
      exact later.settled (claims.move? move) (fun later => ((run.next trivial move).trans later).tallied)
        (counts.turns tallied move)
    rw [again.unsettled] at settled
    cases settled
  case told =>
    cases own : markers.graceful with
    | false =>
      rw [(run.untold own).2]
      omega
    | true =>
      have child : p.role = .child := by
        rw [(run.onward (.start _ _ _ _ _ _ _)).role, start_role, Markers.role, if_pos own]
      have told := (run.adopts_of_child child).told
      split at told <;> omega
  case teller =>
    intro site now m p' move telling
    obtain ⟨i, c, o, same, atCall, atPlace⟩ := completing_of_telling move telling
    exact ⟨i, same, run.completed (Blank.start _ _ _ _ _ _ _).calls atCall atPlace⟩
  case due => exact fun child => (run.adopts_of_child child).told

end Server

namespace Sample

/-- A replacement to which two listeners were handed over. -/
def heir : Server :=
  Server.start (.inherited ["127.0.0.1:80", "127.0.0.1:81"]) .standard []
    [some (.socket { identity := 5, endpoint := ⟨.v4 127 0 0 1, 80⟩ }),
      some (.socket { identity := 6, endpoint := ⟨.v4 127 0 0 1, 81⟩ })] 7 9 0

/-- It is called for both, and for a third that was not handed over; the first is counted, the second is recorded. -/
def overlapping : List Move :=
  [.serve "127.0.0.1:80" {}, .serve "127.0.0.1:81" {}, .serve "127.0.0.1:82" {}] ++ List.replicate 7 (.call 0) ++
    List.replicate 5 (.call 2) ++ List.replicate 5 (.call 1)

end Sample

/-- Two overlapping calls adopt two listeners, and the second tells the parent. -/
theorem overlapping_adoptions_counted :
    ∃ p q, Server.Reach Sample.heir p ∧ p.adopted = 1 ∧ p.isAwaited 1 = true ∧ Server.Reach p q ∧ q.adopted = 2 ∧
      q.tellings = 1 ∧ Server.Counted Sample.heir p ∧ Server.Counted Sample.heir q := by
  have first : Server.Reach Sample.heir (Sample.after Sample.heir Sample.overlapping) :=
    Server.Run.start.moves Sample.site 0 Sample.overlapping rfl
  have second : Server.Reach (Sample.after Sample.heir Sample.overlapping)
      (Sample.after (Sample.after Sample.heir Sample.overlapping) (List.replicate 3 (.call 1))) :=
    Server.Run.start.moves Sample.site 0 (List.replicate 3 (.call 1)) rfl
  exact ⟨_, _, first, rfl, rfl, second, rfl, rfl, (Server.adoptions_counted first).1,
    (Server.adoptions_counted (first.trans second)).1⟩

end Handover
