import Handover.Proofs.Server.Frame

namespace Handover

namespace CallPlace

/-- The ordinal of the address, from the claim on. -/
def ordinal? : CallPlace → Option Nat
  | reserved o | readied o _ | opened o _ | attached o | started o | completing o | counted o | ready o | serving o
  | abandoning o _ => some o
  | _ => none

/-- The ordinal that is claimed for a service that has not been recorded. -/
def claim? : CallPlace → Option Nat
  | reserved o | readied o _ | opened o _ | abandoning o _ => some o
  | _ => none

/-- The service is recorded, and its adoption has not been counted. -/
def isUncounted : CallPlace → Bool
  | attached _ | started _ => true
  | _ => false

/-- The last adoption is counted, and the parent has not been told. -/
def isCompleting : CallPlace → Bool
  | completing _ => true
  | _ => false

/-- The listener that is open and not recorded. -/
def opened? : CallPlace → Option (Nat × Listener)
  | opened o l => some (o, l)
  | _ => none

/-- The fault that ends the call. -/
def fault? : CallPlace → Option Fault
  | abandoning _ fault => some fault
  | returned fault => fault
  | _ => none

end CallPlace

namespace Server

/-- A call makes a step from its place to another, and the process becomes another but for the place of the call. -/
inductive Advance (site : Site) (now : Nat) (p : Server) (c : Call) : CallPlace → Server → Prop
  | refuse : c.place = .entered → p.stopping = true →
      Advance site now p c (.returned (some .shuttingDown)) (p.record (.returned c.address (some .shuttingDown)))
  | pass : c.place = .entered → p.stopping = false → Advance site now p c .admitted p
  | repeated {fault} : c.place = .admitted → p.registry.reserve c.address = .error fault →
      Advance site now p c (.returned (some fault)) (p.record (.returned c.address (some fault)))
  | claim {o registry} : c.place = .admitted → p.registry.reserve c.address = .ok (o, registry) →
      Advance site now p c (.reserved o) { p with registry }
  | unready {o fault} : c.place = .reserved o →
      Transport.load site.provider site.files c.options.encryption = .error fault →
      Advance site now p c (.abandoning o fault) p
  | ready {o t} : c.place = .reserved o →
      Transport.load site.provider site.files c.options.encryption = .ok t → Advance site now p c (.readied o t) p
  | unbound {o t fault} : c.place = .readied o t → p.role = .parent →
      site.network.bind c.address c.options.family = .error fault → Advance site now p c (.abandoning o fault) p
  | bind {o t endpoint} : c.place = .readied o t → p.role = .parent →
      site.network.bind c.address c.options.family = .ok endpoint →
      Advance site now p c
        (.opened o ((Listener.onHandle ⟨p.table.lowestFree Markers.firstDescriptor,
          { identity := p.nextSocket, endpoint }⟩ c.options.timeouts).through t))
        { p with nextSocket := p.nextSocket + 1 }
  | beyond {o t} : c.place = .readied o t → p.role = .child → p.inherited ≤ o →
      Advance site now p c (.abandoning o (.notInherited c.address o)) p
  | unusable {o t fault handed} : c.place = .readied o t → p.role = .child → o < p.inherited →
      (∀ s, p.handedAt? o = some (.socket s) → s.kind = .unix) → (handed = p.handed ∨ handed = p.handed.set o none) →
      Advance site now p c (.abandoning o fault) { p with handed }
  | adopt {o t s} : c.place = .readied o t → p.role = .child → o < p.inherited →
      p.handedAt? o = some (.socket s) → s.kind ≠ .unix →
      Advance site now p c
        (.opened o ((Listener.onHandle ⟨Markers.firstDescriptor + o, s⟩ c.options.timeouts).through t))
        { p with handed := p.handed.set o none }
  | lose {o l fault} : c.place = .opened o l →
      p.registry.attach o (.onListener c.address c.options l p.settings.drainTimeout) = .error fault →
      Advance site now p c (.returned (some fault)) (p.record (.returned c.address (some fault)))
  | attach {o l registry} : c.place = .opened o l →
      p.registry.attach o (.onListener c.address c.options l p.settings.drainTimeout) = .ok registry →
      Advance site now p c (.attached o) { p with registry }
  | start {o} : c.place = .attached o →
      Advance site now p c (.started o) (p.alter o fun life => (life.start.2, []))
  | count {o} : c.place = .started o → p.role = .parent → Advance site now p c (.counted o) p
  | countAdoption {o} : c.place = .started o → p.role = .child → p.adopted + 1 ≠ p.inherited →
      Advance site now p c (.counted o) { p with adopted := p.adopted + 1 }
  | complete {o} : c.place = .started o → p.role = .child → p.adopted + 1 = p.inherited →
      Advance site now p c (.completing o) { p with adopted := p.adopted + 1 }
  | notify {o} : c.place = .completing o → Advance site now p c (.counted o) p.notifyParent
  | stop {o} : c.place = .counted o → p.stopping = true → Advance site now p c (.ready o) (p.shutdown now o)
  | stay {o} : c.place = .counted o → p.stopping = false → Advance site now p c (.ready o) p
  | run {o} : c.place = .ready o →
      Advance site now p c (.serving o) (p.alter o fun life => (life.run, []))
  | finish {o} : c.place = .serving o → Advance site now p c (.returned none) (p.record (.returned c.address none))
  | release {o fault} : c.place = .abandoning o fault →
      Advance site now p c (.returned (some fault))
        (({ p with registry := p.registry.release o } : Server).record (.returned c.address (some fault)))

theorem adopt_advance {site : Site} {now : Nat} {p : Server} {i : Nat} {c : Call} {o : Nat}
    {t : Transport} (atPlace : c.place = .readied o t) (child : p.role = .child) :
    ∃ place q, Advance site now p c place q ∧ p.adopt i c o t = q.moveCall i place := by
  unfold Server.adopt
  split
  · rename_i inside
    dsimp only
    cases file : p.handedAt? o with
    | none =>
      refine ⟨_, _, .unusable atPlace child inside ?_ (Or.inl rfl), rfl⟩
      intro s there
      rw [file] at there
      cases there
    | some f =>
      cases f with
      | other =>
        refine ⟨_, _, .unusable atPlace child inside ?_ (Or.inl rfl), rfl⟩
        intro s there
        rw [file] at there
        cases there
      | socket s =>
        simp only [Option.bind_some, OpenFile.socket?, Option.isSome_some, if_true, Listener.adopt]
        by_cases kind : s.kind = .unix
        · rw [if_pos kind]
          refine ⟨_, _, .unusable atPlace child inside ?_ (Or.inr rfl), rfl⟩
          intro s' there
          rw [file] at there
          cases there
          exact kind
        · rw [if_neg kind]
          exact ⟨_, _, .adopt atPlace child inside file kind, rfl⟩
  · exact ⟨_, _, .beyond atPlace child (by omega), rfl⟩

theorem claim_advance {site : Site} {now : Nat} {p : Server} {i : Nat} {c : Call} (atPlace : c.place = .admitted) :
    ∃ place q, Advance site now p c place q ∧ p.claim i c = q.moveCall i place := by
  unfold Server.claim
  split
  · rename_i refused
    exact ⟨_, _, .repeated atPlace refused, rfl⟩
  · rename_i reserved
    exact ⟨_, _, .claim atPlace reserved, rfl⟩

theorem ready_advance {site : Site} {now : Nat} {p : Server} {i : Nat} {c : Call} {o : Nat}
    (atPlace : c.place = .reserved o) :
    ∃ place q, Advance site now p c place q ∧ p.ready site i c o = q.moveCall i place := by
  unfold Server.ready
  split
  · rename_i refused
    exact ⟨_, _, .unready atPlace refused, rfl⟩
  · rename_i loaded
    exact ⟨_, _, .ready atPlace loaded, rfl⟩

/-- A process that was not started as a replacement binds a listener of its own. -/
theorem openListener_advance {site : Site} {now : Nat} {p : Server} {i : Nat} {c : Call} {o : Nat}
    {t : Transport} (atPlace : c.place = .readied o t) :
    ∃ place q, Advance site now p c place q ∧ p.openListener site i c o t = q.moveCall i place := by
  unfold Server.openListener
  split
  · rename_i parent
    unfold Server.bind
    split
    · rename_i refused
      exact ⟨_, _, .unbound atPlace parent refused, rfl⟩
    · rename_i bound
      exact ⟨_, _, .bind atPlace parent bound, rfl⟩
  · rename_i child
    exact adopt_advance atPlace child

theorem attach_advance {site : Site} {now : Nat} {p : Server} {i : Nat} {c : Call} {o : Nat} {l : Listener}
    (atPlace : c.place = .opened o l) :
    ∃ place q, Advance site now p c place q ∧ p.attach i c o l = q.moveCall i place := by
  unfold Server.attach
  dsimp only
  split
  · rename_i refused
    exact ⟨_, _, .lose atPlace refused, rfl⟩
  · rename_i attached
    exact ⟨_, _, .attach atPlace attached, rfl⟩

theorem countAdoption_advance {site : Site} {now : Nat} {p : Server} {i : Nat} {c : Call} {o : Nat}
    (atPlace : c.place = .started o) :
    ∃ place q, Advance site now p c place q ∧ p.countAdoption i o = q.moveCall i place := by
  unfold Server.countAdoption
  split
  · rename_i parent
    exact ⟨_, _, .count atPlace parent, rfl⟩
  · rename_i child
    dsimp only
    split
    · rename_i full
      exact ⟨_, _, .complete atPlace child full, rfl⟩
    · rename_i more
      exact ⟨_, _, .countAdoption atPlace child more, rfl⟩

/-- A step of a call is one of these. -/
theorem stepCall?_eq_some {site : Site} {now : Nat} {p p' : Server} {i : Nat}
    (run : p.stepCall? site now i = some p') :
    ∃ c place q, p.calls[i]? = some c ∧ Advance site now p c place q ∧ p' = q.moveCall i place := by
  unfold Server.stepCall? at run
  split at run
  · cases run
  rename_i c atCall
  refine ⟨c, ?_⟩
  suffices ∃ place q, Advance site now p c place q ∧ p' = q.moveCall i place by
    obtain ⟨place, q, advance, same⟩ := this
    exact ⟨place, q, atCall, advance, same⟩
  split at run
  · rename_i atPlace
    cases stopping : p.stopping with
    | true =>
      rw [stopping] at run
      cases run
      exact ⟨_, _, .refuse atPlace stopping, rfl⟩
    | false =>
      rw [stopping] at run
      cases run
      exact ⟨_, _, .pass atPlace stopping, rfl⟩
  · rename_i atPlace
    cases run
    exact claim_advance atPlace
  · rename_i atPlace
    cases run
    exact ready_advance atPlace
  · rename_i atPlace
    cases run
    exact openListener_advance atPlace
  · rename_i atPlace
    cases run
    exact attach_advance atPlace
  · rename_i atPlace
    cases run
    exact ⟨_, _, .start atPlace, rfl⟩
  · rename_i atPlace
    cases run
    exact countAdoption_advance atPlace
  · rename_i atPlace
    cases run
    exact ⟨_, _, .notify atPlace, rfl⟩
  · rename_i atPlace
    cases stopping : p.stopping with
    | true =>
      rw [stopping] at run
      cases run
      exact ⟨_, _, .stop atPlace stopping, rfl⟩
    | false =>
      rw [stopping] at run
      cases run
      exact ⟨_, _, .stay atPlace stopping, rfl⟩
  · rename_i atPlace
    cases run
    exact ⟨_, _, .run atPlace, rfl⟩
  · rename_i atPlace
    split at run
    · cases run
      exact ⟨_, _, .finish atPlace, rfl⟩
    · cases run
  · rename_i atPlace
    cases run
    exact ⟨_, _, .release atPlace, rfl⟩
  · cases run

@[simp] theorem calls_moveCall (p : Server) (i j : Nat) (place : CallPlace) :
    (p.moveCall i place).calls[j]? = if i = j then p.calls[j]?.map ({ · with place }) else p.calls[j]? := by
  rw [moveCall, List.getElem?_modify]
  split
  · rfl
  · cases p.calls[j]? <;> rfl

theorem calls_moveCall_eq_some {p : Server} {i j : Nat} {place : CallPlace} {c d : Call}
    (atCall : p.calls[i]? = some c) (after : (p.moveCall i place).calls[j]? = some d) :
    i = j ∧ d = { c with place } ∨ i ≠ j ∧ p.calls[j]? = some d := by
  rw [calls_moveCall] at after
  split at after
  · rename_i same
    subst same
    rw [atCall] at after
    exact Or.inl ⟨rfl, (Option.some.inj after).symm⟩
  · rename_i other
    exact Or.inr ⟨other, after⟩

theorem moved_moveCall {p q : Server} {i : Nat} {c : Call} (atCall : p.calls[i]? = some c) (calls : q.calls = p.calls)
    (place : CallPlace) : (q.moveCall i place).calls[i]? = some { c with place } := by
  rw [calls_moveCall, if_pos rfl, calls, atCall]
  rfl

theorem countP_moveCall {p q : Server} {i : Nat} {c : Call} (f : CallPlace → Bool) (place : CallPlace)
    (atCall : p.calls[i]? = some c) (calls : q.calls = p.calls) :
    (q.moveCall i place).calls.countP (fun d => f d.place) + (f c.place).toNat =
      p.calls.countP (fun d => f d.place) + (f place).toNat := by
  have counted := countP_modify (p := fun d : Call => f d.place) (f := fun d => { d with place }) atCall
  rw [moveCall, calls]
  cases before : f c.place <;> cases after : f place <;> simp only [before, after] at counted <;> exact counted

theorem Advance.calls {site : Site} {now : Nat} {p q : Server} {c : Call} {place : CallPlace}
    (advance : Advance site now p c place q) : q.calls = p.calls := by
  cases advance with
  | start => exact (Frame.startService p _).calls
  | run => exact (Frame.runService p _).calls
  | stop => exact (Frame.shutdown p now _).calls
  | notify =>
    unfold Server.notifyParent
    split <;> rfl
  | _ => rfl

/-- Of the steps of a call only a claim, its end and the record of a service change what stands in the registry, and
no other step gives the call an ordinal or a claim. -/
theorem Advance.registry_cases {site : Site} {now : Nat} {p q : Server} {c : Call} {place : CallPlace}
    (advance : Advance site now p c place q) :
    (∃ o, c.place = .admitted ∧ place = .reserved o ∧ p.registry.reserve c.address = .ok (o, q.registry)) ∨
      (∃ o l, c.place = .opened o l ∧ place = .attached o ∧
        p.registry.attach o (.onListener c.address c.options l p.settings.drainTimeout) = .ok q.registry) ∨
      (∃ o fault, c.place = .abandoning o fault ∧ place = .returned (some fault) ∧
        q.registry = p.registry.release o) ∨
      p.registry.Aged q.registry ∧ (∀ o, place.ordinal? = some o → c.place.ordinal? = some o) ∧
        ∀ o, place.claim? = some o → c.place.claim? = some o := by
  have same : p.registry.Aged p.registry := .of_slots rfl
  cases advance with
  | claim atPlace reserved => exact Or.inl ⟨_, atPlace, rfl, reserved⟩
  | attach atPlace attached => exact Or.inr (Or.inl ⟨_, _, atPlace, rfl, attached⟩)
  | release atPlace => exact Or.inr (Or.inr (Or.inl ⟨_, _, atPlace, rfl, rfl⟩))
  | start atPlace =>
    refine Or.inr (Or.inr (Or.inr ⟨(Frame.startService p _).registry, ?_, ?_⟩)) <;>
      simp [atPlace, CallPlace.ordinal?, CallPlace.claim?]
  | run atPlace =>
    refine Or.inr (Or.inr (Or.inr ⟨(Frame.runService p _).registry, ?_, ?_⟩)) <;>
      simp [atPlace, CallPlace.ordinal?, CallPlace.claim?]
  | stop atPlace =>
    refine Or.inr (Or.inr (Or.inr ⟨(Frame.shutdown p now _).registry, ?_, ?_⟩)) <;>
      simp [atPlace, CallPlace.ordinal?, CallPlace.claim?]
  | notify atPlace =>
    have told : p.notifyParent.registry = p.registry := by
      unfold notifyParent
      split <;> rfl
    refine Or.inr (Or.inr (Or.inr ⟨by rw [told]; exact same, ?_, ?_⟩)) <;>
      simp [atPlace, CallPlace.ordinal?, CallPlace.claim?]
  | refuse atPlace | pass atPlace | repeated atPlace | unready atPlace | ready atPlace | unbound atPlace
  | bind atPlace | beyond atPlace | unusable atPlace | adopt atPlace | lose atPlace | count atPlace
  | countAdoption atPlace | complete atPlace | stay atPlace | finish atPlace =>
    refine Or.inr (Or.inr (Or.inr ⟨same, ?_, ?_⟩)) <;> simp [atPlace, CallPlace.ordinal?, CallPlace.claim?]

/-- A move is the step of a call, the beginning of a call, or none of what calls do. -/
theorem move?_cases {site : Site} {now : Nat} {p p' : Server} {m : Move} (run : p.move? site now m = some p') :
    (∃ i c place q, m = .call i ∧ p.calls[i]? = some c ∧ Advance site now p c place q ∧ p' = q.moveCall i place) ∨
      (∃ address options, m = .serve address options ∧ p' = p.serve address options) ∨
      (∀ i, m ≠ .call i) ∧ Frame p p' := by
  by_cases call : ∃ i, m = .call i
  · obtain ⟨i, rfl⟩ := call
    obtain ⟨c, place, q, atCall, advance, same⟩ := stepCall?_eq_some run
    exact Or.inl ⟨i, c, place, q, rfl, atCall, advance, same⟩
  · by_cases serve : ∃ address options, m = .serve address options
    · obtain ⟨address, options, rfl⟩ := serve
      exact Or.inr (Or.inl ⟨address, options, rfl, (Option.some.inj run).symm⟩)
    · have noCall : ∀ i, m ≠ .call i := fun i same => call ⟨i, same⟩
      exact Or.inr (Or.inr ⟨noCall, .move? run noCall fun address options same => serve ⟨address, options, same⟩⟩)

/-- A call stays where it is, unless the move is its own step. -/
theorem call_of_move? {site : Site} {now i : Nat} {p p' : Server} {m : Move} {c : Call}
    (run : p.move? site now m = some p') (atCall : p.calls[i]? = some c) :
    p'.calls[i]? = some c ∨ ∃ place q, m = .call i ∧ Advance site now p c place q ∧ p' = q.moveCall i place ∧
      p'.calls[i]? = some { c with place } := by
  rcases move?_cases run with ⟨j, d, place, q, rfl, atOther, advance, rfl⟩ | ⟨address, options, _, rfl⟩ | ⟨_, frame⟩
  · by_cases here : j = i
    · subst here
      rw [atCall] at atOther
      cases atOther
      refine Or.inr ⟨place, q, rfl, advance, rfl, ?_⟩
      rw [calls_moveCall, if_pos rfl, advance.calls, atCall]
      rfl
    · left
      rw [calls_moveCall, if_neg here, advance.calls, atCall]
  · left
    rw [Server.serve, List.getElem?_append_left (List.getElem?_eq_some_iff.1 atCall).1, atCall]
  · exact Or.inl (frame.calls ▸ atCall)

/-- A call was there before, unless it has just begun or come to its place. -/
theorem call_before_move? {site : Site} {now i : Nat} {p p' : Server} {m : Move} {d : Call}
    (run : p.move? site now m = some p') (after : p'.calls[i]? = some d) :
    p.calls[i]? = some d ∨ d.place = .entered ∨
      ∃ c q, m = .call i ∧ p.calls[i]? = some c ∧ Advance site now p c d.place q ∧ p' = q.moveCall i d.place := by
  rcases move?_cases run with ⟨j, c, place, q, rfl, atCall, advance, rfl⟩ | ⟨address, options, _, rfl⟩ | ⟨_, frame⟩
  · have atCall' : q.calls[j]? = some c := by rw [advance.calls, atCall]
    rcases calls_moveCall_eq_some atCall' after with ⟨rfl, rfl⟩ | ⟨_, before⟩
    · exact Or.inr (Or.inr ⟨c, q, rfl, atCall, advance, rfl⟩)
    · exact Or.inl (advance.calls ▸ before)
  · rw [Server.serve, getElem?_append_last] at after
    split at after
    · cases after
      exact Or.inr (Or.inl rfl)
    · exact Or.inl after
  · exact Or.inl (frame.calls ▸ after)

end Server

end Handover
