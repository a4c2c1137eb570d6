import Handover.Proofs.Server.Onward

namespace Handover.Server

/-- A listener of a replacement is what was handed over at its ordinal. -/
structure IsHanded (files : List (Option OpenFile)) (inherited o : Nat) (l : Listener) : Prop where
  inside : o < inherited
  file : files[o]?.join = some (.socket l.socket)
  kind : l.socket.kind ≠ .unix
  descriptor : l.descriptor = some (Markers.firstDescriptor + o) ∨ l.descriptor = none

theorem IsHanded.handle? {files : List (Option OpenFile)} {inherited o : Nat} {l : Listener}
    (handed : IsHanded files inherited o l) (opened : l.isClosed = false) :
    l.handle? = some ⟨Markers.firstDescriptor + o, l.socket⟩ := by
  rcases handed.descriptor with same | closed
  · rw [Listener.handle?, same]
    rfl
  · rw [Listener.isClosed, closed] at opened
    cases opened

theorem IsHanded.later {files : List (Option OpenFile)} {inherited o : Nat} {l l' : Listener}
    (handed : IsHanded files inherited o l) (later : l.Later l') : IsHanded files inherited o l' := by
  refine ⟨handed.inside, later.socket ▸ handed.file, later.socket ▸ handed.kind, ?_⟩
  rcases later.descriptor with same | closed
  · rw [same]
    exact handed.descriptor
  · exact Or.inr closed

/-- A call or a service has the listener of an ordinal. -/
def Has (p : Server) (o : Nat) : Prop :=
  (∃ (i : Nat) (c : Call) (l : Listener), p.calls[i]? = some c ∧ c.place = .opened o l) ∨
    ∃ s, p.registry.service? o = some s

theorem Has.moveCall {p q : Server} {i o : Nat} {c : Call} (has : p.Has o) (place : CallPlace)
    (atCall : p.calls[i]? = some c) (calls : q.calls = p.calls)
    (service : ∀ s, p.registry.service? o = some s → ∃ s', q.registry.service? o = some s')
    (other : ∀ l, c.place ≠ .opened o l) : (q.moveCall i place).Has o := by
  rcases has with ⟨j, d, l, atOther, place'⟩ | ⟨s, there⟩
  · left
    refine ⟨j, d, l, ?_, place'⟩
    rw [calls_moveCall, if_neg ?_, calls]
    · exact atOther
    · rintro rfl
      rw [atCall] at atOther
      cases atOther
      exact other l place'
  · exact Or.inr (service s there)

/-- A replacement that was handed `files`. -/
structure Adopts (files : List (Option OpenFile)) (p : Server) : Prop where
  child : p.role = .child
  positive : 0 < p.inherited
  handed : ∀ {o : Nat} {f : OpenFile}, p.handedAt? o = some f → files[o]?.join = some f
  opened : ∀ {i : Nat} {c : Call} {o : Nat} {l : Listener}, p.calls[i]? = some c → c.place = .opened o l →
    IsHanded files p.inherited o l ∧ l.isClosed = false
  served : ∀ {o : Nat} {s : Service}, p.registry.service? o = some s →
    IsHanded files p.inherited o s.life.listener
  left : ∀ {o : Nat} {s : Socket}, files[o]?.join = some (.socket s) → s.kind ≠ .unix →
    p.handedAt? o = some (.socket s) ∨ p.Has o
  count : p.adopted + p.calls.countP (·.place.isUncounted) = p.registry.served
  told : p.notifications + p.calls.countP (·.place.isCompleting) = if p.adopted = p.inherited then 1 else 0

namespace Adopts

variable {files : List (Option OpenFile)}

theorem served_le {p : Server} (adopts : p.Adopts files) :
    p.registry.served ≤ p.inherited ∧
      (p.registry.served = p.inherited → ∀ o, o < p.inherited → ∃ s, p.registry.service? o = some s) := by
  refine Registry.served_le ?_
  intro o outside
  cases there : p.registry.service? o with
  | none => rfl
  | some s =>
    have := (adopts.served there).inside
    omega

/-- When the parent is told, everything that was handed over is served. -/
theorem served_of_told {p : Server} (adopts : p.Adopts files) (told : 0 < p.notifications) {o : Nat}
    (inside : o < p.inherited) : ∃ s, p.registry.service? o = some s := by
  have balance := adopts.told
  have full : p.adopted = p.inherited := by
    by_cases full : p.adopted = p.inherited
    · exact full
    · rw [if_neg full] at balance
      omega
  have count := adopts.count
  obtain ⟨most, all⟩ := adopts.served_le
  exact all (by omega) o inside

/-- Nothing is adopted, counted or told. -/
theorem keep {p p' : Server} (adopts : p.Adopts files) (role : p'.role = p.role) (inherited : p'.inherited = p.inherited)
    (handed : p'.handed = p.handed)
    (opened : ∀ {i : Nat} {o : Nat} {l : Listener}, (∃ d, p'.calls[i]? = some d ∧ d.place = .opened o l) ↔
      ∃ c, p.calls[i]? = some c ∧ c.place = .opened o l)
    (service : ∀ o, Service.Later (p.registry.service? o) (p'.registry.service? o))
    (served : p'.registry.served = p.registry.served) (adopted : p'.adopted = p.adopted)
    (uncounted : p'.calls.countP (·.place.isUncounted) = p.calls.countP (·.place.isUncounted))
    (completing : p'.calls.countP (·.place.isCompleting) = p.calls.countP (·.place.isCompleting))
    (notifications : p'.notifications = p.notifications) : p'.Adopts files where
  child := role.trans adopts.child
  positive := by
    rw [inherited]
    exact adopts.positive
  handed := by
    intro o f there
    rw [handedAt?, handed] at there
    exact adopts.handed there
  opened := by
    intro i d o l atCall place
    obtain ⟨c, before, place'⟩ := opened.1 ⟨d, atCall, place⟩
    rw [inherited]
    exact adopts.opened before place'
  served := by
    intro o s there
    have later := service o
    rw [there] at later
    obtain ⟨s', before, _, listener⟩ := later.of_some_right
    rw [inherited]
    exact (adopts.served before).later listener
  left := by
    intro o s file kind
    rcases adopts.left file kind with there | ⟨i, c, l, atCall, place⟩ | ⟨s', there⟩
    · left
      rw [handedAt?, handed]
      exact there
    · obtain ⟨d, after, place'⟩ := opened.2 ⟨c, atCall, place⟩
      exact Or.inr (Or.inl ⟨i, d, l, after, place'⟩)
    · have later := service o
      rw [there] at later
      obtain ⟨s'', after, _⟩ := later.of_some
      exact Or.inr (Or.inr ⟨s'', after⟩)
  count := by
    rw [adopted, uncounted, served]
    exact adopts.count
  told := by
    rw [notifications, completing, adopted, inherited]
    exact adopts.told

theorem frame {p p' : Server} (adopts : p.Adopts files) (same : Frame p p') : p'.Adopts files := by
  refine adopts.keep same.role same.inherited same.handed ?_ same.registry.service? same.registry.served same.adopted
    ?_ ?_ same.notifications <;> simp [same.calls]

theorem serve {p : Server} (adopts : p.Adopts files) (address : String) (options : Options) :
    (p.serve address options).Adopts files := by
  refine adopts.keep rfl rfl rfl ?_ (fun o => .refl _) rfl rfl ?_ ?_ rfl
  · intro i o l
    simp only [Server.serve, getElem?_append_last]
    constructor
    · rintro ⟨d, atCall, place⟩
      split at atCall
      · cases atCall
        cases place
      · exact ⟨d, atCall, place⟩
    · rintro ⟨c, atCall, place⟩
      refine ⟨c, ?_, place⟩
      rw [if_neg ?_]
      · exact atCall
      · rintro rfl
        simp at atCall
  · simp [Server.serve, CallPlace.isUncounted]
  · simp [Server.serve, CallPlace.isCompleting]

/-- A call goes on without opening a listener, recording a service or counting an adoption. -/
theorem keepCall {p q : Server} {i : Nat} {c : Call} {place : CallPlace} (adopts : p.Adopts files)
    (atCall : p.calls[i]? = some c) (calls : q.calls = p.calls) (role : q.role = p.role)
    (inherited : q.inherited = p.inherited) (handed : q.handed = p.handed)
    (before : c.place.opened? = none) (after : place.opened? = none)
    (service : ∀ o, Service.Later (p.registry.service? o) (q.registry.service? o))
    (served : q.registry.served = p.registry.served) (adopted : q.adopted = p.adopted)
    (uncounted : place.isUncounted = c.place.isUncounted) (completing : place.isCompleting = c.place.isCompleting)
    (notifications : q.notifications = p.notifications) : (q.moveCall i place).Adopts files := by
  have counting : ∀ f : CallPlace → Bool, f place = f c.place →
      (q.moveCall i place).calls.countP (fun d => f d.place) = p.calls.countP fun d => f d.place := by
    intro f same
    have counted := countP_moveCall f place atCall calls
    rw [same] at counted
    exact Nat.add_right_cancel counted
  refine adopts.keep role inherited handed ?_ service served adopted (counting _ uncounted) (counting _ completing)
    notifications
  intro j o l
  rw [calls_moveCall, calls]
  split
  · rename_i same
    subst same
    rw [atCall]
    constructor
    · rintro ⟨d, same, place'⟩
      cases same
      simp only at place'
      rw [place'] at after
      cases after
    · rintro ⟨d, same, place'⟩
      cases same
      rw [place'] at before
      cases before
  · exact Iff.rfl

/-- What was handed over at the ordinal of a call is taken by it; if it is no socket with an endpoint it may be lost. -/
theorem unusable {p : Server} {i o : Nat} {c : Call} {t : Transport} {fault : Fault} {handed : List (Option OpenFile)}
    (adopts : p.Adopts files) (atCall : p.calls[i]? = some c) (atPlace : c.place = .readied o t)
    (useless : ∀ s, p.handedAt? o = some (.socket s) → s.kind = .unix)
    (taken : handed = p.handed ∨ handed = p.handed.set o none) :
    (({ p with handed } : Server).moveCall i (.abandoning o fault)).Adopts files := by
  have kept : (p.moveCall i (.abandoning o fault)).Adopts files :=
    adopts.keepCall atCall rfl rfl rfl rfl (by rw [atPlace]; rfl) rfl (fun _ => .refl _) rfl rfl
      (by rw [atPlace]; rfl) (by rw [atPlace]; rfl) rfl
  rcases taken with rfl | rfl
  · exact kept
  have elsewhere : ∀ o', o ≠ o' → (p.handed.set o none)[o']?.join = p.handedAt? o' := by
    intro o' other
    rw [List.getElem?_set_ne other, handedAt?]
  refine ⟨kept.child, kept.positive, ?_, kept.opened, kept.served, ?_, kept.count, kept.told⟩
  · intro o' f there
    by_cases same : o = o'
    · subst same
      simp [handedAt?, moveCall, List.getElem?_set] at there
      split at there <;> simp at there
    · exact adopts.handed ((elsewhere o' same).symm.trans there)
  · intro o' s file kind
    rcases kept.left file kind with there | has
    · by_cases same : o = o'
      · subst same
        exact absurd (useless s there) kind
      · exact Or.inl ((elsewhere o' same).trans there)
    · exact Or.inr has

theorem adopt {p : Server} {i o : Nat} {c : Call} {t : Transport} {l : Listener} (adopts : p.Adopts files)
    (atCall : p.calls[i]? = some c) (atPlace : c.place = .readied o t) (handed : IsHanded files p.inherited o l)
    (opened : l.isClosed = false) :
    (({ p with handed := p.handed.set o none } : Server).moveCall i (.opened o l)).Adopts files := by
  have elsewhere : ∀ o', o ≠ o' → (p.handed.set o none)[o']?.join = p.handedAt? o' := by
    intro o' other
    rw [List.getElem?_set_ne other, handedAt?]
  have notOpened : ∀ o' l, c.place ≠ .opened o' l := by
    intro o' l place
    rw [atPlace] at place
    cases place
  refine ⟨adopts.child, adopts.positive, ?_, ?_, adopts.served, ?_, ?_, ?_⟩
  · intro o' f there'
    by_cases same : o = o'
    · subst same
      simp [handedAt?, moveCall, List.getElem?_set] at there'
      split at there' <;> simp at there'
    · exact adopts.handed ((elsewhere o' same).symm.trans there')
  · intro j d o' l atOther place
    rcases calls_moveCall_eq_some (by exact atCall) atOther with ⟨rfl, rfl⟩ | ⟨_, before⟩
    · cases place
      exact ⟨handed, opened⟩
    · exact adopts.opened before place
  · intro o' s' file kind'
    by_cases same : o = o'
    · subst same
      right; left
      refine ⟨i, { c with place := .opened o l }, _, ?_, rfl⟩
      rw [calls_moveCall, if_pos rfl, atCall]
      rfl
    · rcases adopts.left file kind' with there' | has
      · exact Or.inl ((elsewhere o' same).trans there')
      · exact Or.inr (has.moveCall _ atCall rfl (fun s there => ⟨s, there⟩) (notOpened o'))
  · have counted := countP_moveCall CallPlace.isUncounted (.opened o l) atCall
      (q := { p with handed := p.handed.set o none }) rfl
    rw [atPlace] at counted
    exact (congrArg (p.adopted + ·) counted).trans adopts.count
  · have counted := countP_moveCall CallPlace.isCompleting (.opened o l) atCall
      (q := { p with handed := p.handed.set o none }) rfl
    rw [atPlace] at counted
    exact (congrArg (p.notifications + ·) counted).trans adopts.told

theorem attach {p : Server} {i o : Nat} {c : Call} {l : Listener} {registry : Registry Service}
    {drain : Option Span} (adopts : p.Adopts files) (claims : p.Claims) (atCall : p.calls[i]? = some c)
    (atPlace : c.place = .opened o l)
    (attached : p.registry.attach o (.onListener c.address c.options l drain) = .ok registry) :
    (({ p with registry } : Server).moveCall i (.attached o)).Adopts files := by
  have named := claims.address atCall (o := o) (by rw [atPlace]; rfl)
  obtain ⟨_, _, _, service, served, _⟩ := Registry.attach_eq_ok attached named
  have handed := (adopts.opened atCall atPlace).1
  refine ⟨adopts.child, adopts.positive, adopts.handed, ?_, ?_, ?_, ?_, ?_⟩
  · intro j d o' l' atOther place
    rcases calls_moveCall_eq_some (by exact atCall) atOther with ⟨rfl, rfl⟩ | ⟨_, before⟩
    · cases place
    · exact adopts.opened before place
  · intro o' s there
    simp only [moveCall, service] at there
    split at there
    · rename_i same
      subst same
      cases there
      exact handed
    · exact adopts.served there
  · intro o' s file kind
    by_cases same : o = o'
    · subst same
      right; right
      exact ⟨_, by simp only [moveCall, service, if_true]; rfl⟩
    · rcases adopts.left file kind with there | has
      · exact Or.inl there
      · right
        refine has.moveCall _ atCall rfl (fun s' there => ⟨s', ?_⟩) ?_
        · simp only [service, if_neg same, there]
        · intro l' place
          rw [atPlace] at place
          cases place
          exact same rfl
  · have counted := countP_moveCall CallPlace.isUncounted (.attached o) atCall (q := { p with registry }) rfl
    rw [atPlace] at counted
    change _ + 0 = _ + 1 at counted
    have before := adopts.count
    change p.adopted + _ = registry.served
    omega
  · have counted := countP_moveCall CallPlace.isCompleting (.attached o) atCall (q := { p with registry }) rfl
    rw [atPlace] at counted
    exact (congrArg (p.notifications + ·) counted).trans adopts.told

/-- An adoption is counted, and the last one is to be followed by telling the parent. -/
theorem countAdoption {p : Server} {i o : Nat} {c : Call} {place : CallPlace} (adopts : p.Adopts files)
    (atCall : p.calls[i]? = some c) (atPlace : c.place = .started o)
    (next : place = if p.adopted + 1 = p.inherited then .completing o else .counted o) :
    (({ p with adopted := p.adopted + 1 } : Server).moveCall i place).Adopts files := by
  have noLonger : place.isUncounted = false ∧ place.opened? = none ∧
      place.isCompleting = decide (p.adopted + 1 = p.inherited) := by
    by_cases full : p.adopted + 1 = p.inherited
    · rw [if_pos full] at next
      rw [next]
      exact ⟨rfl, rfl, (decide_eq_true full).symm⟩
    · rw [if_neg full] at next
      rw [next]
      exact ⟨rfl, rfl, (decide_eq_false full).symm⟩
  obtain ⟨counted, opened, last⟩ := noLonger
  have uncounted := countP_moveCall CallPlace.isUncounted place atCall (q := { p with adopted := p.adopted + 1 }) rfl
  have completing := countP_moveCall CallPlace.isCompleting place atCall (q := { p with adopted := p.adopted + 1 }) rfl
  rw [atPlace, counted] at uncounted
  rw [atPlace, last] at completing
  change _ + 1 = _ + 0 at uncounted
  change _ + 0 = _ at completing
  have count := adopts.count
  have told := adopts.told
  have bound := adopts.served_le.1
  refine ⟨adopts.child, adopts.positive, adopts.handed, ?_, adopts.served, ?_, ?_, ?_⟩
  · intro j d o' l atOther place'
    rcases calls_moveCall_eq_some (by exact atCall) atOther with ⟨rfl, rfl⟩ | ⟨_, before⟩
    · simp only at place'
      rw [place'] at opened
      cases opened
    · exact adopts.opened before place'
  · intro o' s file kind
    rcases adopts.left file kind with there | has
    · exact Or.inl there
    · right
      refine has.moveCall _ atCall rfl (fun s there => ⟨s, there⟩) ?_
      intro l held
      rw [atPlace] at held
      cases held
  · change p.adopted + 1 + _ = p.registry.served
    omega
  -- The call that is counted was not counted before, so that there was one adoption less than services.
  · have fewer : p.adopted ≠ p.inherited := by omega
    rw [if_neg fewer] at told
    change p.notifications + _ = if p.adopted + 1 = p.inherited then 1 else 0
    by_cases full : p.adopted + 1 = p.inherited
    · rw [if_pos full]
      rw [decide_eq_true full] at completing
      change _ + 0 = _ + 1 at completing
      omega
    · rw [if_neg full]
      rw [decide_eq_false full] at completing
      change _ + 0 = _ + 0 at completing
      omega

theorem notify {p : Server} {i o : Nat} {c : Call} (adopts : p.Adopts files) (atCall : p.calls[i]? = some c)
    (atPlace : c.place = .completing o) : (p.notifyParent.moveCall i (.counted o)).Adopts files := by
  have told : ∃ r : Record, r.isNotification = true ∧ p.notifyParent = p.record r := by
    unfold notifyParent
    split
    · exact ⟨_, rfl, rfl⟩
    · exact ⟨_, rfl, rfl⟩
  obtain ⟨r, telling, same⟩ := told
  rw [same]
  have uncounted := countP_moveCall CallPlace.isUncounted (.counted o) atCall (q := p.record r) rfl
  have completing := countP_moveCall CallPlace.isCompleting (.counted o) atCall (q := p.record r) rfl
  rw [atPlace] at uncounted completing
  change _ + 0 = _ + 0 at uncounted
  change _ + 1 = _ + 0 at completing
  refine ⟨adopts.child, adopts.positive, adopts.handed, ?_, adopts.served, ?_, ?_, ?_⟩
  · intro j d o' l atOther place
    rcases calls_moveCall_eq_some (by exact atCall) atOther with ⟨rfl, rfl⟩ | ⟨_, before⟩
    · cases place
    · exact adopts.opened before place
  · intro o' s file kind
    rcases adopts.left file kind with there | has
    · exact Or.inl there
    · right
      refine has.moveCall _ atCall rfl (fun s there => ⟨s, there⟩) ?_
      intro l held
      rw [atPlace] at held
      cases held
  · have count := adopts.count
    change p.adopted + _ = p.registry.served
    omega
  · have before := adopts.told
    have once : ((p.record r).moveCall i (.counted o)).notifications = p.notifications + 1 := by
      change (p.journal ++ [r]).countP _ = _
      rw [List.countP_append, List.countP_singleton, if_pos telling]
      rfl
    rw [once]
    change _ = if p.adopted = p.inherited then 1 else 0
    omega

/-- A listener is never lost: nobody else has recorded a service at the ordinal of a call that is about to. -/
theorem not_lose {p : Server} {i o : Nat} {c : Call} {l : Listener} {service : Service} {fault : Fault}
    (claims : p.Claims) (atCall : p.calls[i]? = some c) (atPlace : c.place = .opened o l) :
    p.registry.attach o service ≠ .error fault := by
  intro refused
  obtain ⟨old, there⟩ := Registry.attach_eq_error refused
  have vacant := (claims.claim atCall (o := o) (by rw [atPlace]; rfl)).2
  rw [there] at vacant
  cases vacant

/-- What was handed over for a call that is about to open its listener has not been taken. -/
theorem handedAt?_of_readied {p : Server} {i o : Nat} {c : Call} {t : Transport} {s : Socket}
    (adopts : p.Adopts files) (claims : p.Claims) (atCall : p.calls[i]? = some c) (atPlace : c.place = .readied o t)
    (file : files[o]?.join = some (.socket s)) (kind : s.kind ≠ .unix) : p.handedAt? o = some (.socket s) := by
  have claim : c.place.claim? = some o := by rw [atPlace]; rfl
  rcases adopts.left file kind with there | ⟨j, d, l, atOther, place⟩ | ⟨service, there⟩
  · exact there
  · have own := claims.alone atCall atOther claim (by rw [place]; rfl)
    subst own
    cases atCall.symm.trans atOther
    cases atPlace.symm.trans place
  · have vacant := (claims.claim atCall claim).2
    rw [there] at vacant
    cases vacant

/-- No step of a call lets a replacement adopt anything else, or count or tell anything too early or twice. -/
theorem advance {site : Site} {now : Nat} {p q : Server} {i : Nat} {c : Call} {place : CallPlace}
    (adopts : p.Adopts files) (claims : p.Claims) (atCall : p.calls[i]? = some c)
    (advance : Advance site now p c place q) : (q.moveCall i place).Adopts files := by
  have goOn : ∀ {q : Server} {place : CallPlace}, Frame p q → c.place.opened? = none → place.opened? = none →
      place.isUncounted = c.place.isUncounted → place.isCompleting = c.place.isCompleting →
      (q.moveCall i place).Adopts files := fun same before after uncounted completing =>
    adopts.keepCall atCall same.calls same.role same.inherited same.handed before after same.registry.service?
      same.registry.served same.adopted uncounted completing same.notifications
  cases advance with
  | refuse atPlace | repeated atPlace | finish atPlace =>
    exact goOn (.record p rfl) (by rw [atPlace]; rfl) rfl (by rw [atPlace]; rfl) (by rw [atPlace]; rfl)
  | pass atPlace | unready atPlace | ready atPlace | unbound atPlace | beyond atPlace | stay atPlace =>
    exact goOn (.refl p) (by rw [atPlace]; rfl) rfl (by rw [atPlace]; rfl) (by rw [atPlace]; rfl)
  | stop atPlace =>
    exact goOn (.shutdown p now _) (by rw [atPlace]; rfl) rfl (by rw [atPlace]; rfl) (by rw [atPlace]; rfl)
  | start atPlace =>
    exact goOn (.startService p _) (by rw [atPlace]; rfl) rfl (by rw [atPlace]; rfl) (by rw [atPlace]; rfl)
  | run atPlace =>
    exact goOn (.runService p _) (by rw [atPlace]; rfl) rfl (by rw [atPlace]; rfl) (by rw [atPlace]; rfl)
  | claim atPlace reserved =>
    obtain ⟨_, _, _, _, service, served, _⟩ := Registry.reserve_eq_ok reserved
    refine adopts.keepCall atCall rfl rfl rfl rfl (by rw [atPlace]; rfl) rfl (fun o => ?_) served rfl
      (by rw [atPlace]; rfl) (by rw [atPlace]; rfl) rfl
    rw [service]
    exact .refl _
  | @release o _ atPlace =>
    obtain ⟨_, _, service, served, _⟩ := p.registry.views_release o
    refine adopts.keepCall atCall rfl rfl rfl rfl (by rw [atPlace]; rfl) rfl (fun o' => ?_) served rfl
      (by rw [atPlace]; rfl) (by rw [atPlace]; rfl) (Hushed.notifications ⟨_, rfl, fun r member => ?_⟩)
    · change Service.Later _ ((p.registry.release o).service? o')
      rw [service]
      exact .refl _
    · rw [List.mem_singleton.1 member]
      rfl
  | bind _ parent | count _ parent =>
    rw [adopts.child] at parent
    cases parent
  | unusable atPlace _ _ useless taken => exact adopts.unusable atCall atPlace useless taken
  | adopt atPlace _ inside there kind =>
    exact adopts.adopt atCall atPlace ⟨inside, adopts.handed there, kind, Or.inl rfl⟩ rfl
  | lose atPlace refused => exact absurd refused (not_lose claims atCall atPlace)
  | attach atPlace attached => exact adopts.attach claims atCall atPlace attached
  | countAdoption atPlace _ more => exact adopts.countAdoption atCall atPlace (if_neg more).symm
  | complete atPlace _ full => exact adopts.countAdoption atCall atPlace (if_pos full).symm
  | notify atPlace => exact adopts.notify atCall atPlace

theorem move? {site : Site} {now : Nat} {p p' : Server} {m : Move} (adopts : p.Adopts files) (claims : p.Claims)
    (run : p.move? site now m = some p') : p'.Adopts files := by
  rcases move?_cases run with ⟨i, c, place, q, _, atCall, advance, rfl⟩ | ⟨address, options, _, rfl⟩ | ⟨_, same⟩
  · exact adopts.advance claims atCall advance
  · exact adopts.serve address options
  · exact adopts.frame same

theorem start (order : List String) (settings : Settings) (arguments : List OsText) (parent nextSocket now : Nat) :
    (Server.start (.inherited order) settings arguments files parent nextSocket now).Adopts files := by
  have blank := Blank.start (.inherited order) settings arguments files parent nextSocket now
  obtain ⟨_, _, _, none_, _⟩ := Registry.withOrder_vacant (σ := Service) order
  have positive : 0 < (Markers.inherited order).inheritedCount := by
    change 0 < max order.length 1
    omega
  refine ⟨rfl, positive, fun there => there, ?_, ?_, fun file _ => Or.inl file, ?_, ?_⟩
  · intro i c o l atCall
    cases atCall
  · intro o s there
    rw [blank.service] at there
    cases there
  · exact none_.symm
  · rw [blank.notifications, if_neg ?_]
    · rfl
    · exact Nat.ne_of_lt positive

end Adopts

/-- Where the parent was looked up, it was told to stop unless its number is the first of all. -/
def Notifies (p : Server) : Prop :=
  ∀ r ∈ p.journal, r.isNotification = true → r = if p.parent ≤ 1 then .notice .parentGone else .told p.parent

/-- A process with a number above the first of all is told to stop whenever it is looked up, and no other is told. -/
theorem Notifies.tellings {p : Server} (notifies : p.Notifies) :
    p.tellings = if 1 < p.parent then p.notifications else 0 := by
  split
  · rename_i several
    refine List.countP_congr fun r member => ⟨fun telling => ?_, fun notified => ?_⟩
    · cases r <;> first | rfl | cases telling
    · rw [notifies r member notified, if_neg (Nat.not_le.2 several)]
      rfl
  · rename_i few
    rw [Server.tellings, List.countP_eq_zero]
    intro r member telling
    have notified : r.isNotification = true := by cases r <;> first | rfl | cases telling
    rw [notifies r member notified, if_pos (Nat.not_lt.1 few)] at telling
    cases telling

/-- Nobody but the parent is told to stop. -/
theorem Notifies.told_iff {p : Server} (notifies : p.Notifies) (number : Nat) :
    Record.told number ∈ p.journal ↔ 0 < p.notifications ∧ number = p.parent ∧ 1 < number := by
  constructor
  · intro member
    have same := notifies _ member rfl
    split at same
    · cases same
    · rename_i several
      cases same
      exact ⟨List.countP_pos_iff.2 ⟨_, member, rfl⟩, rfl, Nat.lt_of_not_le several⟩
  · rintro ⟨once, rfl, several⟩
    obtain ⟨r, member, notified⟩ := List.countP_pos_iff.1 once
    rw [notifies r member notified, if_neg (Nat.not_le.2 several)] at member
    exact member

/-- A process was told to stop, once, and no other process ever was. -/
structure Tells (p : Server) (number : Nat) : Prop where
  told : .told number ∈ p.journal
  once : p.tellings = 1

theorem Notifies.tells {p : Server} (notifies : p.Notifies) (several : 1 < p.parent) (once : p.notifications = 1) :
    p.Tells p.parent where
  told := (notifies.told_iff _).2 ⟨by omega, rfl, several⟩
  once := by rw [notifies.tellings, if_pos several, once]

/-- Only the call that has counted the last adoption tells anybody. -/
theorem Advance.hushed {site : Site} {now : Nat} {p q : Server} {c : Call} {place : CallPlace}
    (advance : Advance site now p c place q) :
    p.Hushed q ∨ (∃ o, c.place = .completing o) ∧ q = p.notifyParent := by
  have one : ∀ {r : Record} {q : Server}, r.isNotification = false → q.journal = p.journal ++ [r] → p.Hushed q :=
    fun silent journal => ⟨_, journal, fun r member => by rw [List.mem_singleton.1 member, silent]⟩
  cases advance with
  | notify atPlace => exact Or.inr ⟨⟨_, atPlace⟩, rfl⟩
  | start => exact Or.inl (Frame.startService p _).hushed
  | run => exact Or.inl (Frame.runService p _).hushed
  | stop => exact Or.inl (Frame.shutdown p now _).hushed
  | refuse | repeated | lose | finish | release => exact Or.inl (one rfl rfl)
  | _ => exact Or.inl (.of_eq rfl)

theorem Notifies.hushed {p p' : Server} (notifies : p.Notifies) (parent : p'.parent = p.parent)
    (hushed : p.Hushed p') : p'.Notifies := by
  obtain ⟨records, journal, silent⟩ := hushed
  intro r member telling
  rw [journal] at member
  rw [parent]
  rcases List.mem_append.1 member with before | new
  · exact notifies r before telling
  · rw [silent r new] at telling
    cases telling

/-- A move tells nobody, or it is made by the call that has counted the last adoption. -/
theorem hushed_of_move? {site : Site} {now : Nat} {p p' : Server} {m : Move} (run : p.move? site now m = some p') :
    p.Hushed p' ∨ ∃ (i : Nat) (c : Call) (o : Nat) (place : CallPlace), m = .call i ∧ p.calls[i]? = some c ∧
      c.place = .completing o ∧ p' = p.notifyParent.moveCall i place := by
  rcases move?_cases run with ⟨i, c, place, q, rfl, atCall, advance, rfl⟩ | ⟨address, options, _, rfl⟩ | ⟨_, same⟩
  · rcases advance.hushed with hushed | ⟨⟨o, atPlace⟩, rfl⟩
    · exact Or.inl hushed
    · exact Or.inr ⟨i, c, o, place, rfl, atCall, atPlace, rfl⟩
  · exact Or.inl (.of_eq rfl)
  · exact Or.inl same.hushed

theorem journal_notifyParent (p : Server) : p.notifyParent.journal =
    p.journal ++ [if p.parent ≤ 1 then .notice .parentGone else .told p.parent] := by
  unfold notifyParent
  split <;> rfl

theorem Notifies.move? {site : Site} {now : Nat} {p p' : Server} {m : Move} (notifies : p.Notifies) (claims : p.Claims)
    (run : p.move? site now m = some p') : p'.Notifies := by
  have parent := (Onward.move? claims run).parent
  rcases hushed_of_move? run with hushed | ⟨i, _, _, place, _, _, _, rfl⟩
  · exact notifies.hushed parent hushed
  · intro r member telling
    rw [parent]
    change r ∈ p.notifyParent.journal at member
    rw [journal_notifyParent] at member
    rcases List.mem_append.1 member with before | last
    · exact notifies r before telling
    · exact List.mem_singleton.1 last

theorem Run.notifies {may : Server → Site → Move → Prop} {first p : Server} (run : Run may first p)
    (blank : first.Blank) : p.Notifies := by
  induction run with
  | start =>
    intro r member telling
    rw [blank.silent r member] at telling
    cases telling
  | next earlier _ move ih => exact ih.move? (earlier.claims (.of_blank blank)) move

/-- Whatever moves a replacement makes, it adopts what was handed to it, and nothing else. -/
theorem Run.adopts {may : Server → Site → Move → Prop} {files : List (Option OpenFile)} {first p : Server}
    (run : Run may first p) (claims : first.Claims) (atStart : first.Adopts files) : p.Adopts files :=
  run.keep_of_claims (fun claims adopts move => adopts.move? claims move) claims atStart

end Handover.Server
