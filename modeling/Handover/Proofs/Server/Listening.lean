import Handover.Proofs.Server.Onward

namespace Handover.Server

/-- A call has opened the listener for an ordinal, or the service at the ordinal has it. -/
inductive Listens (p : Server) (o : Nat) (l : Listener) : Prop
  | call {i : Nat} {c : Call} : p.calls[i]? = some c → c.place = .opened o l → Listens p o l
  | service {s : Service} : p.registry.service? o = some s → s.life.listener = l → Listens p o l

theorem Listens.not_blank {p : Server} {o : Nat} {l : Listener} (listens : p.Listens o l) (blank : p.Blank) :
    False := by
  cases listens with
  | call atCall =>
    rw [blank.calls] at atCall
    cases atCall
  | service there =>
    rw [blank.service] at there
    cases there

/-- The handles of the listeners that are open. -/
def ownHandles (p : Server) : List Handle :=
  p.registry.services.filterMap (·.life.listener.handle?) ++ p.calls.filterMap Call.handle?

theorem handles_eq (p : Server) : p.handles = p.ownHandles ++ SignalPlace.handles p.signals := rfl

theorem table_eq {p : Server} (none_ : SignalPlace.handles p.signals = []) :
    p.table = p.untaken.holding p.ownHandles := by
  rw [table, handles_eq, none_, List.append_nil]

theorem Call.handle?_eq_some {c : Call} {h : Handle} :
    Call.handle? c = some h ↔ ∃ o l, c.place = .opened o l ∧ l.handle? = some h := by
  unfold Call.handle?
  split
  · rename_i o l place
    constructor
    · exact fun held => ⟨o, l, place, held⟩
    · rintro ⟨o', l', place', held⟩
      cases place.symm.trans place'
      exact held
  · rename_i other
    constructor
    · intro held
      cases held
    · rintro ⟨o, l, place, _⟩
      exact absurd place (other o l)

theorem mem_ownHandles {p : Server} {h : Handle} : h ∈ p.ownHandles ↔ ∃ o l, p.Listens o l ∧ l.handle? = some h := by
  simp only [ownHandles, List.mem_append, List.mem_filterMap]
  constructor
  · rintro (⟨s, member, held⟩ | ⟨c, member, held⟩)
    · obtain ⟨o, there⟩ := Registry.mem_services.1 member
      exact ⟨o, _, .service there rfl, held⟩
    · obtain ⟨o, l, place, held⟩ := Call.handle?_eq_some.1 held
      obtain ⟨i, atCall⟩ := List.getElem?_of_mem member
      exact ⟨o, l, .call atCall place, held⟩
  · rintro ⟨o, l, listens, held⟩
    cases listens with
    | call atCall place =>
      exact Or.inr ⟨_, List.mem_of_getElem? atCall, Call.handle?_eq_some.2 ⟨o, l, place, held⟩⟩
    | service there same =>
      subst same
      exact Or.inl ⟨_, Registry.mem_services.2 ⟨o, there⟩, held⟩

theorem Listens.of_frame {p p' : Server} {o : Nat} {l : Listener} (listens : p'.Listens o l) (same : Frame p p') :
    ∃ l', p.Listens o l' ∧ l'.Later l := by
  cases listens with
  | call atCall place =>
    rw [same.calls] at atCall
    exact ⟨l, .call atCall place, .refl l⟩
  | service there held =>
    subst held
    have later := same.registry.service? o
    rw [there] at later
    obtain ⟨s, before, _, listener⟩ := later.of_some_right
    exact ⟨_, .service before rfl, listener⟩

theorem Listens.of_serve {p : Server} {address : String} {options : Options} {o : Nat} {l : Listener}
    (listens : (p.serve address options).Listens o l) : p.Listens o l := by
  cases listens with
  | call atCall place =>
    rw [Server.serve, getElem?_append_last] at atCall
    split at atCall
    · cases atCall
      cases place
    · exact .call atCall place
  | service there held => exact .service there held

/-- A listener that is there after the step of a call was there before, or the call has just bound or adopted it. -/
theorem Listens.of_advance {site : Site} {now : Nat} {p q : Server} {i : Nat} {c : Call} {place : CallPlace} {o : Nat}
    {l : Listener} (claims : p.Claims) (atCall : p.calls[i]? = some c) (advance : Advance site now p c place q)
    (listens : (q.moveCall i place).Listens o l) :
    (∃ l', p.Listens o l' ∧ l'.Later l) ∨ ∃ t, c.place = .readied o t ∧
      ((p.role = .parent ∧ q.nextSocket = p.nextSocket + 1 ∧ ∃ endpoint,
        l = (Listener.onHandle ⟨p.table.lowestFree Markers.firstDescriptor, { identity := p.nextSocket, endpoint }⟩
          c.options.timeouts).through t) ∨
      (p.role = .child ∧ q.handed = p.handed.set o none ∧ ∃ s, p.handedAt? o = some (.socket s) ∧ s.kind ≠ .unix ∧
        l = (Listener.onHandle ⟨Markers.firstDescriptor + o, s⟩ c.options.timeouts).through t)) := by
  have atCall' : q.calls[i]? = some c := by rw [advance.calls, atCall]
  have served : ∀ {s : Service}, q.registry.service? o = some s →
      (∃ s', p.registry.service? o = some s' ∧ s'.life.listener.Later s.life.listener) ∨
        c.place = .opened o s.life.listener := by
    intro s there
    rcases advance.registry_cases with ⟨o', _, _, reserved⟩ | ⟨o', l', atPlace, _, attached⟩ |
      ⟨o', fault, _, _, released⟩ | ⟨registry, _⟩
    · obtain ⟨_, _, _, _, service, _, _⟩ := Registry.reserve_eq_ok reserved
      rw [service] at there
      exact Or.inl ⟨s, there, .refl _⟩
    · have named := claims.address atCall (o := o') (by rw [atPlace]; rfl)
      obtain ⟨_, _, _, service, _, _⟩ := Registry.attach_eq_ok attached named
      rw [service] at there
      split at there
      · rename_i same
        subst same
        cases there
        exact Or.inr atPlace
      · exact Or.inl ⟨s, there, .refl _⟩
    · obtain ⟨_, _, service, _, _⟩ := p.registry.views_release o'
      rw [released, service] at there
      exact Or.inl ⟨s, there, .refl _⟩
    · have later := registry.service? o
      rw [there] at later
      obtain ⟨s', before, _, listener⟩ := later.of_some_right
      exact Or.inl ⟨s', before, listener⟩
  cases listens with
  | service there held =>
    subst held
    left
    rcases served there with ⟨s', before, later⟩ | atPlace
    · exact ⟨_, .service before rfl, later⟩
    · exact ⟨_, .call atCall atPlace, .refl _⟩
  | call atOther place' =>
    rcases calls_moveCall_eq_some atCall' atOther with ⟨rfl, rfl⟩ | ⟨_, before⟩
    · simp only at place'
      subst place'
      cases advance with
      | bind atPlace parent => exact Or.inr ⟨_, atPlace, Or.inl ⟨parent, rfl, _, rfl⟩⟩
      | adopt atPlace child _ there kind => exact Or.inr ⟨_, atPlace, Or.inr ⟨child, rfl, _, there, kind, rfl⟩⟩
    · rw [advance.calls] at before
      exact Or.inl ⟨l, .call before place', .refl l⟩

/-- The sockets of a process that binds its own listeners are numbered, each of them once. -/
structure Numbered (p : Server) : Prop where
  parent : p.role = .parent
  below : ∀ {o : Nat} {l : Listener}, p.Listens o l → l.socket.identity < p.nextSocket
  apart : ∀ {o o' : Nat} {l l' : Listener}, p.Listens o l → p.Listens o' l' →
    l.socket.identity = l'.socket.identity → o = o'
  kind : ∀ {o : Nat} {l : Listener}, p.Listens o l → l.socket.kind ≠ .unix

theorem Numbered.of_later {p p' : Server} (numbered : p.Numbered) (role : p'.role = p.role)
    (nextSocket : p'.nextSocket = p.nextSocket)
    (listens : ∀ {o l}, p'.Listens o l → ∃ l', p.Listens o l' ∧ l'.Later l) : p'.Numbered where
  parent := role.trans numbered.parent
  below := by
    intro o l there
    obtain ⟨l', before, later⟩ := listens there
    rw [later.socket, nextSocket]
    exact numbered.below before
  apart := by
    intro o o' l l' there there' same
    obtain ⟨k, before, later⟩ := listens there
    obtain ⟨k', before', later'⟩ := listens there'
    rw [later.socket, later'.socket] at same
    exact numbered.apart before before' same
  kind := by
    intro o l there
    obtain ⟨l', before, later⟩ := listens there
    rw [later.socket]
    exact numbered.kind before

theorem Numbered.advance {site : Site} {now : Nat} {p q : Server} {i : Nat} {c : Call} {place : CallPlace}
    (numbered : p.Numbered) (claims : p.Claims) (atCall : p.calls[i]? = some c)
    (advance : Advance site now p c place q) : (q.moveCall i place).Numbered := by
  have onward := Onward.of_advance claims atCall advance
  have origin : ∀ {o l}, (q.moveCall i place).Listens o l →
      (∃ l', p.Listens o l' ∧ l'.Later l) ∨
        (∃ t, c.place = .readied o t) ∧ q.nextSocket = p.nextSocket + 1 ∧ l.socket.identity = p.nextSocket ∧
          l.socket.kind ≠ .unix := by
    intro o l there
    rcases Listens.of_advance claims atCall advance there with
      before | ⟨t, atPlace, ⟨_, next, endpoint, rfl⟩ | ⟨child, _⟩⟩
    · exact Or.inl before
    · exact Or.inr ⟨⟨t, atPlace⟩, next, rfl, fun unix => by cases unix⟩
    · rw [numbered.parent] at child
      cases child
  refine ⟨onward.role.trans numbered.parent, ?_, ?_, ?_⟩
  · intro o l there
    rcases origin there with ⟨l', before, later⟩ | ⟨_, next, same, _⟩
    · have := numbered.below before
      rw [later.socket]
      exact Nat.lt_of_lt_of_le this onward.nextSocket
    · change l.socket.identity < q.nextSocket
      omega
  · intro o o' l l' there there' same
    rcases origin there with ⟨k, before, later⟩ | ⟨⟨_, atPlace⟩, _, new, _⟩ <;>
      rcases origin there' with ⟨k', before', later'⟩ | ⟨⟨_, atPlace'⟩, _, new', _⟩
    · rw [later.socket, later'.socket] at same
      exact numbered.apart before before' same
    · have := numbered.below before
      rw [later.socket] at same
      omega
    · have := numbered.below before'
      rw [later'.socket] at same
      omega
    · cases atPlace.symm.trans atPlace'
      rfl
  · intro o l there
    rcases origin there with ⟨l', before, later⟩ | ⟨_, _, _, kind⟩
    · rw [later.socket]
      exact numbered.kind before
    · exact kind

theorem Numbered.move? {site : Site} {now : Nat} {p p' : Server} {m : Move} (numbered : p.Numbered) (claims : p.Claims)
    (run : p.move? site now m = some p') : p'.Numbered := by
  rcases move?_cases run with ⟨i, c, place, q, _, atCall, advance, rfl⟩ | ⟨address, options, _, rfl⟩ | ⟨_, same⟩
  · exact numbered.advance claims atCall advance
  · exact numbered.of_later rfl rfl fun there => ⟨_, there.of_serve, .refl _⟩
  · exact numbered.of_later same.role same.nextSocket fun there => there.of_frame same

theorem Numbered.start {markers : Markers} (fresh : markers.graceful = false) (settings : Settings)
    (arguments : List OsText) (handed : List (Option OpenFile)) (parent nextSocket now : Nat) :
    (Server.start markers settings arguments handed parent nextSocket now).Numbered := by
  have role : markers.role = .parent := by
    unfold Markers.role
    rw [fresh]
    rfl
  have nothing : ∀ {o l}, ¬ (Server.start markers settings arguments handed parent nextSocket now).Listens o l :=
    fun listens => listens.not_blank (.start _ _ _ _ _ _ _)
  refine ⟨?_, fun there => absurd there nothing, fun there => absurd there nothing, fun there => absurd there nothing⟩
  unfold Server.start
  rw [role]

theorem Run.numbered {may : Server → Site → Move → Prop} {first p : Server} (run : Run may first p)
    (claims : first.Claims) (atStart : first.Numbered) : p.Numbered :=
  run.keep_of_claims (fun claims numbered move => numbered.move? claims move) claims atStart

end Handover.Server
