import Handover.Proofs.Server.Adoption

namespace Handover

/-- The fault says that the files for encrypted connections cannot be used. -/
def Fault.isEncryption : Fault → Bool
  | encryption _ => true
  | _ => false

namespace Binding

theorem not_isEncryption_tryAll {address : String} {last : Failure} {candidates : List Candidate} {fault : Fault}
    (refused : (tryAll address last candidates).result = .error fault) : fault.isEncryption = false := by
  induction candidates generalizing last with
  | nil =>
    cases refused
    rfl
  | cons c rest ih =>
    unfold tryAll at refused
    split at refused
    · cases refused
    · exact ih refused

theorem not_isEncryption_first {address : String} {family : Family} {candidates : List Candidate} {fault : Fault}
    (refused : (first address family candidates).result = .error fault) : fault.isEncryption = false := by
  unfold first at refused
  split at refused
  · cases refused
    rfl
  · exact not_isEncryption_tryAll refused

end Binding

theorem Network.not_isEncryption_bind {net : Network} {address : String} {family : Family} {fault : Fault}
    (refused : net.bind address family = .error fault) : fault.isEncryption = false := by
  unfold Network.bind at refused
  split at refused
  · cases refused
    rfl
  · exact Binding.not_isEncryption_first refused

theorem Listener.adopt_eq_error {address : String} {descriptor : Int} {file : Option OpenFile} {timeouts : Timeouts}
    {fault : Fault} (refused : Listener.adopt address descriptor file timeouts = .error fault) :
    (file.bind OpenFile.socket? = none ∧ fault = .inherit address descriptor "not an open socket") ∨
      ∃ s, file = some (.socket s) ∧ s.kind = .unix ∧ fault = .inherit address descriptor "invalid argument" := by
  unfold Listener.adopt at refused
  split at refused
  · rename_i s
    split at refused
    · rename_i unix
      cases refused
      exact Or.inr ⟨s, rfl, unix, rfl⟩
    · cases refused
  · rename_i none_
    cases refused
    refine Or.inl ⟨?_, rfl⟩
    cases file with
    | none => rfl
    | some f =>
      cases f with
      | other => rfl
      | socket s => exact absurd rfl (none_ s)

namespace Server

/-- What a call that has claimed an ordinal gets when it opens a listener, before the connections are provided for. -/
def listenerFor (site : Site) (p : Server) (address : String) (options : Options) (o : Nat) : Except Fault Listener :=
  match p.role with
  | .parent =>
    match site.network.bind address options.family with
    | .error fault => .error fault
    | .ok endpoint =>
      .ok (.onHandle ⟨p.table.lowestFree Markers.firstDescriptor, { identity := p.nextSocket, endpoint }⟩ options.timeouts)
  | .child =>
    if o < p.inherited then
      Listener.adopt address (Markers.firstDescriptor + o : Nat) (p.handedAt? o) options.timeouts
    else .error (.notInherited address o)

/-- What was handed over at an ordinal is an open socket, but none with an endpoint. -/
structure Misfit (p : Server) (address : String) (o : Nat) (fault : Fault) : Prop where
  child : p.role = .child
  inside : o < p.inherited
  socket : ∃ s, p.handedAt? o = some (.socket s) ∧ s.kind = .unix
  fault : fault = .inherit address (Markers.firstDescriptor + o : Nat) "invalid argument"

theorem not_isEncryption_listenerFor {site : Site} {p : Server} {address : String} {options : Options} {o : Nat}
    {fault : Fault} (refused : p.listenerFor site address options o = .error fault) : fault.isEncryption = false := by
  unfold listenerFor at refused
  split at refused
  · split at refused
    · rename_i unbound
      cases refused
      exact Network.not_isEncryption_bind unbound
    · cases refused
  · split at refused
    · rcases Listener.adopt_eq_error refused with ⟨_, rfl⟩ | ⟨_, _, _, rfl⟩ <;> rfl
    · cases refused
      rfl

/-- A call that gets no listener gives up, and what does not fit is lost. -/
theorem openListener_of_error {site : Site} {p : Server} {c : Call} {o : Nat} {fault : Fault} (i : Nat)
    (t : Transport) (refused : p.listenerFor site c.address c.options o = .error fault) :
    ∃ handed, p.openListener site i c o t = ({ p with handed } : Server).moveCall i (.abandoning o fault) ∧
      (handed = p.handed ∨ p.Misfit c.address o fault ∧ handed = p.handed.set o none) := by
  unfold listenerFor at refused
  split at refused
  · rename_i parent
    have binds : p.openListener site i c o t = p.bind site i c o t := by rw [openListener, parent]
    unfold bind at binds
    split at refused
    · rename_i unbound
      cases refused
      rw [unbound] at binds
      exact ⟨p.handed, binds, Or.inl rfl⟩
    · cases refused
  · rename_i child
    have adopts : p.openListener site i c o t = p.adopt i c o t := by rw [openListener, child]
    rw [adopts, adopt]
    split at refused
    · rename_i inside
      rw [if_pos inside]
      dsimp only
      rw [refused]
      rcases Listener.adopt_eq_error refused with ⟨none_, _⟩ | ⟨s, there, unix, same⟩
      · rw [none_]
        exact ⟨p.handed, rfl, Or.inl rfl⟩
      · rw [there]
        exact ⟨p.handed.set o none, rfl, Or.inr ⟨⟨child, inside, ⟨s, there, unix⟩, same⟩, rfl⟩⟩
    · rename_i outside
      cases refused
      rw [if_neg outside]
      exact ⟨p.handed, rfl, Or.inl rfl⟩

/-- A call that gets a listener has it open. -/
theorem openListener_of_ok {site : Site} {p : Server} {c : Call} {o : Nat} {l : Listener} (i : Nat)
    (t : Transport) (given : p.listenerFor site c.address c.options o = .ok l) :
    ∃ q : Server, q.calls = p.calls ∧ p.openListener site i c o t = q.moveCall i (.opened o (l.through t)) := by
  unfold listenerFor at given
  split at given
  · rename_i parent
    have binds : p.openListener site i c o t = p.bind site i c o t := by rw [openListener, parent]
    unfold bind at binds
    split at given
    · cases given
    · rename_i bound
      cases given
      rw [bound] at binds
      exact ⟨{ p with nextSocket := p.nextSocket + 1 }, rfl, binds⟩
  · rename_i child
    have adopts : p.openListener site i c o t = p.adopt i c o t := by rw [openListener, child]
    rw [adopts, adopt]
    split at given
    · rename_i inside
      rw [if_pos inside]
      dsimp only
      rw [given]
      refine ⟨_, ?_, rfl⟩
      split <;> rfl
    · cases given

theorem stepCall?_of_readied {p : Server} {i o : Nat} {c : Call} {t : Transport} (site : Site) (now : Nat)
    (atCall : p.calls[i]? = some c) (atPlace : c.place = .readied o t) :
    p.stepCall? site now i = some (p.openListener site i c o t) := by
  rw [stepCall?, atCall]
  dsimp only
  rw [atPlace]

theorem listenerFor_congr {p p' : Server} {o : Nat} (role : p'.role = p.role) (inherited : p'.inherited = p.inherited)
    (nextSocket : p'.nextSocket = p.nextSocket) (table : p.role = .parent → p'.table = p.table)
    (file : p.role = .child → p'.handedAt? o = p.handedAt? o) (site : Site) (address : String) (options : Options) :
    p'.listenerFor site address options o = p.listenerFor site address options o := by
  unfold listenerFor
  rw [role, inherited, nextSocket]
  split
  · rename_i parent
    rw [table parent]
  · rename_i child
    rw [file child]

theorem listenerFor_of_parent {p : Server} (parent : p.role = .parent) (site : Site) (address : String)
    (options : Options) (o o' : Nat) :
    p.listenerFor site address options o' = p.listenerFor site address options o := by
  rw [listenerFor, listenerFor, parent]

theorem listenerFor_of_beyond {p : Server} {site : Site} {address : String} {options : Options} {o : Nat}
    (child : p.role = .child) (beyond : p.inherited ≤ o) :
    p.listenerFor site address options o = .error (.notInherited address o) := by
  rw [listenerFor, child]
  exact if_neg (Nat.not_lt_of_le beyond)

end Server

end Handover
