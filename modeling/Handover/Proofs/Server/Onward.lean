import Handover.Proofs.Server.Claims

namespace Handover.Server

/-- What a process has been stays in what it becomes. -/
structure Onward (p p' : Server) : Prop where
  role : p'.role = p.role
  inherited : p'.inherited = p.inherited
  settings : p'.settings = p.settings
  arguments : p'.arguments = p.arguments
  parent : p'.parent = p.parent
  address? : ∀ {o a}, p.registry.address? o = some a → p'.registry.address? o = some a
  service? : ∀ {o : Nat} {s : Service}, p.registry.service? o = some s →
    ∃ s', p'.registry.service? o = some s' ∧ s'.address = s.address ∧ s.life.listener.Later s'.life.listener
  nextSocket : p.nextSocket ≤ p'.nextSocket
  journal : p.journal <+: p'.journal

namespace Onward

theorem of_registry {p p' : Server} (role : p'.role = p.role) (inherited : p'.inherited = p.inherited)
    (settings : p'.settings = p.settings) (arguments : p'.arguments = p.arguments) (parent : p'.parent = p.parent)
    (registry : p.registry.Aged p'.registry) (nextSocket : p.nextSocket ≤ p'.nextSocket)
    (journal : p.journal <+: p'.journal) : p.Onward p' where
  role := role
  inherited := inherited
  settings := settings
  arguments := arguments
  parent := parent
  address? := by
    intro o a there
    rw [registry.address?, there]
  service? := by
    intro o s there
    have later := registry.service? o
    rw [there] at later
    exact later.of_some
  nextSocket := nextSocket
  journal := journal

theorem refl (p : Server) : p.Onward p :=
  of_registry rfl rfl rfl rfl rfl (.of_slots rfl) (Nat.le_refl _) List.prefix_rfl

theorem trans {p p' p'' : Server} (first : p.Onward p') (second : p'.Onward p'') : p.Onward p'' where
  role := second.role.trans first.role
  inherited := second.inherited.trans first.inherited
  settings := second.settings.trans first.settings
  arguments := second.arguments.trans first.arguments
  parent := second.parent.trans first.parent
  address? there := second.address? (first.address? there)
  service? := by
    intro o s there
    obtain ⟨s', there', address, listener⟩ := first.service? there
    obtain ⟨s'', there'', address', listener'⟩ := second.service? there'
    exact ⟨s'', there'', address'.trans address, listener.trans listener'⟩
  nextSocket := Nat.le_trans first.nextSocket second.nextSocket
  journal := first.journal.trans second.journal

theorem of_frame {p p' : Server} (same : Frame p p') : p.Onward p' :=
  of_registry same.role same.inherited same.settings same.arguments same.parent same.registry
    (Nat.le_of_eq same.nextSocket.symm) same.hushed.journal

theorem fields_of_advance {site : Site} {now : Nat} {p q : Server} {c : Call} {place : CallPlace}
    (advance : Advance site now p c place q) :
    q.role = p.role ∧ q.inherited = p.inherited ∧ q.settings = p.settings ∧ q.arguments = p.arguments ∧
      q.parent = p.parent ∧ p.nextSocket ≤ q.nextSocket ∧ p.journal <+: q.journal := by
  have of_frame : ∀ {q : Server}, Frame p q → q.role = p.role ∧ q.inherited = p.inherited ∧ q.settings = p.settings ∧
      q.arguments = p.arguments ∧ q.parent = p.parent ∧ p.nextSocket ≤ q.nextSocket ∧ p.journal <+: q.journal :=
    fun same => ⟨same.role, same.inherited, same.settings, same.arguments, same.parent,
      Nat.le_of_eq same.nextSocket.symm, same.hushed.journal⟩
  cases advance with
  | start => exact of_frame (.startService _ _)
  | run => exact of_frame (.runService _ _)
  | stop => exact of_frame (.shutdown _ _ _)
  | notify =>
    unfold Server.notifyParent
    split <;> exact ⟨rfl, rfl, rfl, rfl, rfl, Nat.le_refl _, List.prefix_append _ _⟩
  | bind => exact ⟨rfl, rfl, rfl, rfl, rfl, Nat.le_succ _, List.prefix_rfl⟩
  | refuse | repeated | lose | finish | release =>
    exact ⟨rfl, rfl, rfl, rfl, rfl, Nat.le_refl _, List.prefix_append _ _⟩
  | _ => exact ⟨rfl, rfl, rfl, rfl, rfl, Nat.le_refl _, List.prefix_rfl⟩

/-- A step of a call adds an address behind the others at most, and a service where there was none. -/
theorem of_advance {site : Site} {now : Nat} {p q : Server} {i : Nat} {c : Call} {place : CallPlace}
    (claims : p.Claims) (atCall : p.calls[i]? = some c) (advance : Advance site now p c place q) :
    p.Onward (q.moveCall i place) := by
  obtain ⟨role, inherited, settings, arguments, parent, nextSocket, journal⟩ := fields_of_advance advance
  rcases advance.registry_cases with ⟨o, atPlace, _, reserved⟩ | ⟨o, l, atPlace, _, attached⟩ |
    ⟨o, fault, atPlace, _, released⟩ | ⟨registry, _⟩
  · obtain ⟨_, _, _, _, service, _, _⟩ := Registry.reserve_eq_ok reserved
    refine ⟨role, inherited, settings, arguments, parent, ?_, ?_, nextSocket, journal⟩
    · exact Registry.address?_of_reserve reserved
    · intro o' s there
      exact ⟨s, (service o').trans there, rfl, .refl _⟩
  · have named := claims.address atCall (o := o) (by rw [atPlace]; rfl)
    obtain ⟨vacant, address, _, service, _, _⟩ := Registry.attach_eq_ok attached named
    refine ⟨role, inherited, settings, arguments, parent, ?_, ?_, nextSocket, journal⟩
    · intro o' a there
      exact (address o').trans there
    · intro o' s there
      have apart : o ≠ o' := by
        rintro rfl
        rw [vacant] at there
        cases there
      refine ⟨s, ?_, rfl, .refl _⟩
      simp only [moveCall, service, if_neg apart, there]
  · obtain ⟨address, _, service, _, _⟩ := p.registry.views_release o
    rw [← released] at address service
    refine ⟨role, inherited, settings, arguments, parent, ?_, ?_, nextSocket, journal⟩
    · intro o' a there
      exact (address o').trans there
    · intro o' s there
      exact ⟨s, (service o').trans there, rfl, .refl _⟩
  · exact of_registry role inherited settings arguments parent registry nextSocket journal

theorem move? {site : Site} {now : Nat} {p p' : Server} {m : Move} (claims : p.Claims)
    (run : p.move? site now m = some p') : p.Onward p' := by
  rcases move?_cases run with ⟨i, c, place, q, _, atCall, advance, rfl⟩ | ⟨address, options, _, rfl⟩ | ⟨_, same⟩
  · exact of_advance claims atCall advance
  · exact of_registry rfl rfl rfl rfl rfl (.of_slots rfl) (Nat.le_refl _) List.prefix_rfl
  · exact of_frame same

end Onward

/-- Whatever moves a process makes, what lasts is still there. -/
theorem Run.onward {may : Server → Site → Move → Prop} {first p : Server} (run : Run may first p)
    (atStart : first.Claims) : first.Onward p :=
  run.keep_of_claims (fun claims onward move => onward.trans (.move? claims move)) atStart (.refl first)

end Handover.Server
