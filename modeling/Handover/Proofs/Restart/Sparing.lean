import Handover.Proofs.Restart.Repeating
import Handover.Proofs.Server.Destination

namespace Handover

namespace CallPlace

/-- Two calls come to the same: they have the same listener, or fail with the same fault. Ordinals may differ. -/
inductive Alike : CallPlace → CallPlace → Prop
  | opened {o o' l} : Alike (opened o l) (opened o' l)
  | failed {fault} : Alike (returned (some fault)) (returned (some fault))
  | notInherited {a o o'} : Alike (returned (some (.notInherited a o))) (returned (some (.notInherited a o')))

namespace Alike

theorem refl {place : CallPlace} (outcome : place.isOutcome = true) : Alike place place := by
  cases place with
  | opened => exact .opened
  | returned fault =>
    cases fault with
    | none => cases outcome
    | some fault => exact .failed
  | _ => cases outcome

theorem trans {first second third : CallPlace} (before : Alike first second) (after : Alike second third) :
    Alike first third := by
  cases before with
  | opened =>
    cases after
    exact .opened
  | failed => exact after
  | notInherited =>
    cases after <;> exact .notInherited

/-- Without a listener it does not matter which ordinal was claimed. -/
theorem orOpened {o o' : Nat} {t : Transport} {found found' : Except Fault Listener} (same : found' = found) :
    Alike (CallPlace.orOpened o t found) (CallPlace.orOpened o' t found') := by
  subst same
  cases found' with
  | error fault => exact .failed
  | ok l => exact .opened

theorem of_notInherited {a : String} {o : Nat} {place : CallPlace}
    (alike : Alike (returned (some (.notInherited a o))) place) :
    ∃ o', place = returned (some (.notInherited a o')) := by
  cases alike with
  | failed => exact ⟨o, rfl⟩
  | notInherited => exact ⟨_, rfl⟩

end Alike

end CallPlace

namespace Server

/-- The next address that is unknown gets a listener that was handed over. -/
structure Spare (p : Server) : Prop where
  child : p.role = .child
  room : p.registry.size < p.inherited

theorem alike_destinationOf {site : Site} {p p' : Server} {address : String} {options : Options} {o o' : Nat}
    (same : ∀ t, (CallPlace.orOpened o t (p.listenerFor site address options o)).Alike
      (.orOpened o' t (p'.listenerFor site address options o'))) :
    (p.destinationOf site address options o).Alike (p'.destinationOf site address options o') := by
  unfold destinationOf
  cases Transport.load site.provider site.files options.encryption with
  | error fault => exact .failed
  | ok t => exact same t

/-- A call for the address `a` has taken the ordinal that would have been that of `y`, and with it a listener that was
handed over. If it was the last of them, none is left for `y`. -/
structure Displaces (p : Server) (a y : String) (place : CallPlace) : Prop where
  spare : p.Spare
  unknown : ∀ o, p.registry.address? o ≠ some a
  last : p.registry.size + 1 = p.inherited → ∃ o, place = .returned (some (.notInherited y o))

/-- A call that comes to claim an unknown address after a step that has taken the next ordinal. -/
theorem Spares.alike_next {p p' : Server} {i : Nat} {a : String} {fault : Fault} (spares : p.Spares i a fault p')
    (unknown : ∀ o, p.registry.address? o ≠ some a) (site : Site) (y : String) (options : Options) :
    (p.destinationOf site y options p.registry.size).Alike (p'.destinationOf site y options (p.registry.size + 1)) ∨
      p.Displaces a y (p'.destinationOf site y options (p.registry.size + 1)) := by
  have found := spares.listenerFor (.inl (unknown _)) site y options (o := p.registry.size + 1)
  cases stated : p.role with
  | parent =>
    have anywhere := listenerFor_of_parent stated site y options p.registry.size (p.registry.size + 1)
    exact .inl (alike_destinationOf fun t => .orOpened (found.trans anywhere))
  | child =>
    by_cases room : p.registry.size < p.inherited
    · cases loaded : Transport.load site.provider site.files options.encryption with
      | error refused =>
        rw [destinationOf, destinationOf, loaded]
        exact .inl .failed
      | ok t =>
        refine .inr ⟨⟨stated, room⟩, unknown, fun full => ⟨p.registry.size + 1, ?_⟩⟩
        rw [destinationOf, loaded, found, listenerFor_of_beyond stated (Nat.le_of_eq full.symm)]
        rfl
    · have beyond := Nat.le_of_not_lt room
      refine .inl (alike_destinationOf fun t => ?_)
      rw [found, listenerFor_of_beyond stated beyond, listenerFor_of_beyond stated (Nat.le_succ_of_le beyond)]
      exact .notInherited

/-- A step of a call that fails leaves all that comes of calls for other addresses as it is, unless it takes an ordinal
for which a listener was handed over. -/
theorem Spares.alike {p p' : Server} {i : Nat} {a y : String} {fault : Fault} (spares : p.Spares i a fault p')
    (claims : p.Claims) (claims' : p'.Claims) (other : y ≠ a) (site : Site) (options : Options) :
    (p.destination site { address := y, options }).Alike (p'.destination site { address := y, options }) ∨
      p.Displaces a y (p'.destination site { address := y, options }) := by
  have stopping : p'.stopping = p.stopping := by rw [spares.same]
  have elsewhere {o : Nat} (apart : p.registry.address? o ≠ some a) :
      (p.destinationOf site y options o).Alike (p'.destinationOf site y options o) :=
    alike_destinationOf fun t => .orOpened (spares.listenerFor (.inl apart) site y options)
  simp only [destination, stopping]
  cases p.stopping with
  | true => exact .inl .failed
  | false =>
  simp only [Bool.false_eq_true, if_false]
  by_cases known : ∃ o, p.registry.address? o = some y
  · -- A known address keeps its ordinal and its claim, and what was handed over at its ordinal.
    obtain ⟨o, named⟩ := known
    have named' := (spares.registry.address? other).2 named
    rw [Registry.reserve_of_known claims.sound named, Registry.reserve_of_known claims'.sound named',
      spares.registry.isClaimed other named]
    split
    · exact .inl .failed
    · refine .inl (elsewhere ?_)
      rw [named]
      exact fun same => other (Option.some.inj same)
  · have absent : ∀ o, p.registry.address? o ≠ some y := fun o named => known ⟨o, named⟩
    have absent' : ∀ o, p'.registry.address? o ≠ some y :=
      fun o named => absent o ((spares.registry.address? other).1 named)
    rw [Registry.reserve_of_unknown absent, Registry.reserve_of_unknown absent']
    simp only [CallPlace.orFail]
    rcases spares.registry.size with same | ⟨unknown, more⟩
    · rw [same]
      refine .inl (elsewhere ?_)
      rw [Registry.address?_eq_none_iff.2 (Nat.le_refl _)]
      exact (Option.some_ne_none _).symm
    · rw [more]
      exact spares.alike_next unknown site y options

theorem Onward.size_le {p p' : Server} (onward : p.Onward p') : p.registry.size ≤ p'.registry.size := by
  refine Nat.le_of_not_lt fun fewer => ?_
  cases there : p.registry.address? p'.registry.size with
  | none => exact absurd (Registry.address?_eq_none_iff.1 there) (Nat.not_le_of_lt fewer)
  | some a => cases (onward.address? there).symm.trans (Registry.address?_eq_none_iff.2 (Nat.le_refl _))

theorem Displaces.before {p p' : Server} {a y : String} {place : CallPlace} (displaces : p'.Displaces a y place)
    (onward : p.Onward p') : p.Displaces a y place := by
  have fewer := onward.size_le
  have room := displaces.spare.room
  rw [onward.inherited] at room
  refine ⟨⟨onward.role ▸ displaces.spare.child, by omega⟩, ?_, fun full => displaces.last ?_⟩
  · exact fun o there => displaces.unknown o (onward.address? there)
  · rw [onward.inherited]
    omega

theorem Displaces.alike {p : Server} {a y : String} {place place' : CallPlace} (displaces : p.Displaces a y place)
    (alike : place.Alike place') : p.Displaces a y place' := by
  refine ⟨displaces.spare, displaces.unknown, fun full => ?_⟩
  obtain ⟨o, same⟩ := displaces.last full
  rw [same] at alike
  exact alike.of_notInherited

section

variable {markers : Markers} {settings : Settings} {arguments : List OsText} {files : List (Option OpenFile)}
  {parent nextSocket start : Nat} {p : Server}

end

end Server

end Handover
