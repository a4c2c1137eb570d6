import Handover.Proofs.Server.Advance

namespace Handover

def Move.isServe : Move → Bool
  | serve _ _ => true
  | _ => false

namespace Server

/-- Moves are made one after the other, each at a site and a time of its own. -/
inductive Run (may : Server → Site → Move → Prop) (first : Server) : Server → Prop
  | start : Run may first first
  | next {p p' : Server} {site : Site} {now : Nat} {m : Move} : Run may first p → may p site m →
      p.move? site now m = some p' → Run may first p'

abbrev Reach (first p : Server) : Prop := Run (fun _ _ _ => True) first p

theorem Run.makes {may : Server → Site → Move → Prop} {first p p' : Server} (run : Run may first p) {site : Site}
    {now : Nat} {ms : List Move} (allowed : ∀ m ∈ ms, ∀ q, may q site m) (made : p.moves? site now ms = some p') :
    Run may first p' := by
  induction ms generalizing p with
  | nil =>
    cases made
    exact run
  | cons m rest ih =>
    obtain ⟨next, move, later⟩ := Option.bind_eq_some_iff.1 made
    exact ih (run.next (allowed m List.mem_cons_self p) move) (fun m member => allowed m (List.mem_cons_of_mem _ member))
      later

theorem Run.moves {first p p' : Server} (run : Reach first p) (site : Site) (now : Nat) (ms : List Move)
    (made : p.moves? site now ms = some p') : Reach first p' :=
  run.makes (fun _ _ _ => trivial) made

theorem Run.trans {may : Server → Site → Move → Prop} {first p q : Server} (run : Run may first p)
    (later : Run may p q) : Run may first q := by
  induction later with
  | start => exact run
  | next _ allowed move ih => exact ih.next allowed move

theorem Run.mono {may may' : Server → Site → Move → Prop} {first p : Server} (run : Run may first p)
    (weaker : ∀ p site m, may p site m → may' p site m) : Run may' first p := by
  induction run with
  | start => exact .start
  | next _ allowed move ih => exact ih.next (weaker _ _ _ allowed) move

/-- What every move keeps holds at the end of a run. -/
theorem Run.keep {may : Server → Site → Move → Prop} {kept : Server → Prop}
    (step : ∀ {p p' site now m}, kept p → may p site m → p.move? site now m = some p' → kept p')
    {first p : Server} (run : Run may first p) (atStart : kept first) : kept p := by
  induction run with
  | start => exact atStart
  | next _ allowed move ih => exact step ih allowed move

/-- Nothing has happened in the process. -/
structure Blank (p : Server) : Prop where
  sound : p.registry.Sound
  free : ∀ o, p.registry.isClaimed o = false
  service : ∀ o, p.registry.service? o = none
  restarting : p.registry.restarting = false
  calls : p.calls = []
  signals : p.signals = .idle
  queue : p.queue = []
  stopping : p.stopping = false
  replacements : p.replacements = []
  silent : ∀ r ∈ p.journal, r.isNotification = false

theorem Blank.start (markers : Markers) (settings : Settings) (arguments : List OsText)
    (handed : List (Option OpenFile)) (parent nextSocket now : Nat) :
    (Server.start markers settings arguments handed parent nextSocket now).Blank := by
  unfold Server.start
  dsimp only
  split
  · obtain ⟨sound, free, vacant, _, restarting⟩ := Registry.withOrder_vacant (σ := Service) []
    exact ⟨sound, free, vacant, restarting, rfl, rfl, rfl, rfl, rfl, fun r member => absurd member List.not_mem_nil⟩
  · obtain ⟨sound, free, vacant, _, restarting⟩ := Registry.withOrder_vacant (σ := Service) markers.order
    refine ⟨sound, free, vacant, restarting, rfl, rfl, rfl, rfl, rfl, ?_⟩
    intro r member
    obtain ⟨notice, among, rfl⟩ := List.mem_map.1 member
    obtain ⟨address, _, rfl⟩ := List.mem_map.1 among
    rfl

theorem start_configured (markers : Markers) (settings : Settings) (arguments : List OsText)
    (handed : List (Option OpenFile)) (parent nextSocket now : Nat) :
    (Server.start markers settings arguments handed parent nextSocket now).settings = settings ∧
      (Server.start markers settings arguments handed parent nextSocket now).arguments = arguments := by
  unfold Server.start
  dsimp only
  split <;> exact ⟨rfl, rfl⟩

theorem parent_start (markers : Markers) (settings : Settings) (arguments : List OsText)
    (handed : List (Option OpenFile)) (parent nextSocket now : Nat) :
    (Server.start markers settings arguments handed parent nextSocket now).parent = parent := by
  unfold Server.start
  dsimp only
  split <;> rfl

theorem Blank.notifications {p : Server} (blank : p.Blank) : p.notifications = 0 := by
  rw [Server.notifications, List.countP_eq_zero]
  intro r member
  rw [blank.silent r member]
  exact Bool.false_ne_true

/-- Ordinals belong to the addresses that claimed them, and nobody else claims them before a service is recorded. -/
structure Claims (p : Server) : Prop where
  sound : p.registry.Sound
  address : ∀ {i : Nat} {c : Call} {o : Nat}, p.calls[i]? = some c → c.place.ordinal? = some o →
    p.registry.address? o = some c.address
  service : ∀ {o : Nat} {s : Service}, p.registry.service? o = some s → p.registry.address? o = some s.address
  claim : ∀ {i : Nat} {c : Call} {o : Nat}, p.calls[i]? = some c → c.place.claim? = some o →
    p.registry.isClaimed o = true ∧ p.registry.service? o = none
  alone : ∀ {i j : Nat} {c d : Call} {o : Nat}, p.calls[i]? = some c → p.calls[j]? = some d → c.place.claim? = some o →
    d.place.claim? = some o → i = j

namespace Claims

theorem keep {p p' : Server} (claims : p.Claims) (registry : p.registry.Aged p'.registry)
    (held : ∀ {j : Nat} {d : Call}, p'.calls[j]? = some d →
      (∀ o, d.place.ordinal? = some o → ∃ c, p.calls[j]? = some c ∧ c.address = d.address ∧ c.place.ordinal? = some o) ∧
      ∀ o, d.place.claim? = some o → ∃ c, p.calls[j]? = some c ∧ c.place.claim? = some o) : p'.Claims where
  sound := by
    refine ⟨?_, ?_⟩
    · intro o o' a first second
      rw [registry.address?] at first second
      exact claims.sound.distinct o o' a first second
    · intro o s there
      have later := registry.service? o
      rw [there] at later
      obtain ⟨s', before, _⟩ := later.of_some_right
      rw [registry.isClaimed]
      exact claims.sound.claimed o s' before
  address := by
    intro i d o atCall ordinal
    obtain ⟨c, before, same, ordinal'⟩ := (held atCall).1 o ordinal
    rw [registry.address?, ← same]
    exact claims.address before ordinal'
  service := by
    intro o s there
    have later := registry.service? o
    rw [there] at later
    obtain ⟨s', before, same, _⟩ := later.of_some_right
    rw [registry.address?, same]
    exact claims.service before
  claim := by
    intro i d o atCall claimed
    obtain ⟨c, before, claimed'⟩ := (held atCall).2 o claimed
    obtain ⟨isClaimed, vacant⟩ := claims.claim before claimed'
    exact ⟨(registry.isClaimed o).trans isClaimed, (registry.service? o).eq_none_iff.2 vacant⟩
  alone := by
    intro i j c d o atCall atOther claimed other
    obtain ⟨c', before, claimed'⟩ := (held atCall).2 o claimed
    obtain ⟨d', before', other'⟩ := (held atOther).2 o other
    exact claims.alone before before' claimed' other'

theorem frame {p p' : Server} (claims : p.Claims) (same : Frame p p') : p'.Claims := by
  refine claims.keep same.registry ?_
  intro j d atCall
  rw [same.calls] at atCall
  exact ⟨fun o ordinal => ⟨d, atCall, rfl, ordinal⟩, fun o claimed => ⟨d, atCall, claimed⟩⟩

theorem serve {p : Server} (claims : p.Claims) (address : String) (options : Options) :
    (p.serve address options).Claims := by
  refine claims.keep (.of_slots rfl) ?_
  intro j d atCall
  rw [Server.serve, getElem?_append_last] at atCall
  split at atCall
  · cases atCall
    refine ⟨?_, ?_⟩ <;> intro o has <;> cases has
  · exact ⟨fun o ordinal => ⟨d, atCall, rfl, ordinal⟩, fun o claimed => ⟨d, atCall, claimed⟩⟩

/-- A call gets its ordinal with the claim, which nobody else has. -/
theorem reserve {p q : Server} {i : Nat} {c : Call} {o : Nat} (claims : p.Claims) (atCall : p.calls[i]? = some c)
    (calls : q.calls = p.calls) (reserved : p.registry.reserve c.address = .ok (o, q.registry)) :
    (q.moveCall i (.reserved o)).Claims := by
  obtain ⟨address, _, free, isClaimed, service, _, _⟩ := Registry.reserve_eq_ok reserved
  have vacant : p.registry.service? o = none := by
    cases there : p.registry.service? o with
    | none => rfl
    | some s =>
      have := claims.sound.claimed o s there
      rw [free] at this
      cases this
  have named : ∀ {o' a}, p.registry.address? o' = some a → q.registry.address? o' = some a :=
    Registry.address?_of_reserve reserved
  have atCall' : q.calls[i]? = some c := by rw [calls, atCall]
  refine ⟨claims.sound.reserve reserved, ?_, ?_, ?_, ?_⟩
  · intro j d o' atOther ordinal
    rcases calls_moveCall_eq_some atCall' atOther with ⟨rfl, rfl⟩ | ⟨_, before⟩
    · cases ordinal
      simp only [moveCall, address, if_true]
    · rw [calls] at before
      exact named (claims.address before ordinal)
  · intro o' s there
    simp only [moveCall, service] at there
    exact named (claims.service there)
  · intro j d o' atOther claimed
    rcases calls_moveCall_eq_some atCall' atOther with ⟨rfl, rfl⟩ | ⟨_, before⟩
    · cases claimed
      simp only [moveCall, isClaimed, service, vacant]
      simp
    · rw [calls] at before
      obtain ⟨isClaimed', vacant'⟩ := claims.claim before claimed
      simp only [moveCall, isClaimed, service, vacant', isClaimed']
      simp
  · intro j k d e o' atOther atThird claimed third
    rcases calls_moveCall_eq_some atCall' atOther with ⟨rfl, rfl⟩ | ⟨_, before⟩ <;>
      rcases calls_moveCall_eq_some atCall' atThird with ⟨rfl, rfl⟩ | ⟨_, before'⟩
    · rfl
    -- An ordinal that another call holds is claimed, so that its address could not have been claimed again.
    · cases claimed
      rw [calls] at before'
      have := (claims.claim before' third).1
      rw [free] at this
      cases this
    · cases third
      rw [calls] at before
      have := (claims.claim before claimed).1
      rw [free] at this
      cases this
    · rw [calls] at before before'
      exact claims.alone before before' claimed third

/-- A call that records its service gives up its claim for it. -/
theorem attach {p q : Server} {i : Nat} {c : Call} {o : Nat} {l : Listener} {drain : Option Span} (claims : p.Claims)
    (atCall : p.calls[i]? = some c) (calls : q.calls = p.calls) (atPlace : c.place = .opened o l)
    (attached : p.registry.attach o (.onListener c.address c.options l drain) = .ok q.registry) :
    (q.moveCall i (.attached o)).Claims := by
  have ordinal : c.place.ordinal? = some o := by rw [atPlace]; rfl
  have claim : c.place.claim? = some o := by rw [atPlace]; rfl
  have named := claims.address atCall ordinal
  obtain ⟨vacant, address, isClaimed, service, _, _⟩ := Registry.attach_eq_ok attached named
  have atCall' : q.calls[i]? = some c := by rw [calls, atCall]
  refine ⟨claims.sound.attach attached named, ?_, ?_, ?_, ?_⟩
  · intro j d o' atOther ordinal'
    simp only [moveCall, address]
    rcases calls_moveCall_eq_some atCall' atOther with ⟨rfl, rfl⟩ | ⟨_, before⟩
    · cases ordinal'
      exact named
    · rw [calls] at before
      exact claims.address before ordinal'
  · intro o' s there
    simp only [moveCall, service] at there
    simp only [moveCall, address]
    split at there
    · rename_i same
      subst same
      cases there
      exact named
    · exact claims.service there
  · intro j d o' atOther claimed
    rcases calls_moveCall_eq_some atCall' atOther with ⟨rfl, rfl⟩ | ⟨other, before⟩
    · cases claimed
    · rw [calls] at before
      obtain ⟨isClaimed', vacant'⟩ := claims.claim before claimed
      have apart : o ≠ o' := by
        rintro rfl
        exact other (claims.alone atCall before claim claimed)
      simp only [moveCall, isClaimed, service, isClaimed', if_neg apart, Bool.or_true]
      exact ⟨trivial, vacant'⟩
  · intro j k d e o' atOther atThird claimed third
    rcases calls_moveCall_eq_some atCall' atOther with ⟨rfl, rfl⟩ | ⟨_, before⟩
    · cases claimed
    rcases calls_moveCall_eq_some atCall' atThird with ⟨rfl, rfl⟩ | ⟨_, before'⟩
    · cases third
    rw [calls] at before before'
    exact claims.alone before before' claimed third

/-- A call that gives up leaves no claim behind. -/
theorem release {p q : Server} {i : Nat} {c : Call} {o : Nat} {fault : Fault} (claims : p.Claims)
    (atCall : p.calls[i]? = some c) (calls : q.calls = p.calls) (atPlace : c.place = .abandoning o fault)
    (released : q.registry = p.registry.release o) :
    (q.moveCall i (.returned (some fault))).Claims := by
  have claim : c.place.claim? = some o := by rw [atPlace]; rfl
  obtain ⟨address, isClaimed, service, _, _⟩ := p.registry.views_release o
  rw [← released] at address isClaimed service
  have atCall' : q.calls[i]? = some c := by rw [calls, atCall]
  refine ⟨released ▸ claims.sound.release o, ?_, ?_, ?_, ?_⟩
  · intro j d o' atOther ordinal
    simp only [moveCall, address]
    rcases calls_moveCall_eq_some atCall' atOther with ⟨rfl, rfl⟩ | ⟨_, before⟩
    · cases ordinal
    · rw [calls] at before
      exact claims.address before ordinal
  · intro o' s there
    simp only [moveCall, service] at there
    simp only [moveCall, address]
    exact claims.service there
  · intro j d o' atOther claimed
    rcases calls_moveCall_eq_some atCall' atOther with ⟨rfl, rfl⟩ | ⟨other, before⟩
    · cases claimed
    · rw [calls] at before
      obtain ⟨isClaimed', vacant'⟩ := claims.claim before claimed
      have apart : o ≠ o' := by
        rintro rfl
        exact other (claims.alone atCall before claim claimed)
      simp only [moveCall, isClaimed, service, isClaimed', vacant']
      simp [apart]
  · intro j k d e o' atOther atThird claimed third
    rcases calls_moveCall_eq_some atCall' atOther with ⟨rfl, rfl⟩ | ⟨_, before⟩
    · cases claimed
    rcases calls_moveCall_eq_some atCall' atThird with ⟨rfl, rfl⟩ | ⟨_, before'⟩
    · cases third
    rw [calls] at before before'
    exact claims.alone before before' claimed third

theorem advance {site : Site} {now : Nat} {p q : Server} {i : Nat} {c : Call} {place : CallPlace} (claims : p.Claims)
    (atCall : p.calls[i]? = some c) (advance : Advance site now p c place q) : (q.moveCall i place).Claims := by
  have calls := advance.calls
  rcases advance.registry_cases with ⟨o, _, rfl, reserved⟩ | ⟨o, l, atPlace, rfl, attached⟩ |
    ⟨o, fault, atPlace, rfl, released⟩ | ⟨registry, ordinal, claim⟩
  · exact claims.reserve atCall calls reserved
  · exact claims.attach atCall calls atPlace attached
  · exact claims.release atCall calls atPlace released
  · refine claims.keep registry ?_
    intro j d atOther
    have atCall' : q.calls[i]? = some c := by rw [calls, atCall]
    rcases calls_moveCall_eq_some atCall' atOther with ⟨rfl, rfl⟩ | ⟨_, before⟩
    · exact ⟨fun o has => ⟨c, atCall, rfl, ordinal o has⟩, fun o has => ⟨c, atCall, claim o has⟩⟩
    · rw [calls] at before
      exact ⟨fun o has => ⟨d, before, rfl, has⟩, fun o has => ⟨d, before, has⟩⟩

theorem move? {site : Site} {now : Nat} {p p' : Server} {m : Move} (claims : p.Claims)
    (run : p.move? site now m = some p') : p'.Claims := by
  rcases move?_cases run with ⟨i, c, place, q, _, atCall, advance, rfl⟩ | ⟨address, options, _, rfl⟩ | ⟨_, same⟩
  · exact claims.advance atCall advance
  · exact claims.serve address options
  · exact claims.frame same

theorem of_blank {p : Server} (blank : p.Blank) : p.Claims := by
  refine ⟨blank.sound, ?_, ?_, ?_, ?_⟩
  · intro i c o atCall
    simp [blank.calls] at atCall
  · intro o s there
    rw [blank.service] at there
    cases there
  · intro i c o atCall
    simp [blank.calls] at atCall
  · intro i j c d o atCall
    simp [blank.calls] at atCall

theorem start (markers : Markers) (settings : Settings) (arguments : List OsText)
    (handed : List (Option OpenFile)) (parent nextSocket now : Nat) :
    (Server.start markers settings arguments handed parent nextSocket now).Claims :=
  of_blank (.start _ _ _ _ _ _ _)

end Claims

/-- In every process that was started somehow and made any moves, ordinals belong to those who claimed them. -/
theorem Run.claims {may : Server → Site → Move → Prop} {first p : Server} (run : Run may first p)
    (atStart : first.Claims) : p.Claims :=
  run.keep (fun claims _ move => claims.move? move) atStart

/-- What every move keeps where ordinals belong to those who claimed them holds at the end of a run. -/
theorem Run.keep_of_claims {may : Server → Site → Move → Prop} {kept : Server → Prop}
    (step : ∀ {p p' site now m}, p.Claims → kept p → p.move? site now m = some p' → kept p')
    {first p : Server} (run : Run may first p) (claims : first.Claims) (atStart : kept first) : kept p := by
  induction run with
  | start => exact atStart
  | next earlier _ move ih => exact step (earlier.claims claims) ih move

end Server

end Handover
