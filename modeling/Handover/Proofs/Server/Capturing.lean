import Handover.Proofs.Restart.Placement
import Handover.Proofs.Server.Handling
import Handover.Proofs.Server.Listening

namespace Handover

namespace Restart

/-- Each listener is captured once, in order, under a number that was free. -/
theorem capture_eq_ok {listeners : List (Nat × String × Handle)} {t t' : Descriptors} {captured : List Captured}
    (run : capture listeners t = .ok (captured, t')) :
    captured.map (fun c => (c.ordinal, c.address, c.handle.socket)) =
        listeners.map (fun e => (e.1, e.2.1, e.2.2.socket)) ∧
      (∀ c ∈ captured, t.at? c.handle.descriptor = none) ∧ (captured.map (·.handle.descriptor)).Nodup := by
  induction listeners generalizing t captured t' with
  | nil =>
    cases run
    exact ⟨rfl, by simp, .nil⟩
  | cons first rest ih =>
    obtain ⟨ordinal, address, handle⟩ := first
    simp only [capture, bind, Except.bind] at run
    split at run
    · cases run
    rename_i duplicated duplicating
    obtain ⟨descriptor, middle⟩ := duplicated
    obtain ⟨d, _, _, free, rfl⟩ := Descriptors.duplicate_eq_ok duplicating
    dsimp only at run
    split at run
    · cases run
    rename_i later capturing
    obtain ⟨others, final⟩ := later
    cases run
    obtain ⟨each, unused, distinct⟩ := ih capturing
    have apart : ∀ c ∈ others, descriptor ≠ c.handle.descriptor := by
      intro c member same
      have := unused c member
      rw [Descriptors.at?_put, if_pos same] at this
      cases this
    refine ⟨?_, ?_, ?_⟩
    · rw [List.map_cons, List.map_cons, each]
    · intro c member
      rcases List.mem_cons.1 member with rfl | member
      · exact free
      · have := unused c member
        rwa [Descriptors.at?_put, if_neg (apart c member)] at this
    · rw [List.map_cons]
      refine List.nodup_cons.2 ⟨?_, distinct⟩
      intro member
      obtain ⟨c, among, same⟩ := List.mem_map.1 member
      exact apart c among same.symm

theorem mem_openListeners {r : Registry Service} {o : Nat} {a : String} {h : Handle} :
    (o, a, h) ∈ openListeners r ↔
      r.address? o = some a ∧ ∃ s, r.service? o = some s ∧ s.life.listener.handle? = some h := by
  simp only [openListeners, List.mem_filterMap, Prod.exists, Registry.mem_attached, Option.map_eq_some_iff,
    Prod.mk.injEq]
  constructor
  · rintro ⟨o', a', s, ⟨named, there⟩, h', held, rfl, rfl, rfl⟩
    exact ⟨named, s, there, held⟩
  · rintro ⟨named, s, there, held⟩
    exact ⟨o, a, s, ⟨named, there⟩, h, held, rfl, rfl, rfl⟩

/-- Open listeners come in the order of their ordinals. -/
theorem pairwise_openListeners (r : Registry Service) : (openListeners r).Pairwise fun e e' => e.1 < e'.1 := by
  refine List.Pairwise.filterMap _ ?_ r.pairwise_attached
  intro e e' before f found f' found'
  obtain ⟨h, _, rfl⟩ := Option.map_eq_some_iff.1 found
  obtain ⟨h', _, rfl⟩ := Option.map_eq_some_iff.1 found'
  exact before

end Restart

namespace Server

/-- The services still have the sockets that were captured. -/
def Carries (p : Server) (captured : List Restart.Captured) : Prop :=
  ∀ c ∈ captured, ∃ s, p.registry.service? c.ordinal = some s ∧ s.address = c.address ∧
    s.life.listener.socket = c.handle.socket

/-- What is captured for a replacement that has not been started. -/
structure Captures (p : Server) (captured : List Restart.Captured) : Prop where
  nonempty : captured ≠ []
  carries : p.Carries captured
  ordered : captured.Pairwise fun c c' => c.ordinal < c'.ordinal
  free : ∀ c ∈ captured, (p.untaken.holding p.ownHandles).at? c.handle.descriptor = none
  distinct : (captured.map (·.handle.descriptor)).Nodup

theorem Carries.onward {p p' : Server} {captured : List Restart.Captured} (carries : p.Carries captured)
    (onward : p.Onward p') : p'.Carries captured := by
  intro c member
  obtain ⟨s, there, address, socket⟩ := carries c member
  obtain ⟨s', there', address', later⟩ := onward.service? there
  exact ⟨s', there', address'.trans address, later.socket.trans socket⟩

theorem Carries.address? {p : Server} {captured : List Restart.Captured} (carries : p.Carries captured)
    (claims : p.Claims) {c : Restart.Captured} (member : c ∈ captured) :
    p.registry.address? c.ordinal = some c.address := by
  obtain ⟨s, there, address, _⟩ := carries c member
  rw [claims.service there, address]

theorem Captures.addresses_nodup {p : Server} {captured : List Restart.Captured} (captures : p.Captures captured)
    (claims : p.Claims) : (captured.map (·.address)).Nodup := by
  rw [List.Nodup, List.pairwise_map]
  refine captures.ordered.imp_of_mem ?_
  intro c c' member member' before same
  have first := captures.carries.address? claims member
  have second := captures.carries.address? claims member'
  rw [← same] at second
  have := claims.sound.distinct _ _ _ first second
  omega

theorem untaken_at? (p : Server) (n : Nat) :
    p.untaken.at? n = if n < Markers.firstDescriptor then none
      else (p.handedAt? (n - Markers.firstDescriptor)).map (⟨·, false⟩) := by
  simp only [untaken, Descriptors.at?, handedAt?]
  split
  · rename_i below
    rw [List.getElem?_append_left (by rw [List.length_replicate]; exact below), List.getElem?_replicate, if_pos below]
    rfl
  · rename_i above
    rw [List.getElem?_append_right (by rw [List.length_replicate]; omega), List.length_replicate, List.getElem?_map]
    cases p.handed[n - Markers.firstDescriptor]? <;> rfl

/-- A number that nothing was handed over at, or where it was taken, stays free of that. -/
theorem untaken_eq_none {p p' : Server} {n : Nat} (handed : ∀ o f, p'.handedAt? o = some f → p.handedAt? o = some f)
    (absent : p.untaken.at? n = none) : p'.untaken.at? n = none := by
  rw [untaken_at?] at absent ⊢
  split
  · rfl
  · rename_i above
    rw [if_neg above] at absent
    cases there : p'.handedAt? (n - Markers.firstDescriptor) with
    | none => rfl
    | some f =>
      rw [handed _ _ there] at absent
      cases absent

/-- A number that is free stays so if nothing is opened there and nothing is put back. -/
theorem free_of_subset {p p' : Server} {n : Nat} (handed : ∀ o f, p'.handedAt? o = some f → p.handedAt? o = some f)
    (handles : ∀ h ∈ p'.ownHandles, h ∈ p.ownHandles ∨ h.descriptor ≠ n)
    (free : (p.untaken.holding p.ownHandles).at? n = none) : (p'.untaken.holding p'.ownHandles).at? n = none := by
  rw [Descriptors.at?_holding_eq_none_iff] at free ⊢
  obtain ⟨absent, unheld⟩ := free
  refine ⟨untaken_eq_none handed absent, ?_⟩
  intro h member
  rcases handles h member with before | other
  · exact unheld h before
  · exact other

theorem ownHandles_subset {p p' : Server} (listens : ∀ {o l}, p'.Listens o l → ∃ l', p.Listens o l' ∧ l'.Later l) :
    ∀ h ∈ p'.ownHandles, h ∈ p.ownHandles := by
  intro h member
  obtain ⟨o, l, there, held⟩ := mem_ownHandles.1 member
  obtain ⟨l', before, later⟩ := listens there
  exact mem_ownHandles.2 ⟨o, l', before, later.handle? held⟩

/-- What was handed over and is there after the step of a call was there before. -/
theorem handedAt?_of_advance {site : Site} {now : Nat} {p q : Server} {c : Call} {place : CallPlace}
    (advance : Advance site now p c place q) (o : Nat) (f : OpenFile) (there : q.handedAt? o = some f) :
    p.handedAt? o = some f := by
  have taken : ∀ {k : Nat}, (p.handed.set k none)[o]?.join = some f → p.handedAt? o = some f := by
    intro k there
    rw [List.getElem?_set] at there
    split at there
    · split at there <;> cases there
    · exact there
  cases advance with
  | unusable _ _ _ _ lost =>
    rcases lost with rfl | rfl
    · exact there
    · exact taken there
  | adopt => exact taken there
  | start =>
    rw [handedAt?, (Frame.startService p _).handed] at there
    exact there
  | run =>
    rw [handedAt?, (Frame.runService p _).handed] at there
    exact there
  | stop =>
    rw [handedAt?, (Frame.shutdown p now _).handed] at there
    exact there
  | notify =>
    have same : p.notifyParent.handed = p.handed := by
      unfold notifyParent
      split <;> rfl
    rw [handedAt?, same] at there
    exact there
  | _ => exact there

theorem Captures.held {p : Server} {turn : Turn} {captured : List Restart.Captured} (captures : p.Captures captured)
    (place : p.signals = .launching turn captured) {c : Restart.Captured} (member : c ∈ captured) :
    p.table.at? c.handle.descriptor = some ⟨.socket c.handle.socket, true⟩ := by
  have among : c.handle ∈ p.handles := by
    rw [handles_eq, place]
    exact List.mem_append_right _ (List.mem_map_of_mem member)
  refine Descriptors.at?_holding_of_mem among ?_
  intro h inside same
  rw [handles_eq, place] at inside
  rcases List.mem_append.1 inside with own | duplicate
  · have free := Descriptors.at?_holding_eq_none_iff.1 (captures.free c member)
    exact absurd same (free.2 h own)
  · obtain ⟨c', member', rfl⟩ := List.mem_map.1 duplicate
    obtain ⟨i, atIndex⟩ := List.getElem?_of_mem member
    obtain ⟨j, atIndex'⟩ := List.getElem?_of_mem member'
    have first : (captured.map (·.handle.descriptor))[i]? = some c.handle.descriptor := by
      rw [List.getElem?_map, atIndex]
      rfl
    have second : (captured.map (·.handle.descriptor))[j]? = some c.handle.descriptor := by
      rw [List.getElem?_map, atIndex', ← same]
      rfl
    have equal := (List.getElem?_inj (by exact (List.getElem?_eq_some_iff.1 first).1) captures.distinct).1
      (first.trans second.symm)
    subst equal
    rw [Option.some.inj (atIndex.symm.trans atIndex')]

/-- Duplicates are captured from what the process has open, under numbers that it does not use. -/
theorem captures_of_snapshot {p : Server} {turn : Turn} {captured : List Restart.Captured} {t : Descriptors}
    (claims : p.Claims) (place : p.signals = .capturing turn)
    (snapshot : Restart.snapshot p.registry p.table = .ok (captured, t)) (nonempty : captured ≠ []) :
    p.Captures captured ∧ ∀ {o : Nat} {s : Service} {h : Handle}, p.registry.service? o = some s →
      s.life.listener.handle? = some h → ∃ c ∈ captured, c.ordinal = o ∧ c.handle.socket = h.socket := by
  obtain ⟨each, unused, distinct⟩ := Restart.capture_eq_ok snapshot
  have table : p.table = p.untaken.holding p.ownHandles := table_eq (by rw [place]; rfl)
  refine ⟨⟨nonempty, ?_, ?_, ?_, distinct⟩, ?_⟩
  · intro c member
    have among : (c.ordinal, c.address, c.handle.socket) ∈
        (Restart.openListeners p.registry).map fun e => (e.1, e.2.1, e.2.2.socket) := by
      rw [← each]
      exact List.mem_map_of_mem (f := fun c => (c.ordinal, c.address, c.handle.socket)) member
    obtain ⟨⟨o, a, h⟩, open_, same⟩ := List.mem_map.1 among
    obtain ⟨named, s, there, held⟩ := Restart.mem_openListeners.1 open_
    simp only [Prod.mk.injEq] at same
    obtain ⟨rfl, rfl, socket⟩ := same
    refine ⟨s, there, ?_, ?_⟩
    · exact Option.some.inj ((claims.service there).symm.trans named)
    · rw [← socket]
      obtain ⟨n, _, rfl⟩ := Option.map_eq_some_iff.1 held
      rfl
  · have ordered : ((Restart.openListeners p.registry).map fun e => (e.1, e.2.1, e.2.2.socket)).Pairwise
        fun e e' => e.1 < e'.1 := List.pairwise_map.2 (Restart.pairwise_openListeners p.registry)
    rw [← each, List.pairwise_map] at ordered
    exact ordered
  · intro c member
    rw [← table]
    exact unused c member
  · intro o s h there held
    have open_ := Restart.mem_openListeners.2 ⟨claims.service there, s, there, held⟩
    have among := List.mem_map_of_mem (f := fun e : Nat × String × Handle => (e.1, e.2.1, e.2.2.socket)) open_
    rw [← each] at among
    obtain ⟨c, member, same⟩ := List.mem_map.1 among
    simp only [Prod.mk.injEq] at same
    exact ⟨c, member, same.1, same.2.2⟩

theorem Captures.frame {p p' : Server} {captured : List Restart.Captured} (captures : p.Captures captured)
    (same : Frame p p') : p'.Captures captured where
  nonempty := captures.nonempty
  carries := captures.carries.onward (.of_frame same)
  ordered := captures.ordered
  free := by
    intro c member
    refine free_of_subset ?_ ?_ (captures.free c member)
    · intro o f there
      rw [handedAt?, same.handed] at there
      exact there
    · exact fun h inside => Or.inl (ownHandles_subset (fun there => there.of_frame same) h inside)
  distinct := captures.distinct

theorem Captures.serve {p : Server} {captured : List Restart.Captured} (captures : p.Captures captured)
    (address : String) (options : Options) : (p.serve address options).Captures captured where
  nonempty := captures.nonempty
  carries := captures.carries
  ordered := captures.ordered
  free := by
    intro c member
    refine free_of_subset (p := p) (fun _ _ there => there) ?_ (captures.free c member)
    exact fun h inside => Or.inl (ownHandles_subset (fun there => ⟨_, there.of_serve, .refl _⟩) h inside)
  distinct := captures.distinct

/-- A call that binds or adopts a listener does not get the number of a duplicate. -/
theorem Captures.advance {site : Site} {now : Nat} {p q : Server} {i : Nat} {c : Call} {place : CallPlace}
    {turn : Turn} {captured : List Restart.Captured} (captures : p.Captures captured) (claims : p.Claims)
    (launching : p.signals = .launching turn captured) (atCall : p.calls[i]? = some c)
    (advance : Advance site now p c place q) : (q.moveCall i place).Captures captured where
  nonempty := captures.nonempty
  carries := captures.carries.onward (.of_advance claims atCall advance)
  ordered := captures.ordered
  free := by
    intro d member
    have free := captures.free d member
    refine free_of_subset (p := p) (fun o f there => handedAt?_of_advance advance o f there) ?_ free
    intro h inside
    obtain ⟨o, l, there, held⟩ := mem_ownHandles.1 inside
    rcases Listens.of_advance claims atCall advance there with ⟨l', before, later⟩ | ⟨_, _, ⟨_, _, endpoint, rfl⟩ |
      ⟨_, _, s, file, _, rfl⟩⟩
    · exact Or.inl (mem_ownHandles.2 ⟨o, l', before, later.handle? held⟩)
    · right
      intro same
      cases held
      have used := captures.held launching member
      rw [← same, Descriptors.at?_lowestFree] at used
      cases used
    · right
      intro same
      cases held
      have absent := (Descriptors.at?_holding_eq_none_iff.1 free).1
      rw [← same, untaken_at?, if_neg (by simp), Nat.add_sub_cancel_left, file] at absent
      cases absent
  distinct := captures.distinct

/-- Listeners are captured in one step, and stay captured until the replacement is started. -/
theorem launching_of_move? {site : Site} {now : Nat} {p p' : Server} {m : Move} (run : p.move? site now m = some p')
    {turn : Turn} {captured : List Restart.Captured} (place : p'.signals = .launching turn captured) :
    p.signals = .launching turn captured ∨
      Frame p p' ∧ p.signals = .capturing turn ∧ captured ≠ [] ∧
        ∃ t, Restart.snapshot p.registry p.table = .ok (captured, t) := by
  rcases move?_apart run with apart | ⟨_, step⟩ | ⟨d, _, rfl⟩ | ⟨serial, _, rfl⟩
  · exact Or.inl (apart.signals.symm.trans place)
  · have same : Frame p p' := .stepSignals? step
    cases (stepSignals?_eq_some step).handled with
    | calm _ calm =>
      rw [place] at calm
      cases calm
    | stop | begin_ | fail | launch => cases place
    | capture capturing snapshot nonempty =>
      cases place
      exact Or.inr ⟨same, capturing, nonempty, _, snapshot⟩
  · exact Or.inl ((p.trigger_frame d).2.1.symm.trans place)
  · exact Or.inl ((p.signals_replacementEnds serial).symm.trans place)

/-- In every process that has captured listeners for a replacement, these are as they were captured. -/
theorem captures_of_move? {site : Site} {now : Nat} {p p' : Server} {m : Move} (claims : p.Claims)
    (before : ∀ turn captured, p.signals = .launching turn captured → p.Captures captured)
    (run : p.move? site now m = some p') (turn : Turn) (captured : List Restart.Captured)
    (place : p'.signals = .launching turn captured) : p'.Captures captured := by
  rcases launching_of_move? run place with launching | ⟨same, capturing, nonempty, t, snapshot⟩
  · have captures := before turn captured launching
    rcases move?_cases run with ⟨i, c, next, q, _, atCall, advance, rfl⟩ | ⟨address, options, _, rfl⟩ | ⟨_, same⟩
    · exact captures.advance claims launching atCall advance
    · exact captures.serve address options
    · exact captures.frame same
  · exact (captures_of_snapshot claims capturing snapshot nonempty).1.frame same

theorem Run.captures {may : Server → Site → Move → Prop} {first p : Server} (run : Run may first p)
    (claims : first.Claims) (idle : first.signals = .idle) {turn : Turn} {captured : List Restart.Captured}
    (place : p.signals = .launching turn captured) : p.Captures captured := by
  induction run generalizing turn captured with
  | start =>
    rw [idle] at place
    cases place
  | next earlier _ move ih =>
    exact captures_of_move? (earlier.claims claims) (fun turn captured before => ih before) move turn captured place

/-- A replacement that can be started gets the arguments built for what was captured, and what was placed for it. -/
theorem launched_of_replacement {site : Site} {p : Server} {captured : List Restart.Captured} {r : Replacement}
    (run : p.replacement site captured = .ok r) :
    r.serial = p.launches ∧ r.arguments = Restart.arguments p.baseArguments (captured.map (·.address)) ∧
      r.captured = captured ∧
      (Restart.launch (site.refusal p.settings.program) (captured.map (·.handle.descriptor)) p.table).1 =
        .ok r.descriptors := by
  unfold replacement at run
  dsimp only at run
  split at run
  · cases launched : (Restart.launch (site.refusal p.settings.program) (Restart.Plan.ofSnapshot captured).descriptors
        p.table).1 with
    | error cause =>
      rw [launched] at run
      cases run
    | ok descriptors =>
      rw [launched] at run
      cases run
      exact ⟨rfl, rfl, rfl, launched⟩
  · cases run

theorem Captures.opened {p : Server} {turn : Turn} {captured : List Restart.Captured} (captures : p.Captures captured)
    (place : p.signals = .launching turn captured) :
    ∀ n ∈ captured.map (·.handle.descriptor), (p.table.at? n).isSome := by
  intro n member
  obtain ⟨c, among, rfl⟩ := List.mem_map.1 member
  rw [captures.held place among]
  rfl

/-- At each position from the first descriptor on, a replacement has the socket that was captured there. -/
theorem placed_of_replacement {site : Site} {p : Server} {turn : Turn} {captured : List Restart.Captured}
    {r : Replacement} (captures : p.Captures captured) (place : p.signals = .launching turn captured)
    (run : p.replacement site captured = .ok r) {i : Nat} {c : Restart.Captured} (atIndex : captured[i]? = some c) :
    r.descriptors.at? (Markers.firstDescriptor + i) = some ⟨.socket c.handle.socket, false⟩ := by
  obtain ⟨_, _, _, launched⟩ := launched_of_replacement run
  have source : (captured.map (·.handle.descriptor))[i]? = some c.handle.descriptor := by
    rw [List.getElem?_map, atIndex]
    rfl
  rw [(Restart.launch_eq_ok launched (captures.opened place)).1 i _ source,
    captures.held place (List.mem_of_getElem? atIndex)]
  rfl

/-- A replacement that can be started gets the arguments built for what was captured, and at each position from the
first descriptor on the socket that was captured there. -/
theorem replacement_eq_ok {site : Site} {p : Server} {turn : Turn} {captured : List Restart.Captured} {r : Replacement}
    (captures : p.Captures captured) (place : p.signals = .launching turn captured)
    (run : p.replacement site captured = .ok r) :
    r.serial = p.launches ∧ r.arguments = Restart.arguments p.baseArguments (captured.map (·.address)) ∧
      r.captured = captured ∧ ∀ (i : Nat) (c : Restart.Captured), captured[i]? = some c →
        (Program.Lineage.handed r.descriptors)[i]?.join = some (.socket c.handle.socket) := by
  obtain ⟨serial, arguments, kept, _⟩ := launched_of_replacement run
  refine ⟨serial, arguments, kept, ?_⟩
  intro i c atIndex
  rw [Program.Lineage.handed_getElem?, placed_of_replacement captures place run atIndex]
  rfl

end Server

end Handover
