import Handover.Proofs.Restart.Repeating
import Handover.Proofs.Server.Warning

namespace Handover

theorem filter_zipIdx {α : Type} (f : α → Bool) (l : List α) (k n : Nat) :
    ((l.zipIdx k).filter fun e => decide (e.2 < n) && f e.1).map Prod.fst = (l.take (n - k)).filter f := by
  induction l generalizing k with
  | nil => simp
  | cons a rest ih =>
    rw [List.zipIdx_cons]
    by_cases below : k < n
    · have more : n - k = n - (k + 1) + 1 := by omega
      rw [more, List.take_succ_cons, List.filter_cons, List.filter_cons, ← ih]
      simp only [below, decide_true, Bool.true_and]
      split <;> rfl
    · have none_ : n - (k + 1) = 0 := by omega
      rw [List.filter_cons_of_neg (by simp [below]), ih, none_, show n - k = 0 by omega]
      rfl

namespace Server

/-- There is a service for the address. -/
def serves (p : Server) (address : String) : Bool := p.registry.services.any fun s => s.address == address

section

variable {p : Server}

theorem pending_eq (child : p.role = .child) :
    p.pending = ((p.registry.slots.take p.inherited).filter fun slot => slot.service.isNone).map (·.address) := by
  have kept := filter_zipIdx (fun slot => slot.service.isNone) p.registry.slots 0 p.inherited
  rw [Nat.sub_zero] at kept
  rw [← kept]
  simp only [pending, child, Registry.unattached, Registry.numbered, List.filter_map, List.filter_filter, List.map_map]
  rfl

theorem Claims.serves_iff (claims : p.Claims) {o : Nat} {a : String} (named : p.registry.address? o = some a) :
    p.serves a = true ↔ p.isAttached o = true := by
  rw [serves, List.any_eq_true, isAttached, Option.isSome_iff_exists]
  constructor
  · rintro ⟨s, member, same⟩
    obtain ⟨o', there⟩ := Registry.mem_services.1 member
    have named' := claims.service there
    rw [beq_iff_eq.1 same] at named'
    rw [claims.sound.distinct o o' a named named']
    exact ⟨s, there⟩
  · rintro ⟨s, there⟩
    have same := Option.some.inj ((claims.service there).symm.trans named)
    exact ⟨s, Registry.mem_services.2 ⟨o, there⟩, beq_iff_eq.2 same⟩

/-- Of the addresses within what was handed over, those are named for which there is no service. -/
theorem pending_eq_filter (claims : p.Claims) (child : p.role = .child) :
    p.pending = (p.registry.addresses.take p.inherited).filter fun a => !p.serves a := by
  rw [pending_eq child, Registry.addresses, ← List.map_take, List.filter_map]
  congr 1
  refine List.filter_congr fun slot member => ?_
  obtain ⟨o, atSlot⟩ := List.getElem?_of_mem (List.mem_of_mem_take member)
  have named : p.registry.address? o = some slot.address := by
    rw [Registry.address?, atSlot]
    rfl
  have attached : p.isAttached o = slot.service.isSome := by
    rw [isAttached, Registry.service?, atSlot]
    rfl
  rw [Function.comp_apply, Bool.eq_iff_iff.2 (claims.serves_iff named), attached, Option.not_isSome]

/-- Every address that is known within what was handed over is named, or its adoption is counted or about to be. -/
theorem Adopts.length_pending {files : List (Option OpenFile)} (adopts : p.Adopts files) :
    p.pending.length + p.adopted + p.calls.countP (·.place.isUncounted) = min p.inherited p.registry.size := by
  have outside : ∀ o, p.inherited ≤ o → p.registry.service? o = none := by
    intro o beyond
    cases there : p.registry.service? o with
    | none => rfl
    | some s =>
      have := (adopts.served there).inside
      omega
  have served := Registry.served_take outside
  have whole := List.length_eq_countP_add_countP (fun slot : Slot Service => slot.service.isSome)
    (l := p.registry.slots.take p.inherited)
  have vacant : (fun slot : Slot Service => decide ¬slot.service.isSome = true) = fun slot => slot.service.isNone := by
    funext slot
    cases slot.service <;> rfl
  rw [vacant, List.length_take] at whole
  have count := adopts.count
  rw [pending_eq adopts.child, List.length_map, ← List.countP_eq_length_filter, Registry.size]
  omega

theorem Adopts.pending_eq_nil_iff {files : List (Option OpenFile)} (adopts : p.Adopts files) :
    p.pending = [] ↔
      p.adopted + p.calls.countP (·.place.isUncounted) = min p.inherited p.registry.size := by
  have balance := adopts.length_pending
  rw [← List.length_eq_zero_iff]
  omega

end

section

variable {order : List String} {settings : Settings} {arguments : List OsText} {files : List (Option OpenFile)}
  {parent nextSocket start : Nat} {p : Server}

theorem Run.eraseDups_prefix {may : Server → Site → Move → Prop}
    (run : Run may (Server.start (.inherited order) settings arguments files parent nextSocket start) p) :
    order.eraseDups <+: p.registry.addresses := by
  rw [List.prefix_iff_getElem?]
  intro o inside
  rw [Registry.address?_addresses, run.address?_iff (List.mem_eraseDups.1 (List.getElem_mem inside))]
  exact List.getElem?_eq_getElem inside

/-- With an order that lists no address twice, all the addresses of what was handed over are known. -/
theorem Run.known_eq {may : Server → Site → Move → Prop}
    (run : Run may (Server.start (.inherited order) settings arguments files parent nextSocket start) p)
    (nonempty : order ≠ []) (once : order.Nodup) : p.registry.addresses.take p.inherited = order := by
  have first := run.eraseDups_prefix
  rw [eraseDups_eq_self_iff.2 once] at first
  rw [run.inherited_eq nonempty]
  exact (List.prefix_iff_eq_take.1 first).symm

/-- A replacement names as pending, in their order, the addresses it knows within what was handed over to it for which
there is no service; with an order that lists no address twice, it knows them all. It names none iff all it knows are
counted or about to be. So it does when all that was handed over is counted; otherwise only while a call is still to
count, or as long as it does not know every address, as that of a single listener before it is claimed. A warning names
what is pending when it is given, and it is given only if not all is counted. -/
theorem pending_is_unserved
    (run : Reach (Server.start (.inherited order) settings arguments files parent nextSocket start) p) :
    p.pending = (p.registry.addresses.take p.inherited).filter (fun a => !p.serves a) ∧
      (order ≠ [] → order.Nodup → p.registry.addresses.take p.inherited = order ∧ p.inherited ≤ p.registry.size) ∧
      (p.pending = [] ↔ p.adopted + p.calls.countP (·.place.isUncounted) = min p.inherited p.registry.size) ∧
      (p.adopted = p.inherited → p.pending = []) ∧
      (p.pending = [] → p.adopted = p.inherited ∨ 0 < p.calls.countP (·.place.isUncounted) ∨
        p.registry.size < p.inherited) ∧
      ∀ adopted inherited names, Record.notice (.notServed adopted inherited names) ∈ p.journal →
        ∃ q, Reach (Server.start (.inherited order) settings arguments files parent nextSocket start) q ∧ Reach q p ∧
          adopted = q.adopted ∧ inherited = q.inherited ∧ names = q.pending ∧ adopted < inherited ∧
          (names = [] ↔ adopted + q.calls.countP (·.place.isUncounted) = min inherited q.registry.size) := by
  have started := Claims.start (.inherited order) settings arguments files parent nextSocket start
  have adopts : ∀ {q}, Reach (Server.start (.inherited order) settings arguments files parent nextSocket start) q →
      q.Adopts files := fun run => run.adopts started (.start order settings arguments parent nextSocket start)
  have balance := (adopts run).length_pending
  refine ⟨pending_eq_filter (run.claims started) (adopts run).child, fun nonempty once => ?_,
    (adopts run).pending_eq_nil_iff, fun all => ?_, fun none_ => ?_, ?_⟩
  · have known := run.known_eq nonempty once
    refine ⟨known, ?_⟩
    have length := congrArg List.length known
    rw [List.length_take, Registry.addresses, List.length_map, ← run.inherited_eq nonempty] at length
    rw [Registry.size]
    omega
  · rw [← List.length_eq_zero_iff]
    omega
  · rw [none_, List.length_nil] at balance
    omega
  · intro adopted inherited names given
    obtain ⟨q, reached, later, fewer, _, same⟩ := run.warned (warnings_start _ _ _ _ _ _ _)
      (List.mem_filter.2 ⟨given, rfl⟩)
    cases same
    exact ⟨q, reached, later, rfl, rfl, rfl, fewer, (adopts reached).pending_eq_nil_iff⟩

end

end Server

/-- A replacement that serves one of two addresses is warned that the other is not served. -/
theorem second_address_is_pending :
    ∃ p, Server.Reach Sample.heir p ∧ p.adopted = 1 ∧ p.pending = ["127.0.0.1:81"] ∧
      p.pending = (p.registry.addresses.take p.inherited).filter (fun a => !p.serves a) ∧
      Record.notice (.notServed 1 2 ["127.0.0.1:81"]) ∈ p.journal ∧
      ∃ q, Server.Reach Sample.heir q ∧ 1 = q.adopted ∧ ["127.0.0.1:81"] = q.pending := by
  have serving : Server.Reach Sample.heir (Sample.after Sample.heir (Sample.serving "127.0.0.1:80" 0 9)) :=
    Server.Run.start.moves Sample.site 0 (Sample.serving "127.0.0.1:80" 0 9) rfl
  obtain ⟨p, made, warned⟩ : ∃ p, (Sample.after Sample.heir (Sample.serving "127.0.0.1:80" 0 9)).moves? Sample.site
      30000 [.review] = some p ∧ Record.notice (.notServed 1 2 ["127.0.0.1:81"]) ∈ p.journal ∧ p.adopted = 1 ∧
        p.pending = ["127.0.0.1:81"] := ⟨_, rfl, by decide, rfl, rfl⟩
  have run := serving.moves Sample.site 30000 [.review] made
  obtain ⟨named, _, _, _, _, warning⟩ := Server.pending_is_unserved run
  obtain ⟨q, reached, _, adopted, _, names, _⟩ := warning _ _ _ warned.1
  exact ⟨p, run, warned.2.1, warned.2.2, named, warned.1, q, reached, adopted, names⟩

/-- A replacement for a single listener that has not been called names nobody while nothing is adopted, and its warning
names nobody either. -/
theorem single_listener_is_not_named :
    Sample.single.replacement Sample.site (Sample.captured Sample.single) = .ok (Sample.replacement Sample.single) ∧
      (∃ command, CommandLine.parse (Sample.replacement Sample.single).arguments = .ok command ∧
        command.markers = Sample.markers Sample.single) ∧
      ∃ p, Server.Reach (Sample.started Sample.single) p ∧ p.pending = [] ∧ p.adopted = 0 ∧ p.inherited = 1 ∧
        p.journal = [.notice (.notServed 0 1 [])] := by
  obtain ⟨p, made, warned⟩ : ∃ p, (Sample.started Sample.single).moves? Sample.site 30000 [.review] = some p ∧
      p.pending = [] ∧ p.adopted = 0 ∧ p.inherited = 1 ∧ p.journal = [.notice (.notServed 0 1 [])] :=
    ⟨_, rfl, rfl, rfl, rfl, rfl⟩
  exact ⟨Sample.ready_single, Sample.accepted_single, p,
    Server.Run.start.moves Sample.site 30000 [.review] made, warned⟩

end Handover
