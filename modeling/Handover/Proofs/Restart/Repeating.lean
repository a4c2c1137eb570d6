import Handover.Proofs.Restart.Counting

namespace Handover

namespace Server

/-- What was handed over has a listener for every place of the order. -/
def Placed (order : List String) (files : List (Option OpenFile)) : Prop :=
  ∀ i, i < order.length → ∃ s : Socket, files[i]?.join = some (.socket s) ∧ s.kind ≠ .unix

/-- A call of a replacement that is about to open its listener takes over what was handed over at its ordinal. -/
theorem stepCall?_of_handed {p : Server} {i o : Nat} {t : Transport} {c : Call} {s : Socket} (site : Site)
    (now : Nat) (atCall : p.calls[i]? = some c) (atPlace : c.place = .readied o t) (child : p.role = .child)
    (inside : o < p.inherited) (there : p.handedAt? o = some (.socket s)) (kind : s.kind ≠ .unix) :
    p.stepCall? site now i = some (({ p with handed := p.handed.set o none } : Server).moveCall i
      (.opened o ((Listener.onHandle ⟨Markers.firstDescriptor + o, s⟩ c.options.timeouts).through t))) := by
  unfold stepCall?
  rw [atCall]
  dsimp only
  rw [atPlace]
  simp only [openListener, child, adopt, if_pos inside, there, Option.bind_some, OpenFile.socket?, Option.isSome_some,
    if_true, Listener.adopt, if_neg kind]
  rfl

theorem address?_start (order : List String) (settings : Settings) (arguments : List OsText)
    (files : List (Option OpenFile)) (parent nextSocket start o : Nat) :
    (Server.start (.inherited order) settings arguments files parent nextSocket start).registry.address? o =
      order.eraseDups[o]? := by
  rw [← Registry.address?_addresses]
  change (Registry.withOrder (σ := Service) order).1.addresses[o]? = _
  rw [Registry.addresses_withOrder_eq]

section

variable {may : Server → Site → Move → Prop} {order : List String} {settings : Settings} {arguments : List OsText}
  {files : List (Option OpenFile)} {parent nextSocket start : Nat} {p : Server}

/-- Listed addresses keep the ordinals they get at the start. -/
theorem Run.address?_iff
    (run : Run may (Server.start (.inherited order) settings arguments files parent nextSocket start) p)
    {a : String} (listed : a ∈ order) {o : Nat} : p.registry.address? o = some a ↔ order.eraseDups[o]? = some a := by
  have claims := Claims.start (.inherited order) settings arguments files parent nextSocket start
  have kept : ∀ {o' a'}, order.eraseDups[o']? = some a' → p.registry.address? o' = some a' := by
    intro o' a' atOrdinal
    refine (run.onward claims).address? ?_
    rw [address?_start, atOrdinal]
  refine ⟨fun named => ?_, kept⟩
  obtain ⟨o', atOrdinal⟩ := List.getElem?_of_mem (List.mem_eraseDups.2 listed)
  rw [(run.claims claims).sound.distinct o o' a named (kept atOrdinal), atOrdinal]

theorem Run.lt_of_listed
    (run : Run may (Server.start (.inherited order) settings arguments files parent nextSocket start) p)
    {a : String} (listed : a ∈ order) {o : Nat} (named : p.registry.address? o = some a) : o < order.eraseDups.length :=
  (List.getElem?_eq_some_iff.1 ((run.address?_iff listed).1 named)).1

theorem Run.inherited_eq
    (run : Run may (Server.start (.inherited order) settings arguments files parent nextSocket start) p)
    (nonempty : order ≠ []) : p.inherited = order.length := by
  have positive := List.length_pos_iff.2 nonempty
  rw [(run.onward (.start _ _ _ _ _ _ _)).inherited]
  change max order.length 1 = order.length
  omega

/-- A replacement whose listed addresses are all counted has counted everything that was handed over iff the ordinals
that repetitions leave are counted too. -/
theorem Run.adopted_eq_iff
    (run : Run may (Server.start (.inherited order) settings arguments files parent nextSocket start) p)
    (nonempty : order ≠ []) (served : ∀ a ∈ order, ∃ o, p.registry.address? o = some a ∧ p.isSettled o = true) :
    p.adopted = p.inherited ↔ ∀ o, order.eraseDups.length ≤ o → o < order.length → p.isSettled o = true := by
  have full : p.adopted = p.inherited ↔ ∀ o, o < p.inherited → p.isSettled o = true := by
    have all := List.countP_eq_length (p := p.isSettled) (l := List.range p.inherited)
    rw [List.length_range, ← run.tallied.count] at all
    simpa only [List.mem_range] using all
  rw [full, run.inherited_eq nonempty]
  refine ⟨fun all o _ inside => all o inside, fun rest o inside => ?_⟩
  -- Below the ordinals that repetitions leave stand the listed addresses, and nothing else.
  by_cases beyond : order.eraseDups.length ≤ o
  · exact rest o beyond inside
  · have atOrdinal := List.getElem?_eq_getElem (Nat.lt_of_not_le beyond)
    have listed := List.mem_eraseDups.1 (List.mem_of_getElem? atOrdinal)
    obtain ⟨o', named, settled⟩ := served _ listed
    have same := (run.address?_iff listed).1 named
    have inside' := run.lt_of_listed listed named
    rw [← (List.getElem?_inj inside' (nodup_eraseDups order)).1 (same.trans atOrdinal.symm)]
    exact settled

/-- In a replacement that was handed a listener for every place of its order, a listed address adopts the listener at
its ordinal. That is one of its own iff no address is listed twice before it. When all listed addresses are served and
counted, everything that was handed over is counted, and the parent is told, iff every listener that repetitions leave
has gone to an address that is not listed, so for certain if there are no repetitions. -/
theorem listed_addresses_adopt
    (run : Reach (Server.start (.inherited order) settings arguments files parent nextSocket start) p)
    (nonempty : order ≠ []) (placed : Placed order files) :
    (∀ {i o : Nat} {t : Transport} {c : Call}, p.calls[i]? = some c → c.place = .readied o t → c.address ∈ order →
      (order[o]? = some c.address ↔ (order.take (order.idxOf c.address)).Nodup) ∧
        ∃ s, files[o]?.join = some (.socket s) ∧
          ∀ site now, p.stepCall? site now i = some (({ p with handed := p.handed.set o none } : Server).moveCall i
            (.opened o ((Listener.onHandle ⟨Markers.firstDescriptor + o, s⟩ c.options.timeouts).through t)))) ∧
      (∀ {o : Nat} {service : Service}, p.registry.service? o = some service → service.address ∈ order →
        (order[o]? = some service.address ↔ (order.take (order.idxOf service.address)).Nodup) ∧
          files[o]?.join = some (.socket service.life.listener.socket) ∧
          (service.life.listener.isClosed = false →
            service.life.listener.handle? = some ⟨Markers.firstDescriptor + o, service.life.listener.socket⟩)) ∧
      ((∀ a ∈ order, ∃ o, p.registry.address? o = some a ∧ p.isSettled o = true) →
        (p.adopted = p.inherited ↔ ∀ o, order.eraseDups.length ≤ o → o < order.length →
          ∃ service, p.registry.service? o = some service ∧ service.address ∉ order ∧ p.isAwaited o = false) ∧
          (order.Nodup → p.adopted = p.inherited) ∧
          p.notifications + p.calls.countP (·.place.isCompleting) = (if p.adopted = p.inherited then 1 else 0) ∧
          p.tellings = if 1 < p.parent then p.notifications else 0) := by
  have started := Claims.start (.inherited order) settings arguments files parent nextSocket start
  have claims := run.claims started
  have adopts := run.adopts started (.start order settings arguments parent nextSocket start)
  have fewer := (eraseDups_sublist order).length_le
  have heard := (run.notifies (.start _ _ _ _ _ _ _)).tellings
  refine ⟨?_, ?_, fun served => ⟨?_, fun once => ?_, adopts.told, heard⟩⟩
  · intro i o t c atCall atPlace listed
    have named := claims.address atCall (o := o) (by rw [atPlace]; rfl)
    have inside := Nat.lt_of_lt_of_le (run.lt_of_listed listed named) fewer
    obtain ⟨s, file, kind⟩ := placed o inside
    refine ⟨getElem?_of_eraseDups ((run.address?_iff listed).1 named), s, file, fun site now => ?_⟩
    have there := adopts.handedAt?_of_readied claims atCall atPlace file kind
    exact stepCall?_of_handed site now atCall atPlace adopts.child (run.inherited_eq nonempty ▸ inside) there kind
  · intro o service there listed
    have handed := adopts.served there
    exact ⟨getElem?_of_eraseDups ((run.address?_iff listed).1 (claims.service there)), handed.file, handed.handle?⟩
  · rw [run.adopted_eq_iff nonempty served]
    refine forall_congr' fun o => imp_congr_right fun beyond => imp_congr_right fun _ => ?_
    rw [isSettled, isAttached, Bool.and_eq_true, Bool.not_eq_true', Option.isSome_iff_exists]
    constructor
    · rintro ⟨⟨service, there⟩, counted⟩
      refine ⟨service, there, fun listed => ?_, counted⟩
      have := run.lt_of_listed listed (claims.service there)
      omega
    · rintro ⟨service, there, _, counted⟩
      exact ⟨⟨service, there⟩, counted⟩
  · rw [run.adopted_eq_iff nonempty served, eraseDups_eq_self_iff.2 once]
    intro o beyond inside
    omega

end

end Server

namespace Sample

/-- Listeners at some ports, in their order. -/
def listeners (ports : List Nat) : List (Option OpenFile) :=
  ports.zipIdx.map fun e => some (.socket { identity := 5 + e.2, endpoint := ⟨.v4 127 0 0 1, e.1⟩ })

def endingTwice : List String := ["127.0.0.1:80", "127.0.0.1:81", "127.0.0.1:80"]

def beginningTwice : List String := ["127.0.0.1:80", "127.0.0.1:80", "127.0.0.1:81"]

/-- A replacement to which listeners were handed over, with an order for them. -/
def heirOf (order : List String) (ports : List Nat) : Server :=
  Server.start (.inherited order) .standard [] (listeners ports) 7 9 0

/-- It serves two addresses. -/
def heirServing (order : List String) (ports : List Nat) : Server :=
  after (heirOf order ports) (serving "127.0.0.1:80" 0 9 ++ serving "127.0.0.1:81" 1 9)

theorem placed_listeners {order : List String} {ports : List Nat} (same : order.length = ports.length) :
    Server.Placed order (listeners ports) := by
  intro i inside
  rw [same] at inside
  refine ⟨{ identity := 5 + i, endpoint := ⟨.v4 127 0 0 1, ports[i]⟩ }, ?_, nofun⟩
  simp [listeners, inside]

theorem run_heirServing {order : List String} {ports : List Nat} {p : Server}
    (made : (heirOf order ports).moves? site 0 (serving "127.0.0.1:80" 0 9 ++ serving "127.0.0.1:81" 1 9) = some p) :
    Server.Reach (heirOf order ports) (heirServing order ports) := by
  rw [heirServing, after, made]
  exact Server.Run.start.moves site 0 _ made

theorem settled_heirServing {order : List String} {ports : List Nat}
    (two : ∀ a ∈ order, a = "127.0.0.1:80" ∨ a = "127.0.0.1:81")
    (known : (heirServing order ports).registry.addresses = ["127.0.0.1:80", "127.0.0.1:81"])
    (settled : (heirServing order ports).isSettled 0 = true ∧ (heirServing order ports).isSettled 1 = true) :
    ∀ a ∈ order, ∃ o, (heirServing order ports).registry.address? o = some a ∧
      (heirServing order ports).isSettled o = true := by
  intro a listed
  rcases two a listed with rfl | rfl
  · exact ⟨0, by rw [← Registry.address?_addresses, known]; rfl, settled.1⟩
  · exact ⟨1, by rw [← Registry.address?_addresses, known]; rfl, settled.2⟩

end Sample

/-- An address that is listed again behind all others shifts nobody, and yet not everything is counted when all listed
addresses are served. -/
theorem address_listed_again_is_not_counted :
    ∃ p, Server.Reach (Sample.heirOf Sample.endingTwice [80, 81, 80]) p ∧
      Server.Placed Sample.endingTwice (Sample.listeners [80, 81, 80]) ∧
      (∃ service, p.registry.service? 1 = some service ∧ Sample.endingTwice[1]? = some service.address ∧
        (Sample.listeners [80, 81, 80])[1]?.join = some (.socket service.life.listener.socket)) ∧
      p.adopted ≠ p.inherited ∧ p.notifications = 0 := by
  have run : Server.Reach (Sample.heirOf Sample.endingTwice [80, 81, 80])
      (Sample.heirServing Sample.endingTwice [80, 81, 80]) := Sample.run_heirServing rfl
  have placed : Server.Placed Sample.endingTwice (Sample.listeners [80, 81, 80]) := Sample.placed_listeners rfl
  obtain ⟨_, services, counting⟩ := Server.listed_addresses_adopt run (by decide) placed
  obtain ⟨service, there, address⟩ : ∃ service,
      (Sample.heirServing Sample.endingTwice [80, 81, 80]).registry.service? 1 = some service ∧
        service.address = "127.0.0.1:81" := ⟨_, rfl, rfl⟩
  obtain ⟨own, file, _⟩ := services there (by rw [address]; decide)
  obtain ⟨full, _, told, _⟩ := counting (Sample.settled_heirServing (by decide) rfl ⟨rfl, rfl⟩)
  have fewer : (Sample.heirServing Sample.endingTwice [80, 81, 80]).adopted ≠
      (Sample.heirServing Sample.endingTwice [80, 81, 80]).inherited := by
    intro all
    obtain ⟨_, there, _⟩ := full.1 all 2 (by decide) (by decide)
    cases there
  rw [if_neg fewer] at told
  exact ⟨_, run, placed, ⟨service, there, own.2 (by rw [address]; decide), file⟩, fewer, by omega⟩

/-- An address behind one that is listed twice adopts a listener that was handed over for that one. With all listed
addresses served and all calls waiting for their accept loops, not everything is counted and the parent is not told. -/
theorem address_behind_repetition_adopts_another_listener :
    ∃ p, Server.Reach (Sample.heirOf Sample.beginningTwice [80, 80, 81]) p ∧
      Server.Placed Sample.beginningTwice (Sample.listeners [80, 80, 81]) ∧
      (∃ service, p.registry.service? 1 = some service ∧ service.address ∈ Sample.beginningTwice ∧
        ∀ i : Nat, Sample.beginningTwice[i]? = some service.address →
          (Sample.listeners [80, 80, 81])[i]?.join ≠ some (.socket service.life.listener.socket)) ∧
      (∀ a ∈ Sample.beginningTwice, ∃ o, p.registry.address? o = some a ∧ p.isSettled o = true) ∧
      (∀ c ∈ p.calls, ∃ o, c.place = .serving o) ∧ p.adopted ≠ p.inherited ∧ p.notifications = 0 := by
  refine ⟨Sample.heirServing Sample.beginningTwice [80, 80, 81], Sample.run_heirServing rfl,
    Sample.placed_listeners rfl, ⟨_, rfl, by decide, ?_⟩, Sample.settled_heirServing (by decide) rfl ⟨rfl, rfl⟩, ?_,
    by decide, rfl⟩
  · intro i listed
    match i with
    | 0 | 1 => exact absurd listed (by decide)
    | 2 => decide
    | i + 3 => cases listed
  · intro c member
    rcases List.mem_cons.1 member with rfl | member
    · exact ⟨0, rfl⟩
    · rw [List.mem_singleton.1 member]
      exact ⟨1, rfl⟩

end Handover
