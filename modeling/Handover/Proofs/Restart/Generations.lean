import Handover.Proofs.Restart.Mapping
import Handover.Proofs.Server.Resuming
import Handover.Proofs.Server.Withdrawing
import Mathlib.Data.List.Nodup

namespace Handover

namespace Succession

variable {p q : Server} {captured : List Restart.Captured} {files : List (Option OpenFile)}

theorem single_of_resuming (resuming : q.Resuming (captured.map (·.address))) :
    1 < captured.length ∨ ∀ c ∈ captured, ∀ a, q.registry.address? 0 = some a → a = c.address := by
  by_cases several : 1 < captured.length
  · exact Or.inl several
  · right
    intro c member a named
    obtain ⟨d, member', rfl⟩ := List.mem_map.1 (resuming.known named)
    obtain ⟨only, all⟩ : ∃ only, captured = [only] :=
      List.length_eq_one_iff.1 (by have := List.length_pos_of_mem member; omega)
    rw [all, List.mem_singleton] at member member'
    rw [member, member']

/-- A replacement that knows only addresses that were captured knows them by the ordinals within what was handed over. -/
theorem inside_of_resuming (s : Succession p captured files q) (free : ∀ c ∈ captured, ',' ∉ c.address.toList)
    (resuming : q.Resuming (captured.map (·.address))) {o : Nat} {a : String}
    (named : q.registry.address? o = some a) : o < q.inherited := by
  rw [s.inherited_eq free]
  obtain ⟨c, member, rfl⟩ := List.mem_map.1 (resuming.known named)
  by_cases several : 1 < captured.length
  · have order : CommandLine.passedOrder (captured.map (·.address)) = captured.map (·.address) := by
      rw [CommandLine.passedOrder_of_free (comma_free free), List.length_map, if_pos several]
    obtain ⟨k, atOrdinal⟩ := List.getElem?_of_mem member
    have listed : (CommandLine.passedOrder (captured.map (·.address)))[k]? = some c.address := by
      rw [order, List.getElem?_map, atOrdinal]
      rfl
    have known := s.order (by rw [order]; exact s.distinct) listed
    have same := s.claims.sound.distinct o k _ named known
    rw [same]
    exact (List.getElem?_eq_some_iff.1 atOrdinal).1
  · have single := (single_of_resuming resuming).resolve_left several c member
    have positive := List.length_pos_of_mem member
    cases first : q.registry.address? 0 with
    | none =>
      have none_ := Registry.address?_eq_none_iff.1 first
      rw [Registry.address?_eq_none_iff.2 (by omega)] at named
      cases named
    | some a =>
      have same := single a first
      rw [same] at first
      have := s.claims.sound.distinct o 0 _ named first
      omega

theorem stocked (s : Succession p captured files q) (free : ∀ c ∈ captured, ',' ∉ c.address.toList)
    (kind : ∀ c ∈ captured, c.handle.socket.kind ≠ .unix) (resuming : q.Resuming (captured.map (·.address))) :
    q.Stocked := by
  intro i c o t atCall atPlace
  have named := s.claims.address atCall (o := o) (by rw [atPlace]; rfl)
  have inside := s.inside_of_resuming free resuming named
  refine ⟨inside, ?_⟩
  have within := inside
  rw [s.inherited_eq free] at within
  have atOrdinal := List.getElem?_eq_getElem within
  have usable := kind _ (List.mem_of_getElem? atOrdinal)
  exact ⟨_, s.adopts.handedAt?_of_readied s.claims atCall atPlace (s.handed atOrdinal) usable, usable⟩

end Succession

/-- A process that has captured listeners on sockets of the first process of all, for every address of its. -/
structure Handing (origin captured : List Restart.Captured) (p : Server) : Prop where
  claims : p.Claims
  captures : p.Captures captured
  kind : ∀ c ∈ captured, c.handle.socket.kind ≠ .unix
  arguments : CommandLine.Restartable p.baseArguments
  distinct : (origin.map (·.address)).Nodup
  traced : ∀ c ∈ captured, ∃ d ∈ origin, d.address = c.address ∧ d.handle.socket = c.handle.socket
  complete : ∀ d ∈ origin, ∃ c ∈ captured, c.address = d.address

/-- The process of a generation that is about to start its replacement. The first one binds its listeners itself; each of
the others was called with the addresses that were captured for it, and has captured a listener for every address of the
first one again. -/
inductive Generation (origin : List Restart.Captured) : Nat → Server → List Restart.Captured → Prop
  | first {markers : Markers} {settings : Settings} {arguments : List OsText} {handed : List (Option OpenFile)}
      {parent nextSocket now : Nat} {p : Server} {turn : Turn} : markers.graceful = false →
      CommandLine.Restartable (settings.arguments.getD arguments) →
      Server.Reach (Server.start markers settings arguments handed parent nextSocket now) p →
      p.signals = .launching turn origin → Generation origin 0 p origin
  | next {n : Nat} {p q : Server} {captured captured' : List Restart.Captured} {site : Site} {r : Replacement}
      {command : CommandLine.Command} {settings : Settings} {parent nextSocket now : Nat} {turn : Turn} :
      Generation origin n p captured → p.replacement site captured = .ok r →
      CommandLine.parse r.arguments = .ok command → (∀ base ∈ settings.arguments, CommandLine.Restartable base) →
      Server.Run (Server.Resumes (captured.map (·.address)) fun _ => True) (Server.start command.markers settings
        r.arguments (Program.Lineage.handed r.descriptors) parent nextSocket now) q →
      q.signals = .launching turn captured' → (∀ d ∈ origin, ∃ c ∈ captured', c.address = d.address) →
      Generation origin (n + 1) q captured'

theorem Generation.place {origin captured : List Restart.Captured} {n : Nat} {p : Server}
    (generation : Generation origin n p captured) : ∃ turn, p.signals = .launching turn captured := by
  cases generation with
  | first _ _ _ place => exact ⟨_, place⟩
  | next _ _ _ _ _ place => exact ⟨_, place⟩

/-- A process that was started for what was captured, and was called with these addresses only. -/
structure Restoring (p : Server) (captured : List Restart.Captured) (files : List (Option OpenFile)) (q : Server) :
    Prop where
  succession : Succession p captured files q
  resuming : q.Resuming (captured.map (·.address))

namespace Handing

variable {origin captured : List Restart.Captured} {p : Server}

theorem free (handing : Handing origin captured p) (free : ∀ d ∈ origin, ',' ∉ d.address.toList) :
    ∀ c ∈ captured, ',' ∉ c.address.toList := by
  intro c member
  obtain ⟨d, among, same, _⟩ := handing.traced c member
  exact same ▸ free d among

theorem accepted (handing : Handing origin captured p) {site : Site} {turn : Turn} {r : Replacement}
    (place : p.signals = .launching turn captured) (ready : p.replacement site captured = .ok r) :
    CommandLine.Restartable r.arguments := by
  obtain ⟨_, built, _⟩ := Server.replacement_eq_ok handing.captures place ready
  rw [built]
  exact handing.arguments.arguments _

variable {site : Site} {turn : Turn} {r : Replacement} {command : CommandLine.Command} {settings : Settings}
  {parent nextSocket now : Nat} {sites : Site → Prop} {q : Server}

theorem restoring (handing : Handing origin captured p) (free : ∀ d ∈ origin, ',' ∉ d.address.toList)
    (place : p.signals = .launching turn captured) (ready : p.replacement site captured = .ok r)
    (accepted : CommandLine.parse r.arguments = .ok command)
    (run : Server.Run (Server.Resumes (captured.map (·.address)) sites) (Server.start command.markers settings r.arguments
      (Program.Lineage.handed r.descriptors) parent nextSocket now) q) :
    Restoring p captured (Program.Lineage.handed r.descriptors) q := by
  have s := succession handing.captures handing.claims place ready accepted run
  refine ⟨s, ?_⟩
  clear s
  induction run with
  | start =>
    refine .of_blank (.start _ _ _ _ _ _ _) ?_
    intro o a named
    obtain ⟨_, built, _⟩ := Server.replacement_eq_ok handing.captures place ready
    rw [built] at accepted
    rw [CommandLine.markers_of_parse_arguments accepted, ← Registry.address?_addresses] at named
    change (Registry.withOrder (σ := Service) (CommandLine.passedOrder (captured.map (·.address)))).1.addresses[o]? =
      some a at named
    rw [CommandLine.passedOrder_of_free (Succession.comma_free (handing.free free))] at named
    split at named
    · rw [Registry.addresses_withOrder (handing.captures.addresses_nodup handing.claims)] at named
      exact List.mem_of_getElem? named
    · cases named
  | next earlier resumes move ih =>
    have s := succession handing.captures handing.claims place ready accepted earlier
    exact ih.move? s.claims resumes move

/-- As long as it is not stopping, no call of the replacement fails but for the files of its encryption. -/
theorem intact (handing : Handing origin captured p) (free : ∀ d ∈ origin, ',' ∉ d.address.toList)
    (place : p.signals = .launching turn captured) (ready : p.replacement site captured = .ok r)
    (accepted : CommandLine.parse r.arguments = .ok command)
    (run : Server.Run (Server.Resumes (captured.map (·.address)) sites) (Server.start command.markers settings r.arguments
      (Program.Lineage.handed r.descriptors) parent nextSocket now) q) (going : q.stopping = false) :
    q.Intact sites := by
  induction run with
  | start =>
    intro i c fault atCall
    rw [(Server.Blank.start _ _ _ _ _ _ _).calls] at atCall
    cases atCall
  | next earlier resumes move ih =>
    have going' := Bool.eq_false_iff.2 fun stopping => by
      rw [Server.stopping_of_move? move stopping] at going
      cases going
    obtain ⟨s, resuming⟩ := handing.restoring free place ready accepted earlier
    have stocked := s.stocked (handing.free free) handing.kind resuming
    exact (ih going').move? resumes.1 s.claims resuming stocked s.adopts.child going' move

end Handing

namespace Restoring

variable {p q : Server} {captured : List Restart.Captured} {files : List (Option OpenFile)}

/-- A listener of the replacement is on the socket that was captured for its address. -/
theorem captured_of_listens (restoring : Restoring p captured files q) (free : ∀ c ∈ captured, ',' ∉ c.address.toList)
    {o : Nat} {l : Listener} (listens : q.Listens o l) :
    ∃ c, captured[o]? = some c ∧ q.registry.address? o = some c.address ∧ l.socket = c.handle.socket := by
  have s := restoring.succession
  have found : ∃ a, q.registry.address? o = some a ∧ Server.IsHanded files q.inherited o l := by
    cases listens with
    | call atCall atPlace =>
      exact ⟨_, s.claims.address atCall (by rw [atPlace]; rfl), (s.adopts.opened atCall atPlace).1⟩
    | service there held =>
      subst held
      exact ⟨_, s.claims.service there, s.adopts.served there⟩
  obtain ⟨a, named, handed⟩ := found
  obtain ⟨c, atOrdinal, rfl⟩ :=
    s.captured_at free (Succession.single_of_resuming restoring.resuming) named handed.inside
  exact ⟨c, atOrdinal, named, OpenFile.socket.inj (Option.some.inj (handed.file.symm.trans (s.handed atOrdinal)))⟩

/-- Where a captured address has a service, this is the one at the ordinal of its capture. -/
theorem service_of_captured (restoring : Restoring p captured files q) (free : ∀ c ∈ captured, ',' ∉ c.address.toList)
    {o k : Nat} {service : Service} {c : Restart.Captured} (there : q.registry.service? o = some service)
    (atOrdinal : captured[k]? = some c) (same : service.address = c.address) : o = k := by
  obtain ⟨d, atOther, named, _⟩ := restoring.captured_of_listens free (.service there rfl)
  have address := restoring.succession.claims.service there
  rw [named, same] at address
  have first : (captured.map (·.address))[o]? = some c.address := by
    rw [List.getElem?_map, atOther]
    exact address
  have second : (captured.map (·.address))[k]? = some c.address := by
    rw [List.getElem?_map, atOrdinal]
    rfl
  have inside := (List.getElem?_eq_some_iff.1 first).1
  exact (List.getElem?_inj inside restoring.succession.distinct).1 (first.trans second.symm)

/-- When the adoption of every captured address is counted, the parent has been looked up once. -/
theorem notified_of_counted (restoring : Restoring p captured files q) (free : ∀ c ∈ captured, ',' ∉ c.address.toList)
    (counted : ∀ c ∈ captured, ∃ (i : Nat) (call : Call), q.calls[i]? = some call ∧ call.address = c.address ∧
      call.place.isCounted = true) : q.notifications = 1 := by
  have s := restoring.succession
  have all : ∀ o, o < q.inherited → ∃ service, q.registry.service? o = some service := by
    intro o inside
    rw [s.inherited_eq free] at inside
    have atOrdinal := List.getElem?_eq_getElem inside
    obtain ⟨i, call, atCall, same, past⟩ := counted _ (List.mem_of_getElem? atOrdinal)
    obtain ⟨o', service, there, address⟩ :=
      restoring.resuming.served atCall (CallPlace.isServed_of_isCounted past)
    have equal := restoring.service_of_captured free there atOrdinal (address.trans same)
    exact ⟨service, equal ▸ there⟩
  -- Every call is for a captured address, and the only one for it is counted.
  have past : ∀ d ∈ q.calls, d.place.isCounted = true := by
    intro d member
    obtain ⟨j, atOther⟩ := List.getElem?_of_mem member
    obtain ⟨c, among, same⟩ := List.mem_map.1 (restoring.resuming.called atOther)
    obtain ⟨i, call, atCall, address, past⟩ := counted c among
    have equal := restoring.resuming.once atCall atOther (address.trans same)
    subst equal
    cases atCall.symm.trans atOther
    exact past
  have none_ : q.calls.countP (·.place.isUncounted) = 0 ∧ q.calls.countP (·.place.isCompleting) = 0 := by
    rw [List.countP_eq_zero, List.countP_eq_zero]
    refine ⟨fun d member => ?_, fun d member => ?_⟩
    · rw [(CallPlace.not_uncounted_of_isCounted (past d member)).1]
      exact Bool.false_ne_true
    · rw [(CallPlace.not_uncounted_of_isCounted (past d member)).2]
      exact Bool.false_ne_true
  have count := s.adopts.count
  have most := s.adopts.served_le.1
  have least := Registry.le_served all
  have told := s.adopts.told
  rw [if_pos (by omega)] at told
  omega

/-- The parent is looked up only when every captured address has its service. -/
theorem served_of_notified (restoring : Restoring p captured files q) (free : ∀ c ∈ captured, ',' ∉ c.address.toList)
    (notified : 0 < q.notifications) {c : Restart.Captured} (member : c ∈ captured) :
    ∃ o service, q.registry.service? o = some service ∧ service.address = c.address ∧
      service.life.listener.socket = c.handle.socket := by
  have s := restoring.succession
  obtain ⟨o, atOrdinal⟩ := List.getElem?_of_mem member
  have inside : o < q.inherited := by
    rw [s.inherited_eq free]
    exact (List.getElem?_eq_some_iff.1 atOrdinal).1
  obtain ⟨service, there⟩ := s.adopts.served_of_told notified inside
  obtain ⟨d, atOther, named, socket⟩ := restoring.captured_of_listens free (.service there rfl)
  cases atOrdinal.symm.trans atOther
  exact ⟨o, service, there, Option.some.inj ((s.claims.service there).symm.trans named), socket⟩

/-- When the last adoption is counted, the parent has been looked up, or the next step of a call looks it up. -/
theorem notified_or_notifies (restoring : Restoring p captured files q) (full : q.adopted = q.inherited) :
    q.notifications = 1 ∨ q.notifications = 0 ∧
      ∃ i, ∀ site now, ∃ q', q.move? site now (.call i) = some q' ∧ q'.journal = q.notifyParent.journal := by
  have told := restoring.succession.adopts.told
  rw [if_pos full] at told
  by_cases already : q.notifications = 1
  · exact Or.inl already
  · right
    have some_ : 0 < q.calls.countP (·.place.isCompleting) := by omega
    obtain ⟨call, member, completing⟩ := List.countP_pos_iff.1 some_
    obtain ⟨i, atCall⟩ := List.getElem?_of_mem member
    obtain ⟨o, atPlace⟩ : ∃ o, call.place = .completing o := by
      cases place : call.place with
      | completing o => exact ⟨o, rfl⟩
      | _ =>
        rw [place] at completing
        cases completing
    refine ⟨by omega, i, fun site now => ⟨q.notifyParent.moveCall i (.counted o), ?_, rfl⟩⟩
    change q.stepCall? site now i = _
    unfold Server.stepCall?
    rw [atCall]
    dsimp only
    rw [atPlace]

theorem tells_or_next (restoring : Restoring p captured files q) (notifies : q.Notifies) (several : 1 < q.parent)
    (full : q.adopted = q.inherited) : q.Tells q.parent ∨ q.tellings = 0 ∧
      ∃ i, ∀ site now, ∃ q', q.move? site now (.call i) = some q' ∧ q'.journal = q.journal ++ [.told q.parent] := by
  rcases restoring.notified_or_notifies full with notified | ⟨none_, i, next⟩
  · exact Or.inl (notifies.tells several notified)
  · right
    refine ⟨by rw [notifies.tellings, if_pos several, none_], i, fun site now => ?_⟩
    obtain ⟨q', move, journal⟩ := next site now
    refine ⟨q', move, journal.trans ?_⟩
    rw [Server.journal_notifyParent, if_neg (Nat.not_le.2 several)]

theorem tellings_le (restoring : Restoring p captured files q) (notifies : q.Notifies) : q.tellings ≤ 1 := by
  have told := restoring.succession.adopts.told
  have most : q.notifications ≤ 1 := by split at told <;> omega
  rw [notifies.tellings]
  split <;> omega

end Restoring

/-- In a replacement whose calls can fail only since files cannot be loaded, a call for which they can has its service
after a few steps of its own. -/
theorem Server.Run.reaches_service {addresses : List String} {sites : Site → Prop} {first q : Server}
    (run : Run (Resumes addresses sites) first q)
    (intact : ∀ {p}, Run (Resumes addresses sites) first p → p.stopping = false → p.Intact sites)
    (going : q.stopping = false) {i : Nat} {call : Call} (atCall : q.calls[i]? = some call) (loads : call.Loads sites)
    {site : Site} (here : sites site) (now : Nat) :
    ∃ k q', q.moves? site now (List.replicate k (.call i)) = some q' ∧ ∃ call', q'.calls[i]? = some call' ∧
      call'.address = call.address ∧ call'.place.isServed = true := by
  -- The induction is on the steps that are left before the service is recorded.
  induction left : 5 - call.place.progress using Nat.strongRecOn generalizing q call with
  | ind n ih =>
    by_cases served : call.place.isServed = true
    · exact ⟨0, q, rfl, call, atCall, rfl, served⟩
    have unfailed := (intact run going).unfailed atCall loads
    obtain ⟨p, step⟩ := stepCall?_of_unserved site now atCall (Bool.eq_false_iff.2 served) unfailed
    have move : q.move? site now (.call i) = some p := step
    have later := run.resume here now [.call i] (fun m member => by rw [List.mem_singleton.1 member]; rfl)
      (Option.bind_eq_some_iff.2 ⟨p, move, rfl⟩)
    obtain ⟨c, place, q₁, atCall', advance, rfl⟩ := stepCall?_eq_some step
    cases atCall.symm.trans atCall'
    have going' : (q₁.moveCall i place).stopping = false := (Apart.of_advance advance i).stopping.trans going
    have moved : (q₁.moveCall i place).calls[i]? = some { call with place } := by
      rw [calls_moveCall, if_pos rfl, advance.calls, atCall]
      rfl
    have loads' : ({ call with place } : Call).Loads sites := loads
    have unfailed' : place.fault? = none := (intact later going').unfailed moved loads'
    rcases advance.progress unfailed' with served' | further
    · exact ⟨1, q₁.moveCall i place, Option.bind_eq_some_iff.2 ⟨_, move, rfl⟩, _, moved, rfl, served'⟩
    · have fewer : 5 - place.progress < n := by
        have early := CallPlace.progress_lt (Bool.eq_false_iff.2 served) unfailed
        omega
      obtain ⟨k, q', made, call', atEnd, same, served'⟩ := ih _ fewer later going' moved loads' rfl
      exact ⟨k + 1, q', Option.bind_eq_some_iff.2 ⟨_, move, made⟩, call', atEnd, same, served'⟩

namespace Handing

variable {origin captured : List Restart.Captured} {p q : Server} {files : List (Option OpenFile)}

/-- A listener of the replacement is on the socket that the first process has for its address. -/
theorem origin_of_listens (handing : Handing origin captured p) (free : ∀ d ∈ origin, ',' ∉ d.address.toList)
    (restoring : Restoring p captured files q) {o : Nat} {l : Listener} (listens : q.Listens o l) :
    ∃ d ∈ origin, q.registry.address? o = some d.address ∧ l.socket = d.handle.socket := by
  obtain ⟨c, atOrdinal, named, socket⟩ := restoring.captured_of_listens (handing.free free) listens
  obtain ⟨d, among, address, socket'⟩ := handing.traced c (List.mem_of_getElem? atOrdinal)
  exact ⟨d, among, address ▸ named, socket.trans socket'.symm⟩

theorem served_of_notified (handing : Handing origin captured p) (free : ∀ d ∈ origin, ',' ∉ d.address.toList)
    (restoring : Restoring p captured files q) (notified : 0 < q.notifications) {d : Restart.Captured}
    (among : d ∈ origin) : ∃ o service, q.registry.service? o = some service ∧ service.address = d.address ∧
      service.life.listener.socket = d.handle.socket := by
  obtain ⟨c, member, same⟩ := handing.complete d among
  obtain ⟨o, service, there, address, socket⟩ := restoring.served_of_notified (handing.free free) notified member
  obtain ⟨e, among', address', socket'⟩ := handing.traced c member
  have equal : e = d := List.inj_on_of_nodup_map handing.distinct among' among (address'.trans same)
  exact ⟨o, service, there, address.trans same, socket.trans (equal ▸ socket'.symm)⟩

/-- What a replacement captures is again on the sockets of the first process. -/
theorem next (handing : Handing origin captured p) (free : ∀ d ∈ origin, ',' ∉ d.address.toList)
    (restoring : Restoring p captured files q) {captured' : List Restart.Captured} (captures : q.Captures captured')
    (arguments : CommandLine.Restartable q.baseArguments)
    (complete : ∀ d ∈ origin, ∃ c ∈ captured', c.address = d.address) : Handing origin captured' q := by
  refine ⟨restoring.succession.claims, captures, ?_, arguments, handing.distinct, ?_, complete⟩
  · intro c member
    obtain ⟨service, there, _, socket⟩ := captures.carries c member
    exact socket ▸ (restoring.succession.adopts.served there).kind
  · intro c member
    obtain ⟨service, there, address, socket⟩ := captures.carries c member
    obtain ⟨d, among, named, same⟩ := handing.origin_of_listens free restoring (.service there rfl)
    have known := restoring.succession.claims.service there
    rw [named] at known
    exact ⟨d, among, (Option.some.inj known).trans address, same.symm.trans socket⟩

end Handing

/-- Every generation hands over listeners on the sockets that the first one has bound. -/
theorem Generation.handing {origin : List Restart.Captured} {n : Nat} {captured : List Restart.Captured} {p : Server}
    (generation : Generation origin n p captured) (free : ∀ d ∈ origin, ',' ∉ d.address.toList) :
    Handing origin captured p := by
  induction generation with
  | @first markers settings arguments handed parent nextSocket now p turn fresh restartable run place =>
    have blank := Server.Blank.start markers settings arguments handed parent nextSocket now
    have claims := run.claims (.of_blank blank)
    have captures := run.captures (.of_blank blank) blank.signals place
    have numbered := run.numbered (.of_blank blank) (.start fresh settings arguments handed parent nextSocket now)
    have onward := run.onward (.of_blank blank)
    refine ⟨claims, captures, ?_, ?_, captures.addresses_nodup claims, fun c member => ⟨c, member, rfl, rfl⟩,
      fun d member => ⟨d, member, rfl⟩⟩
    · intro c member
      obtain ⟨service, there, _, socket⟩ := captures.carries c member
      exact socket ▸ numbered.kind (.service there rfl)
    · obtain ⟨settled, given⟩ := Server.start_configured markers settings arguments handed parent nextSocket now
      rw [Server.baseArguments, onward.settings, onward.arguments, settled, given]
      exact restartable
  | @next n p q captured captured' site r command settings parent nextSocket now turn before ready accepted configured
      run place complete ih =>
    obtain ⟨turn', launching⟩ := before.place
    have restoring := ih.restoring free launching ready accepted run
    have blank := Server.Blank.start command.markers settings r.arguments (Program.Lineage.handed r.descriptors) parent
      nextSocket now
    have onward := run.onward (.of_blank blank)
    refine ih.next free restoring (run.captures (.of_blank blank) blank.signals place) ?_ complete
    obtain ⟨settled, given⟩ := Server.start_configured command.markers settings r.arguments
      (Program.Lineage.handed r.descriptors) parent nextSocket now
    rw [Server.baseArguments, onward.settings, onward.arguments, settled, given]
    cases own : settings.arguments with
    | none => exact ih.accepted launching ready
    | some base => exact configured base own

/-- What holds of a replacement that is called with the addresses that were captured for it, over the listeners that the
first process of all has captured, if it has this parent. -/
structure Restored (origin : List Restart.Captured) (sites : Site → Prop) (parent : Nat) (q : Server) : Prop where
  unfailed : q.stopping = false → ∀ {i : Nat} {call : Call}, q.calls[i]? = some call → call.Loads sites →
    call.place.fault? = none
  adopts : q.stopping = false → ∀ {i : Nat} {call : Call}, q.calls[i]? = some call → call.Loads sites →
    ∀ site, sites site → ∀ now, ∃ k q', q.moves? site now (List.replicate k (.call i)) = some q' ∧
      ∃ o service, q'.registry.service? o = some service ∧ service.address = call.address
  listener : ∀ {o : Nat} {l : Listener}, q.Listens o l →
    ∃ d ∈ origin, q.registry.address? o = some d.address ∧ l.socket = d.handle.socket
  complete : ∀ {number : Nat}, .told number ∈ q.journal → number = parent ∧ ∀ d ∈ origin, ∃ o service,
    q.registry.service? o = some service ∧ service.address = d.address ∧
      service.life.listener.socket = d.handle.socket
  prompt : 1 < parent → q.adopted = q.inherited → q.Tells parent ∨ q.tellings = 0 ∧
    ∃ i, ∀ site now, ∃ q', q.move? site now (.call i) = some q' ∧ q'.journal = q.journal ++ [.told parent]
  told : 1 < parent → (∀ d ∈ origin, ∃ (i : Nat) (call : Call), q.calls[i]? = some call ∧ call.address = d.address ∧
    call.place.isCounted = true) → q.Tells parent
  once : q.tellings ≤ 1

/-- After any number of restarts the next replacement accepts its arguments and, called with the addresses whose
listeners were captured for it, adopts all of them on the sockets that the first process has bound. Its parent, if its
number is above the first of all, is told to stop right after the last adoption, and no other process is told. -/
theorem restarts_keep_listeners {origin captured : List Restart.Captured} {n : Nat} {p : Server} {site : Site}
    {r : Replacement} (free : ∀ d ∈ origin, ',' ∉ d.address.toList) (generation : Generation origin n p captured)
    (ready : p.replacement site captured = .ok r) :
    ∃ command, CommandLine.parse r.arguments = .ok command ∧
      ∀ {settings : Settings} {parent nextSocket now : Nat} {sites : Site → Prop} {q : Server},
        Server.Run (Server.Resumes (captured.map (·.address)) sites) (Server.start command.markers settings r.arguments
          (Program.Lineage.handed r.descriptors) parent nextSocket now) q → Restored origin sites parent q := by
  have handing := generation.handing free
  obtain ⟨turn, place⟩ := generation.place
  obtain ⟨⟨command, accepted⟩, _⟩ := handing.accepted place ready
  refine ⟨command, accepted, ?_⟩
  intro settings parent nextSocket now sites q run
  have blank := Server.Blank.start command.markers settings r.arguments (Program.Lineage.handed r.descriptors) parent
    nextSocket now
  have free' := handing.free free
  have restoring := handing.restoring free place ready accepted run
  have notifies := run.notifies blank
  obtain rfl : q.parent = parent := (run.onward (.of_blank blank)).parent.trans (Server.parent_start _ _ _ _ _ _ _)
  refine ⟨?_, ?_, ?_, ?_, ?_, ?_, ?_⟩
  · intro going i call atCall loads
    exact (handing.intact free place ready accepted run going).unfailed atCall loads
  · intro going i call atCall loads site' here now'
    obtain ⟨k, q', made, call', atEnd, same, served⟩ :=
      run.reaches_service (handing.intact free place ready accepted) going atCall loads here now'
    have later := run.resume here now' (List.replicate k (.call i))
      (fun m member => by rw [List.eq_of_mem_replicate member]; rfl) made
    obtain ⟨o, service, there, address⟩ :=
      (handing.restoring free place ready accepted later).resuming.served atEnd served
    exact ⟨k, q', made, o, service, there, address.trans same⟩
  · exact handing.origin_of_listens free restoring
  · intro number told
    obtain ⟨notified, rfl, _⟩ := (notifies.told_iff number).1 told
    exact ⟨rfl, fun d among => handing.served_of_notified free restoring notified among⟩
  · exact restoring.tells_or_next notifies
  · intro several counted
    refine notifies.tells several (restoring.notified_of_counted free' fun c member => ?_)
    obtain ⟨d, among, address, _⟩ := handing.traced c member
    rw [← address]
    exact counted d among
  · exact restoring.tellings_le notifies

namespace Sample

def firstServed (p : Server) : Server := after p (serving "127.0.0.1:81" 0 9)

def bothServed (p : Server) : Server := after (firstServed p) (serving "127.0.0.1:80" 1 9)

/-- The replacement of the process with two listeners, about to be replaced itself. -/
def second : Server := after (bothServed (started pair)) capturing

theorem run_firstServed {p : Server} {sites : Site → Prop} (here : sites site) (none_ : p.calls = [])
    (one : p.moves? site 0 (serving "127.0.0.1:81" 0 9) = some (firstServed p)) :
    Server.Run (Server.Resumes ["127.0.0.1:80", "127.0.0.1:81"] sites) p (firstServed p) :=
  Server.Run.start.serving here 0 {} (by decide)
    (by rw [none_]; exact fun c member => absurd member List.not_mem_nil) 0 9 one

theorem run_bothServed {p : Server} {sites : Site → Prop} (here : sites site) (none_ : p.calls = [])
    (one : p.moves? site 0 (serving "127.0.0.1:81" 0 9) = some (firstServed p))
    (called : (firstServed p).calls.map (·.address) = ["127.0.0.1:81"])
    (both : (firstServed p).moves? site 0 (serving "127.0.0.1:80" 1 9) = some (bothServed p)) :
    Server.Run (Server.Resumes ["127.0.0.1:80", "127.0.0.1:81"] sites) p (bothServed p) := by
  refine (run_firstServed here none_ one).serving here 0 {} (by decide) ?_ 1 9 both
  intro c member
  have among : c.address ∈ (firstServed p).calls.map (·.address) := List.mem_map_of_mem member
  rw [called, List.mem_singleton] at among
  rw [among]
  decide

end Sample

/-- The replacement of a replacement serves both listeners that the first process has bound. -/
theorem second_restart_keeps_listeners :
    Generation (Sample.captured Sample.pair) 1 Sample.second (Sample.captured Sample.second) ∧
      (Sample.bothServed (Sample.started Sample.second)).Tells 7 ∧
      Restored (Sample.captured Sample.pair) (· = Sample.site) 7 (Sample.bothServed (Sample.started Sample.second)) := by
  have begun : Generation (Sample.captured Sample.pair) 0 Sample.pair (Sample.captured Sample.pair) :=
    .first rfl ⟨⟨_, rfl⟩, by decide⟩ Sample.reach_pair rfl
  obtain ⟨command, accepted, markers⟩ := Sample.accepted_pair
  have capturing : (Sample.bothServed (Sample.started Sample.pair)).moves? Sample.site 0 Sample.capturing =
    some Sample.second := rfl
  have resumed : Server.Run (Server.Resumes ["127.0.0.1:80", "127.0.0.1:81"] fun _ => True)
      (Sample.started Sample.pair) Sample.second :=
    (Sample.run_bothServed trivial rfl rfl rfl rfl).resume trivial 0 Sample.capturing (by decide) capturing
  have generation : Generation (Sample.captured Sample.pair) 1 Sample.second (Sample.captured Sample.second) := by
    have configured : ∀ base ∈ Settings.standard.arguments, CommandLine.Restartable base := nofun
    have place : Sample.second.signals = .launching ⟨.restart, none⟩ (Sample.captured Sample.second) := rfl
    exact .next begun Sample.ready_pair accepted configured (Sample.run_started markers resumed) place (by decide)
  have ready' : Sample.second.replacement Sample.site (Sample.captured Sample.second) =
    .ok (Sample.replacement Sample.second) := rfl
  obtain ⟨command', accepted', restored⟩ := restarts_keep_listeners (by decide) generation ready'
  have same : command'.markers = Sample.markers Sample.second := by
    have parsed : ∃ command, CommandLine.parse (Sample.replacement Sample.second).arguments = .ok command ∧
        command.markers = Sample.markers Sample.second := ⟨_, rfl, rfl⟩
    obtain ⟨_, parsed, markers⟩ := parsed
    cases accepted'.symm.trans parsed
    exact markers
  have served : Server.Run (Server.Resumes ["127.0.0.1:80", "127.0.0.1:81"] (· = Sample.site))
      (Sample.started Sample.second) (Sample.bothServed (Sample.started Sample.second)) :=
    Sample.run_bothServed rfl rfl rfl rfl rfl
  have holds := restored (Sample.run_started same served)
  have counted : ∀ d ∈ Sample.captured Sample.pair, ∃ (i : Nat) (call : Call),
      (Sample.bothServed (Sample.started Sample.second)).calls[i]? = some call ∧ call.address = d.address ∧
        call.place.isCounted = true :=
    List.forall_mem_cons.2 ⟨⟨1, _, rfl, rfl, rfl⟩, List.forall_mem_cons.2 ⟨⟨0, _, rfl, rfl, rfl⟩, List.forall_mem_nil _⟩⟩
  exact ⟨generation, holds.told (by decide) counted, holds⟩

namespace Sample

/-- A replacement whose second call asks for files that are not there. -/
def misconfigured : Server :=
  after (firstServed (started pair)) (.serve "127.0.0.1:80" encrypted :: List.replicate 4 (.call 1))

/-- A process is told to stop, up to the end of its services. -/
def terminating : List Move := .trigger { number := 15 } :: List.replicate 5 .signals

/-- A replacement that is stopped before it is called. -/
def interrupted : Server := after (after (started pair) terminating) (serving "127.0.0.1:80" 0 1)

/-- The replacement of the process with two listeners, if the first process of all is its parent. -/
def startedByFirst : Server :=
  Server.start (markers pair) .standard (replacement pair).arguments
    (Program.Lineage.handed (replacement pair).descriptors) 1 9 0

end Sample

/-- A call of a replacement fails if its files for encrypted connections are not there, or if the replacement is told to
stop before; and the first process of all is not told by a replacement that has adopted everything. -/
theorem unchanged_addresses_can_fail :
    Generation (Sample.captured Sample.pair) 0 Sample.pair (Sample.captured Sample.pair) ∧
      (Sample.captured Sample.pair).map (·.address) = ["127.0.0.1:80", "127.0.0.1:81"] ∧
      Sample.pair.replacement Sample.site (Sample.captured Sample.pair) = .ok (Sample.replacement Sample.pair) ∧
      (∃ command, CommandLine.parse (Sample.replacement Sample.pair).arguments = .ok command ∧
        command.markers = Sample.markers Sample.pair) ∧
      (Server.Run (Server.Resumes ["127.0.0.1:80", "127.0.0.1:81"] (· = Sample.site)) (Sample.started Sample.pair)
          Sample.misconfigured ∧ Sample.misconfigured.stopping = false ∧
        (∃ call fault, Sample.misconfigured.calls[1]? = some call ∧ call.address = "127.0.0.1:80" ∧
          call.place = .returned (some fault) ∧ fault.isEncryption = true) ∧ Sample.misconfigured.tellings = 0) ∧
      (Server.Run (Server.Resumes ["127.0.0.1:80", "127.0.0.1:81"] (· = Sample.site)) (Sample.started Sample.pair)
          Sample.interrupted ∧
        Sample.interrupted.calls.map (·.place) = [.returned (some .shuttingDown)] ∧ Sample.interrupted.tellings = 0) ∧
      Server.Run (Server.Resumes ["127.0.0.1:80", "127.0.0.1:81"] (· = Sample.site)) Sample.startedByFirst
          (Sample.bothServed Sample.startedByFirst) ∧
        (Sample.bothServed Sample.startedByFirst).adopted = (Sample.bothServed Sample.startedByFirst).inherited ∧
        (Sample.bothServed Sample.startedByFirst).calls.map (·.place.isCounted) = [true, true] ∧
        (Sample.bothServed Sample.startedByFirst).tellings = 0 := by
  have begun : Generation (Sample.captured Sample.pair) 0 Sample.pair (Sample.captured Sample.pair) :=
    .first rfl ⟨⟨_, rfl⟩, by decide⟩ Sample.reach_pair rfl
  have served : Server.Run (Server.Resumes ["127.0.0.1:80", "127.0.0.1:81"] (· = Sample.site))
      (Sample.started Sample.pair) (Sample.firstServed (Sample.started Sample.pair)) := Sample.run_firstServed rfl rfl rfl
  have stopped : Server.Run (Server.Resumes ["127.0.0.1:80", "127.0.0.1:81"] (· = Sample.site))
      (Sample.started Sample.pair) (Sample.after (Sample.started Sample.pair) Sample.terminating) :=
    Server.Run.start.resume rfl 0 Sample.terminating (by decide) rfl
  refine ⟨begun, rfl, Sample.ready_pair, Sample.accepted_pair, ⟨?_, rfl, ⟨_, _, rfl, rfl, rfl, rfl⟩, rfl⟩, ⟨?_, rfl, rfl⟩,
    Sample.run_bothServed rfl rfl rfl rfl rfl, rfl, rfl, rfl⟩
  · exact served.serving rfl 0 Sample.encrypted List.mem_cons_self (by decide) 1 4 rfl
  · exact stopped.serving rfl 0 {} List.mem_cons_self (by decide) 0 1 rfl

end Handover
