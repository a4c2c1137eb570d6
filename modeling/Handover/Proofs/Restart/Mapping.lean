import Handover.Proofs.CommandLine.Order
import Handover.Proofs.Registry.Seeding
import Handover.Proofs.Server.Adoption
import Handover.Proofs.Server.Capturing

namespace Handover

/-- The process `q` was started for what `p` had captured, was handed `files`, and has made some moves. -/
structure Succession (p : Server) (captured : List Restart.Captured) (files : List (Option OpenFile)) (q : Server) :
    Prop where
  captures : p.Captures captured
  distinct : (captured.map (·.address)).Nodup
  handed : ∀ {i : Nat} {c : Restart.Captured}, captured[i]? = some c →
    files[i]?.join = some (.socket c.handle.socket)
  claims : q.Claims
  adopts : q.Adopts files
  inherited : q.inherited = (Markers.inherited (CommandLine.passedOrder (captured.map (·.address)))).inheritedCount
  order : (CommandLine.passedOrder (captured.map (·.address))).Nodup → ∀ {o : Nat} {a : String},
    (CommandLine.passedOrder (captured.map (·.address)))[o]? = some a → q.registry.address? o = some a

/-- Whatever moves follow in the replacement, it starts from what was captured. -/
theorem succession {may : Server → Site → Move → Prop} {p q : Server} {site : Site} {turn : Turn}
    {captured : List Restart.Captured} {r : Replacement} {command : CommandLine.Command} {settings : Settings}
    {parent nextSocket now : Nat} (captures : p.Captures captured) (claims : p.Claims)
    (place : p.signals = .launching turn captured) (ready : p.replacement site captured = .ok r)
    (accepted : CommandLine.parse r.arguments = .ok command)
    (later : Server.Run may (Server.start command.markers settings r.arguments (Program.Lineage.handed r.descriptors)
      parent nextSocket now) q) : Succession p captured (Program.Lineage.handed r.descriptors) q := by
  obtain ⟨_, built, _, handed⟩ := Server.replacement_eq_ok captures place ready
  rw [built] at accepted
  have markers : command.markers = .inherited (CommandLine.passedOrder (captured.map (·.address))) :=
    CommandLine.markers_of_parse_arguments accepted
  rw [markers] at later
  have started := Server.Claims.start (.inherited (CommandLine.passedOrder (captured.map (·.address)))) settings
    r.arguments (Program.Lineage.handed r.descriptors) parent nextSocket now
  have onward := later.onward started
  refine ⟨captures, captures.addresses_nodup claims, handed _ _, later.claims started,
    later.adopts started (.start _ settings r.arguments parent nextSocket now), onward.inherited, ?_⟩
  intro once o a atOrdinal
  refine onward.address? ?_
  rw [← Registry.address?_addresses]
  change (Registry.withOrder (σ := Service) (CommandLine.passedOrder (captured.map (·.address)))).1.addresses[o]? = _
  rw [Registry.addresses_withOrder once]
  exact atOrdinal

namespace Succession

variable {p q : Server} {captured : List Restart.Captured} {files : List (Option OpenFile)}

theorem comma_free (free : ∀ c ∈ captured, ',' ∉ c.address.toList) :
    ∀ address ∈ captured.map (·.address), ',' ∉ address.toList := by
  intro address member
  obtain ⟨c, among, rfl⟩ := List.mem_map.1 member
  exact free c among

theorem inherited_eq (s : Succession p captured files q) (free : ∀ c ∈ captured, ',' ∉ c.address.toList) :
    q.inherited = captured.length := by
  have nonempty : captured.map (·.address) ≠ [] := fun empty => s.captures.nonempty (List.map_eq_nil_iff.1 empty)
  rw [s.inherited, CommandLine.inheritedCount_of_free (comma_free free) nonempty, List.length_map]

/-- With several listeners, or if the first address of all is the one that is handed over, an ordinal within what was
handed over belongs to the address that was captured there. -/
theorem captured_at (s : Succession p captured files q) (free : ∀ c ∈ captured, ',' ∉ c.address.toList)
    (single : 1 < captured.length ∨ ∀ c ∈ captured, ∀ a, q.registry.address? 0 = some a → a = c.address)
    {o : Nat} {a : String} (named : q.registry.address? o = some a) (inside : o < q.inherited) :
    ∃ c, captured[o]? = some c ∧ c.address = a := by
  rw [s.inherited_eq free] at inside
  have atOrdinal := List.getElem?_eq_getElem inside
  refine ⟨_, atOrdinal, ?_⟩
  by_cases several : 1 < captured.length
  · have order : CommandLine.passedOrder (captured.map (·.address)) = captured.map (·.address) := by
      rw [CommandLine.passedOrder_of_free (comma_free free), List.length_map, if_pos several]
    have listed : (CommandLine.passedOrder (captured.map (·.address)))[o]? = some captured[o].address := by
      rw [order, List.getElem?_map, atOrdinal]
      rfl
    have known := s.order (by rw [order]; exact s.distinct) listed
    exact Option.some.inj (known.symm.trans named)
  -- No order is passed on for a single listener: its ordinal goes to whoever is the first to claim one.
  · rcases single with more | alone
    · exact absurd more several
    · have zero : o = 0 := by omega
      subst zero
      exact (alone _ (List.mem_of_getElem? atOrdinal) a named).symm

theorem socket_at (s : Succession p captured files q) {o : Nat} {l : Listener}
    (handed : Server.IsHanded files q.inherited o l) {c : Restart.Captured} (atOrdinal : captured[o]? = some c) :
    ∃ held, p.registry.service? c.ordinal = some held ∧ held.address = c.address ∧
      l.socket = held.life.listener.socket := by
  obtain ⟨held, there, address, socket⟩ := s.captures.carries c (List.mem_of_getElem? atOrdinal)
  refine ⟨held, there, address, ?_⟩
  have same := OpenFile.socket.inj (Option.some.inj ((s.handed atOrdinal).symm.trans handed.file))
  exact same.symm.trans socket.symm

end Succession

/-- Why a call of a replacement fails that adopts nothing. -/
inductive Excluded (c : Call) : Fault → Prop
  | shuttingDown : Excluded c .shuttingDown
  | alreadyServing : Excluded c (.alreadyServing c.address)
  | encryption {site : Site} {fault : Fault} :
      Transport.load site.provider site.files c.options.encryption = .error fault → Excluded c fault
  | notInherited {o : Nat} : Excluded c (.notInherited c.address o)

/-- Where a call of a replacement stands that adopts nothing: before its listener, or after its failure. -/
inductive Foreign (c : Call) : CallPlace → Prop
  | entered : Foreign c .entered
  | admitted : Foreign c .admitted
  | reserved {o : Nat} : Foreign c (.reserved o)
  | readied {o : Nat} {t : Transport} : Foreign c (.readied o t)
  | abandoning {o : Nat} {fault : Fault} : Excluded c fault → Foreign c (.abandoning o fault)
  | returned {fault : Fault} : Excluded c fault → Foreign c (.returned (some fault))

theorem Foreign.transport {c : Call} {at_ : CallPlace} (foreign : Foreign c at_) (place : CallPlace) :
    Foreign { c with place } at_ := by
  have excluded : ∀ {fault}, Excluded c fault → Excluded { c with place } fault := by
    intro fault why
    cases why with
    | shuttingDown => exact .shuttingDown
    | alreadyServing => exact .alreadyServing
    | encryption refused => exact .encryption refused
    | notInherited => exact .notInherited
  cases foreign with
  | entered => exact .entered
  | admitted => exact .admitted
  | reserved => exact .reserved
  | readied => exact .readied
  | abandoning why => exact .abandoning (excluded why)
  | returned why => exact .returned (excluded why)

/-- A call whose ordinal, should it get that far, is beyond what was handed over never adopts anything. -/
theorem Foreign.advance {site : Site} {now : Nat} {q q' : Server} {c : Call} {place : CallPlace}
    (foreign : Foreign c c.place) (child : q.role = .child) (beyond : ∀ o t, c.place = .readied o t → q.inherited ≤ o)
    (advance : Server.Advance site now q c place q') : Foreign c place := by
  cases advance with
  | refuse => exact .returned .shuttingDown
  | pass => exact .admitted
  | repeated _ refused =>
    obtain ⟨rfl, _⟩ := Registry.reserve_eq_error refused
    exact .returned .alreadyServing
  | claim => exact .reserved
  | unready _ refused => exact .abandoning (.encryption refused)
  | ready => exact .readied
  | unbound _ parent | bind _ parent =>
    rw [child] at parent
    cases parent
  | beyond => exact .abandoning .notInherited
  | unusable atPlace _ inside | adopt atPlace _ inside =>
    have := beyond _ _ atPlace
    omega
  | release atPlace =>
    rw [atPlace] at foreign
    cases foreign with
    | abandoning why => exact .returned why
  | lose atPlace | attach atPlace | start atPlace | count atPlace | countAdoption atPlace | complete atPlace
  | notify atPlace | stop atPlace | stay atPlace | run atPlace | finish atPlace =>
    rw [atPlace] at foreign
    cases foreign

/-- Every call for an address that was not captured stands where it adopts nothing. -/
def Server.Excludes (captured : List Restart.Captured) (q : Server) : Prop :=
  ∀ (i : Nat) (call : Call), q.calls[i]? = some call → (∀ c ∈ captured, c.address ≠ call.address) →
    Foreign call call.place

namespace Succession

variable {p q : Server} {captured : List Restart.Captured} {files : List (Option OpenFile)}

/-- An address that was not captured has no ordinal within what was handed over. -/
theorem inherited_le (s : Succession p captured files q) (free : ∀ c ∈ captured, ',' ∉ c.address.toList)
    (single : 1 < captured.length ∨ ∀ c ∈ captured, ∀ a, q.registry.address? 0 = some a → a = c.address)
    {i : Nat} {call : Call} (atCall : q.calls[i]? = some call) (foreign : ∀ c ∈ captured, c.address ≠ call.address)
    (o : Nat) (t : Transport) (atPlace : call.place = .readied o t) : q.inherited ≤ o := by
  have named := s.claims.address atCall (o := o) (by rw [atPlace]; rfl)
  refine Nat.le_of_not_lt fun inside => ?_
  obtain ⟨c, atOrdinal, address⟩ := s.captured_at free single named inside
  exact foreign c (List.mem_of_getElem? atOrdinal) address

theorem excludes_move? (s : Succession p captured files q) (free : ∀ c ∈ captured, ',' ∉ c.address.toList)
    (single : 1 < captured.length ∨ ∀ c ∈ captured, ∀ a, q.registry.address? 0 = some a → a = c.address)
    (excludes : q.Excludes captured) {site : Site} {now : Nat} {m : Move} {q' : Server}
    (move : q.move? site now m = some q') : q'.Excludes captured := by
  intro i call atCall foreign
  rcases Server.move?_cases move with ⟨j, d, next, q₁, _, atOther, advance, rfl⟩ | ⟨address, options, _, rfl⟩ |
    ⟨_, same⟩
  · have atOther' : q₁.calls[j]? = some d := by rw [advance.calls, atOther]
    rcases Server.calls_moveCall_eq_some atOther' atCall with ⟨rfl, rfl⟩ | ⟨_, before⟩
    · have standing := excludes j d atOther foreign
      exact (standing.advance s.adopts.child (s.inherited_le free single atOther foreign) advance).transport _
    · rw [advance.calls] at before
      exact excludes i call before foreign
  · rw [Server.serve, getElem?_append_last] at atCall
    split at atCall
    · cases atCall
      exact .entered
    · exact excludes i call atCall foreign
  · rw [same.calls] at atCall
    exact excludes i call atCall foreign

end Succession

theorem excludes_of_run {may : Server → Site → Move → Prop} {p q : Server} {site : Site} {turn : Turn}
    {captured : List Restart.Captured} {r : Replacement} {command : CommandLine.Command} {settings : Settings}
    {parent nextSocket now : Nat} (captures : p.Captures captured) (claims : p.Claims)
    (place : p.signals = .launching turn captured) (ready : p.replacement site captured = .ok r)
    (free : ∀ c ∈ captured, ',' ∉ c.address.toList) (accepted : CommandLine.parse r.arguments = .ok command)
    (later : Server.Run may (Server.start command.markers settings r.arguments (Program.Lineage.handed r.descriptors)
      parent nextSocket now) q)
    (single : 1 < captured.length ∨ ∀ c ∈ captured, ∀ a, q.registry.address? 0 = some a → a = c.address) :
    q.Excludes captured := by
  induction later with
  | start =>
    intro i call atCall
    rw [(Server.Blank.start _ _ _ _ _ _ _).calls] at atCall
    cases atCall
  | next earlier _ move ih =>
    have s := succession captures claims place ready accepted earlier
    have onward := Server.Onward.move? s.claims move
    -- The first address of all stays what it is, so that the condition held before the move as well.
    have single' := single.imp_right fun alone c member a named => alone c member a (onward.address? named)
    exact s.excludes_move? free single' (ih single') move

/-- A call of a replacement that has opened a listener has the duplicate of the listener that the old process had for
the same address, and so has a service; a call for an address that was not captured adopts nothing, and as soon as it is
to open its listener it fails since the address was not inherited, unless it has failed before. A replacement for a
single listener is told no order: for it, all this holds if the address of this listener is the first that the
replacement claims. -/
theorem adopted_listener_of_same_address {markers : Markers} {settings settings' : Settings} {arguments : List OsText}
    {handed : List (Option OpenFile)} {parent parent' nextSocket nextSocket' started started' : Nat} {p q : Server}
    {site : Site} {turn : Turn} {captured : List Restart.Captured} {r : Replacement} {command : CommandLine.Command}
    (run : Server.Reach (Server.start markers settings arguments handed parent nextSocket started) p)
    (place : p.signals = .launching turn captured) (ready : p.replacement site captured = .ok r)
    (free : ∀ c ∈ captured, ',' ∉ c.address.toList) (accepted : CommandLine.parse r.arguments = .ok command)
    (later : Server.Reach (Server.start command.markers settings' r.arguments (Program.Lineage.handed r.descriptors)
      parent' nextSocket' started') q)
    (single : 1 < captured.length ∨ ∀ c ∈ captured, ∀ a, q.registry.address? 0 = some a → a = c.address) :
    (∀ {i : Nat} {call : Call} {o : Nat} {l : Listener}, q.calls[i]? = some call → call.place = .opened o l →
      ∃ c held, captured[o]? = some c ∧ c.address = call.address ∧ p.registry.service? c.ordinal = some held ∧
        held.address = call.address ∧
        l.handle? = some ⟨Markers.firstDescriptor + o, held.life.listener.socket⟩) ∧
      (∀ {o : Nat} {service : Service}, q.registry.service? o = some service →
        ∃ c held, captured[o]? = some c ∧ c.address = service.address ∧ p.registry.service? c.ordinal = some held ∧
          held.address = service.address ∧ service.life.listener.socket = held.life.listener.socket) ∧
      ∀ {i : Nat} {call : Call}, q.calls[i]? = some call → (∀ c ∈ captured, c.address ≠ call.address) →
        Foreign call call.place ∧ ∀ (o : Nat) (t : Transport) (site' : Site) (now : Nat), call.place = .readied o t →
          q.stepCall? site' now i = some (q.moveCall i (.abandoning o (.notInherited call.address o))) := by
  have blank := Server.Blank.start markers settings arguments handed parent nextSocket started
  have claims := run.claims (.of_blank blank)
  have captures := run.captures (.of_blank blank) blank.signals place
  have s := succession captures claims place ready accepted later
  refine ⟨?_, ?_, ?_⟩
  · intro i call o l atCall atPlace
    obtain ⟨isHanded, opened⟩ := s.adopts.opened atCall atPlace
    have named := s.claims.address atCall (o := o) (by rw [atPlace]; rfl)
    obtain ⟨c, atOrdinal, address⟩ := s.captured_at free single named isHanded.inside
    obtain ⟨held, there, address', socket⟩ := s.socket_at isHanded atOrdinal
    exact ⟨c, held, atOrdinal, address, there, address'.trans address, socket ▸ isHanded.handle? opened⟩
  · intro o service there
    have isHanded := s.adopts.served there
    obtain ⟨c, atOrdinal, address⟩ := s.captured_at free single (s.claims.service there) isHanded.inside
    obtain ⟨held, there', address', socket⟩ := s.socket_at isHanded atOrdinal
    exact ⟨c, held, atOrdinal, address, there', address'.trans address, socket⟩
  · intro i call atCall foreign
    have excludes := excludes_of_run captures claims place ready free accepted later single
    refine ⟨excludes i call atCall foreign, ?_⟩
    intro o t site' now atPlace
    have outside := s.inherited_le free single atCall foreign o t atPlace
    unfold Server.stepCall?
    rw [atCall]
    dsimp only
    rw [atPlace]
    dsimp only
    rw [Server.openListener, s.adopts.child, Server.adopt, if_neg (by omega)]

namespace Sample

def site : Site :=
  { network := .isolated, files := fun _ => .error .notFound, provider := .isolated, refusal := fun _ => none }

/-- A process that was called with one address and binds its own listeners. -/
def fresh : Server := Server.start {} .standard [.ofString "--listen", .ofString "127.0.0.1:80"] [] 1 0 0

/-- A call for an address, which takes so many steps. -/
def serving (address : String) (i steps : Nat) : List Move := .serve address {} :: List.replicate steps (.call i)

/-- A restart up to the start of the replacement. -/
def capturing : List Move := .trigger { number := 1 } :: List.replicate 4 .signals

def after (p : Server) (ms : List Move) : Server := (p.moves? site 0 ms).getD p

def captured (p : Server) : List Restart.Captured := p.signals.captured?.getD []

def replacement (p : Server) : Replacement :=
  match p.replacement site (captured p) with
  | .ok r => r
  | .error _ => ⟨0, [], {}, []⟩

def markers (p : Server) : Markers := .inherited (CommandLine.passedOrder ((captured p).map (·.address)))

def started (p : Server) : Server :=
  Server.start (markers p) .standard (replacement p).arguments (Program.Lineage.handed (replacement p).descriptors) 7 9 0

theorem started_eq {p : Server} {command : CommandLine.Command} (read : command.markers = markers p) :
    started p = Server.start command.markers .standard (replacement p).arguments
      (Program.Lineage.handed (replacement p).descriptors) 7 9 0 := by
  rw [started, read]

theorem run_started {may : Server → Site → Move → Prop} {p q : Server} {command : CommandLine.Command}
    (read : command.markers = markers p) (run : Server.Run may (started p) q) :
    Server.Run may (Server.start command.markers .standard (replacement p).arguments
      (Program.Lineage.handed (replacement p).descriptors) 7 9 0) q :=
  started_eq read ▸ run

/-- A process that is about to hand over two listeners. -/
def pair : Server :=
  after fresh (serving "127.0.0.1:80" 0 9 ++ serving "127.0.0.1:81" 1 9 ++ capturing)

theorem reach_pair : Server.Reach fresh pair :=
  Server.Run.start.moves site 0 (serving "127.0.0.1:80" 0 9 ++ serving "127.0.0.1:81" 1 9 ++ capturing) rfl

theorem ready_pair : pair.replacement site (captured pair) = .ok (replacement pair) := rfl

theorem accepted_pair : ∃ command, CommandLine.parse (replacement pair).arguments = .ok command ∧
    command.markers = markers pair :=
  ⟨_, rfl, rfl⟩

/-- A process that is about to hand over a single listener. -/
def single : Server := after fresh (serving "127.0.0.1:80" 0 9 ++ capturing)

theorem ready_single : single.replacement site (captured single) = .ok (replacement single) := rfl

theorem accepted_single : ∃ command, CommandLine.parse (replacement single).arguments = .ok command ∧
    command.markers = markers single :=
  ⟨_, rfl, rfl⟩

end Sample

/-- The second of two addresses is served first in the replacement, and adopts the second listener. -/
theorem second_address_adopts_second_listener :
    Sample.pair.signals = .launching ⟨.restart, none⟩ (Sample.captured Sample.pair) ∧
      Sample.pair.replacement Sample.site (Sample.captured Sample.pair) = .ok (Sample.replacement Sample.pair) ∧
      ∃ c held, (Sample.captured Sample.pair)[1]? = some c ∧ c.address = "127.0.0.1:81" ∧
        Sample.pair.registry.service? c.ordinal = some held ∧ held.address = "127.0.0.1:81" ∧
        ((Sample.after (Sample.started Sample.pair) (Sample.serving "127.0.0.1:81" 0 4)).calls[0]?).bind
          Server.Call.handle? = some ⟨4, held.life.listener.socket⟩ := by
  have place : Sample.pair.signals = .launching ⟨.restart, none⟩ (Sample.captured Sample.pair) := rfl
  have free : ∀ c ∈ Sample.captured Sample.pair, ',' ∉ c.address.toList := by decide
  obtain ⟨command, accepted, markers⟩ := Sample.accepted_pair
  have later : Server.Reach (Sample.started Sample.pair)
      (Sample.after (Sample.started Sample.pair) (Sample.serving "127.0.0.1:81" 0 4)) :=
    Server.Run.start.moves Sample.site 0 (Sample.serving "127.0.0.1:81" 0 4) rfl
  have opened : ∃ call l, (Sample.after (Sample.started Sample.pair) (Sample.serving "127.0.0.1:81" 0 4)).calls[0]? =
      some call ∧ call.address = "127.0.0.1:81" ∧ call.place = .opened 1 l := ⟨_, _, rfl, rfl, rfl⟩
  obtain ⟨call, l, atCall, address, atPlace⟩ := opened
  have several : 1 < (Sample.captured Sample.pair).length := by decide
  obtain ⟨c, held, atOrdinal, same, there, same', handle⟩ :=
    (adopted_listener_of_same_address Sample.reach_pair place Sample.ready_pair free accepted
      (Sample.run_started markers later) (Or.inl several)).1 atCall atPlace
  refine ⟨place, Sample.ready_pair, c, held, atOrdinal, same.trans address, there, same'.trans address, ?_⟩
  rw [atCall]
  exact Server.Call.handle?_eq_some.2 ⟨1, l, atPlace, handle⟩

/-- The address that a replacement for a single listener claims first adopts this listener, whatever address it was
captured for. -/
theorem other_address_adopts_single_listener :
    Server.Reach Sample.fresh Sample.single ∧
      Sample.single.signals = .launching ⟨.restart, none⟩ (Sample.captured Sample.single) ∧
      Sample.single.replacement Sample.site (Sample.captured Sample.single) = .ok (Sample.replacement Sample.single) ∧
      (∃ command, CommandLine.parse (Sample.replacement Sample.single).arguments = .ok command ∧
        command.markers = Sample.markers Sample.single) ∧
      Server.Reach (Sample.started Sample.single)
        (Sample.after (Sample.started Sample.single) (Sample.serving "127.0.0.1:81" 0 4)) ∧
      (Sample.captured Sample.single).map (·.address) = ["127.0.0.1:80"] ∧
      ∃ held, Sample.single.registry.service? 0 = some held ∧ held.address = "127.0.0.1:80" ∧
        ∃ call, (Sample.after (Sample.started Sample.single) (Sample.serving "127.0.0.1:81" 0 4)).calls[0]? =
          some call ∧ call.address = "127.0.0.1:81" ∧ Server.Call.handle? call = some ⟨3, held.life.listener.socket⟩ :=
  ⟨Server.Run.start.moves Sample.site 0 (Sample.serving "127.0.0.1:80" 0 9 ++ Sample.capturing) rfl,
    rfl, Sample.ready_single, Sample.accepted_single,
    Server.Run.start.moves Sample.site 0 (Sample.serving "127.0.0.1:81" 0 4) rfl, rfl, _, rfl, rfl, _, rfl, rfl, rfl⟩

end Handover
