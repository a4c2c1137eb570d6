import Handover.Proofs.Encryption.Loading
import Handover.Proofs.Server.Passing
import Handover.Proofs.Server.Withdrawing

namespace Handover

/-- The ordinal for which a call has chosen a transport and has recorded no service, with the transport. -/
def CallPlace.readied? : CallPlace → Option (Nat × Transport)
  | readied o t => some (o, t)
  | opened o l => some (o, l.transport)
  | _ => none

/-- The steps that a call still takes which is not to open anything. -/
def CallPlace.toGo : CallPlace → Nat
  | entered => 4
  | admitted => 3
  | reserved _ => 2
  | abandoning .. => 1
  | _ => 0

namespace Server

/-- Whatever call begins, it begins with these options. -/
def Uniform (options : Options) : Server → Site → Move → Prop := fun _ _ m =>
  ∀ address others, m = .serve address others → others = options

/-- Of a run to `p`, a move made `q'` of `q` at a site. -/
structure Made (may : Server → Site → Move → Prop) (first p : Server) (site : Site) (m : Move) (q q' : Server) : Prop where
  before : Run may first q
  allowed : may q site m
  made : ∃ now, q.move? site now m = some q'
  after : Run may q' p

/-- Of a run to `p`, a call has found that the transport fits, and then it had no listener for the ordinal. -/
def Chose (may : Server → Site → Move → Prop) (first p : Server) (options : Options) (o : Nat) (t : Transport) : Prop :=
  ∃ q q' site i c, Made may first p site (.call i) q q' ∧ q.calls[i]? = some c ∧ c.place = .reserved o ∧
    t.Fits site.provider site.files options.encryption ∧ q'.calls[i]? = some { c with place := .readied o t }

/-- Of a run to `p`, connection `i` of the service at the ordinal was made ready as the options ask: it is plain if they
name no files, and otherwise a handshake has succeeded with the material that was chosen for the service. -/
inductive Delivered (may : Server → Site → Move → Prop) (first p : Server) (options : Options) (o i : Nat) :
    Connection → Prop
  | plain {site peer ok q q'} : Made may first p site (.connection o i peer ok) q q' → options.encryption = none →
      Delivered may first p options o i (.plain (.withTimeouts peer options.timeouts))
  | encrypted {site peer ok q q' s material session} : Made may first p site (.connection o i peer ok) q q' →
      q.registry.service? o = some s → s.life.listener.transport = .encrypted material →
      Chose may first p options o (.encrypted material) →
      site.provider.handshake material (.withTimeouts peer options.timeouts) = .ok session →
      Delivered may first p options o i (.encrypted (.withTimeouts peer options.timeouts) session)

/-- Every service has these options and a transport that was chosen for it. What is passed to a handler was made ready by
it and is encrypted exactly if the options name files, and a handler gets nothing else. -/
structure Secured (may : Server → Site → Move → Prop) (first : Server) (options : Options) (p : Server) : Prop where
  service : ∀ {o : Nat} {s : Service}, p.registry.service? o = some s →
    s.options = options ∧ s.life.listener.timeouts = options.timeouts ∧
      Chose may first p options o s.life.listener.transport
  passed : ∀ {o i : Nat} {c : Connection}, .passed o i c ∈ p.journal →
    Delivered may first p options o i c ∧ c.isEncrypted = options.encryption.isSome
  handed : ∀ {o i : Nat} {s : Service}, p.registry.service? o = some s → s.life.hasPassed i = true →
    ∃ c, .passed o i c ∈ p.journal

/-- The call has these options, and a listener that it has opened has their limits and a transport chosen for them. -/
structure Suits (may : Server → Site → Move → Prop) (first p : Server) (options : Options) (c : Call) : Prop where
  same : c.options = options
  readied : ∀ {o : Nat} {t : Transport}, c.place.readied? = some (o, t) → Chose may first p options o t
  opened : ∀ {o : Nat} {l : Listener}, c.place = .opened o l → l.timeouts = options.timeouts

/-- What is about to become a service with these options suits them, and every service is secured. -/
structure Prepared (may : Server → Site → Move → Prop) (first : Server) (options : Options) (p : Server) : Prop where
  call : ∀ {i : Nat} {c : Call}, p.calls[i]? = some c → Suits may first p options c
  secured : Secured may first options p

/-- A call whose files for encryption cannot be used gives up instead of opening a listener, and then it fails. -/
structure GivesUp (options : Options) (p : Server) : Prop where
  unready : ∀ {i o : Nat} {c : Call} {site : Site}, p.calls[i]? = some c → c.place = .reserved o →
    (∀ t : Transport, ¬ t.Fits site.provider site.files options.encryption) →
      ∃ fault, fault.isEncryption = true ∧ ∀ now, p.stepCall? site now i = some (p.moveCall i (.abandoning o fault))
  abandoning : ∀ {i o : Nat} {c : Call} {fault : Fault}, p.calls[i]? = some c → c.place = .abandoning o fault →
    ∀ site now, p.stepCall? site now i =
      some (({ p with registry := p.registry.release o } : Server).endCall i c (some fault))

/-- The process has no service, and its calls are about to begin, with these options. -/
structure Fresh (options : Options) (p : Server) : Prop where
  call : ∀ {i : Nat} {c : Call}, p.calls[i]? = some c → c.options = options ∧ c.place = .entered
  sound : p.registry.Sound
  free : ∀ o, p.registry.isClaimed o = false
  silent : ∀ r ∈ p.journal, r.isPassed = false

/-- Call `i` of an address, on its way to a place, has opened and taken nothing. If it has failed, then since the files for
encryption cannot be used, the process is stopping, or another call is there for the address. -/
inductive Unopened (p : Server) (i : Nat) (address : String) : CallPlace → Prop
  | entered : Unopened p i address .entered
  | admitted : Unopened p i address .admitted
  | reserved {o} : Unopened p i address (.reserved o)
  | abandoning {o fault} : fault.isEncryption = true → Unopened p i address (.abandoning o fault)
  | unready {fault} : fault.isEncryption = true → Unopened p i address (.returned (some fault))
  | refused : p.stopping = true → Unopened p i address (.returned (some .shuttingDown))
  | repeated {j d} : j ≠ i → p.calls[j]? = some d → d.address = address →
      Unopened p i address (.returned (some (.alreadyServing address)))

/-- No service was recorded, and nothing was opened or taken since the process began. -/
structure Untouched (first : Server) (options : Options) (p : Server) : Prop where
  call : ∀ {i : Nat} {c : Call}, p.calls[i]? = some c → c.options = options ∧ p.Unopened i c.address c.place
  service : ∀ o, p.registry.service? o = none
  nextSocket : p.nextSocket = first.nextSocket
  handed : p.handed = first.handed

/-- Call `i` goes on at a site. -/
def Proceeds (site : Site) (i : Nat) : Server → Site → Move → Prop := fun _ at_ m => at_ = site ∧ m = .call i

section

variable {may : Server → Site → Move → Prop} {first p p' q q' : Server} {options : Options} {o i : Nat} {t : Transport}
  {site site' : Site} {now : Nat} {m m' : Move} {c : Call} {place : CallPlace}

theorem Uniform.of_not_isServe (other : m.isServe = false) : Uniform options p site m := by
  rintro address others rfl
  cases other

theorem Made.next (made : Made may first p site m q q') (allowed : may p site' m')
    (move : p.move? site' now m' = some p') : Made may first p' site m q q' :=
  ⟨made.before, made.allowed, made.made, made.after.next allowed move⟩

theorem Made.last (run : Run may first p) (allowed : may p site m) (move : p.move? site now m = some p') :
    Made may first p' site m p p' :=
  ⟨run, allowed, ⟨now, move⟩, .start⟩

theorem Chose.next (chose : Chose may first p options o t) (allowed : may p site m)
    (move : p.move? site now m = some p') : Chose may first p' options o t := by
  obtain ⟨q, q', site', i, c, made, rest⟩ := chose
  exact ⟨q, q', site', i, c, made.next allowed move, rest⟩

theorem Delivered.next {connection : Connection} (delivered : Delivered may first p options o i connection)
    (allowed : may p site m) (move : p.move? site now m = some p') : Delivered may first p' options o i connection := by
  cases delivered with
  | plain made none_ => exact .plain (made.next allowed move) none_
  | encrypted made there transport chose handshake =>
    exact .encrypted (made.next allowed move) there transport (chose.next allowed move) handshake

/-- What a service makes ready is delivered as its options ask, if its transport was chosen for them. -/
theorem Delivered.of_establish {s : Service} {peer : Endpoint} {ok : Bool} {connection : Connection}
    (made : Made may first p site (.connection o i peer ok) q q') (there : q.registry.service? o = some s)
    (timeouts : s.life.listener.timeouts = options.timeouts)
    (chose : Chose may first p options o s.life.listener.transport)
    (established : s.establish site.provider peer = .ok connection) :
    Delivered may first p options o i connection ∧ connection.isEncrypted = options.encryption.isSome := by
  obtain ⟨_, _, site', _, _, _, _, _, fits, _⟩ := id chose
  rw [Service.establish, Service.accepted, timeouts] at established
  cases transport : s.life.listener.transport with
  | plain =>
    rw [transport] at established fits
    cases established
    generalize named : options.encryption = encryption at fits
    cases fits
    exact ⟨.plain made named, rfl⟩
  | encrypted material =>
    rw [transport] at established fits chose
    obtain ⟨session, handshake, rfl⟩ := Transport.establish_encrypted_eq_ok established
    generalize named : options.encryption = encryption at fits
    cases fits
    exact ⟨.encrypted made there transport chose handshake, rfl⟩

/-- A transport that a call has before it records its service is the one it had before the step, or one it has just
loaded. -/
theorem Advance.readied (advance : Advance site now p c place q) (ready : place.readied? = some (o, t)) :
    c.place.readied? = some (o, t) ∨ c.place = .reserved o ∧ place = .readied o t ∧
      t.Fits site.provider site.files c.options.encryption := by
  cases advance with
  | ready atPlace loaded =>
    cases ready
    exact .inr ⟨atPlace, rfl, Transport.load_eq_ok_iff.1 loaded⟩
  | bind atPlace | adopt atPlace =>
    cases ready
    left
    rw [atPlace]
    rfl
  | _ => cases ready

theorem Advance.timeouts {l : Listener} (advance : Advance site now p c (.opened o l) q) :
    l.timeouts = c.options.timeouts := by
  cases advance <;> rfl

/-- A service was there before a step of a call, or the call records it on the listener it has opened. -/
theorem Advance.service {s : Service} (advance : Advance site now p c place q) (there : q.registry.service? o = some s) :
    (∃ before, p.registry.service? o = some before ∧ s.options = before.options ∧
      before.life.listener.Later s.life.listener) ∨
    ∃ l, c.place = .opened o l ∧ s.options = c.options ∧ s.life.listener = l := by
  rcases advance.registry_cases with ⟨_, _, _, reserved⟩ | ⟨o', l, atPlace, _, attached⟩ | ⟨_, _, _, _, released⟩ |
    ⟨aged, _⟩
  · obtain ⟨_, _, _, _, service, _⟩ := Registry.reserve_eq_ok reserved
    rw [service] at there
    exact .inl ⟨s, there, rfl, .refl _⟩
  · rcases Registry.service?_of_attach attached there with ⟨rfl, rfl⟩ | before
    · exact .inr ⟨l, atPlace, rfl, rfl⟩
    · exact .inl ⟨s, before, rfl, .refl _⟩
  · obtain ⟨_, _, service, _⟩ := p.registry.views_release ‹_›
    rw [released, service] at there
    exact .inl ⟨s, there, rfl, .refl _⟩
  · have later := aged.service? o
    rw [there] at later
    obtain ⟨before, atBefore, options, listener⟩ := later.options_of_some_right
    exact .inl ⟨before, atBefore, options, listener⟩

/-- A service that goes on keeps its options and its transport. -/
theorem Secured.service_of_later {s before : Service} (secured : Secured may first options p) (allowed : may p site m)
    (move : p.move? site now m = some p') (there : p.registry.service? o = some before)
    (same : s.options = before.options) (later : before.life.listener.Later s.life.listener) :
    s.options = options ∧ s.life.listener.timeouts = options.timeouts ∧
      Chose may first p' options o s.life.listener.transport := by
  obtain ⟨options, timeouts, chose⟩ := secured.service there
  refine ⟨same.trans options, later.timeouts.trans timeouts, ?_⟩
  rw [later.transport]
  exact chose.next allowed move

/-- A move passes to handlers only what is made ready as the options ask. -/
theorem Secured.passed_next {connection : Connection} (secured : Secured may first options p) (run : Run may first p)
    (allowed : may p site m) (move : p.move? site now m = some p') (member : .passed o i connection ∈ p'.journal) :
    Delivered may first p' options o i connection ∧ connection.isEncrypted = options.encryption.isSome := by
  have kept (before : .passed o i connection ∈ p.journal) :
      Delivered may first p' options o i connection ∧ connection.isEncrypted = options.encryption.isSome := by
    obtain ⟨delivered, asked⟩ := secured.passed before
    exact ⟨delivered.next allowed move, asked⟩
  rcases withholds_or_passes move with withholds | ⟨o', i', peer, ok, s, c, q, rfl, there, established, withholds, rfl⟩
  · exact kept (withholds.of_mem member rfl)
  · rcases List.mem_append.1 member with before | new
    · exact kept (withholds.of_mem before rfl)
    · cases List.mem_singleton.1 new
      obtain ⟨_, timeouts, chose⟩ := secured.service there
      exact Delivered.of_establish (.last run allowed move) there timeouts (chose.next allowed move) established

/-- What a handler has got in a move is recorded. -/
theorem Secured.handed_next {s : Service} (secured : Secured may first options p) (claims : p.Claims)
    (move : p.move? site now m = some p') (there : p'.registry.service? o = some s) (passed : s.life.hasPassed i = true) :
    ∃ c, .passed o i c ∈ p'.journal := by
  cases before : p.registry.service? o with
  | none =>
    obtain ⟨_, _, _, _, _, _, begun⟩ := appears_of_move? claims before move there
    rw [begun] at passed
    cases passed
  | some s' =>
    rcases recorded_of_hasPassed claims before move there passed with already | recorded
    · obtain ⟨c, member⟩ := secured.handed before already
      exact ⟨c, (Onward.move? claims move).journal.subset member⟩
    · exact recorded

theorem Suits.next (suits : Suits may first p options c) (allowed : may p site m)
    (move : p.move? site now m = some p') : Suits may first p' options c :=
  ⟨suits.same, fun ready => (suits.readied ready).next allowed move, suits.opened⟩

/-- A call still suits the options after a step. -/
theorem Suits.advance (suits : Suits may first p options c) (run : Run may first p) (allowed : may p site (.call i))
    (atCall : p.calls[i]? = some c) (advance : Advance site now p c place q)
    (move : p.move? site now (.call i) = some (q.moveCall i place)) :
    Suits may first (q.moveCall i place) options { c with place } where
  same := suits.same
  readied {o t} ready := by
    rcases advance.readied ready with earlier | ⟨atPlace, rfl, fits⟩
    · exact (suits.readied earlier).next allowed move
    · rw [suits.same] at fits
      exact ⟨p, _, site, i, c, .last run allowed move, atCall, atPlace, fits, moved_moveCall atCall advance.calls _⟩
  opened {o l} held := by
    cases held
    rw [advance.timeouts, suits.same]

/-- What a move keeps of this. -/
theorem Prepared.next (prepared : Prepared may first options p) (run : Run may first p) (claims : p.Claims)
    (allowed : may p site m) (uniform : Uniform options p site m) (move : p.move? site now m = some p') :
    Prepared may first options p' := by
  have secured := prepared.secured
  suffices kept : (∀ (i : Nat) (c : Call), p'.calls[i]? = some c → Suits may first p' options c) ∧
      ∀ (o : Nat) (s : Service), p'.registry.service? o = some s → s.options = options ∧
        s.life.listener.timeouts = options.timeouts ∧ Chose may first p' options o s.life.listener.transport from
    ⟨kept.1 _ _, kept.2 _ _, secured.passed_next run allowed move, secured.handed_next claims move⟩
  rcases move?_cases move with ⟨i, c, place, q, rfl, atCall, advance, rfl⟩ | ⟨address, others, rfl, rfl⟩ | ⟨_, frame⟩
  · have suits := prepared.call atCall
    have atCall' : q.calls[i]? = some c := by rw [advance.calls, atCall]
    refine ⟨fun j d after => ?_, fun o s there => ?_⟩
    · rcases calls_moveCall_eq_some atCall' after with ⟨_, rfl⟩ | ⟨_, before⟩
      · exact suits.advance run allowed atCall advance move
      · rw [advance.calls] at before
        exact (prepared.call before).next allowed move
    · rcases advance.service there with ⟨before, atBefore, same, later⟩ | ⟨l, atPlace, same, listener⟩
      · exact secured.service_of_later allowed move atBefore same later
      · rw [listener, same]
        exact ⟨suits.same, suits.opened atPlace, (suits.readied (by rw [atPlace]; rfl)).next allowed move⟩
  · obtain rfl := uniform address others rfl
    refine ⟨fun j d after => ?_, fun o s there => secured.service_of_later allowed move there rfl (.refl _)⟩
    rw [Server.serve, getElem?_append_last] at after
    split at after
    · cases after
      refine ⟨rfl, fun ready => ?_, fun held => ?_⟩
      · cases ready
      · cases held
    · exact (prepared.call after).next allowed move
  · refine ⟨fun j d after => ?_, fun o s there => ?_⟩
    · rw [frame.calls] at after
      exact (prepared.call after).next allowed move
    · have later := frame.registry.service? o
      rw [there] at later
      obtain ⟨before, atBefore, same, listener⟩ := later.options_of_some_right
      exact secured.service_of_later allowed move atBefore same listener

theorem Fresh.service (fresh : Fresh options p) (o : Nat) : p.registry.service? o = none := by
  rw [Option.eq_none_iff_forall_ne_some]
  intro s there
  exact absurd (fresh.sound.claimed o s there) (by rw [fresh.free]; exact Bool.false_ne_true)

theorem Fresh.claims (fresh : Fresh options p) : p.Claims := by
  have early {i : Nat} {c : Call} {o : Nat} (atCall : p.calls[i]? = some c) : c.place.ordinal? ≠ some o := by
    rw [(fresh.call atCall).2]
    exact nofun
  refine ⟨fresh.sound, fun atCall ordinal => absurd ordinal (early atCall), fun {o s} there => ?_,
    fun atCall claim => absurd (CallPlace.ordinal?_of_claim? claim) (early atCall),
    fun atCall _ claim => absurd (CallPlace.ordinal?_of_claim? claim) (early atCall)⟩
  rw [fresh.service] at there
  cases there

theorem Fresh.held (fresh : Fresh options p) : p.Held := by
  intro o claimed
  rw [fresh.free] at claimed
  cases claimed

theorem Run.prepared (run : Run may first p) (uniform : ∀ p site m, may p site m → Uniform options p site m)
    (fresh : Fresh options first) : Prepared may first options p := by
  induction run with
  | start =>
    refine ⟨fun atCall => ?_, ?_, fun member => ?_, ?_⟩
    · obtain ⟨same, place⟩ := fresh.call atCall
      refine ⟨same, fun ready => ?_, fun held => ?_⟩
      · rw [place] at ready
        cases ready
      · cases place.symm.trans held
    · intro o s there
      cases (fresh.service o).symm.trans there
    · cases fresh.silent _ member
    · intro o i s there
      cases (fresh.service o).symm.trans there
  | next earlier allowed move ih =>
    exact ih.next earlier (earlier.claims fresh.claims) allowed (uniform _ _ _ allowed) move

theorem Prepared.givesUp (prepared : Prepared may first options p) : GivesUp options p where
  unready {i o c site} atCall atPlace unfit := by
    obtain ⟨fault, failed, encryption⟩ := Transport.load_of_not_fits unfit
    refine ⟨fault, encryption, fun now => ?_⟩
    rw [stepCall?, atCall]
    dsimp only
    rw [atPlace]
    dsimp only
    rw [ready, (prepared.call atCall).same, failed]
  abandoning atCall atPlace site now := by
    rw [stepCall?, atCall]
    dsimp only
    rw [atPlace]

theorem Unopened.next {i : Nat} {address : String} (unopened : p.Unopened i address place)
    (move : p.move? site now m = some p') : p'.Unopened i address place := by
  cases unopened with
  | entered => exact .entered
  | admitted => exact .admitted
  | reserved => exact .reserved
  | abandoning encryption => exact .abandoning encryption
  | unready encryption => exact .unready encryption
  | refused stopping => exact .refused (stopping_of_move? move stopping)
  | repeated other atCall same =>
    rcases call_of_move? move atCall with after | ⟨_, _, _, _, _, after⟩
    · exact .repeated other after same
    · exact .repeated other after same

/-- A call whose files cannot be used comes nearer to its end, and nothing is opened or taken. -/
theorem Advance.unopened {i : Nat} {fault : Fault} (advance : Advance site now p c place q) (claims : p.Claims)
    (held : p.Held) (vacant : ∀ o, p.registry.service? o = none) (atCall : p.calls[i]? = some c)
    (unopened : p.Unopened i c.address c.place)
    (failed : Transport.load site.provider site.files c.options.encryption = .error fault) :
    p.Unopened i c.address place ∧ q.nextSocket = p.nextSocket ∧ q.handed = p.handed ∧ place.toGo < c.place.toGo := by
  cases advance with
  | refuse atPlace stopping => exact ⟨.refused stopping, rfl, rfl, by simp [atPlace, CallPlace.toGo]⟩
  | pass atPlace => exact ⟨.admitted, rfl, rfl, by simp [atPlace, CallPlace.toGo]⟩
  | repeated atPlace refused =>
    refine ⟨?_, rfl, rfl, by simp [atPlace, CallPlace.toGo]⟩
    obtain ⟨rfl, o, named, claimed⟩ := Registry.reserve_eq_error refused
    rcases held o claimed with ⟨s, there⟩ | ⟨j, d, atOther, claim⟩
    · rw [vacant] at there
      cases there
    · refine .repeated ?_ atOther ?_
      · rintro rfl
        cases atCall.symm.trans atOther
        rw [atPlace] at claim
        cases claim
      · have owner := claims.address atOther (CallPlace.ordinal?_of_claim? claim)
        rw [named] at owner
        exact (Option.some.inj owner).symm
  | claim atPlace => exact ⟨.reserved, rfl, rfl, by simp [atPlace, CallPlace.toGo]⟩
  | unready atPlace refused =>
    exact ⟨.abandoning (Transport.load_fails _ refused), rfl, rfl,
      by simp [atPlace, CallPlace.toGo]⟩
  | ready _ loaded =>
    cases loaded.symm.trans failed
  | release atPlace =>
    rw [atPlace] at unopened ⊢
    cases unopened with
    | abandoning encryption => exact ⟨.unready encryption, rfl, rfl, Nat.one_pos⟩
  | unbound atPlace | bind atPlace | beyond atPlace | unusable atPlace | adopt atPlace | lose atPlace | attach atPlace
  | start atPlace | count atPlace | countAdoption atPlace | complete atPlace | notify atPlace | stop atPlace
  | stay atPlace | run atPlace | finish atPlace =>
    rw [atPlace] at unopened
    cases unopened

theorem Untouched.next {fault : Fault} (untouched : Untouched first options p) (claims : p.Claims) (held : p.Held)
    (uniform : Uniform options p site m)
    (failed : Transport.load site.provider site.files options.encryption = .error fault) (move : p.move? site now m = some p') : Untouched first options p' := by
  rcases move?_cases move with ⟨i, c, place, q, rfl, atCall, advance, rfl⟩ | ⟨address, others, rfl, rfl⟩ | ⟨_, frame⟩
  · obtain ⟨same, unopened⟩ := untouched.call atCall
    obtain ⟨after, nextSocket, handed, _⟩ :=
      advance.unopened claims held untouched.service atCall unopened (same ▸ failed)
    have atCall' : q.calls[i]? = some c := by rw [advance.calls, atCall]
    refine ⟨fun {j d} there => ?_, fun o => ?_, nextSocket.trans untouched.nextSocket, handed.trans untouched.handed⟩
    · rcases calls_moveCall_eq_some atCall' there with ⟨rfl, rfl⟩ | ⟨_, before⟩
      · exact ⟨same, after.next move⟩
      · obtain ⟨same, before⟩ := untouched.call (advance.calls ▸ before)
        exact ⟨same, before.next move⟩
    · rw [Option.eq_none_iff_forall_ne_some]
      intro s there
      rcases advance.service there with ⟨before, atBefore, _⟩ | ⟨l, atPlace, _⟩
      · rw [untouched.service] at atBefore
        cases atBefore
      · rw [atPlace] at unopened
        cases unopened
  · obtain rfl := uniform address others rfl
    refine ⟨fun {j d} there => ?_, untouched.service, untouched.nextSocket, untouched.handed⟩
    have after := there
    rw [Server.serve, getElem?_append_last] at there
    split at there
    · cases there
      exact ⟨rfl, .entered⟩
    · obtain ⟨same, before⟩ := untouched.call there
      exact ⟨same, before.next move⟩
  · refine ⟨fun there => ?_, fun o => ?_, frame.nextSocket.trans untouched.nextSocket,
      frame.handed.trans untouched.handed⟩
    · obtain ⟨same, before⟩ := untouched.call (frame.calls ▸ there)
      exact ⟨same, before.next move⟩
    · exact (frame.registry.service? o).eq_none_iff.2 (untouched.service o)

/-- As long as the files cannot be used, no call opens or takes anything. -/
theorem Run.untouched (run : Run may first p) (uniform : ∀ p site m, may p site m → Uniform options p site m)
    (unfit : ∀ p site m, may p site m → ∀ t : Transport, ¬ t.Fits site.provider site.files options.encryption)
    (fresh : Fresh options first) : Untouched first options p := by
  induction run with
  | start =>
    refine ⟨fun atCall => ?_, fresh.service, rfl, rfl⟩
    obtain ⟨same, place⟩ := fresh.call atCall
    exact ⟨same, place ▸ .entered⟩
  | next earlier allowed move ih =>
    obtain ⟨_, failed, _⟩ := Transport.load_of_not_fits (unfit _ _ _ allowed)
    exact ih.next (earlier.claims fresh.claims)
      (earlier.keep_of_claims (fun claims held move => held.move? claims move) fresh.claims fresh.held)
      (uniform _ _ _ allowed) failed move

/-- A call that has opened nothing can make its next step unless it is over, and then it has failed. -/
theorem stepCall?_of_unopened {i : Nat} (site : Site) (now : Nat) (atCall : p.calls[i]? = some c)
    (unopened : p.Unopened i c.address c.place) :
    (∃ fault, c.place = .returned (some fault)) ∨ ∃ p', p.stepCall? site now i = some p' := by
  generalize atPlace : c.place = place at unopened
  cases unopened with
  | entered | admitted | reserved | abandoning => simp [stepCall?, atCall, atPlace]
  | unready | refused | repeated => exact .inl ⟨_, rfl⟩

/-- A call whose files cannot be used fails after a few of its own steps. -/
theorem Untouched.fails {i : Nat} {fault : Fault} (untouched : Untouched first options p) (claims : p.Claims)
    (held : p.Held) (failed : Transport.load site.provider site.files options.encryption = .error fault)
    (atCall : p.calls[i]? = some c) (now : Nat) :
    ∃ q fault, Run (Proceeds site i) p q ∧ q.calls[i]? = some { c with place := .returned (some fault) } ∧
      Untouched first options q := by
  induction steps : c.place.toGo using Nat.strongRecOn generalizing p c with
  | ind n ih =>
    subst steps
    obtain ⟨same, unopened⟩ := untouched.call atCall
    rcases stepCall?_of_unopened site now atCall unopened with ⟨fault', ended⟩ | ⟨p', step⟩
    · exact ⟨p, fault', .start, ended ▸ atCall, untouched⟩
    · have move : p.move? site now (.call i) = some p' := step
      obtain ⟨d, place, q, atCall', advance, rfl⟩ := stepCall?_eq_some step
      cases atCall.symm.trans atCall'
      obtain ⟨_, _, _, nearer⟩ := advance.unopened claims held untouched.service atCall unopened (same ▸ failed)
      have moved := moved_moveCall atCall advance.calls place
      have idle : Uniform options p site (.call i) := .of_not_isServe rfl
      obtain ⟨q', fault', run, failed⟩ := ih _ nearer (untouched.next claims held idle failed move)
        (claims.move? move) (held.move? claims move) moved rfl
      exact ⟨q', fault', (Run.start.next ⟨rfl, rfl⟩ move).trans run, failed⟩

end

end Server

end Handover
