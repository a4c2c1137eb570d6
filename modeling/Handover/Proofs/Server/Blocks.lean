import Handover.Proofs.Restart.Mapping
import Handover.Proofs.Server.Tracing

namespace Handover

/-- What was done about one signal. -/
structure Block where
  dispatch : Dispatch
  before : List Hook
  stopped : Bool
  launched : Option Replacement
  outcome : Outcome
  after : List Hook

namespace Block

/-- What stands in the trace before the hooks after the signal. -/
def opening (b : Block) : List Record :=
  b.before.map (.hook · b.stopped) ++ b.launched.toList.map .launched ++ [.handled b.dispatch.number b.outcome]

/-- The process is stopping after the signal was handled. -/
def stops (b : Block) : Bool := b.stopped || decide (b.outcome = .stopping)

/-- What stands in the trace. -/
def records (b : Block) : List Record :=
  b.opening ++ b.after.map (.hook · b.stops) ++ b.dispatch.ticket.toList.map (.answered · (some b.outcome))

/-- Nothing but the answer to a signal that is not handled. -/
def ignored (d : Dispatch) (stopped : Bool) : Block := ⟨d, [], stopped, none, .ignored, []⟩

end Block

/-- What is done about a signal after these blocks. A stop stops, in a process that is stopping or not; a restart is
skipped in a process that is stopping or has started a replacement, and else starts one or fails. -/
inductive Acts (blocks : List Block) (stopped : Bool) (signal : Signal) : Option Replacement → Outcome → Prop
  | stop : signal.isStop = true → Acts blocks stopped signal none .stopping
  | skip : signal.isStop = false → stopped = true ∨ (∃ b ∈ blocks, b.outcome = .restarted) →
      Acts blocks stopped signal none .skipped
  | fail {fault} : signal.isStop = false → stopped = false → Acts blocks stopped signal none (.failed fault)
  | restart {r} : signal.isStop = false → stopped = false → Acts blocks stopped signal (some r) .restarted

theorem Acts.stops {blocks : List Block} {stopped : Bool} {signal : Signal} {launched : Option Replacement}
    {outcome : Outcome} (acts : Acts blocks stopped signal launched outcome) :
    decide (outcome = .stopping) = signal.isStop := by
  cases acts with
  | stop isStop | skip isStop | fail isStop | restart isStop => rw [isStop]; rfl

namespace Turn

/-- The signal as it arrived. -/
def dispatch (turn : Turn) : Dispatch := ⟨turn.signal.number, turn.ticket⟩

theorem dispatch_eq {d : Dispatch} {signal : Signal} (named : Signal.ofNumber? d.number = some signal) :
    dispatch ⟨signal, d.ticket⟩ = d := by
  rw [dispatch, Signal.number_of_ofNumber? named]

end Turn

namespace SignalPlace

/-- The signal itself is being handled. -/
def acts : SignalPlace → Bool
  | acting _ | listing _ | closing .. | capturing _ | launching .. => true
  | idle | before .. | after .. | ended => false

/-- A restart is in flight, or was done about the signal in hand. -/
def restarts : SignalPlace → Bool
  | capturing _ | launching _ _ => true
  | after _ outcome _ => decide (outcome = .restarted)
  | _ => false

end SignalPlace

namespace Server

/-- The signal that was taken from the queue and is being handled. -/
def inHand (p : Server) : Option Dispatch := p.signals.turn?.map Turn.dispatch

/-- The next step of the handling takes up this signal. -/
def IsNext (p : Server) (d : Dispatch) : Prop := p.signals = .idle ∧ p.queue.head? = some d

/-- A step of the handling is the last in which the signal itself is handled. The hooks after it follow. -/
def Ends (p p' : Server) (turn : Turn) (outcome : Outcome) : Prop :=
  p.signals.acts = true ∧ (∃ site now, p.attempt? site now .signals = some p') ∧
    ∃ rest, p'.signals = .after turn outcome rest

/-- What was done about signals until a process became what it is by some moves, and whether it was stopping then. The hooks
before a signal are those that were registered for it when it was taken up, the hooks after it those when its own handling
ended. -/
inductive Blocks (first : Server) : List Block → List Move → Server → Bool → Prop
  | start : Blocks first [] [] first false
  | wait {blocks ms p ms' p' stopped} : Blocks first blocks ms p stopped → Since ms p ms' p' →
      Blocks first blocks ms' p' stopped
  | ignore {blocks ms p stopped d} : Blocks first blocks ms p stopped → p.IsNext d →
      Signal.ofNumber? d.number = none → Blocks first (blocks ++ [.ignored d stopped]) ms p stopped
  | handle {blocks taken q stopped d signal done p p' launched outcome} : Blocks first blocks taken q stopped →
      q.IsNext d → Signal.ofNumber? d.number = some signal → Since taken q done p →
      p.Ends p' ⟨signal, d.ticket⟩ outcome → Acts blocks stopped signal launched outcome →
      Blocks first (blocks ++ [⟨d, Move.registered taken .before signal, stopped, launched, outcome,
        Move.registered done .after signal⟩]) (done ++ [.signals]) p' (stopped || signal.isStop)

end Server

/-- How far the block of the signal in hand has come in `p`, after the moves `ms`, if it was taken up in `q`, after the moves
`taken`: what stands of it in the trace. -/
def SignalPlace.Begun (blocks : List Block) (taken : List Move) (q : Server) (stopped : Bool) (ms : List Move) (p : Server) :
    SignalPlace → List Record → Prop
  | .idle, records => p.stopping = stopped ∧ records = []
  | .before turn rest, records => p.stopping = stopped ∧ ∃ ran,
      Move.registered taken .before turn.signal = ran ++ rest ∧ records = ran.map (.hook · stopped)
  | .acting turn, records => p.stopping = stopped ∧
      records = (Move.registered taken .before turn.signal).map (.hook · stopped)
  | .listing turn, records | .closing turn _, records => p.stopping = true ∧ turn.signal.isStop = true ∧
      records = (Move.registered taken .before turn.signal).map (.hook · stopped)
  | .capturing turn, records | .launching turn _, records => p.stopping = false ∧ stopped = false ∧
      turn.signal.isStop = false ∧ records = (Move.registered taken .before turn.signal).map (.hook · stopped)
  | .after turn outcome rest, records => p.stopping = (stopped || turn.signal.isStop) ∧ ∃ launched done mid mid' ran,
      Acts blocks stopped turn.signal launched outcome ∧ Server.Since taken q done mid ∧ mid.Ends mid' turn outcome ∧
      Server.Since (done ++ [.signals]) mid' ms p ∧ Move.registered done .after turn.signal = ran ++ rest ∧
      records = Block.opening ⟨turn.dispatch, Move.registered taken .before turn.signal, stopped, launched, outcome, []⟩ ++
        ran.map (.hook · (stopped || turn.signal.isStop))
  | .ended, _ => False

namespace Server

variable {first p q : Server} {ms taken : List Move} {blocks : List Block} {stopped : Bool} {records : List Record}

theorem begun_next {place : SignalPlace} (begun : place.Begun blocks taken q stopped ms p records) {site : Site}
    {now : Nat} {m : Move} {p' : Server} (run : p.attempt? site now m = some p') (stopping : p'.stopping = p.stopping) :
    place.Begun blocks taken q stopped (ms ++ [m]) p' records := by
  cases place with
  | after turn outcome rest =>
    obtain ⟨same, launched, done, mid, mid', ran, acts, since, ends, since', split, rfl⟩ := begun
    exact ⟨stopping.trans same, launched, done, mid, mid', ran, acts, since, ends, since'.next run, split, rfl⟩
  | ended => exact begun
  | _ => exact begun.imp_left stopping.trans

/-- The trace of a process consists of the blocks of the signals it has handled and the beginning of the one in hand, which
was taken up in `q`, after the moves `taken`. -/
structure Traced (first : Server) (ms : List Move) (p : Server) (blocks : List Block) (taken : List Move) (q : Server)
    (stopped : Bool) (records : List Record) : Prop where
  hooks : ∀ phase signal, p.hooks.toRun phase signal = Move.registered ms phase signal
  settled : Blocks first blocks taken q stopped
  since : Since taken q ms p
  next : ∀ d, p.inHand = some d → q.IsNext d
  begun : p.signals.Begun blocks taken q stopped ms p records
  trace : p.trace = blocks.flatMap Block.records ++ records
  arrivals : Move.arrivals ms = blocks.map (·.dispatch) ++ p.inHand.toList ++ p.queue
  restarting : p.registry.restarting = true → p.signals.restarts = true ∨ ∃ b ∈ blocks, b.outcome = .restarted

/-- The signals that have arrived at a process are handled in blocks, in order. -/
def InBlocks (first : Server) (ms : List Move) (p : Server) : Prop :=
  ∃ blocks taken q stopped records, Traced first ms p blocks taken q stopped records

/-- A hook has broken off the handling of signals: after the moves `done`, when the process was `q`, the hook that ran next
panicked. Nobody who waits for the signal in hand or for a later one gets an outcome. -/
structure Broken (ms done : List Move) (p q : Server) : Prop where
  ended : p.signals = .ended
  since : Since done q ms p
  trace : ∃ turn hook more, q.signals.hook? = some (turn, hook) ∧ hook.panics = true ∧
    Move.arrivals ms = Move.arrivals done ++ more ∧ p.trace = q.trace ++ .hook hook q.stopping ::
      ((q.inHand.toList ++ q.queue ++ more).filterMap (·.ticket)).map (.answered · none)

theorem Broken.of_panic {turn : Turn} {hook : Hook} (next : p.signals.hook? = some (turn, hook))
    (panics : hook.panics = true) {site : Site} {now : Nat}
    (run : p.attempt? site now .signals = some ((p.record (.hook hook p.stopping)).breakOff turn.ticket)) :
    Broken (ms ++ [.signals]) ms ((p.record (.hook hook p.stopping)).breakOff turn.ticket) p := by
  have inHand : p.inHand = some turn.dispatch := by
    rcases SignalPlace.hook?_eq_some next with ⟨rest, place⟩ | ⟨outcome, rest, place⟩ <;> rw [inHand, place] <;> rfl
  refine ⟨rfl, (Since.refl ms p).next run, turn, hook, [], next, panics, Move.arrivals_append _ _, ?_⟩
  rw [trace_breakOff, trace_record, inHand]
  cases waits : turn.ticket <;> simp [Record.isOfSignals, Turn.dispatch, waits, record]

namespace Traced

variable {site : Site} {now : Nat}

/-- What is not a step of the handling leaves the trace, and adds to the queue and to the hooks at their ends only. -/
theorem keep (traced : Traced first ms p blocks taken q stopped records) {p' : Server} {m : Move}
    (run : p.attempt? site now m = some p') (signals : p'.signals = p.signals)
    (stopping : p'.stopping = p.stopping) (trace : p'.trace = p.trace)
    (restarting : p'.registry.restarting = true → p.registry.restarting = true)
    (hooks : ∀ phase signal, p'.hooks.toRun phase signal = p.hooks.toRun phase signal ++ (m.hook? phase signal).toList)
    (queue : p'.queue = p.queue ++ m.arrival?.toList) : Traced first (ms ++ [m]) p' blocks taken q stopped records where
  hooks := by
    intro phase signal
    rw [hooks, traced.hooks, Move.registered_append]
  settled := traced.settled
  since := traced.since.next run
  next := by
    rw [inHand, signals]
    exact traced.next
  begun := by
    rw [signals]
    exact begun_next traced.begun run stopping
  trace := trace.trans traced.trace
  arrivals := by
    rw [Move.arrivals_append, traced.arrivals, queue, inHand, inHand, signals, List.append_assoc _ p.queue]
  restarting := by
    rw [signals]
    exact fun guarded => traced.restarting (restarting guarded)

theorem not_ended (traced : Traced first ms p blocks taken q stopped records) : p.signals ≠ .ended := by
  intro place
  have begun := traced.begun
  rw [place] at begun
  exact begun

theorem trigger (traced : Traced first ms p blocks taken q stopped records) {d : Dispatch} {m : Move}
    (run : p.attempt? site now m = some (p.trigger d)) (arrival : m.arrival? = some d)
    (hook : ∀ phase signal, m.hook? phase signal = none) :
    Traced first (ms ++ [m]) (p.trigger d) blocks taken q stopped records := by
  have same : p.trigger d = { p with queue := p.queue ++ [d] } := by
    unfold Server.trigger
    split
    · rename_i place _
      exact absurd place traced.not_ended
    · rename_i place _
      exact absurd place traced.not_ended
    · rfl
  rw [same] at run ⊢
  refine traced.keep run rfl rfl rfl id ?_ ?_
  · intro phase signal
    rw [hook, Option.toList_none, List.append_nil]
  · rw [arrival, Option.toList_some]

theorem register (traced : Traced first ms p blocks taken q stopped records) {phase : HookPhase} {number : Int}
    {hook : Hook} {hooks : Hooks Hook}
    (run : p.attempt? site now (.register phase number hook) = some { p with hooks })
    (registered : p.hooks.register phase number hook = .ok hooks) :
    Traced first (ms ++ [.register phase number hook]) { p with hooks } blocks taken q stopped records := by
  refine traced.keep run rfl rfl rfl id ?_ (List.append_nil _).symm
  intro phase' signal'
  cases named : Signal.ofNumber? number with
  | none =>
    rw [register_eq_error_iff.2 ⟨named, rfl⟩] at registered
    cases registered
  | some signal =>
    rw [Hooks.toRun_register named registered, Move.hook?, named]
    congr 1
    by_cases same : phase = phase' ∧ signal = signal'
    · simp [same]
    · rw [if_neg (by simpa using same), if_neg (by simpa using same)]
      rfl

/-- When the signal itself is handled, the hooks after it are those that are registered by now. -/
theorem conclude (traced : Traced first ms p blocks taken q stopped records) (launched : Option Replacement) {turn : Turn}
    {outcome : Outcome} {p' : Server} (run : p.attempt? site now .signals = some (p'.conclude turn outcome))
    (place : p.signals.acts = true) (inHand : p.signals.turn? = some turn)
    (ran : records = (Move.registered taken .before turn.signal).map (.hook · stopped))
    (acts : Acts blocks stopped turn.signal launched outcome) (hooks : p'.hooks = p.hooks) (queue : p'.queue = p.queue)
    (stopping : p'.stopping = (stopped || turn.signal.isStop))
    (trace : p'.trace = p.trace ++ launched.toList.map .launched)
    (restarting : p'.registry.restarting = true → outcome = .restarted ∨ ∃ b ∈ blocks, b.outcome = .restarted) :
    InBlocks first (ms ++ [.signals]) (p'.conclude turn outcome) := by
  have ends : p.Ends (p'.conclude turn outcome) turn outcome := ⟨place, ⟨site, now, run⟩, _, rfl⟩
  refine ⟨blocks, taken, q, stopped, _, ?_, traced.settled, traced.since.next run, ?_, ⟨stopping, launched, ms, p, _, [],
    acts, traced.since, ends, .refl _ _, ?_, rfl⟩, ?_, ?_, ?_⟩
  · intro phase signal
    rw [Move.registered_append]
    change p'.hooks.toRun phase signal = _
    rw [hooks, traced.hooks]
    exact (List.append_nil _).symm
  · intro d taken
    refine traced.next d ?_
    rw [Server.inHand, inHand]
    exact taken
  · rw [hooks, traced.hooks, List.nil_append]
  · change (p'.record _).trace = _
    rw [trace_record, trace, traced.trace, ran]
    simp [Block.opening, Record.isOfSignals, Turn.dispatch]
  · rw [Move.arrivals_append, traced.arrivals, Server.inHand, inHand]
    change _ = _ ++ _ ++ p'.queue
    rw [queue]
    exact List.append_nil _
  · exact fun guarded => (restarting guarded).imp_left decide_eq_true

/-- A step of the handling goes on within the block in hand, and adds nothing but what it has done to the trace. -/
theorem proceed (traced : Traced first ms p blocks taken q stopped records) (turn : Turn) (more : List Record)
    {p' : Server} (run : p.attempt? site now .signals = some p') (before : p.signals.turn? = some turn)
    (after : p'.signals.turn? = some turn) (hooks : p'.hooks = p.hooks) (queue : p'.queue = p.queue)
    (trace : p'.trace = p.trace ++ more)
    (begun : p'.signals.Begun blocks taken q stopped (ms ++ [.signals]) p' (records ++ more))
    (restarting : p'.registry.restarting = p.registry.restarting ∧ p'.signals.restarts = p.signals.restarts ∨
      p'.signals.restarts = true) : InBlocks first (ms ++ [.signals]) p' := by
  have same : p'.inHand = p.inHand := by rw [inHand, inHand, before, after]
  refine ⟨blocks, taken, q, stopped, records ++ more, ?_, traced.settled, traced.since.next run, same ▸ traced.next,
    begun, ?_, ?_, ?_⟩
  · intro phase signal
    rw [hooks, traced.hooks, Move.registered_append]
    exact (List.append_nil _).symm
  · rw [trace, traced.trace, List.append_assoc]
  · rw [Move.arrivals_append, traced.arrivals, same, queue]
    exact List.append_nil _
  · intro guarded
    rcases restarting with ⟨same, place⟩ | begun
    · rw [place]
      exact traced.restarting (same ▸ guarded)
    · exact Or.inl begun

/-- A step that leaves no record. -/
theorem pass (traced : Traced first ms p blocks taken q stopped records) (turn : Turn) {p' : Server}
    (run : p.attempt? site now .signals = some p') (before : p.signals.turn? = some turn)
    (after : p'.signals.turn? = some turn) (same : p'.hooks = p.hooks ∧ p'.queue = p.queue ∧ p'.trace = p.trace)
    (begun : p'.signals.Begun blocks taken q stopped (ms ++ [.signals]) p' records)
    (restarting : p'.registry.restarting = p.registry.restarting ∧ p'.signals.restarts = p.signals.restarts ∨
      p'.signals.restarts = true) : InBlocks first (ms ++ [.signals]) p' := by
  obtain ⟨hooks, queue, trace⟩ := same
  refine traced.proceed turn [] run before after hooks queue ?_ ?_ restarting
  · rw [trace, List.append_nil]
  · rwa [List.append_nil]

/-- A restart that is under way while a signal waits to be handled was begun for an earlier one. -/
theorem restarted (traced : Traced first ms p blocks taken q stopped records) (calm : p.signals.restarts = false)
    (guarded : p.registry.restarting = true) : ∃ b ∈ blocks, b.outcome = .restarted := by
  refine (traced.restarting guarded).resolve_left fun restarts => ?_
  rw [calm] at restarts
  cases restarts

theorem take (traced : Traced first ms p blocks taken q stopped records) {d : Dispatch} {rest : List Dispatch}
    {signal : Signal} (place : p.signals = .idle) (queue : p.queue = d :: rest)
    (named : Signal.ofNumber? d.number = some signal)
    (run : p.attempt? site now .signals = some { p with
      queue := rest, signals := .before ⟨signal, d.ticket⟩ (p.hooks.toRun .before signal) }) :
    InBlocks first (ms ++ [.signals])
      { p with queue := rest, signals := .before ⟨signal, d.ticket⟩ (p.hooks.toRun .before signal) } := by
  have begun := traced.begun
  rw [place] at begun
  obtain ⟨same, rfl⟩ := begun
  refine ⟨blocks, ms, p, stopped, [], ?_, traced.settled.wait traced.since, (Since.refl ms p).next run, ?_,
    ⟨same, [], (traced.hooks _ _).symm, rfl⟩, traced.trace, ?_, ?_⟩
  · intro phase signal
    rw [Move.registered_append]
    exact (traced.hooks phase signal).trans (List.append_nil _).symm
  · intro d' taken
    cases taken
    rw [Turn.dispatch_eq named, IsNext, queue]
    exact ⟨place, rfl⟩
  · rw [Move.arrivals_append, traced.arrivals, inHand, inHand, place, queue]
    simp [Move.arrival?, SignalPlace.turn?, Turn.dispatch_eq named]
  · intro guarded
    exact Or.inr (traced.restarted (by rw [place]; rfl) guarded)

/-- A signal is done with: what stands of it in the trace is a block. -/
theorem complete (traced : Traced first ms p blocks taken q stopped records) {p' q' : Server} {b : Block}
    {done : List Move} {stopped' : Bool} (more : List Record) (run : p.attempt? site now .signals = some p')
    (settled : Blocks first (blocks ++ [b]) done q' stopped') (since : Since done q' ms p)
    (idle : p'.signals = .idle) (stopping : p'.stopping = stopped') (hooks : p'.hooks = p.hooks)
    (trace : p'.trace = p.trace ++ more) (whole : records ++ more = b.records)
    (arrived : p.inHand.toList ++ p.queue = b.dispatch :: p'.queue)
    (restarting : p'.registry.restarting = p.registry.restarting)
    (covers : p.signals.restarts = true → b.outcome = .restarted) : InBlocks first (ms ++ [.signals]) p' := by
  have none_ : p'.inHand = none := by
    rw [inHand, idle]
    rfl
  refine ⟨blocks ++ [b], done, q', stopped', [], ?_, settled, since.next run, ?_, ?_, ?_, ?_, ?_⟩
  · intro phase signal
    rw [hooks, traced.hooks, Move.registered_append]
    exact (List.append_nil _).symm
  · rw [none_]
    exact nofun
  · rw [idle]
    exact ⟨stopping, rfl⟩
  · rw [trace, traced.trace, List.append_assoc, whole, List.flatMap_append, List.append_nil, List.flatMap_singleton]
  · rw [Move.arrivals_append, traced.arrivals, List.append_assoc _ _ p.queue, arrived, none_, List.map_append]
    simp [Move.arrival?]
  · intro guarded
    right
    rcases traced.restarting (restarting ▸ guarded) with restarts | ⟨b', member, started⟩
    · exact ⟨b, by simp, covers restarts⟩
    · exact ⟨b', List.mem_append_left _ member, started⟩

theorem ignore (traced : Traced first ms p blocks taken q stopped records) {d : Dispatch} {rest : List Dispatch}
    (place : p.signals = .idle) (queue : p.queue = d :: rest) (unnamed : Signal.ofNumber? d.number = none)
    {p' : Server} (same : p' = ((({ p with queue := rest } : Server).record (.notice (.unsupportedSignal d.number))).record
      (.handled d.number .ignored)).answer d.ticket .ignored) (run : p.attempt? site now .signals = some p') :
    InBlocks first (ms ++ [.signals]) p' := by
  have begun := traced.begun
  rw [place] at begun
  obtain ⟨still, rfl⟩ := begun
  have next : p.IsNext d := by
    rw [IsNext, queue]
    exact ⟨place, rfl⟩
  refine traced.complete (Block.ignored d stopped).records run ((traced.settled.wait traced.since).ignore next unnamed)
    (.refl ms p) ?_ ?_ ?_ ?_ rfl ?_ ?_ ?_
  · rw [same, signals_answer]
    exact place
  · rw [same, stopping_answer]
    exact still
  · rw [same, hooks_answer]
    rfl
  · rw [same, trace_answer, trace_record, trace_record]
    simp [Record.isOfSignals, Block.records, Block.opening, Block.ignored]
    rfl
  · rw [same, queue_answer, inHand, place, queue]
    rfl
  · rw [same, registry_answer]
    rfl
  · rw [place]
    exact nofun

theorem failed (traced : Traced first ms p blocks taken q stopped records) {turn : Turn} {fault : Fault}
    (run : p.attempt? site now .signals = some (p.failRestart turn fault)) (place : p.signals.acts = true)
    (inHand : p.signals.turn? = some turn)
    (begun : p.stopping = false ∧ stopped = false ∧ turn.signal.isStop = false ∧
      records = (Move.registered taken .before turn.signal).map (.hook · stopped)) :
    InBlocks first (ms ++ [.signals]) (p.failRestart turn fault) := by
  obtain ⟨going, still, isStop, rfl⟩ := begun
  refine traced.conclude none run place inHand rfl (.fail isStop still) rfl rfl ?_ (trace_record _ _) nofun
  rw [isStop, still]
  exact going

/-- The block of a signal is complete once the last hook after it has run. -/
theorem finish (traced : Traced first ms p blocks taken q stopped records) {turn : Turn} {outcome : Outcome}
    (place : p.signals = .after turn outcome [])
    (run : p.attempt? site now .signals = some ((p.answer turn.ticket outcome).moveSignals .idle)) :
    InBlocks first (ms ++ [.signals]) ((p.answer turn.ticket outcome).moveSignals .idle) := by
  have inHand : p.inHand = some turn.dispatch := by
    rw [inHand, place]
    rfl
  have next := traced.next _ inHand
  have begun := traced.begun
  rw [place] at begun
  obtain ⟨same, launched, done, mid, mid', ran, acts, since, ends, since', split, rfl⟩ := begun
  rw [List.append_nil] at split
  refine traced.complete (turn.ticket.toList.map (.answered · (some outcome))) run
    (traced.settled.handle next (Signal.ofNumber?_number _) since ends acts) since' rfl ?_ ?_ ?_ ?_ ?_ ?_ ?_
  · exact (stopping_answer p _ _).trans same
  · exact hooks_answer p _ _
  · exact trace_answer p _ _
  · rw [Block.records, Block.stops, acts.stops, split]
    rfl
  · change _ = turn.dispatch :: (p.answer _ _).queue
    rw [queue_answer, inHand]
    rfl
  · exact congrArg Registry.restarting (registry_answer p _ _)
  · rw [place]
    exact of_decide_eq_true

theorem mem_registered (traced : Traced first ms p blocks taken q stopped records) {turn : Turn} {hook : Hook}
    (next : p.signals.hook? = some (turn, hook)) : ∃ phase, hook ∈ Move.registered ms phase turn.signal := by
  have begun := traced.begun
  rcases SignalPlace.hook?_eq_some next with ⟨rest, place⟩ | ⟨outcome, rest, place⟩
  · rw [place] at begun
    obtain ⟨_, ran, split, _⟩ := begun
    have member : hook ∈ Move.registered taken .before turn.signal := by simp [split]
    exact ⟨.before, Move.mem_registered_of_prefix traced.since.le member⟩
  · rw [place] at begun
    obtain ⟨_, _, done, _, _, ran, _, _, _, since', split, _⟩ := begun
    have member : hook ∈ Move.registered done .after turn.signal := by simp [split]
    exact ⟨.after, Move.mem_registered_of_prefix ((List.prefix_append _ _).trans since'.le) member⟩

/-- A step of the handling goes on in the block in hand, completes it or takes up the next, or breaks it off. -/
theorem handle (traced : Traced first ms p blocks taken q stopped records) {p' : Server} (step : Handling site now p p')
    (run : p.attempt? site now .signals = some p') :
    InBlocks first (ms ++ [.signals]) p' ∨ Broken (ms ++ [.signals]) ms p' p := by
  have begun := traced.begun
  cases step with
  | take place queue named => exact Or.inl (traced.take place queue named run)
  | ignore place queue unnamed => exact Or.inl (traced.ignore place queue unnamed rfl run)
  | @before turn hook rest place _ =>
    rw [place] at begun
    obtain ⟨same, ran, split, rfl⟩ := begun
    left
    refine traced.proceed turn [.hook hook p.stopping] run (by rw [place]; rfl) rfl rfl rfl (trace_record p _)
      ⟨same, ran ++ [hook], ?_, ?_⟩ (Or.inl ⟨rfl, by rw [place]; rfl⟩)
    · rw [split, List.append_assoc, List.singleton_append]
    · rw [same, List.map_append]
      rfl
  | @after turn outcome hook rest place _ =>
    rw [place] at begun
    obtain ⟨same, launched, done, mid, mid', ran, acts, since, ends, since', split, rfl⟩ := begun
    left
    refine traced.proceed turn [.hook hook p.stopping] run (by rw [place]; rfl) rfl rfl rfl (trace_record p _)
      ⟨same, launched, done, mid, mid', ran ++ [hook], acts, since, ends, since'.next run, ?_, ?_⟩
      (Or.inl ⟨rfl, by rw [place]; rfl⟩)
    · rw [split, List.append_assoc, List.singleton_append]
    · rw [same, List.map_append, List.append_assoc]
      rfl
  | breakOff next panics => exact Or.inr (.of_panic next panics run)
  | @turn turn place =>
    rw [place] at begun
    obtain ⟨same, ran, split, rfl⟩ := begun
    rw [List.append_nil] at split
    left
    refine traced.pass turn run (by rw [place]; rfl) rfl ⟨rfl, rfl, rfl⟩ ⟨same, ?_⟩ (Or.inl ⟨rfl, by rw [place]; rfl⟩)
    rw [split]
  | @stop turn place isStop =>
    rw [place] at begun
    exact Or.inl (traced.pass turn run (by rw [place]; rfl) rfl ⟨rfl, rfl, rfl⟩ ⟨rfl, isStop, begun.2⟩
      (Or.inl ⟨rfl, by rw [place]; rfl⟩))
  | @skip turn place isStop idle =>
    rw [place] at begun
    obtain ⟨same, rfl⟩ := begun
    have restarted := traced.restarted (by rw [place]; rfl)
    left
    refine traced.conclude none run (by rw [place]; rfl) (by rw [place]; rfl) rfl
      (.skip isStop (idle.imp same.symm.trans restarted)) rfl rfl ?_ (List.append_nil _).symm fun guarded => Or.inr (restarted guarded)
    rw [isStop, Bool.or_false, same]
  | @begin_ turn place isStop going idle =>
    rw [place] at begun
    exact Or.inl (traced.pass turn run (by rw [place]; rfl) rfl ⟨rfl, rfl, rfl⟩
      ⟨going, begun.1.symm.trans going, isStop, begun.2⟩ (Or.inr rfl))
  | @list turn place =>
    rw [place] at begun
    exact Or.inl (traced.pass turn run (by rw [place]; rfl) rfl ⟨rfl, rfl, rfl⟩ begun (Or.inl ⟨rfl, by rw [place]; rfl⟩))
  | @close turn ordinal rest place =>
    rw [place] at begun
    have unheard : Unheard p (p.shutdown now ordinal) := .alter p ordinal _
    have apart : Apart p (p.shutdown now ordinal) := .alter p ordinal _
    exact Or.inl (traced.pass turn run (by rw [place]; rfl) rfl ⟨unheard.hooks, unheard.queue, unheard.trace⟩
      ⟨unheard.stopping.trans begun.1, begun.2⟩ (Or.inl ⟨apart.restarting, by rw [place]; rfl⟩))
  | @closed turn place =>
    rw [place] at begun
    obtain ⟨stopping, isStop, rfl⟩ := begun
    left
    refine traced.conclude none run (by rw [place]; rfl) (by rw [place]; rfl) rfl (.stop isStop) rfl rfl ?_
      (List.append_nil _).symm fun guarded => Or.inr (traced.restarted (by rw [place]; rfl) guarded)
    rw [isStop, Bool.or_true, stopping]
  | @capture turn captured t place =>
    rw [place] at begun
    exact Or.inl (traced.pass turn run (by rw [place]; rfl) rfl ⟨rfl, rfl, rfl⟩ begun (Or.inr rfl))
  | refuse place | empty place | fail place =>
    rw [place] at begun
    exact Or.inl (traced.failed run (by rw [place]; rfl) (by rw [place]; rfl) begun)
  | @launch turn captured r place =>
    rw [place] at begun
    obtain ⟨going, still, isStop, rfl⟩ := begun
    left
    refine traced.conclude (some r) run (by rw [place]; rfl) (by rw [place]; rfl) rfl (.restart isStop still)
      rfl rfl ?_ (trace_record _ _) fun _ => Or.inl rfl
    rw [isStop, still]
    exact going
  | rest place => exact Or.inl (traced.finish place run)

theorem attempt (traced : Traced first ms p blocks taken q stopped records) {m : Move} {p' : Server}
    (run : p.attempt? site now m = some p') : InBlocks first (ms ++ [m]) p' ∨ Broken (ms ++ [m]) ms p' p := by
  cases meets_of_attempt? run with
  | unheard arrival hook unheard =>
    refine Or.inl ⟨_, _, _, _, _,
      traced.keep run unheard.signals unheard.stopping unheard.trace unheard.restarting ?_ ?_⟩
    · intro phase signal
      rw [hook, unheard.hooks, Option.toList_none, List.append_nil]
    · rw [arrival, unheard.queue, Option.toList_none, List.append_nil]
  | arrive arrival hook => exact Or.inl ⟨_, _, _, _, _, traced.trigger run arrival hook⟩
  | register registered => exact Or.inl ⟨_, _, _, _, _, traced.register run registered⟩
  | handle step => exact traced.handle step run

end Traced

/-- Once the handling is broken off, nothing is recorded but that those who wait for a signal get no outcome. -/
theorem Broken.attempt {done : List Move} (broken : Broken ms done p q) {site : Site} {now : Nat} {m : Move} {p' : Server}
    (run : p.attempt? site now m = some p') : Broken (ms ++ [m]) done p' q := by
  obtain ⟨ended, since, turn, hook, more, next, panics, arrivals, trace⟩ := broken
  have since' := since.next run
  have arrivals' : Move.arrivals (ms ++ [m]) = Move.arrivals done ++ (more ++ m.arrival?.toList) := by
    rw [Move.arrivals_append, arrivals, List.append_assoc]
  cases meets_of_attempt? run with
  | unheard arrival _ unheard =>
    rw [arrival, Option.toList_none, List.append_nil] at arrivals'
    exact ⟨unheard.signals.trans ended, since', turn, hook, more, next, panics, arrivals', unheard.trace.trans trace⟩
  | @arrive _ d arrival =>
    rw [arrival, Option.toList_some] at arrivals'
    have told : (p.trigger d).signals = .ended ∧
        (p.trigger d).trace = p.trace ++ d.ticket.toList.map (.answered · none) := by
      rw [Server.trigger, ended]
      cases d.ticket with
      | none => exact ⟨ended, (List.append_nil _).symm⟩
      | some ticket => exact ⟨ended, trace_record p _⟩
    refine ⟨told.1, since', turn, hook, more ++ [d], next, panics, arrivals', ?_⟩
    rw [told.2, trace]
    cases waits : d.ticket <;> simp [waits]
  | register => exact ⟨ended, since', turn, hook, more, next, panics, arrivals'.trans (by simp [Move.arrival?]), trace⟩
  | handle =>
    have none_ : p.stepSignals? site now = none := by rw [stepSignals?, ended]
    change p.stepSignals? site now = some p' at run
    rw [none_] at run
    cases run

theorem inBlocks_start (markers : Markers) (settings : Settings) (arguments : List OsText)
    (handed : List (Option OpenFile)) (parent nextSocket now : Nat) :
    InBlocks (Server.start markers settings arguments handed parent nextSocket now) []
      (Server.start markers settings arguments handed parent nextSocket now) := by
  have blank := Blank.start markers settings arguments handed parent nextSocket now
  generalize first : Server.start markers settings arguments handed parent nextSocket now = p at blank ⊢
  have bare : p.hooks = {} ∧ p.trace = [] := by
    subst first
    unfold Server.start
    dsimp only
    split
    · exact ⟨rfl, rfl⟩
    · exact ⟨rfl, filter_notices _⟩
  refine ⟨[], [], p, false, [], ?_, .start, .refl _ _, ?_, ?_, bare.2, ?_, ?_⟩
  · intro phase signal
    rw [bare.1]
    rfl
  · rw [inHand, blank.signals]
    exact nofun
  · rw [blank.signals]
    exact ⟨blank.stopping, rfl⟩
  · rw [inHand, blank.signals, blank.queue]
    rfl
  · rw [blank.restarting]
    exact nofun

theorem Path.inBlocks_or_broken (path : Path first ms p) (atStart : InBlocks first [] first) :
    InBlocks first ms p ∨ ∃ done q, InBlocks first done q ∧ Broken ms done p q := by
  induction path with
  | start => exact Or.inl atStart
  | @next ms p p' _ _ _ _ run ih =>
    rcases ih with ⟨_, _, _, _, _, traced⟩ | ⟨done, q, inBlocks, broken⟩
    · exact (traced.attempt run).imp_right fun broken => ⟨ms, p, ⟨_, _, _, _, _, traced⟩, broken⟩
    · exact Or.inr ⟨done, q, inBlocks, broken.attempt run⟩

theorem Broken.panics {done : List Move} (broken : Broken ms done p q) (inBlocks : InBlocks first done q) :
    ∃ m ∈ ms, m.panics = true := by
  obtain ⟨turn, hook, _, next, panics, _⟩ := broken.trace
  obtain ⟨_, _, _, _, _, traced⟩ := inBlocks
  obtain ⟨phase, member⟩ := traced.mem_registered next
  by_contra none_
  have calm : ∀ m ∈ ms, m.panics = false := fun m made => Bool.eq_false_iff.2 fun panics => none_ ⟨m, made, panics⟩
  rw [Move.panics_of_mem_registered calm (Move.mem_registered_of_prefix broken.since.le member)] at panics
  cases panics

/-- The signals that arrive at a process are handled one at a time, in blocks, up to a hook that panics. -/
structure OneAtATime (first : Server) (ms : List Move) (p : Server) : Prop where
  trace : InBlocks first ms p ∨ ∃ done q, InBlocks first done q ∧ Broken ms done p q
  calm : (∀ m ∈ ms, m.panics = false) → InBlocks first ms p
  complete : ∀ site now, ∃ n q, p.moves? site now (List.replicate n .signals) = some q ∧
    ((q.signals = .ended ∧ ∃ m ∈ ms, m.panics = true) ∨
      ∃ blocks, q.signals = .idle ∧ q.queue = [] ∧ Blocks first blocks (ms ++ List.replicate n .signals) q q.stopping ∧
        q.trace = blocks.flatMap Block.records ∧ blocks.map (·.dispatch) = Move.arrivals ms)
  ignores : ∀ site now d rest, p.signals = .idle → p.queue = d :: rest → Signal.ofNumber? d.number = none →
    p.move? site now .signals = some { p with
      queue := rest
      journal := p.journal ++ .notice (.unsupportedSignal d.number) :: (Block.ignored d p.stopping).records }
  rejects : ∀ phase number hook, Signal.ofNumber? number = none →
    p.register phase number hook = .error (.unsupportedSignal number) ∧
      ∀ later q, Path first (ms ++ .register phase number hook :: later) q ↔ Path first (ms ++ later) q

theorem takeUp_of_unhandled (p : Server) {d : Dispatch} (rest : List Dispatch)
    (unnamed : Signal.ofNumber? d.number = none) : p.takeUp d rest = { p with
      queue := rest
      journal := p.journal ++ .notice (.unsupportedSignal d.number) :: (Block.ignored d p.stopping).records } := by
  rw [takeUp, unnamed]
  cases d with
  | mk number ticket => cases ticket <;> simp [answer, record, Block.records, Block.opening, Block.ignored]

/-- Signals are handled one at a time, whatever arrives and whichever hooks are registered. -/
theorem signals_one_at_a_time {markers : Markers} {settings : Settings} {arguments : List OsText}
    {handed : List (Option OpenFile)} {parent nextSocket start : Nat} {ms : List Move} {p : Server}
    (path : Path (Server.start markers settings arguments handed parent nextSocket start) ms p) :
    OneAtATime (Server.start markers settings arguments handed parent nextSocket start) ms p := by
  have atStart := inBlocks_start markers settings arguments handed parent nextSocket start
  refine ⟨path.inBlocks_or_broken atStart, ?_, ?_, ?_, ?_⟩
  · intro calm
    refine (path.inBlocks_or_broken atStart).resolve_right ?_
    rintro ⟨done, q, inBlocks, broken⟩
    obtain ⟨m, made, panics⟩ := broken.panics inBlocks
    rw [calm m made] at panics
    cases panics
  · intro site now
    obtain ⟨n, q, made, rests⟩ := settles site now p
    refine ⟨n, q, made, ?_⟩
    rcases (path.moves site now _ made).inBlocks_or_broken atStart with inBlocks | ⟨done, q', inBlocks, broken⟩
    · obtain ⟨blocks, taken, q', stopped, begun, traced⟩ := inBlocks
      obtain ⟨idle, empty⟩ := rests.resolve_right traced.not_ended
      have atRest := traced.begun
      rw [idle] at atRest
      obtain ⟨same, rfl⟩ := atRest
      refine Or.inr ⟨blocks, idle, empty, ?_, ?_, ?_⟩
      · rw [same]
        exact traced.settled.wait traced.since
      · rw [traced.trace, List.append_nil]
      · have arrivals := traced.arrivals
        rw [Move.arrivals_signals, inHand, idle, empty] at arrivals
        simpa [SignalPlace.turn?] using arrivals.symm
    · obtain ⟨m, made, panics⟩ := broken.panics inBlocks
      refine Or.inl ⟨broken.ended, m, (List.mem_append.1 made).resolve_right ?_, panics⟩
      intro later
      rw [List.eq_of_mem_replicate later] at panics
      cases panics
  · intro site now d rest idle queue unnamed
    have step : p.stepSignals? site now = some (p.takeUp d rest) := by rw [stepSignals?, idle, queue]
    exact step.trans (congrArg some (takeUp_of_unhandled p rest unnamed))
  · intro phase number hook unnamed
    exact ⟨p.register_of_unhandled phase hook unnamed, Path.iff_of_rejected unnamed ms⟩

end Server

namespace Sample

def hook (label : String) : Hook := { label }

/-- Three hooks are registered. -/
def hooking : List Move :=
  [.register .before 15 (hook "first"), .register .after 15 (hook "second"), .register .before 1 (hook "third")]

/-- Three signals arrive, and a hook before the second is registered when that has been taken up. -/
def mixing : List Move :=
  [.trigger { number := 10, ticket := some 5 }, .trigger { number := 15, ticket := some 6 },
    .trigger { number := 1, ticket := some 7 }, .signals, .signals, .register .before 15 (hook "late")] ++
    List.replicate 12 .signals

def mixed : Server := after (after fresh hooking) mixing

theorem path_mixed :
    Server.Path fresh (hooking ++ [.register .before 10 (hook "rejected")] ++ mixing) mixed := by
  have hooked : Server.Path fresh hooking (after fresh hooking) := Server.Path.start.moves site 0 hooking rfl
  have rejected : (after fresh hooking).attempt? site 0 (.register .before 10 (hook "rejected")) =
      some (after fresh hooking) := rfl
  exact (hooked.next rejected).moves site 0 mixing rfl

/-- A hook panics while two signals wait. -/
def breaking : List Move :=
  [.register .before 15 { label := "first", panics := true }, .trigger { number := 15, ticket := some 6 },
    .trigger { number := 10, ticket := some 7 }, .signals, .signals]

def broken : Server := after fresh breaking

end Sample

/-- A number that is not handled, a stop between its hooks, without the one that came too late, and a restart that is
skipped for it. -/
theorem mixed_signals_in_order :
    Sample.mixed.signals = .idle ∧ Sample.mixed.trace =
        [.handled 10 .ignored, .answered 5 (some .ignored), .hook (Sample.hook "first") false, .handled 15 .stopping,
          .hook (Sample.hook "second") true, .answered 6 (some .stopping), .hook (Sample.hook "third") true,
          .handled 1 .skipped, .answered 7 (some .skipped)] ∧
      Server.OneAtATime Sample.fresh
        (Sample.hooking ++ [.register .before 10 (Sample.hook "rejected")] ++ Sample.mixing) Sample.mixed :=
  ⟨rfl, rfl, Server.signals_one_at_a_time Sample.path_mixed⟩

/-- The trace is not made of blocks once a hook has panicked: the block of its signal is never finished, and whoever waits
for it, or for the signal behind it, gets no outcome. -/
theorem panic_breaks_block :
    Server.Path Sample.fresh Sample.breaking Sample.broken ∧ Sample.broken.trace =
        [.hook { label := "first", panics := true } false, .answered 6 none, .answered 7 none] ∧
      (∀ blocks : List Block, Sample.broken.trace ≠ blocks.flatMap Block.records) ∧
      ∀ site now, Sample.broken.stepSignals? site now = none := by
  have trace : Sample.broken.trace =
      [.hook { label := "first", panics := true } false, .answered 6 none, .answered 7 none] := rfl
  refine ⟨Server.Path.start.moves Sample.site 0 Sample.breaking rfl, trace, ?_, fun _ _ => rfl⟩
  intro blocks whole
  have member : Record.answered 6 none ∈ blocks.flatMap Block.records := by
    rw [← whole, trace]
    decide
  obtain ⟨b, _, answered⟩ := List.mem_flatMap.1 member
  simp [Block.records, Block.opening] at answered

end Handover
