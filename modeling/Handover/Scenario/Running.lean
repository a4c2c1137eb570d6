import Handover.Program.Basic
import Handover.Scenario.Events
import Handover.Scenario.Folder
import Handover.Server.Run

namespace Handover.Scenario.Running

inductive Inherited where
  | listener
  | datagram
  | unix
  | file
deriving DecidableEq

/-- The open file that is handed over; its place gives a socket its identity. -/
def Inherited.toOpenFile (kind : Inherited) (identity : Nat) : OpenFile :=
  let socket (kind : SocketKind) : OpenFile := .socket { identity, kind, endpoint := ⟨.v4 127 0 0 1, 0⟩ }
  match kind with
  | .listener => socket .stream
  | .datagram => socket .datagram
  | .unix => socket .unix
  | .file => .other

inductive Step where
  | serve (address : String) (options : Options) (triggers : Option (List Int))
  | trigger (numbers : List Int)
  | hook (phase : HookPhase) (number : Int) (labels : List String) (panics : Bool)
  | logHooks
  | listen
  | deliver (number : Int)
  | child
  | childEnds
  | snapshot
  | plan
  | reserve (address : String)
  | release (ordinal : Nat)
  | closeListener (address : String)
  | shutdown (address : String)
  | options (address : String)
  | connect (address : String)
  | connectTo (i : Nat)
  | describe
  | asClient
  | pass (ticks : Nat)

inductive FileName where
  | inherited (i : Nat)
  | service (address : String)
  | other

inductive Result where
  | done
  | flag (b : Bool)
  | ok
  | refused (fault : Fault)
  | outcomes (l : List (Except Fault Outcome))
  | registrations (l : List (Option Fault))
  | unhandled
  | noReplacement
  | child (arguments : List OsText) (files : List (Nat × FileName))
  | snapshot (l : List (Nat × String × FileName))
  | plan (p : Restart.Plan)
  | ordinal (n : Nat)
  | options (o : Options)
  | noService
  | noListener
  | unreachable
  | text (s : String)

structure ServiceView where
  address : String
  phase : Phase
  active : Nat
  closed : Bool

structure Answer where
  result : Result
  services : List ServiceView
  told : Nat
  hooks : List (String × Bool)
  returned : List (String × Option Fault)
  notices : List Notice

/-- The process, where it runs, and the time. -/
structure State where
  site : Site
  inherit : List Inherited
  process : Server
  now : Nat := 0

namespace State

def withServer (s : State) (process : Server) : State := { s with process }

/-- The ordinal of the first service of an address. -/
def ordinal? (s : State) (address : String) : Option Nat :=
  (s.process.registry.find? fun x => x.address == address).map (·.1)

def fileName (s : State) : OpenFile → FileName
  | .other => .other
  | .socket socket =>
    if socket.identity < s.inherit.length then .inherited socket.identity
    else match s.process.registry.services.find? fun x => x.life.listener.socket.identity == socket.identity with
      | some service => .service service.address
      | none => .other

/-- Something happens to the service of an address, if there is one. -/
def onService (s : State) (address : String) (f : Nat → Service → Result × Server) : Result × State :=
  match s.ordinal? address with
  | none => (.noService, s)
  | some ordinal =>
    match s.process.registry.service? ordinal with
    | none => (.noService, s)
    | some service => let (result, process) := f ordinal service; (result, s.withServer process)

/-- The process gets signals under the tickets 0, 1, and so on. -/
def triggerAll (s : State) (numbers : List Int) : State :=
  s.withServer (numbers.zipIdx.foldl (fun p (number, ticket) => p.trigger { number, ticket := some ticket }) s.process)

/-- Hooks with labels are registered one after the other. -/
def registerAll (p : Server) (phase : HookPhase) (number : Int) (panics : Bool) :
    List String → List (Option Fault) × Server
  | [] => ([], p)
  | label :: rest =>
    match p.register phase number { label, panics } with
    | .ok p => let (l, p) := registerAll p phase number panics rest; (none :: l, p)
    | .error fault => let (l, p) := registerAll p phase number panics rest; (some fault :: l, p)

/-- Takes a step before anything else happens. The result of triggers is only known later. -/
def act (s : State) : Step → Result × State
  | .serve address options triggers =>
    (.done, (s.withServer (s.process.serve address options)).triggerAll (triggers.getD []))
  | .trigger numbers => (.done, s.triggerAll numbers)
  | .hook phase number labels panics =>
    let (l, p) := registerAll s.process phase number panics labels
    (.registrations l, s.withServer p)
  | .logHooks => (.flag true, s.withServer (Program.withLogHooks s.process))
  | .listen => (.ok, s.withServer s.process.listen)
  | .deliver number =>
    if s.process.listens then (.done, s.withServer ((s.process.deliver? number).getD s.process)) else (.unhandled, s)
  | .child =>
    match s.process.replacements.getLast? with
    | none => (.noReplacement, s)
    | some r =>
      let files := (r.descriptors.toList.filter fun e => Markers.firstDescriptor ≤ e.1).map fun e =>
        (e.1, s.fileName e.2.file)
      (.child r.arguments files, s)
  | .childEnds =>
    match s.process.replacements.getLast? with
    | none => (.noReplacement, s)
    | some r => (.done, s.withServer (s.process.replacementEnds r.serial))
  | .snapshot =>
    match Restart.snapshot s.process.registry s.process.table with
    | .error cause => (.refused (.system cause), s)
    | .ok (l, _) => (.snapshot (l.map fun c => (c.ordinal, c.address, s.fileName (.socket c.handle.socket))), s)
  | .plan =>
    match Restart.snapshot s.process.registry s.process.table with
    | .error cause => (.refused (.system cause), s)
    | .ok (l, _) => (.plan (.ofSnapshot l), s)
  | .reserve address =>
    match s.process.registry.reserve address with
    | .error fault => (.refused fault, s)
    | .ok (n, registry) => (.ordinal n, s.withServer { s.process with registry })
  | .release ordinal => (.done, s.withServer { s.process with registry := s.process.registry.release ordinal })
  | .closeListener address => s.onService address fun ordinal _ => (.done, s.process.closeListener ordinal)
  | .shutdown address => s.onService address fun ordinal service =>
      (.flag (service.life.shutdown s.now).1, s.process.shutdown s.now ordinal)
  | .options address => s.onService address fun _ service => (.options service.options, s.process)
  | .connect address => s.onService address fun _ _ => (.unreachable, s.process)
  | .connectTo i => (if s.inherit[i]? = some .listener then .unreachable else .noListener, s)
  | .describe => (.text s.process.text, s)
  | .asClient | .pass _ => (.done, s)

/-- What came of the signals under the tickets below `n`. -/
def outcomes (records : List Record) (n : Nat) : List (Except Fault Outcome) :=
  (List.range n).map fun ticket =>
    let answer : Record → Option (Except Fault Outcome)
      | .answered t outcome =>
        if t = ticket then some (match outcome with | some o => .ok o | none => .error .signalsEnded) else none
      | _ => none
    (records.findSome? answer).getD (.error .signalsEnded)

/-- Takes a step and lets everything happen that follows. -/
def step (s : State) (step : Step) : Answer × State :=
  let (result, acted) := s.act step
  let process := acted.process.settle s.site s.now
  let (process, now) : Server × Nat :=
    match step with
    | .pass ticks => (process.pass s.site s.now ticks, s.now + ticks)
    | _ => (process, s.now)
  let records := process.journal.drop s.process.journal.length
  let result : Result :=
    match step with
    | .trigger numbers | .serve _ _ (some numbers) => .outcomes (outcomes records numbers.length)
    | _ => result
  let told : Record → Bool
    | .told _ => true
    | _ => false
  ({ result
     services := process.registry.services.map fun x => ⟨x.address, x.life.phase, x.life.active, x.life.isClosed⟩
     told := process.journal.countP told
     hooks := records.filterMap fun
       | .hook hook stopping => if hook.quiet then none else some (hook.label, stopping)
       | _ => none
     returned := records.filterMap fun
       | .returned address fault => some (address, fault)
       | _ => none
     notices := records.filterMap fun
       | .notice notice => some notice
       | _ => none },
   { acted with process, now })

end State

/-- The number of the process that started this one. -/
def parent : Nat := 2

def State.initial (files : Files) (markers : Markers) (settings : Settings) (inherit : List Inherited) : State :=
  let refusal (program : Option OsText) : Option Failure := program.bind (programRefusal files)
  let handed := inherit.zipIdx.map fun (kind, i) => some (kind.toOpenFile i)
  { site := { network := .isolated, files, provider := .isolated, refusal }
    inherit
    process := .start markers settings [] handed parent inherit.length 0 }

end Handover.Scenario.Running
