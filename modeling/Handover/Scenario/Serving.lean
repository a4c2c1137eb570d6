import Handover.Scenario.Events
import Handover.Service.Basic

namespace Handover.Scenario.Serving

inductive Step where
  | start
  | shutdown
  | run
  | wait
  | closeListener
  | extract
  | describe
  | failAccept (causes : List Failure)
  | trouble (on : Bool)
  | connect
  | asClient
  | pass (ticks : Nat)

inductive Result where
  | done
  | flag (b : Bool)
  | ok
  | failed (cause : Failure)
  | unreachable
  | texts (l : List (Option String))

structure Answer where
  result : Result
  phase : Phase
  changed : Bool
  active : Nat
  closed : Bool
  events : List String
  notices : List Notice

/-- The service, the tasks that wait for its end, and the time. -/
structure State where
  service : Service
  waiting : Nat := 0
  now : Nat := 0

namespace State

def withLife (s : State) (life : Lifecycle) : State := { s with service := { s.service with life } }

def settle (s : State) : State × List Notice :=
  let (life, notices) := s.service.life.settle s.now
  (s.withLife life, notices)

/-- Lets time pass up to `target`, from timer to timer; `fuel` bounds the number of timers. -/
def passWithin : Nat → Nat → State → State × List Notice
  | 0, target, s => ({ s with now := target }, [])
  | fuel + 1, target, s =>
    match (s.service.life.timers.filter (· ≤ target)).min? with
    | none => ({ s with now := target }, [])
    | some due =>
      let (s, notices) := ({ s with now := max s.now due } : State).settle
      let (s, more) := passWithin fuel target s
      (s, notices ++ more)

/-- The number of timers that can fire in some ticks: a loop pauses for five ticks at least while accepting keeps
failing. -/
def timersWithin (s : State) (ticks : Nat) : Nat :=
  (ticks / 5 + s.service.life.listener.backlog.length + 2) * (s.service.life.loops.length + 1)

def act (s : State) : Step → Result × State
  | .start => let (b, life) := s.service.life.start; (.flag b, s.withLife life)
  | .shutdown => let (b, life) := s.service.life.shutdown s.now; (.flag b, s.withLife life)
  | .run => (.done, s.withLife s.service.life.run)
  | .wait => (.done, { s with waiting := s.waiting + 1 })
  | .closeListener => (.done, s.withLife s.service.life.closeListener)
  | .extract =>
    match s.service.life.listener.extract with
    | .ok _ => (.ok, s)
    | .error failure => (.failed failure, s)
  | .describe =>
    let listener := s.service.life.listener
    let inner (text : String) : Option String := if s.service.isEncrypted then some text else none
    (.texts [some s.service.life.text, some s.service.text, inner listener.encryptedText, inner listener.text], s)
  | .failAccept causes =>
    (.done, s.withLife (causes.foldl (fun l cause => l.arrive (.failure cause)) s.service.life))
  | .trouble on =>
    (.done, s.withLife (s.service.life.trouble (if on then some .tooManyFiles else none)))
  | .connect => (.unreachable, s)
  | .asClient | .pass _ => (.done, s)

/-- Takes a step and lets everything happen that follows. -/
def step (s : State) (step : Step) : Answer × State :=
  let (result, acted) := s.act step
  let (after, notices) := acted.settle
  let (after, later) :=
    match step with
    | .pass ticks => passWithin (after.timersWithin ticks) (after.now + ticks) after
    | _ => (after, [])
  let life := after.service.life
  let ended := life.phase = .terminated
  let loops := List.replicate (life.returned - s.service.life.returned) "run returned"
  let waits := if ended then List.replicate after.waiting "wait returned" else []
  ({ result
     phase := life.phase
     changed := life.phase != s.service.life.phase
     active := life.active
     closed := life.isClosed
     events := sorted (loops ++ waits)
     notices := notices ++ later },
   if ended then { after with waiting := 0 } else after)

end State

def address : String := "svc"

/-- A service that has not started, unless what encryption needs cannot be loaded. -/
def State.initial (files : Files) (options : Options) (drainTimeout : Option Span) : Except Fault State := do
  let transport ← Transport.load .isolated files options.encryption
  let handle : Handle := ⟨3, { identity := 0, endpoint := ⟨.v4 127 0 0 1, 0⟩ }⟩
  let listener := (Listener.onHandle handle options.timeouts).through transport
  return { service := .onListener address options listener drainTimeout }

end Handover.Scenario.Serving
