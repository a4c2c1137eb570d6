import Handover.Scenario.Folder
import Handover.Program.Lineage

namespace Handover.Scenario.Lasting

open Handover.Program

/-- A step; processes are counted in the order in which they were started. -/
inductive Step where
  | signal (generation : Nat) (number : Int)
  | await (generation : Nat)
  | running
  | connect
  | onConnection
  | close

inductive Result where
  | replaced
  | skipped
  | unreplaced
  | stopping
  | exited
  | status (code : Option Nat)
  | running (l : List Bool)
  | unreachable
  | noConnection
  | noneToClose

/-- What is known of a process from outside. -/
inductive Knowledge where
  | serving
  | stopped
  | replaced
  | ended
deriving DecidableEq

/-- The processes, and what is known of those about which anything is. -/
structure State where
  lineage : Lineage
  known : List (Nat × Knowledge) := []

namespace State

/-- A process by its place in the order of starts. -/
def member? (s : State) (generation : Nat) : Option Member := s.lineage.members[generation]?

def knowledge (s : State) (generation : Nat) : Knowledge := (s.known.lookup generation).getD .serving

def learn (s : State) (generation : Nat) (k : Knowledge) : State :=
  { s with known := (generation, k) :: s.known }

def send (s : State) (generation : Nat) (m : Member) (number : Int) : Result × State :=
  let s := { s with lineage := (s.lineage.signal m.number number).settle }
  if number = Signal.restart.number then
    let tookOver := ((s.member? generation).map fun m => m.process.stopping).getD false
    if tookOver then (.replaced, s.learn generation .replaced) else (.unreplaced, s)
  else (.stopping, s.learn generation .stopped)

def step (s : State) : Step → Result × State
  | .signal generation number =>
    match s.member? generation, s.knowledge generation with
    | none, _ | _, .ended => (.exited, s)
    | some m, .serving => s.send generation m number
    | some _, known =>
      if number = Signal.restart.number then (if known = .replaced then .unreplaced else .skipped, s)
      else (.stopping, s)
  | .await generation =>
    match (s.member? generation).bind (·.exit) with
    | none => (.status none, s)
    | some exit => (.status (some exit.status), s.learn generation .ended)
  | .running => (.running (s.lineage.members.map Member.isLive), s)
  | .connect => (.unreachable, s)
  | .onConnection => (.noConnection, s)
  | .close => (.noneToClose, s)

end State

/-- The value of the drain timeout where the environment does not say otherwise. -/
def drainTimeout : OsText := .ofString "0"

/-- The program as it starts with some arguments, or how it ends at once. -/
def State.initial (files : Files) (arguments : List OsText) (environment : Option OsText) : Except Exit State :=
  let site : Site :=
    { network := .isolated, files, provider := .isolated, refusal := fun program => program.bind (programRefusal files) }
  let empty : Lineage := { site, drainTimeout := environment <|> some drainTimeout, nextNumber := 3 }
  let (lineage, refused) := empty.launch arguments [] 2 0 0
  match refused with
  | some exit => .error exit
  | none =>
    let lineage := lineage.settle
    match lineage.members.head?.bind (·.exit) with
    | some exit => .error exit
    | none => .ok { lineage }

end Handover.Scenario.Lasting
