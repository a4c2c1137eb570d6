import Handover.Program.Basic

namespace Handover.Program

/-- A process of a lineage, started by its parent after `serial` others. Of its records `seen` have had their effect
on others. -/
structure Member where
  number : Nat
  serial : Nat
  process : Server
  seen : Nat := 0
  exit : Option Exit := none

namespace Member

def isLive (m : Member) : Bool := m.exit.isNone

def update (m : Member) (f : Server → Server) : Member := { m with process := f m.process }

end Member

/-- The processes of a lineage in the order in which they were started, and what they have in common. A replacement
gets the descriptors placed for it and reads the arguments built for it; when it has taken over everything, it tells
its parent to stop; those that an ended process has started have no parent any longer but the first process of all. -/
structure Lineage where
  site : Site
  drainTimeout : Option OsText
  members : List Member := []
  nextNumber : Nat

namespace Lineage

/-- The process that stands in for a parent that is gone. -/
def firstProcess : Nat := 1

/-- The descriptors that were handed to a process that started with some. -/
def handed (t : Descriptors) : List (Option OpenFile) :=
  (t.entries.drop Markers.firstDescriptor).map fun d => d.map (·.file)

/-- A process observes the end of a replacement. -/
def observeEnd (l : Lineage) (parent serial : Nat) : Lineage :=
  { l with members := l.members.map fun m =>
      if m.number == parent && m.isLive then m.update (·.replacementEnds serial) else m }

/-- The program is started with some arguments and descriptors; if it does not get beyond its command line, that is
how it ends. -/
def launch (l : Lineage) (arguments : List OsText) (handed : List (Option OpenFile))
    (parent serial nextSocket : Nat) : Lineage × Option Exit :=
  match CommandLine.parse arguments with
  | .error refusal => ({ l with nextNumber := l.nextNumber + 1 }.observeEnd parent serial, some (.refused refusal))
  | .ok command =>
    let process := start command l.drainTimeout arguments handed parent nextSocket 0
    ({ l with
       members := l.members ++ [{ number := l.nextNumber, serial, process }]
       nextNumber := l.nextNumber + 1 }, none)

/-- What a process did has its effect on the others. -/
def affect (l : Lineage) (m : Member) : Record → Lineage
  | .launched r =>
    (l.launch r.arguments (handed r.descriptors) m.number r.serial m.process.nextSocket).1
  | .told parent =>
    { l with members := l.members.map fun m =>
        if m.number == parent && m.isLive then
          m.update fun p => (p.deliver? Signal.terminate.number).getD p
        else m }
  | _ => l

/-- A process ends: its replacements lose their parent, and its parent observes the end. -/
def retire (l : Lineage) (m : Member) (exit : Exit) : Lineage :=
  let orphan (child : Member) : Member :=
    if child.process.parent == m.number then child.update fun p => { p with parent := firstProcess } else child
  let close (other : Member) : Member :=
    if other.number == m.number then { other with exit := some exit } else orphan other
  ({ l with members := l.members.map close }).observeEnd m.process.parent m.serial

def member? (l : Lineage) (number : Nat) : Option Member := l.members.find? fun m => m.number == number && m.isLive

def replace (l : Lineage) (m : Member) : Lineage :=
  { l with members := l.members.map fun other => if other.number == m.number then m else other }

inductive Move where
  | inside (number : Nat) (move : Handover.Move)
  | effect (number : Nat)
  | ending (number : Nat)
deriving DecidableEq, Repr

def inside? (l : Lineage) (now number : Nat) (move : Handover.Move) : Option Lineage := do
  let m ← l.member? number
  let process ← m.process.move? l.site now move
  return l.replace { m with process }

/-- The next record of a process has its effect on the others. -/
def effect? (l : Lineage) (number : Nat) : Option Lineage := do
  let m ← l.member? number
  let record ← m.process.journal[m.seen]?
  let m := { m with seen := m.seen + 1 }
  return (l.replace m).affect m record

/-- A process ends, once all it did has had its effect. -/
def ending? (l : Lineage) (number : Nat) : Option Lineage := do
  let m ← l.member? number
  if m.seen < m.process.journal.length then none
  let exit ← exit? m.process
  return l.retire m exit

def move? (l : Lineage) (now : Nat) : Move → Option Lineage
  | .inside number move => l.inside? now number move
  | .effect number => l.effect? number
  | .ending number => l.ending? number

/-- The moves that a process can make by itself, in the order in which they are tried. -/
def ownMoves (m : Member) : List Move :=
  .effect m.number :: m.process.ownMoves.map (.inside m.number) ++ [.ending m.number]

def step? (l : Lineage) : Option Lineage := (l.members.flatMap ownMoves).findSome? (l.move? 0)

/-- Makes moves until none is left, or `fuel` is used up. -/
def settleWithin : Nat → Lineage → Lineage
  | 0, l => l
  | fuel + 1, l =>
    match l.step? with
    | none => l
    | some l => settleWithin fuel l

/-- Makes moves until none is left. What a process does adds a record at most; a signal starts at most one
replacement, which has no more to do than the processes before it together. -/
def settle (l : Lineage) : Lineage :=
  settleWithin (4 * (Server.total (l.members.map (·.process.effort)) + 100) * (l.members.length + 1)) l

def signal (l : Lineage) (number : Nat) (signal : Int) : Lineage :=
  { l with members := l.members.map fun m =>
      if m.number == number && m.isLive then m.update fun p => (p.deliver? signal).getD p else m }

end Lineage

end Handover.Program
