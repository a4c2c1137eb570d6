import Handover.Connection.Idle
import Handover.Scenario.Events

namespace Handover.Scenario.Tracking

inductive Step where
  | take (name : String)
  | drop (name : String)
  | dropAll
  | wait (name : String)
  | replace (name : String)

/-- The tracker, and the names under which slots are held. -/
structure State where
  idle : Idle := {}
  held : List String := []

namespace State

def take (s : State) (name : String) : State := { idle := s.idle.take, held := s.held ++ [name] }

/-- Gives the slot of a name back, if there is one. -/
def drop (s : State) (name : String) : State :=
  if s.held.contains name then { idle := s.idle.release?.getD s.idle, held := s.held.erase name } else s

def act (s : State) : Step → State
  | .take name =>
    let taken : State := { s with idle := s.idle.take }
    { (taken.drop name) with held := s.held.erase name ++ [name] }
  | .drop name => s.drop name
  | .dropAll => s.held.foldl drop s
  | .wait name => { s with idle := s.idle.arrive name }
  | .replace name => (s.drop name).take name

end State

structure Answer where
  active : Nat
  events : List String
  tracker : String
  slots : List String

/-- Takes a step and lets all tasks go on. -/
def State.step (s : State) (step : Step) : State × Answer :=
  let s := s.act step
  let (returned, idle) := s.idle.settle.collect
  let answer : Answer :=
    { active := idle.tracker.active
      events := sorted (returned.map (· ++ " idle"))
      tracker := idle.tracker.text
      slots := (sorted s.held).map fun name => name ++ " " ++ Tracker.slotText }
  ({ s with idle }, answer)

end Handover.Scenario.Tracking
