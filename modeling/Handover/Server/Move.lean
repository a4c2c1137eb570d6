import Handover.Server.Calls
import Handover.Server.Signals

namespace Handover

/-- Something that can happen to a server. It makes the first few by itself, a call or a task taking its next step;
the others come from outside. Those of different calls, tasks and services may follow each other in any order. -/
inductive Move where
  | call (i : Nat)
  | signals
  | loop (ordinal i : Nat)
  | watchdog (ordinal : Nat)
  | connection (ordinal i : Nat) (peer : Endpoint) (ok : Bool)
  | review
  | serve (address : String) (options : Options)
  | trigger (dispatch : Dispatch)
  | deliver (number : Int)
  | listen
  | register (phase : HookPhase) (number : Int) (hook : Hook)
  | arrive (ordinal : Nat) (arrival : Arrival)
  | closeListener (ordinal : Nat)
  | shutdown (ordinal : Nat)
  | replacementEnds (serial : Nat)
deriving DecidableEq, Repr

namespace Server

/-- The life of a service goes on as `f` says, if it can. -/
def alter? (p : Server) (ordinal : Nat) (f : Lifecycle → Option (Lifecycle × List Notice)) : Option Server := do
  let service ← p.registry.service? ordinal
  let next ← f service.life
  return p.alter ordinal fun _ => next

/-- The life of a service goes on with a step of the task of a connection. -/
def advanceConnection? (p : Server) (ordinal i : Nat) (ok : Bool) : Option Server :=
  p.alter? ordinal fun life => (life.stepConnection? i ok).map (·, [])

/-- The task of a connection takes its next step. The listener of the service makes ready what came from the peer, and this
is recorded as it is passed to the handler; `ok` says whether any other step succeeds. -/
def stepConnection? (site : Site) (p : Server) (ordinal i : Nat) (peer : Endpoint) (ok : Bool) : Option Server :=
  match p.registry.service? ordinal with
  | none => none
  | some service =>
    if service.life.isReadying i then
      match service.establish site.provider peer with
      | .error _ => p.advanceConnection? ordinal i false
      | .ok connection => (p.advanceConnection? ordinal i true).map (·.record (.passed ordinal i connection))
    else p.advanceConnection? ordinal i ok

/-- When the time has come, a warning is logged if something that was handed over is still not adopted. -/
def review? (now : Nat) (p : Server) : Option Server :=
  match p.review with
  | none => none
  | some due =>
    if due ≤ now then
      let p := { p with review := none }
      if p.inherited ≤ p.adopted || p.stopping then some p
      else some (p.record (.notice (.notServed p.adopted p.inherited p.pending)))
    else none

/-- A hook is registered, if its signal is one that is handled. -/
def register (p : Server) (phase : HookPhase) (number : Int) (hook : Hook) : Except Fault Server := do
  return { p with hooks := ← p.hooks.register phase number hook }

def closeListener (p : Server) (ordinal : Nat) : Server :=
  p.alter ordinal fun life => (life.closeListener, [])

/-- A move is made; `none` says that it cannot be made now. -/
def move? (site : Site) (now : Nat) (p : Server) : Move → Option Server
  | .call i => p.stepCall? site now i
  | .signals => p.stepSignals? site now
  | .loop ordinal i => p.alter? ordinal fun life => life.stepLoop? now i
  | .watchdog ordinal => p.alter? ordinal fun life => life.fireWatchdog? now
  | .connection ordinal i peer ok => p.stepConnection? site ordinal i peer ok
  | .review => p.review? now
  | .serve address options => some (p.serve address options)
  | .trigger dispatch => some (p.trigger dispatch)
  | .deliver number => p.deliver? number
  | .listen => some p.listen
  | .register phase number hook => (p.register phase number hook).toOption
  | .arrive ordinal arrival => p.alter? ordinal fun life => some (life.arrive arrival, [])
  | .closeListener ordinal => some (p.closeListener ordinal)
  | .shutdown ordinal => some (p.shutdown now ordinal)
  | .replacementEnds serial => some (p.replacementEnds serial)

def moves? (site : Site) (now : Nat) (p : Server) : List Move → Option Server
  | [] => some p
  | m :: rest => (p.move? site now m).bind fun p => moves? site now p rest

end Server

end Handover
