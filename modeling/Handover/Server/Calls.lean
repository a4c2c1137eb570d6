import Handover.Server.Basic

namespace Handover.Server

def serve (p : Server) (address : String) (options : Options) : Server :=
  { p with calls := p.calls ++ [{ address, options }] }

def moveCall (p : Server) (i : Nat) (place : CallPlace) : Server :=
  { p with calls := p.calls.modify i fun call => { call with place } }

/-- A call ends, and fails if there is a fault. -/
def endCall (p : Server) (i : Nat) (call : Call) (fault : Option Fault) : Server :=
  (p.moveCall i (.returned fault)).record (.returned call.address fault)

def claim (p : Server) (i : Nat) (call : Call) : Server :=
  match p.registry.reserve call.address with
  | .error fault => p.endCall i call (some fault)
  | .ok (ordinal, registry) => ({ p with registry } : Server).moveCall i (.reserved ordinal)

/-- A call loads what encryption needs, before any socket is opened or taken. -/
def ready (site : Site) (p : Server) (i : Nat) (call : Call) (ordinal : Nat) : Server :=
  match Transport.load site.provider site.files call.options.encryption with
  | .error fault => p.moveCall i (.abandoning ordinal fault)
  | .ok transport => p.moveCall i (.readied ordinal transport)

/-- A call binds a listener of its own. -/
def bind (site : Site) (p : Server) (i : Nat) (call : Call) (ordinal : Nat) (transport : Transport) : Server :=
  match site.network.bind call.address call.options.family with
  | .error fault => p.moveCall i (.abandoning ordinal fault)
  | .ok endpoint =>
    let handle : Handle :=
      { descriptor := p.table.lowestFree Markers.firstDescriptor
        socket := { identity := p.nextSocket, endpoint } }
    ({ p with nextSocket := p.nextSocket + 1 } : Server).moveCall i
      (.opened ordinal ((Listener.onHandle handle call.options.timeouts).through transport))

/-- A call takes over what was handed to the process for its ordinal. A socket is no longer there for another
call, even if it is of the wrong sort. -/
def adopt (p : Server) (i : Nat) (call : Call) (ordinal : Nat) (transport : Transport) : Server :=
  if ordinal < p.inherited then
    let file := p.handedAt? ordinal
    let descriptor := Markers.firstDescriptor + ordinal
    let taken := (file.bind OpenFile.socket?).isSome
    let p := if taken then { p with handed := p.handed.set ordinal none } else p
    match Listener.adopt call.address descriptor file call.options.timeouts with
    | .error fault => p.moveCall i (.abandoning ordinal fault)
    | .ok listener => p.moveCall i (.opened ordinal (listener.through transport))
  else p.moveCall i (.abandoning ordinal (.notInherited call.address ordinal))

def openListener (site : Site) (p : Server) (i : Nat) (call : Call) (ordinal : Nat) (transport : Transport) : Server :=
  match p.role with
  | .parent => p.bind site i call ordinal transport
  | .child => p.adopt i call ordinal transport

def attach (p : Server) (i : Nat) (call : Call) (ordinal : Nat) (listener : Listener) : Server :=
  let service := Service.onListener call.address call.options listener p.settings.drainTimeout
  match p.registry.attach ordinal service with
  | .error fault => p.endCall i call (some fault)
  | .ok registry => ({ p with registry } : Server).moveCall i (.attached ordinal)

/-- A call counts its adoption, if the process adopts. -/
def countAdoption (p : Server) (i ordinal : Nat) : Server :=
  match p.role with
  | .parent => p.moveCall i (.counted ordinal)
  | .child =>
    let adopted := p.adopted + 1
    ({ p with adopted } : Server).moveCall i
      (if adopted = p.inherited then .completing ordinal else .counted ordinal)

/-- The parent is told to stop, unless it is gone: then the first process of all stands in its place. -/
def notifyParent (p : Server) : Server :=
  if p.parent ≤ 1 then p.record (.notice .parentGone) else p.record (.told p.parent)

/-- The accept loop of a service has ended. -/
def hasServed (p : Server) (ordinal : Nat) : Bool :=
  match p.registry.service? ordinal with
  | none => false
  | some service => 0 < service.life.returned

/-- The next step of a call. It looks before everything else and again after it whether the process is stopping, so that no
service escapes a stop. Other calls and the handling of signals may come between any two steps. -/
def stepCall? (site : Site) (now : Nat) (p : Server) (i : Nat) : Option Server :=
  match p.calls[i]? with
  | none => none
  | some call =>
    match call.place with
    | .entered =>
      some (if p.stopping then p.endCall i call (some .shuttingDown) else p.moveCall i .admitted)
    | .admitted => some (p.claim i call)
    | .reserved ordinal => some (p.ready site i call ordinal)
    | .readied ordinal transport => some (p.openListener site i call ordinal transport)
    | .opened ordinal listener => some (p.attach i call ordinal listener)
    | .attached ordinal => some ((p.alter ordinal fun life => (life.start.2, [])).moveCall i (.started ordinal))
    | .started ordinal => some (p.countAdoption i ordinal)
    | .completing ordinal => some (p.notifyParent.moveCall i (.counted ordinal))
    | .counted ordinal =>
      some ((if p.stopping then p.shutdown now ordinal else p).moveCall i (.ready ordinal))
    | .ready ordinal => some ((p.alter ordinal fun life => (life.run, [])).moveCall i (.serving ordinal))
    | .serving ordinal => if p.hasServed ordinal then some (p.endCall i call none) else none
    | .abandoning ordinal fault =>
      some (({ p with registry := p.registry.release ordinal } : Server).endCall i call (some fault))
    | .returned _ => none

/-- The call waits for its address to be looked up, which everything else at the same instant precedes. -/
def awaitsLookup (p : Server) (i : Nat) : Bool :=
  match p.calls[i]? with
  | some ⟨address, _, .readied _ _⟩ => p.role == .parent && AddressForm.takesLookup address
  | _ => false

end Handover.Server
