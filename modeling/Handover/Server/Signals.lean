import Handover.Server.Basic
import Handover.Restart.Arguments

namespace Handover.Server

/-- The task that handles signals goes on to another place. -/
def moveSignals (p : Server) (place : SignalPlace) : Server := { p with signals := place }

/-- A signal arrives. After the handling of signals was broken off, who waits for its outcome gets none. -/
def trigger (p : Server) (d : Dispatch) : Server :=
  match p.signals, d.ticket with
  | .ended, some ticket => p.record (.answered ticket none)
  | .ended, none => p
  | _, _ => { p with queue := p.queue ++ [d] }

/-- From now on signals from the system are handled. -/
def listen (p : Server) : Server := { p with listens := true }

/-- A signal arrives from the system; `none` if the process has not arranged to handle it. -/
def deliver? (p : Server) (number : Int) : Option Server :=
  if p.listens && (Signal.ofNumber? number).isSome then some (p.trigger { number }) else none

/-- Whoever waits for the outcome of a signal gets it. -/
def answer (p : Server) (ticket : Option Nat) (outcome : Outcome) : Server :=
  match ticket with
  | none => p
  | some ticket => p.record (.answered ticket (some outcome))

/-- The handling of signals is broken off: whoever waits for an outcome gets none. -/
def breakOff (p : Server) (ticket : Option Nat) : Server :=
  let waiting := ticket.toList ++ p.queue.filterMap (·.ticket)
  { p with
    queue := []
    signals := .ended
    journal := p.journal ++ waiting.map (.answered · none) }

/-- A hook runs, and the rest of them if it does not break off the handling. -/
def runHook (p : Server) (hook : Hook) (ticket : Option Nat) (rest : SignalPlace) : Server :=
  let p := p.record (.hook hook p.stopping)
  if hook.panics then p.breakOff ticket else p.moveSignals rest

/-- The signal itself is handled; the hooks after it follow. -/
def conclude (p : Server) (turn : Turn) (outcome : Outcome) : Server :=
  (p.record (.handled turn.signal.number outcome)).moveSignals
    (.after turn outcome (p.hooks.toRun .after turn.signal))

/-- The first signal in the queue is taken up. One that is not handled is logged and done with. -/
def takeUp (p : Server) (d : Dispatch) (rest : List Dispatch) : Server :=
  let p := { p with queue := rest }
  match Signal.ofNumber? d.number with
  | some signal => p.moveSignals (.before ⟨signal, d.ticket⟩ (p.hooks.toRun .before signal))
  | none => ((p.record (.notice (.unsupportedSignal d.number))).record (.handled d.number .ignored)).answer
      d.ticket .ignored

/-- A stop marks the process, whether it is marked already or not; a restart begins unless the process is stopping
or another restart is under way. -/
def act (p : Server) (turn : Turn) : Server :=
  if turn.signal.isStop then { p with stopping := true, signals := .listing turn }
  else if p.stopping then p.conclude turn .skipped
  else match p.registry.beginRestart? with
    | none => p.conclude turn .skipped
    | some registry => { p with registry, signals := .capturing turn }

/-- A restart fails: the next one can be tried. -/
def failRestart (p : Server) (turn : Turn) (fault : Fault) : Server :=
  (({ p with registry := p.registry.clearRestart } : Server).record (.notice (.restartFailed fault))).conclude
    turn (.failed fault)

/-- The open listeners are captured for a restart. -/
def capture (p : Server) (turn : Turn) : Server :=
  match Restart.snapshot p.registry p.table with
  | .error cause => p.failRestart turn (.system cause)
  | .ok ([], _) => p.failRestart turn .noListeners
  | .ok (captured, _) => p.moveSignals (.launching turn captured)

/-- A text that holds a zero byte can be passed to no program. -/
def isPassable (texts : List OsText) : Bool := texts.all fun t => !t.bytes.contains 0

/-- The replacement for which listeners were captured, if it can be started. -/
def replacement (site : Site) (p : Server) (captured : List Restart.Captured) : Except Failure Replacement := do
  let plan := Restart.Plan.ofSnapshot captured
  let arguments := Restart.arguments p.baseArguments plan.order
  if isPassable (p.settings.program.toList ++ arguments) then
    let refusal := site.refusal p.settings.program
    let descriptors ← (Restart.launch refusal plan.descriptors p.table).1
    return { serial := p.launches, arguments, descriptors, captured }
  else throw (.described .invalidInput "nul byte found in provided data")

/-- The replacement for which listeners were captured is started. -/
def launch (site : Site) (p : Server) (turn : Turn) (captured : List Restart.Captured) : Server :=
  match p.replacement site captured with
  | .error cause => p.failRestart turn (.restart cause)
  | .ok r =>
    let p := { p with replacements := p.replacements ++ [r], launches := p.launches + 1 }
    (p.record (.launched r)).conclude turn .restarted

def stepSignals? (site : Site) (now : Nat) (p : Server) : Option Server :=
  match p.signals with
  | .idle =>
    match p.queue with
    | [] => none
    | d :: rest => some (p.takeUp d rest)
  | .before turn [] => some (p.moveSignals (.acting turn))
  | .before turn (hook :: rest) => some (p.runHook hook turn.ticket (.before turn rest))
  | .acting turn => some (p.act turn)
  | .listing turn => some (p.moveSignals (.closing turn (p.registry.attached.map (·.1))))
  | .closing turn [] => some (p.conclude turn .stopping)
  | .closing turn (ordinal :: rest) => some ((p.shutdown now ordinal).moveSignals (.closing turn rest))
  | .capturing turn => some (p.capture turn)
  | .launching turn captured => some (p.launch site turn captured)
  | .after turn outcome [] => some ((p.answer turn.ticket outcome).moveSignals .idle)
  | .after turn outcome (hook :: rest) => some (p.runHook hook turn.ticket (.after turn outcome rest))
  | .ended => none

/-- The end of a replacement is observed: unless the process is stopping, the replacement never took over, so
that the next restart can be tried. -/
def replacementEnds (p : Server) (serial : Nat) : Server :=
  let p := { p with replacements := p.replacements.filter fun r => r.serial != serial }
  if p.stopping then p
  else { p with registry := p.registry.clearRestart, journal := p.journal ++ [.notice .replacementExited] }

end Handover.Server
