import Handover.Server.Move

namespace Handover.Server

/-- The moves of a service: those of its accept loops, and that of its watchdog. -/
def serviceMoves (ordinal : Nat) (service : Service) : List Move :=
  (List.range service.life.loops.length).map (.loop ordinal) ++ [.watchdog ordinal]

/-- The moves that a server can make by itself, in the order in which they are tried: at one instant those of the
calls come first, then the handling of the signals that have arrived, then the calls whose addresses had to be looked
up, then the services, and last it is looked whether everything handed over is adopted. -/
def ownMoves (p : Server) : List Move :=
  let (lookups, prompt) := (List.range p.calls.length).partition p.awaitsLookup
  prompt.map .call ++ [.signals] ++ lookups.map .call ++
    p.registry.attached.flatMap (fun e => serviceMoves e.1 e.2.2) ++ [.review]

def step? (site : Site) (now : Nat) (p : Server) : Option Server := p.ownMoves.findSome? (p.move? site now)

/-- Makes moves until none is left, or `fuel` is used up. -/
def settleWithin (site : Site) (now : Nat) : Nat → Server → Server
  | 0, p => p
  | fuel + 1, p =>
    match p.step? site now with
    | none => p
    | some p => settleWithin site now fuel p

def total (l : List Nat) : Nat := l.foldr (· + ·) 0

/-- The number of moves that can be made at one instant, at most: a call takes a dozen steps and starts a loop that
takes a dozen, a loop that is woken takes two more, and a signal takes one for every hook and every service. -/
def effort (p : Server) : Nat :=
  let lives := p.registry.services.map (·.life)
  let loops := total (lives.map (·.loops.length))
  let arrivals := total (lives.map (·.listener.backlog.length))
  let perSignal := 2 * p.hooks.entries.length + p.registry.size + p.calls.length + 12
  32 * (p.calls.length + loops + lives.length + 1) + 2 * arrivals + (p.queue.length + 1) * perSignal

/-- Makes moves until none is left at this instant. -/
def settle (site : Site) (now : Nat) (p : Server) : Server := settleWithin site now p.effort p

/-- The ticks at which something will happen by itself. -/
def timers (p : Server) : List Nat :=
  p.registry.services.flatMap (·.life.timers) ++ p.review.toList

/-- Lets time pass up to `target`, from timer to timer; `fuel` bounds the number of timers. -/
def passWithin (site : Site) (target : Nat) : Nat → Nat → Server → Server
  | 0, _, p => p
  | fuel + 1, now, p =>
    match (p.timers.filter (· ≤ target)).min? with
    | none => p
    | some due =>
      let now := max now due
      passWithin site target fuel now (p.settle site now)

/-- The number of timers that can fire in some ticks: a loop pauses for five ticks at least, and a service has one
watchdog. -/
def timersWithin (p : Server) (ticks : Nat) : Nat :=
  let lives := p.registry.services.map (·.life)
  total (lives.map fun l => (ticks / 5 + l.listener.backlog.length + 2) * (l.loops.length + 1)) + 2

def pass (site : Site) (now ticks : Nat) (p : Server) : Server :=
  passWithin site (now + ticks) (p.timersWithin ticks) now p

end Handover.Server
