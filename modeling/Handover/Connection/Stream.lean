import Handover.Connection.Deadline
import Handover.Options

namespace Handover

structure Stream where
  peer : Endpoint
  reading : Deadline
  writing : Deadline
deriving DecidableEq, Repr

namespace Stream

def withTimeouts (peer : Endpoint) (t : Timeouts) : Stream := ⟨peer, { limit := t.read }, { limit := t.write }⟩

/-- Attempts an operation; `attempt` is what the system says to it. -/
def poll (s : Stream) (now : Nat) (operation : Operation) (attempt : Attempt) : Attempt × Stream :=
  match operation with
  | .read => let (attempt, reading) := s.reading.watch now operation attempt; (attempt, { s with reading })
  | .shutdown => (attempt, s)
  | _ => let (attempt, writing) := s.writing.watch now operation attempt; (attempt, { s with writing })

def text (s : Stream) : String :=
  "TrackedStream \x7b peer_addr: " ++ s.peer.host.bracketed ++ ":<port>, .. \x7d"

theorem reading_poll {operation : Operation} (h : operation ≠ .read) (s : Stream) (now : Nat)
    (attempt : Attempt) : (s.poll now operation attempt).2.reading = s.reading := by
  cases operation with
  | read => exact absurd rfl h
  | write | writeAll | flush | shutdown => rfl

end Stream

/-- What a handshake has settled: the protocol that was chosen and the certificates that the client has shown. -/
structure Session where
  protocol : Option String
  certificates : List (List UInt8)
deriving DecidableEq, Repr

/-- A connection as its handler gets it. -/
inductive Connection where
  | plain (stream : Stream)
  | encrypted (stream : Stream) (session : Session)
deriving DecidableEq, Repr

namespace Connection

def stream : Connection → Stream
  | plain s | encrypted s _ => s

def isEncrypted : Connection → Bool
  | plain _ => false
  | encrypted .. => true

def text (c : Connection) : String :=
  "Connection \x7b peer_addr: " ++ c.stream.peer.host.bracketed ++ ":<port>, tls: " ++ toString c.isEncrypted ++
    " \x7d"

end Connection

end Handover
