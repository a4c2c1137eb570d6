import Handover.Service.Lifecycle
import Handover.Text.Quoted

namespace Handover

structure Service where
  address : String
  options : Options
  life : Lifecycle
deriving DecidableEq, Repr

namespace Service

/-- A service on a listener that has not started. -/
def onListener (address : String) (options : Options) (listener : Listener) (drainTimeout : Option Span) :
    Service :=
  { address, options, life := .onListener listener drainTimeout }

def isEncrypted (s : Service) : Bool := s.options.encryption.isSome

/-- A connection from a peer as it is accepted, under the limits of the listener. -/
def accepted (s : Service) (peer : Endpoint) : Stream := .withTimeouts peer s.life.listener.timeouts

/-- A connection from a peer as it is made ready for the handler. -/
def establish (s : Service) (provider : Provider) (peer : Endpoint) : Except Failure Connection :=
  s.life.listener.transport.establish provider (s.accepted peer)

def text (s : Service) : String :=
  "Service \x7b address: " ++ Text.quote s.address ++ ", network: " ++ s.options.family.kind ++ ", tls: " ++
    toString s.isEncrypted ++ ", controller: " ++ s.life.text ++ " \x7d"

end Service

end Handover
