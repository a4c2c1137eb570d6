import Handover.CommandLine.Parse
import Handover.Notice
import Handover.Registry
import Handover.Restart.Arguments

namespace Handover.Scenario

structure Claim where
  address : String
  ordinal : Nat
  descriptor : Nat
  inherited : Bool

/-- What a replacement makes of its command line. -/
structure Reception where
  claims : List (Except Fault Claim)
  addresses : List String
  unattached : List Nat
  next : List OsText
  notices : List Notice

namespace Reception

def claim (inherited : Nat) (r : Registry Unit) : List String → List (Except Fault Claim) × Registry Unit
  | [] => ([], r)
  | address :: rest =>
    match r.reserve address with
    | .error fault => let (claims, r) := claim inherited r rest; (.error fault :: claims, r)
    | .ok (ordinal, r) =>
      let made : Claim :=
        { address, ordinal, descriptor := Markers.firstDescriptor + ordinal, inherited := ordinal < inherited }
      let (claims, r) := claim inherited r rest
      (.ok made :: claims, r)

/-- What a replacement with these arguments makes of its command. -/
def ofCommand (arguments : List OsText) (command : CommandLine.Command) : Reception :=
  let (registry, repeated) := Registry.withOrder command.markers.order
  let (claims, registry) := claim command.markers.inheritedCount registry command.listen
  { claims
    addresses := registry.addresses
    unattached := registry.unattached.map (·.1)
    next := Restart.arguments arguments registry.addresses
    notices := repeated.map .duplicateAddress }

end Reception

end Handover.Scenario
