import Handover.Network.Endpoint

namespace Handover

/-- What an address says: an endpoint itself, or a host to be looked up and a port. -/
inductive AddressForm where
  | endpoint (e : Endpoint)
  | named (host : String) (port : Nat)
deriving DecidableEq, Repr

namespace AddressForm

/-- The text before and after the last colon. -/
def splitLastColon (l : List Char) : Option (List Char × List Char) :=
  let back := l.reverse
  let tail := back.takeWhile (· != ':')
  match back.dropWhile (· != ':') with
  | [] => none
  | _ :: host => some (host.reverse, tail.reverse)

def ofString (s : String) : Except Failure AddressForm :=
  match Endpoint.ofString? s with
  | some e => .ok (.endpoint e)
  | none =>
    match splitLastColon s.toList with
    | none => .error (.described .invalidInput "invalid socket address")
    | some (host, port) =>
      match Numeral.read (Nat.pow 2 16) port with
      | .error _ => .error (.described .invalidInput "invalid port value")
      | .ok port => .ok (.named (String.ofList host) port)

/-- Looking the address up takes a while, since it names a host or nothing that can be read. -/
def takesLookup (s : String) : Bool := (Endpoint.ofString? s).isNone

end AddressForm

/-- The network around a process: the endpoints of a host by its name, and why an endpoint cannot be listened on. -/
structure Network where
  hosts : String → Except Failure (List Host)
  refuses : Endpoint → Option Failure

namespace Network

/-- A host without a connection to any other: its own name and numeric hosts are all that is found, and every version
4 endpoint can be listened on. -/
def isolated : Network where
  hosts name :=
    if name = "localhost" then .ok [.v4 127 0 0 1]
    else match Endpoint.quad? name with
      | some h => .ok [h]
      | none => .error (.described .other "failed to lookup address information: Name or service not known")
  refuses
    | ⟨.v4 .., _⟩ => none
    | ⟨.v6 _, _⟩ => some .addressNotAvailable

/-- The endpoints that an address stands for, in the order in which they are to be tried. -/
def lookup (net : Network) (address : String) : Except Failure (List Endpoint) := do
  match ← AddressForm.ofString address with
  | .endpoint e => return [e]
  | .named host port => return (← net.hosts host).map (⟨·, port⟩)

end Network

/-- An endpoint that may be listened on, with the failure of an attempt if it is refused. -/
structure Candidate where
  endpoint : Endpoint
  refusal : Option Failure
deriving DecidableEq, Repr

/-- An endpoint with why the network refuses to have it listened on. -/
def Network.candidate (net : Network) (endpoint : Endpoint) : Candidate := ⟨endpoint, net.refuses endpoint⟩

/-- How listening went: what was tried, in order, and what came of it. -/
structure Binding where
  tried : List Endpoint
  result : Except Fault Endpoint

namespace Binding

/-- Tries candidates in order until one is not refused; `last` is the most recent refusal. -/
def tryAll (address : String) (last : Failure) : List Candidate → Binding
  | [] => ⟨[], .error (.bind address last)⟩
  | c :: rest =>
    match c.refusal with
    | none => ⟨[c.endpoint], .ok c.endpoint⟩
    | some failure =>
      let later := tryAll address failure rest
      ⟨c.endpoint :: later.tried, later.result⟩

def admitted (family : Family) (candidates : List Candidate) : List Candidate :=
  candidates.filter fun c => family.admits c.endpoint

/-- Listens on the first candidate of the family that is not refused. -/
def first (address : String) (family : Family) (candidates : List Candidate) : Binding :=
  match admitted family candidates with
  | [] => ⟨[], .error (.unresolved address family.name)⟩
  | admitted => tryAll address (.described .other "no bind attempt made") admitted

end Binding

/-- Looks an address up and listens on the first of its endpoints that the family and the network allow. -/
def Network.bind (net : Network) (address : String) (family : Family) : Except Fault Endpoint :=
  match net.lookup address with
  | .error failure => .error (.bind address failure)
  | .ok endpoints => (Binding.first address family (endpoints.map net.candidate)).result

end Handover
