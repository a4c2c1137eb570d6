import Handover.Restart.Arguments
import Handover.Text.Quoted

namespace Handover.CommandLine

inductive Flag where
  | listen
  | network
  | timeout
  | certificate
  | key
  | clientAuthorities
  | prettyLogs
  | graceful
  | order
  | help
  | version
deriving DecidableEq, Repr

namespace Flag

def all : List Flag :=
  [listen, network, timeout, certificate, key, clientAuthorities, prettyLogs, graceful, order, help, version]

def name : Flag → String
  | listen => "--listen"
  | network => "--network"
  | timeout => "--timeout"
  | certificate => "--tls-cert"
  | key => "--tls-key"
  | clientAuthorities => "--tls-client-ca"
  | prettyLogs => "--pretty-logs"
  | graceful => Restart.flag
  | order => Restart.orderFlag
  | help => "--help"
  | version => "--version"

/-- What stands for the option's value in texts, for an option that takes one. -/
def placeholder? : Flag → Option String
  | listen => some "ADDR"
  | network => some "NETWORK"
  | timeout => some "SECS"
  | certificate => some "TLS_CERT"
  | key => some "TLS_KEY"
  | clientAuthorities => some "TLS_CLIENT_CA"
  | order => some "SOCKET_ORDER"
  | prettyLogs | graceful | help | version => none

def takesValue (f : Flag) : Bool := f.placeholder?.isSome

def ofName? (s : String) : Option Flag := all.find? fun f => f.name == s

def usage (f : Flag) : String :=
  match f.placeholder? with
  | none => f.name
  | some p => f.name ++ " <" ++ p ++ ">"

/-- The letter by which the option may be written. -/
def letter? : Flag → Option Char
  | help => some 'h'
  | version => some 'V'
  | _ => none

/-- What the help says about an option; nothing about the restart markers. -/
def summary? : Flag → Option String
  | listen => some "Address to serve (repeat for several)"
  | network => some "Address family: tcp, tcp4 or tcp6 [default: tcp]"
  | timeout => some "Read and write timeout per connection, in seconds (0 disables) [default: 0]"
  | certificate => some "PEM certificate chain; enables TLS"
  | key => some "PEM private key for --tls-cert"
  | clientAuthorities => some "PEM CA bundle; requires and verifies client certificates"
  | prettyLogs => some "Log with multi-line pretty output"
  | graceful | order => none
  | help => some "Print help"
  | version => some "Print version"

end Flag

def programName : String := "mskit-server"

/-- The name of the program and its version. -/
def versionText : String := programName ++ " 0.1.0"

/-- The column at which the help's summaries begin. -/
def helpColumn : Nat := 39

def helpLine? (f : Flag) : Option String := do
  let summary ← f.summary?
  let lead := match f.letter? with
    | none => "      " ++ f.usage
    | some c => "  -" ++ String.singleton c ++ ", " ++ f.usage
  return lead ++ String.ofList (List.replicate (helpColumn - lead.length) ' ') ++ summary

/-- The help: what the program is for, how it is called and its options. -/
def helpText : String :=
  "mskit HTTP service with zero-downtime restarts\n\nUsage: " ++ programName ++
    " [OPTIONS] --listen <ADDR>\n\nOptions:\n" ++ "\n".intercalate (Flag.all.filterMap helpLine?)

end Handover.CommandLine
