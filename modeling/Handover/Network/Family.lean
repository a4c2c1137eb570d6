import Handover.Fault

namespace Handover

inductive Host where
  | v4 (a b c d : Nat)
  | v6 (groups : List Nat)
deriving DecidableEq, Repr

structure Endpoint where
  host : Host
  port : Nat
deriving DecidableEq, Repr

/-- Which endpoints a service may listen on. -/
inductive Family where
  | tcp
  | tcp4
  | tcp6
deriving DecidableEq, Repr, Inhabited

/-- The length of the run of zeros at the head of a list. -/
def zeroRun (l : List Nat) : Nat := (l.takeWhile (· == 0)).length

/-- Where the longest run of at least two zero groups begins, the first of several, and its length. -/
def longestZeroRun (groups : List Nat) : Option (Nat × Nat) :=
  let runs := (List.range groups.length).map fun i => (i, zeroRun (groups.drop i))
  let best := runs.foldl (fun b r => if b.2 < r.2 then r else b) (0, 0)
  if 2 ≤ best.2 then some best else none

/-- The octets of a version 4 host with points between; the groups of a version 6 host in hexadecimal with
colons between, its longest run of zeros left out. -/
def Host.text : Host → String
  | v4 a b c d => ".".intercalate ([a, b, c, d].map toString)
  | v6 groups =>
    let joined (l : List Nat) : String := ":".intercalate (l.map fun n => String.ofList (Text.hexadecimal n))
    match longestZeroRun groups with
    | none => joined groups
    | some (start, length) => joined (groups.take start) ++ "::" ++ joined (groups.drop (start + length))

/-- The host as it stands before a port: a version 6 host in brackets. -/
def Host.bracketed : Host → String
  | v4 a b c d => (v4 a b c d).text
  | v6 groups => "[" ++ (v6 groups).text ++ "]"

namespace Family

def name : Family → String
  | tcp => "tcp"
  | tcp4 => "tcp4"
  | tcp6 => "tcp6"

/-- The family's name as its kind is written. -/
def kind : Family → String
  | tcp => "Tcp"
  | tcp4 => "Tcp4"
  | tcp6 => "Tcp6"

/-- The family of that name, in any case of its ASCII letters. -/
def ofName (s : String) : Except Fault Family :=
  let lower := s.map Char.toLower
  if lower = "tcp" then .ok tcp
  else if lower = "tcp4" then .ok tcp4
  else if lower = "tcp6" then .ok tcp6
  else .error (.unsupportedFamily lower)

def admits : Family → Endpoint → Bool
  | tcp, _ => true
  | tcp4, ⟨.v4 .., _⟩ => true
  | tcp4, ⟨.v6 _, _⟩ => false
  | tcp6, ⟨.v4 .., _⟩ => false
  | tcp6, ⟨.v6 _, _⟩ => true

end Family

end Handover
