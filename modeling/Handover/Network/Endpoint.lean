import Handover.Network.Family
import Handover.Text.Numeral

namespace Handover

namespace Endpoint.Read

/-- The value of a digit in the given base, in either case. -/
def digitValue? (base : Nat) (c : Char) : Option Nat :=
  let value :=
    if '0' ≤ c ∧ c ≤ '9' then some (c.toNat - '0'.toNat)
    else if 'a' ≤ c ∧ c ≤ 'z' then some (c.toNat - 'a'.toNat + 10)
    else if 'A' ≤ c ∧ c ≤ 'Z' then some (c.toNat - 'A'.toNat + 10)
    else none
  value.filter (· < base)

/-- The digits at the head of the text, and the rest. -/
def digitRun (base : Nat) : List Char → List Nat × List Char
  | [] => ([], [])
  | c :: rest =>
    match digitValue? base c with
    | none => ([], c :: rest)
    | some d => let (ds, rest') := digitRun base rest; (d :: ds, rest')

/-- A number below `limit`, of at most `most` digits if that is given; without `padded` it may not begin
with a zero unless it is the zero itself. -/
def number (base limit : Nat) (most : Option Nat) (padded : Bool) (l : List Char) : Option (Nat × List Char) :=
  let (ds, rest) := digitRun base l
  let value := ds.foldl (fun n d => n * base + d) 0
  if ds.isEmpty then none
  else if most.any (· < ds.length) then none
  else if !padded && ds.head? == some 0 && 1 < ds.length then none
  else if value < limit then some (value, rest) else none

def exactly (c : Char) : List Char → Option (List Char)
  | [] => none
  | d :: rest => if c = d then some rest else none

def octet (l : List Char) : Option (Nat × List Char) := number 10 256 (some 3) false l

def quad (l : List Char) : Option ((Nat × Nat × Nat × Nat) × List Char) := do
  let (a, l) ← octet l
  let (b, l) ← octet (← exactly '.' l)
  let (c, l) ← octet (← exactly '.' l)
  let (d, l) ← octet (← exactly '.' l)
  return ((a, b, c, d), l)

def port (l : List Char) : Option (Nat × List Char) := do
  number 10 65536 none true (← exactly ':' l)

/-- What `read` takes after a colon, or without one at the first place. -/
def separated {α : Type} (first : Bool) (read : List Char → Option (α × List Char)) (l : List Char) :
    Option (α × List Char) :=
  if first then read l else (exactly ':' l).bind read

/-- At most `room` groups with colons between, the last two possibly as a dotted quad; tells whether they
were. -/
def groups (first : Bool) : Nat → List Char → List Nat × Bool × List Char
  | 0, l => ([], false, l)
  | room + 1, l =>
    match (if 0 < room then separated first quad l else none) with
    | some ((a, b, c, d), rest) => ([a * 256 + b, c * 256 + d], true, rest)
    | none =>
      match separated first (number 16 65536 (some 4) true) l with
      | none => ([], false, l)
      | some (g, rest) =>
        let (gs, embedded, rest') := groups false room rest
        (g :: gs, embedded, rest')

/-- The groups of a version 6 host: eight, or fewer around one double colon that stands for the others. -/
def host6 (l : List Char) : Option (List Nat × List Char) :=
  let (front, embedded, rest) := groups true 8 l
  if front.length = 8 then some (front, rest)
  else if embedded then none
  else do
    let rest ← exactly ':' (← exactly ':' rest)
    let (back, _, rest) := groups true (7 - front.length) rest
    return (front ++ List.replicate (8 - front.length - back.length) 0 ++ back, rest)

/-- A percent sign and the number of an interface, which may be left out. -/
def scope (l : List Char) : List Char :=
  match exactly '%' l with
  | none => l
  | some rest =>
    match number 10 (Nat.pow 2 32) none true rest with
    | none => l
    | some (_, rest) => rest

/-- An endpoint at the head of the text. -/
def endpoint (l : List Char) : Option (Endpoint × List Char) :=
  let four : Option (Endpoint × List Char) := do
    let ((a, b, c, d), l) ← quad l
    let (p, l) ← port l
    return (⟨.v4 a b c d, p⟩, l)
  let six : Option (Endpoint × List Char) := do
    let (gs, l) ← host6 (← exactly '[' l)
    let (p, l) ← port (← exactly ']' (scope l))
    return (⟨.v6 gs, p⟩, l)
  four.or six

end Endpoint.Read

namespace Endpoint

def ofString? (s : String) : Option Endpoint :=
  match Read.endpoint s.toList with
  | some (e, []) => some e
  | _ => none

/-- The host that the whole text is as a dotted quad. -/
def quad? (s : String) : Option Host :=
  match Read.quad s.toList with
  | some ((a, b, c, d), []) => some (.v4 a b c d)
  | _ => none

example : ofString? "127.0.0.1:0080" = some ⟨.v4 127 0 0 1, 80⟩ := by decide +kernel
example : ofString? "[1::1.2.3.4%7]:9" = some ⟨.v6 [1, 0, 0, 0, 0, 0, 258, 772], 9⟩ := by decide +kernel
example : ofString? "01.2.3.4:5" = none := by decide +kernel

end Endpoint

end Handover
