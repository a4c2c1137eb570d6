import Handover.Encryption.Base64
import Handover.Text.Os

namespace Handover.Pem

inductive Fault where
  | unfinished (label : List UInt8)
  | badStart (line : List UInt8)
  | badContent (fault : Base64.Fault)
deriving DecidableEq, Repr

def Fault.message : Fault → String
  | .unfinished label => "section end " ++ Text.quote (OsText.shown ⟨label⟩) ++ " missing"
  | .badStart line => "illegal section start: " ++ Text.quote (OsText.shown ⟨line⟩)
  | .badContent fault => fault.message

inductive Kind where
  | certificate
  | privateKey
  | curvePrivateKey
  | rsaPrivateKey
  | other
deriving DecidableEq, Repr

def ascii (s : String) : List UInt8 := s.toUTF8.data.toList

/-- The labels that are known; a section with any other is left out. -/
def labels : List (List UInt8 × Kind) := [
  (ascii "CERTIFICATE", .certificate),
  (ascii "PRIVATE KEY", .privateKey),
  (ascii "EC PRIVATE KEY", .curvePrivateKey),
  (ascii "RSA PRIVATE KEY", .rsaPrivateKey),
  (ascii "PUBLIC KEY", .other),
  (ascii "X509 CRL", .other),
  (ascii "CERTIFICATE REQUEST", .other)]

/-- The lines of a text with the characters that end them: a line feed or a carriage return. -/
def lines (text : List UInt8) : List (List UInt8) :=
  match text with
  | [] => []
  | b :: rest =>
    if b = 0x0A ∨ b = 0x0D then [b] :: lines rest
    else match lines rest with
      | [] => [[b]]
      | line :: more => (b :: line) :: more

/-- How the line that begins a section begins. -/
def startMark : List UInt8 := ascii "-----BEGIN "

/-- How the line that ends a section begins. -/
def endMark (label : List UInt8) : List UInt8 := ascii "-----END " ++ label ++ ascii "-----"

/-- The number of dashes at the end of a line, among which blanks do not count, and what stands before the first
of them; takes the line backwards. -/
def trailer (dashes : Nat) (before : List UInt8) : List UInt8 → Nat × List UInt8
  | [] => (dashes, before)
  | b :: rest =>
    if b = 0x2D then trailer (dashes + 1) rest rest
    else if b = 0x0A ∨ b = 0x0D ∨ b = 0x20 then trailer dashes before rest
    else (dashes, before)

/-- The label of the section that a line begins: what stands before five dashes at its end. -/
def startLabel (line : List UInt8) : Except Fault (List UInt8) :=
  match trailer 0 line.reverse line.reverse with
  | (5, before) => .ok (before.reverse.drop startMark.length)
  | _ => .error (.badStart line)

structure Section where
  kind : Kind
  content : List UInt8
deriving DecidableEq, Repr

/-- The next section of known label, and the lines behind it. `label` is that of the section that has begun, and
`content` what was read since. A line that begins another section takes the place of one that has begun, and what was
read so far stays. -/
def next (label : Option (List UInt8)) (content : List (List UInt8)) :
    List (List UInt8) → Except Fault (Option (Section × List (List UInt8)))
  | [] =>
    match label with
    | none => .ok none
    | some label => .error (.unfinished label)
  | line :: rest =>
    if startMark.isPrefixOf line then
      match startLabel line with
      | .ok label => next (some label) content rest
      | .error fault => .error fault
    else match label with
      | none => next none content rest
      | some label =>
        if (endMark label).isPrefixOf line then
          match labels.lookup label with
          | none => next none [] rest
          | some kind =>
            match Base64.decode content.reverse.flatten with
            | .ok bytes => .ok (some (⟨kind, bytes⟩, rest))
            | .error fault => .error (.badContent fault)
        else next (some label) (line :: content) rest

theorem next_shorter {label : Option (List UInt8)} {content lines rest : List (List UInt8)} {s : Section}
    (h : next label content lines = .ok (some (s, rest))) : rest.length < lines.length := by
  induction lines generalizing label content with
  | nil => cases label <;> simp [next] at h
  | cons line more ih =>
    unfold next at h
    split at h
    · split at h
      · exact Nat.lt_succ_of_lt (ih h)
      · cases h
    · split at h
      · exact Nat.lt_succ_of_lt (ih h)
      · split at h
        · split at h
          · exact Nat.lt_succ_of_lt (ih h)
          · split at h
            · cases h
              exact Nat.lt_succ_self _
            · cases h
        · exact Nat.lt_succ_of_lt (ih h)

/-- All sections of known label in lines, up to the first fault. -/
def sectionsOf (lines : List (List UInt8)) : Except Fault (List Section) :=
  match h : next none [] lines with
  | .error fault => .error fault
  | .ok none => .ok []
  | .ok (some (s, rest)) =>
    have := next_shorter h
    match sectionsOf rest with
    | .ok more => .ok (s :: more)
    | .error fault => .error fault
termination_by lines.length

/-- All sections of known label in a text. -/
def sections (text : List UInt8) : Except Fault (List Section) := sectionsOf (lines text)

/-- The first section of one of some kinds in lines; what stands behind it is not looked at. -/
def findIn (kinds : List Kind) (lines : List (List UInt8)) : Except Fault (Option Section) :=
  match h : next none [] lines with
  | .error fault => .error fault
  | .ok none => .ok none
  | .ok (some (s, rest)) =>
    have := next_shorter h
    if kinds.contains s.kind then .ok (some s) else findIn kinds rest
termination_by lines.length

/-- The first section of one of some kinds in a text. -/
def find (kinds : List Kind) (text : List UInt8) : Except Fault (Option Section) := findIn kinds (lines text)

end Handover.Pem
