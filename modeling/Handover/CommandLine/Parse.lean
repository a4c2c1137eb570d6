import Handover.CommandLine.Flag
import Handover.Markers
import Handover.Options
import Handover.Text.Numeral

namespace Handover.CommandLine

/-- Why a command line is not run as a service. -/
inductive Refusal where
  | help
  | version
  | noValue (flag : Flag)
  | badValue (flag : Flag) (value : OsText) (reason : String)
  | notUtf8
  | repeated (flag : Flag)
  | unwantedValue (flag : Flag) (value : OsText)
  | unknown (argument : String)
  | missing (flags : List Flag)
deriving DecidableEq, Repr

namespace Refusal

def fullText : Refusal → String
  | help => helpText
  | version => versionText
  | noValue flag => "error: a value is required for '" ++ flag.usage ++ "' but none was supplied"
  | badValue flag value reason =>
    "error: invalid value '" ++ value.shown ++ "' for '" ++ flag.usage ++ "': " ++ reason
  | notUtf8 => "error: invalid UTF-8 was detected in one or more arguments"
  | repeated flag => "error: the argument '" ++ flag.usage ++ "' cannot be used multiple times"
  | unwantedValue flag value =>
    "error: unexpected value '" ++ value.shown ++ "' for '" ++ flag.usage ++ "' found; no more were expected"
  | unknown argument => "error: unexpected argument '" ++ argument ++ "' found"
  | missing flags =>
    "error: the following required arguments were not provided:" ++
      String.join (flags.map fun f => "\n  " ++ f.usage)

def firstParagraph : List Char → List Char
  | [] => []
  | '\n' :: '\n' :: _ => []
  | c :: rest => c :: firstParagraph rest

/-- The text that is shown: all of it where it was asked for, otherwise its first paragraph. -/
def message : Refusal → String
  | help => helpText
  | version => versionText
  | r => String.ofList (firstParagraph r.fullText.toList)

/-- The exit code of a program that is called in this way. -/
def exitCode : Refusal → Nat
  | help | version => 0
  | _ => 2

end Refusal

structure Command where
  listen : List String
  family : Family
  timeout : Nat
  certificate : Option OsText
  key : Option OsText
  clientAuthorities : Option OsText
  prettyLogs : Bool
  markers : Markers
deriving DecidableEq, Repr

/-- What has been read of a command line so far. -/
structure Given where
  listen : List String := []
  family : Option Family := none
  timeout : Option Nat := none
  certificate : Option OsText := none
  key : Option OsText := none
  clientAuthorities : Option OsText := none
  prettyLogs : Bool := false
  graceful : Bool := false
  order : List String := []
deriving DecidableEq, Repr

/-- The parts of a text between its commas, empty ones too. -/
def splitCommas : List Char → List (List Char)
  | [] => [[]]
  | c :: rest =>
    if c = ',' then [] :: splitCommas rest
    else match splitCommas rest with
      | [] => [[c]]
      | part :: parts => (c :: part) :: parts

namespace Given

def text (value : OsText) : Except Refusal String :=
  match value.text? with
  | none => .error .notUtf8
  | some s => .ok s

/-- A path, which may not be empty. -/
def path (flag : Flag) (value : OsText) : Except Refusal OsText :=
  if value.isEmpty then .error (.noValue flag) else .ok value

/-- Fails if the option was given before. -/
def once {α : Type} (flag : Flag) (before : Option α) : Except Refusal Unit :=
  if before.isSome then .error (.repeated flag) else .ok ()

def takeValue (g : Given) (flag : Flag) (value : OsText) : Except Refusal Given :=
  match flag with
  | .listen => do return { g with listen := g.listen ++ [← text value] }
  | .network => do
    once flag g.family
    match Family.ofName (← text value) with
    | .ok family => return { g with family := some family }
    | .error fault => throw (.badValue flag value fault.message)
  | .timeout => do
    once flag g.timeout
    match Numeral.read64 (← text value) with
    | .ok n => return { g with timeout := some n }
    | .error fault => throw (.badValue flag value fault.message)
  | .certificate => do
    once flag g.certificate
    return { g with certificate := some (← path flag value) }
  | .key => do
    once flag g.key
    return { g with key := some (← path flag value) }
  | .clientAuthorities => do
    once flag g.clientAuthorities
    return { g with clientAuthorities := some (← path flag value) }
  | .order => do
    return { g with order := g.order ++ (splitCommas (← text value).toList).map String.ofList }
  | .prettyLogs | .graceful | .help | .version => .error (.unwantedValue flag value)

/-- Takes an option without a value. -/
def takeSwitch (g : Given) (flag : Flag) : Except Refusal Given :=
  match flag with
  | .prettyLogs => if g.prettyLogs then .error (.repeated flag) else .ok { g with prettyLogs := true }
  | .graceful => if g.graceful then .error (.repeated flag) else .ok { g with graceful := true }
  | .help => .error .help
  | .version => .error .version
  | _ => .error (.noValue flag)

/-- The options that have to be given but are not: an address always, and the certificate and the key as soon
as one of the files is given. -/
def missing (g : Given) : List Flag :=
  let encrypted := g.certificate.isSome || g.key.isSome || g.clientAuthorities.isSome
  (if g.listen.isEmpty then [.listen] else []) ++
    (if encrypted && g.key.isNone then [.key] else []) ++
    (if encrypted && g.certificate.isNone then [.certificate] else [])

/-- The command, unless something is missing. -/
def finish (g : Given) : Except Refusal Command :=
  match g.missing with
  | [] => .ok
      { listen := g.listen, family := g.family.getD .tcp, timeout := g.timeout.getD 0,
        certificate := g.certificate, key := g.key, clientAuthorities := g.clientAuthorities,
        prettyLogs := g.prettyLogs, markers := ⟨g.graceful, g.order⟩ }
  | flags => .error (.missing flags)

end Given

inductive Word where
  | terminator
  | long (name : OsText) (value : Option OsText)
  | short (letters : OsText)
  | plain
deriving DecidableEq, Repr

/-- The bytes before the first equals sign, and those behind it if there is one. -/
def splitEquals : List UInt8 → List UInt8 × Option (List UInt8)
  | [] => ([], none)
  | b :: rest =>
    if b = 0x3D then ([], some rest)
    else let (name, value) := splitEquals rest; (b :: name, value)

def Word.ofArgument (a : OsText) : Word :=
  match a.bytes with
  | 0x2D :: 0x2D :: [] => .terminator
  | 0x2D :: 0x2D :: rest => let (name, value) := splitEquals rest; .long ⟨name⟩ (value.map OsText.mk)
  | 0x2D :: b :: rest => .short ⟨b :: rest⟩
  | _ => .plain

/-- An option that takes a value and the value, if it has come. -/
abbrev Pending := Option (Flag × Option OsText)

/-- Takes the option whose value was still to be examined. -/
def settle (g : Given) : Pending → Except Refusal Given
  | none => .ok g
  | some (flag, none) => .error (.noValue flag)
  | some (flag, some value) => g.takeValue flag value

/-- Takes letters behind a single dash, where only help and version have one; the first letter decides. -/
def takeLetters (g : Given) (pending : Pending) (letters : OsText) : Except Refusal Given :=
  match letters.shown.toList with
  | [] => settle g pending
  | c :: _ =>
    match Flag.all.find? fun f => f.letter? == some c with
    | some flag => do (← settle g pending).takeSwitch flag
    | none =>
      let named := if letters.text?.isSome || c != '\uFFFD' then String.singleton c else letters.shown
      .error (.unknown ("-" ++ named))

/-- Reads arguments; `ended` holds behind a terminator. -/
def scan (g : Given) (pending : Pending) (ended : Bool) : List OsText → Except Refusal Given
  | [] => settle g pending
  | a :: rest =>
    if ended then .error (.unknown a.shown)
    else
      let plain : Except Refusal Given :=
        match pending with
        | some (flag, none) => scan g (some (flag, some a)) false rest
        | _ => .error (.unknown a.shown)
      match Word.ofArgument a with
      | .terminator => scan g pending true rest
      | .long name value =>
        match name.text?.bind fun s => Flag.ofName? ("--" ++ s) with
        | none => .error (.unknown ("--" ++ name.shown))
        | some flag =>
          match flag.takesValue, value with
          | true, some value => do scan (← (← settle g pending).takeValue flag value) none false rest
          | true, none => do scan (← settle g pending) (some (flag, none)) false rest
          | false, some value => .error (.unwantedValue flag value)
          | false, none => do scan (← (← settle g pending).takeSwitch flag) none false rest
      | .short letters => do scan (← takeLetters g pending letters) none false rest
      | .plain => plain

def parse (arguments : List OsText) : Except Refusal Command := do
  (← scan {} none false arguments).finish

namespace Command

/-- The files for encrypted connections: with both certificate and key. -/
def encryption (c : Command) : Option EncryptionFiles :=
  match c.certificate, c.key with
  | some certificate, some key => some ⟨certificate, key, c.clientAuthorities⟩
  | _, _ => none

/-- How the services of the command listen and treat connections. -/
def options (c : Command) : Options :=
  let limit := if 0 < c.timeout then some (Span.ofSeconds c.timeout) else none
  { family := c.family, readTimeout := limit, writeTimeout := limit, encryption := c.encryption }

end Command

end Handover.CommandLine
