import Handover.Encryption.Files

namespace Handover.Scenario

/-- The parts of a path between its slashes. -/
def pathParts (path : List UInt8) : List (List UInt8) :=
  match path with
  | [] => [[]]
  | b :: rest =>
    if b = 0x2F then [] :: pathParts rest
    else match pathParts rest with
      | [] => [[b]]
      | part :: parts => (b :: part) :: parts

def ascii (s : String) : List UInt8 := (OsText.ofString s).bytes

def directories : List (List (List UInt8)) :=
  [[], [ascii "bin"], [ascii "dev"], [ascii "etc"], [ascii "home"], [ascii "proc"], [ascii "root"],
    [ascii "tmp"], [ascii "usr"], [ascii "var"]]

/-- Files of a bare system, none of which has anything to do with encryption. -/
def systemFiles : List (List (List UInt8)) := [[ascii "dev", ascii "null"], [ascii "etc", ascii "passwd"]]

/-- What a path in a working directory with these files leads to. -/
def folder (files : List (OsText × List UInt8)) : Files := fun path =>
  let parts := pathParts path.bytes
  let names := parts.filter fun p => !p.isEmpty && p != ascii "."
  let asDirectory := parts.getLast?.all fun p => p.isEmpty || p == ascii "."
  let file (content : List UInt8) : Except Failure FileBody :=
    if asDirectory then .error .notDirectory else .ok (.content content)
  if path.bytes.contains 0 then
    .error (.described .invalidInput "file name contained an unexpected NUL byte")
  else if path.isEmpty then .error .notFound
  else if names.any fun n => 255 < n.length then .error .nameTooLong
  else if parts.head? = some [] then
    if directories.contains names then .ok .directory
    else if systemFiles.contains names then file []
    else if systemFiles.any fun f => f.isPrefixOf names then .error .notDirectory
    else .error .notFound
  else match names with
    | [] => .ok .directory
    | name :: more =>
      match files.lookup path <|> files.lookup ⟨name⟩ with
      | some content => if more.isEmpty then file content else .error .notDirectory
      | none => if names.all fun n => n == ascii ".." then .ok .directory else .error .notFound

/-- Why a program cannot be started: a name without a slash is found nowhere, and no file may be run. -/
def programRefusal (files : Files) (program : OsText) : Option Failure :=
  if program.bytes.contains 0x2F then
    match files program with
    | .error failure => some failure
    | .ok _ => some .permissionDenied
  else some .notFound

end Handover.Scenario
