import Handover.Program.Lineage

namespace Handover.Main

/-- The failure that the system reports with an error. -/
def failureOf : IO.Error → Failure
  | .noFileOrDirectory .. => .notFound
  | .permissionDenied .. => .permissionDenied
  | .inappropriateType .. => .isDirectory
  | e => .described .other (toString e)

def readFile (path : OsText) : IO (Except Failure FileBody) := do
  match path.text? with
  | none => return .error .notFound
  | some name =>
    try
      return .ok (.content (← IO.FS.readBinFile name).toList)
    catch e => return .error (failureOf e)

/-- The files that an encrypted service needs, read in advance. -/
def readFiles (files : Option EncryptionFiles) : IO Files := do
  let paths := match files with
    | none => []
    | some f => f.certificate :: f.key :: f.clientAuthorities.toList
  let bodies ← paths.mapM readFile
  let found := paths.zip bodies
  return fun path => (found.lookup path).getD (.error .notFound)

/-- Logs what a process did since it had so many records. -/
def report (m : Program.Member) (since : Nat) : IO Unit :=
  (m.process.journal.drop since).forM fun
    | .notice notice => IO.eprintln (toString m.number ++ ": " ++ notice.line)
    | .returned address none => IO.eprintln (toString m.number ++ ": " ++ address ++ " is done")
    | .launched _ => IO.eprintln (toString m.number ++ ": replacement started")
    | _ => return ()

/-- Logs what the processes did since the lineage was another, and goes on until none runs. -/
partial def run (input : IO.FS.Stream) (before l : Program.Lineage) : IO UInt32 := do
  l.members.zipIdx.forM fun (m, i) => report m ((before.members[i]?.map (·.process.journal.length)).getD 0)
  match l.members.find? (·.isLive), l.members.head?.bind (·.exit) with
  | none, some exit =>
    unless exit.message.isEmpty do IO.eprintln exit.message
    return .ofNat exit.status
  | none, none => return 0
  | some _, _ =>
    let line ← input.getLine
    if line.isEmpty then return 0
    let latest := (l.members.filter (·.isLive)).getLast?
    match latest, line.trimAscii.toString.toInt? with
    | some m, some signal => run input l (l.signal m.number signal).settle
    | _, _ => run input l l

def start (arguments : List OsText) : IO UInt32 := do
  match CommandLine.parse arguments with
  | .error refusal =>
    let output ← if refusal.exitCode = 0 then IO.getStdout else IO.getStderr
    output.putStrLn refusal.message
    return .ofNat refusal.exitCode
  | .ok command =>
    let site : Site :=
      { network := .isolated, files := ← readFiles command.options.encryption, provider := .isolated,
        refusal := fun _ => none }
    let drainTimeout := (← IO.getEnv Settings.drainTimeoutVariable).map OsText.ofString
    let empty : Program.Lineage := { site, drainTimeout, nextNumber := 2 }
    let (lineage, _) := empty.launch arguments [] Program.Lineage.firstProcess 0 0
    run (← IO.getStdin) empty lineage.settle

end Handover.Main

def main (arguments : List String) : IO UInt32 := Handover.Main.start (arguments.map Handover.OsText.ofString)
