import CitedReport.CommandLine.Basic
import Std.Time.DateTime.Timestamp

/-!
# The program's entry

Finds the files and variables around the program, holds the dialogue, and prints. There is no
network here: a request over HTTP is answered as one that could not be sent.
-/

namespace CitedReport.CommandLine

/-- The text of a file, if it can be read. -/
def readFile? (path : String) : IO (Option String) := do
  try
    return some (← IO.FS.readFile path)
  catch _ => return none

/-- The variables of the process. -/
def processEnvironment : IO Environment := do
  let text := (← readFile? "/proc/self/environ").getD ""
  return ⟨(Chars.splitOn (· == '\x00') text.toList).filterMap fun entry =>
    (Chars.splitFirst? ['='] entry).map fun r => (String.ofList r.1, String.ofList r.2)⟩

/-- The first file of variables in a directory or above it. -/
def variableFile (directory : String) : IO (Option String) :=
  let parts := Chars.splitOn (· == '/') directory.toList
  let places := (List.range parts.length).map fun n =>
    String.ofList (List.intercalate ['/'] (parts.take (parts.length - n))) ++ "/.env"
  places.findSomeM? readFile?

/-- Where the user's file is. -/
def userPlace (e : Environment) : String :=
  match (e.get? "XDG_CONFIG_HOME").filter fun d => Text.startsWith "/" d with
  | some directory => directory ++ "/dossier/config.toml"
  | none => (e.get? "HOME").getD "" ++ "/.config/dossier/config.toml"

/-- The directory of a workspace, or the working directory if there is none. -/
def resolveWorkspace (working path : String) : IO String := do
  try
    return (← IO.FS.realPath path).toString
  catch _ => return working

/-- The time. -/
def currentTime : IO Timestamp := do
  let t ← Std.Time.Timestamp.now
  let nanos := t.toNanosecondsSinceUnixEpoch.val
  return ⟨nanos.fdiv 1000000000, (nanos.fmod 1000000000).toNat⟩

/-- An identifier by chance, in the form of the fourth version. -/
def chanceIdentifier : IO Identifier := do
  let part (n : Nat) : IO Nat := IO.rand 0 (Nat.pow 2 n - 1)
  let value := (((← part 48) * 16 + 4) * 0x1000 + (← part 12)) * 4 + 2
  return ⟨(value * 0x40000000 + (← part 30)) * 0x100000000 + (← part 32)⟩

/-- Answers a question of the program, and shows events if that is wanted. -/
def answer (isShown : Bool) (progress : IO.Ref Progress) : (q : Query) → IO q.Answer
  | .complete _ => return .error (.connection "no model")
  | .charge _ => return ()
  | .callTool name _ => return ⟨0, .error (.notFound name)⟩
  | .resolve _ => return none
  | .fetch r => return .error (.unreachable r.url)
  | .delegate _ _ => return (0 : Nat)
  | .collect group _ => return TaskResult.failed group "nobody to ask"
  | .pause ms => IO.sleep ms.toUInt32
  | .now => currentTime
  | .report e => do
    let p ← progress.get
    progress.set (p.after e)
    if isShown then
      match p.line? e with
      | some line => IO.eprintln line
      | none => return ()

/-- Holds a dialogue. -/
def hold {α : Type} (answer : (q : Query) → IO q.Answer) : Dialogue α → IO α
  | .done a => return a
  | .ask q next => do hold answer (next (← answer q))

/-- Writes the file of an ending, and the directory of a configuration file. -/
def writeFile (workspace : String) (file : String × String) : IO Unit := do
  if file.1 = Config.filePlace workspace then IO.FS.createDirAll (workspace ++ "/.dossier")
  IO.FS.writeFile file.1 file.2

/-- Prints an ending and gives its code. -/
def present (workspace : String) (e : Ending) : IO UInt32 := do
  try
    e.file.forM (writeFile workspace)
    IO.print e.output
    e.notes.forM IO.eprintln
    return e.code.toUInt32
  catch failure =>
    IO.eprintln ("Error: " ++ toString failure)
    return 1

end CitedReport.CommandLine

open CitedReport CitedReport.CommandLine in
/-- Runs the program. -/
def main (words : List String) : IO UInt32 := do
  let working := (← IO.currentDir).toString
  let found ← processEnvironment
  let environment := EnvironmentFile.load found ((← variableFile working).getD "")
  match parse words with
  | .error refusal => present working (refuse refusal)
  | .ok a =>
    let workspace ← resolveWorkspace working a.workspace
    let surroundings : Surroundings :=
      { environment, workspace
        userFile := ← readFile? (userPlace environment)
        workspaceFile := ← readFile? (Config.filePlace workspace)
        id := ← chanceIdentifier }
    let progress ← IO.mkRef ({} : Progress)
    present workspace (← hold (answer a.showsProgress progress) (run surroundings a))
