import Std.Time.DateTime
import Workflow.CommandLine.Session
import Workflow.Instant

/-! The command line program. It looks up what a command line may need, has it carried out, and
then prints and writes what came of it. -/

namespace Workflow.Program

open CommandLine

/-- The variables of the environment that settings are taken from. -/
def variableNames : List String :=
  ["WFENGINE_LOG_LEVEL", "WFENGINE_HTTP_TIMEOUT_SECONDS",
   "WFENGINE_HTTP_CONNECT_TIMEOUT_SECONDS", "WFENGINE_SNAPSHOT_OUTPUTS", "AWS_REGION",
   "AWS_DEFAULT_REGION"]

def environment : IO Environment := do
  let found ← variableNames.mapM fun name => return (name, ← IO.getEnv name)
  return found.filterMap fun (name, value) => value.map (name, ·)

/-- The files that an action reads. -/
def inputs : Action → List String
  | .validate graph => [graph]
  | .run graph o => graph :: o.inputFile.toList

/-- The files that an action writes. -/
def outputs : Action → List String
  | .validate _ => []
  | .run _ o => o.outputFile.toList ++ o.traceFile.toList

/-- A file, if it can be read. -/
def readFile? (path : String) : IO (Option String) := do
  try
    return some (← IO.FS.readFile path)
  catch _ => return none

/-- A directory, if it is there. -/
def isDirectory (path : Files.Path) : IO Bool := do
  try
    discard <| IO.FS.readFile (path.text ++ "/.")
    return true
  catch
    | .inappropriateType .. => return true
    | _ => return false

/-- The files that an action reads, and the directories that it may write into. -/
def files (a : Action) : IO Files := do
  let texts ← (inputs a).mapM fun path => do
    return (← readFile? path).map (path, ·)
  let directories ← ((outputs a).flatMap fun path => (Files.Path.ofText path).directories).filterM
    isDirectory
  let found := Files.ofTexts (texts.filterMap fun entry => entry)
  return { found with directories := directories.map Files.Path.place }

/-- A random mark in five groups of hexadecimal digits. -/
def mark : IO String := do
  let groups ← [8, 4, 4, 4, 12].mapM fun width => do
    return String.ofList (Text.hexDigits width (← IO.rand 0 (Nat.pow 16 width - 1)))
  return String.intercalate "-" groups

/-- This program has no connections: every model and every request is out of reach. -/
def unreachable (what : String) : Fault :=
  .thrown "ConnectionError" [.text (what ++ " is out of reach")]

def host (environment : Environment) (files : Files) : IO Host := do
  let now ← Std.Time.Timestamp.now
  let instant : Instant := ⟨(now.toNanosecondsSinceUnixEpoch.val / 1000).toNat⟩
  return {
    environment
    files
    connect := fun _ _ => .fault (unreachable "the model")
    transport := fun _ _ => .error (unreachable "the address")
    clock := fun _ => instant.text
    mark := ← mark }

def usage : String :=
  "usage: workflow [-h] [--log-level LEVEL] (validate | run) GRAPH [options]"

/-- What is said of a problem that ends a command. -/
def problemText : CommandLine.Problem → String
  | .config p => p.message
  | .logLevel name => "Unknown level: " ++ Text.quoted name
  | .payload e => e.message
  | .file p => p.message
  | .engine (.load (.invalid issues)) => Fault.issuesMessage issues
  | .engine (.load (.file p)) => p.message
  | .engine (.load (.noSource sort)) => noSourceMessage sort
  | .engine (.invalidGraph violations) => structureMessage (violations.map Violation.message)
  | .engine (.stopped stop) => stop.message
  | .unwritable refusal => Fault.refusalMessage refusal

/-- Writes a file and makes the directory that it stands in. -/
def writeFile (path text : String) : IO Unit := do
  IO.FS.createDirAll (Files.Path.ofText path).parent.text
  IO.FS.writeFile path text

/-- Prints and writes what came of a session. -/
def publish (before : Files) (s : Session) : IO Unit := do
  IO.print s.printed
  for line in s.complaints do IO.eprintln line
  for (path, text) in s.files.texts do
    if before.texts.get? path ≠ some text then writeFile path text

/-- Carries out a command line on this machine. -/
def carryOutArgs (args : List String) (a : Action) : IO UInt32 := do
  let files ← files a
  let (result, session) := perform (← host (← environment) files) args
  publish files session
  match result with
  | .ok code => return code.toUInt32
  | .error p =>
    IO.eprintln (problemText p)
    return 1

end Workflow.Program

def main (args : List String) : IO UInt32 := do
  match Workflow.CommandLine.Invocation.read args with
  | .error .help =>
    IO.println Workflow.Program.usage
    return 0
  | .error .usage =>
    IO.eprintln Workflow.Program.usage
    return 2
  | .ok i => Workflow.Program.carryOutArgs args i.action
