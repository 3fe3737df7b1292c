import Workflow.CommandLine.Invocation
import Workflow.Graph.Check
import Workflow.Host

/-! Carrying out a command line on a host. -/

namespace Workflow.CommandLine

/-- Why a command ends without an exit code of its own. -/
inductive Problem where
  | config (p : Config.Problem)
  | logLevel (name : String)
  | payload (e : Json.ReadError)
  | file (p : Files.Problem)
  | engine (e : EngineError)
  | unwritable (refusal : Json.Refusal)

/-- A session: what was printed, what was said about an invalid graph, and the files as they are
now. -/
structure Session where
  printed : String
  complaints : List String
  files : Files

/-- Steps of a session. The session is kept when a step fails. -/
abbrev SessionM := ExceptT Problem (StateM Session)

def Session.start (h : Host) : Session := ⟨"", [], h.files⟩

def printLine (text : String) : SessionM Unit :=
  modify fun s => { s with printed := s.printed ++ text ++ "\n" }

def complain (line : String) : SessionM Unit :=
  modify fun s => { s with complaints := s.complaints ++ [line] }

def readFile (path : String) : SessionM String := do
  match (← get).files.read path with
  | .ok text => return text
  | .error p => throw (.file p)

/-- Keeps the files as a write leaves them. -/
def keepFiles (written : Except Files.Problem Files) : SessionM Unit :=
  match written with
  | .ok files => modify fun s => { s with files }
  | .error p => throw (.file p)

/-- The layout of printed documents. -/
def printedStyle : Json.Style := .indented 2

/-- A document as it is printed. -/
def printedText (v : Value) : SessionM String :=
  match Json.write printedStyle v with
  | .ok text => return text
  | .error refusal => throw (.unwritable refusal)

/-- The names of the levels of the log. -/
def logLevels : List String :=
  ["CRITICAL", "FATAL", "ERROR", "WARN", "WARNING", "INFO", "DEBUG", "NOTSET"]

/-- The level of the log: that of the command line, or else that of the settings. -/
def checkLogLevel (given : Option String) (c : Config) : SessionM Unit :=
  let level := Text.upper ((given.filter fun s => !s.isEmpty).getD c.logLevel)
  if logLevels.contains level then return () else throw (.logLevel level)

def loadConfig (h : Host) : SessionM Config :=
  match Config.ofEnvironment h.environment with
  | .ok c => return c
  | .error p => throw (.config p)

/-- The graph of a file. -/
def loadGraph (path : String) : SessionM Graph := do
  match Graph.ofFile (← get).files path with
  | .ok g => return g
  | .error e => throw (.engine (.load e))

def readPayload (text : String) : SessionM Value :=
  match Json.read text with
  | .ok v => return v
  | .error e => throw (.payload e)

/-- The payload of a run: from the command line, or else from a file, or else an empty object. -/
def loadPayload (o : RunOptions) : SessionM Value :=
  match o.inputJson, o.inputFile with
  | some text, _ => readPayload text
  | none, some path => do readPayload (← readFile path)
  | none, none => return .object []

/-- Prints the report of a check. The exit code tells whether the graph is valid. -/
def validate (path : String) : SessionM Nat := do
  let report := (← loadGraph path).check
  printLine (← printedText report.toValue)
  return if report.valid then 0 else 1

/-- The result of a run as it is printed: the trace is summed up. -/
def resultValue (r : RunResult) : Value :=
  .object
    [("run_id", .text r.runId), ("status", .text r.status.name), ("output", r.output),
     ("failing_node_id", .ofText? r.failingNodeId), ("cause", .ofText? r.cause),
     ("trace", r.trace.summary)]

/-- Writes a trace into a file. The directories on the way to it are made even when the trace is
refused. -/
def writeTrace (path : String) (t : Trace) : SessionM Unit := do
  keepFiles ((← get).files.makeWay path)
  match t.refusal? with
  | some refusal => throw (.unwritable refusal)
  | none => keepFiles ((← get).files.write path t.toLines)

/-- Prints the result of a run and writes it and its trace into files. The exit code tells whether
the run succeeded. -/
def report (r : RunResult) (o : RunOptions) : SessionM Nat := do
  let text ← printedText (resultValue r)
  printLine text
  if let some path := o.outputFile then keepFiles ((← get).files.write path text)
  if let some path := o.traceFile then writeTrace path r.trace
  return if r.succeeded then 0 else 1

/-- Runs a graph. An invalid one is complained about, violation by violation. -/
def run (h : Host) (c : Config) (path : String) (o : RunOptions) : SessionM Nat := do
  let payload ← loadPayload o
  let g ← loadGraph path
  match (Engine.run (h.capabilities c) g (h.setup c g payload)).1 with
  | .ok r => report r o
  | .error (.invalidGraph violations) =>
    violations.forM fun v => complain ("invalid graph: " ++ v.message)
    return 2
  | .error e => throw (.engine e)

/-- Carries out what a command line asks for. -/
def carryOut (h : Host) (i : Invocation) : SessionM Nat := do
  let c ← loadConfig h
  checkLogLevel i.logLevel c
  match i.action with
  | .validate graph => validate graph
  | .run graph o => run h c graph o

/-- A command line from start to end: its exit code, and the session. -/
def perform (h : Host) (args : List String) : Except Problem Nat × Session :=
  match Invocation.read args with
  | .error .help => (.ok 0, .start h)
  | .error .usage => (.ok 2, .start h)
  | .ok i => (carryOut h i).run.run (.start h)

end Workflow.CommandLine
