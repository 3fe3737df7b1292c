import Workflow.CommandLine.Word

/-! What a command line asks for: the check of a graph, or a run of it. -/

namespace Workflow.CommandLine

/-- What the words after a command give: its argument, its options, and whether there is more than
it takes. -/
structure Given where
  argument : Option String
  options : Table String
  excess : Bool

namespace Given

def none : Given := ⟨.none, [], false⟩

/-- Reads the words of a command from left to right. A divider belongs to the argument that it
stands next to. -/
def read : Given → List Word → Except Refusal Given
  | g, [] => .ok g
  | g, .argument s :: .divider :: rest =>
    match g.argument with
    | .none => read { g with argument := some s } rest
    | some _ => read { g with excess := true } rest
  | g, .argument s :: rest =>
    match g.argument with
    | .none => read { g with argument := some s } rest
    | some _ => read { g with excess := true } rest
  | g, .divider :: rest => read { g with excess := g.excess || g.argument.isSome } rest
  | g, .unknown :: rest => read { g with excess := true } rest
  | g, .option name (some value) :: rest =>
    if helpNames.contains name then .error (helpRefusal name (some value))
    else read { g with options := g.options.put name value } rest
  | g, .option name .none :: .argument value :: rest =>
    if helpNames.contains name then .error .help
    else read { g with options := g.options.put name value } rest
  | _, .option name .none :: _ =>
    .error (if helpNames.contains name then .help else .usage)

/-- The value of an option; an empty one counts as not given. -/
def option? (g : Given) (name : String) : Option String :=
  (g.options.get? name).filter fun s => !s.isEmpty

end Given

inductive Command where
  | validate
  | run
  deriving DecidableEq

namespace Command

def ofName? (s : String) : Option Command :=
  if s = "validate" then some .validate else if s = "run" then some .run else none

/-- The options of a command that take a value. -/
def options : Command → List String
  | .validate => []
  | .run => ["--input-json", "--input-file", "--output-file", "--trace-file"]

end Command

/-- Where a run takes its payload from and what it writes. -/
structure RunOptions where
  inputJson : Option String
  inputFile : Option String
  outputFile : Option String
  traceFile : Option String
  deriving DecidableEq

inductive Action where
  | validate (graph : String)
  | run (graph : String) (options : RunOptions)
  deriving DecidableEq

structure Invocation where
  logLevel : Option String
  action : Action
  deriving DecidableEq

def Command.action (c : Command) (graph : String) (g : Given) : Action :=
  match c with
  | .validate => .validate graph
  | .run =>
    .run graph
      ⟨g.option? "--input-json", g.option? "--input-file", g.option? "--output-file",
       g.option? "--trace-file"⟩

/-- Reads what follows the name of a command. -/
def Command.read (c : Command) (excess : Bool) (args : List String) : Except Refusal Action := do
  let words ← readWords (helpNames ++ c.options) args
  let given ← Given.none.read words
  match given.argument with
  | none => throw .usage
  | some graph =>
    if excess || given.excess then throw .usage
    return c.action graph given

namespace Invocation

/-- The option that stands before the command. -/
def logLevelOption : String := "--log-level"

/-- Reads the words up to the name of a command, each with its text, and what follows that as the
command's own. -/
def readFrom (level : Option String) (excess : Bool) :
    List (Word × String) → Except Refusal Invocation
  | [] => .error .usage
  | (.argument name, _) :: rest =>
    match Command.ofName? name with
    | some c => (c.read excess (rest.map Prod.snd)).map (⟨level, ·⟩)
    | none => .error .usage
  | (.divider, _) :: _ => .error .usage
  | (.unknown, _) :: rest => readFrom level true rest
  | (.option name (some value), _) :: rest =>
    if helpNames.contains name then .error (helpRefusal name (some value))
    else readFrom (some value) excess rest
  | (.option name none, _) :: (.argument value, _) :: rest =>
    if helpNames.contains name then .error .help else readFrom (some value) excess rest
  | (.option name none, _) :: _ =>
    .error (if helpNames.contains name then .help else .usage)

def read (args : List String) : Except Refusal Invocation := do
  let words ← readWords (helpNames ++ [logLevelOption]) args
  readFrom none false (words.zip args)

end Invocation

end Workflow.CommandLine
