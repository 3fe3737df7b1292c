import Workflow.Fault

/-! The errors that the engine raises, made from their arguments: which error is a kind of which
other, what each carries, and which arguments it takes. -/

namespace Workflow

inductive ErrorKind where
  | engine
  | structural
  | nodeExecution
  | externalCall
  | execution
  deriving DecidableEq

namespace ErrorKind

def all : List ErrorKind := [engine, structural, nodeExecution, externalCall, execution]

def name : ErrorKind → String
  | engine => "WorkflowEngineError"
  | structural => "GraphStructureError"
  | nodeExecution => "NodeExecutionError"
  | externalCall => "ExternalCallError"
  | execution => "WorkflowExecutionError"

def ofName? (s : String) : Option ErrorKind := all.find? fun k => k.name == s

/-- The kind itself and the kinds that it is a special case of. -/
def lineage : ErrorKind → List ErrorKind
  | engine => [engine]
  | structural => [structural, engine]
  | nodeExecution => [nodeExecution, engine]
  | externalCall => [externalCall, nodeExecution, engine]
  | execution => [execution, engine]

end ErrorKind

/-- An error: its text, what it carries under which names, and its reason, if it has one. -/
structure RaisedError where
  kind : ErrorKind
  message : String
  carried : Table Value
  reason : Option String

namespace RaisedError

/-- Names in quotes, with commas and a last "and" between them. -/
def enumeration (names : List String) : String :=
  match (names.map fun s => "'" ++ s ++ "'").reverse with
  | [] => ""
  | [one] => one
  | [second, first] => first ++ " and " ++ second
  | last :: others => String.intercalate ", " others.reverse ++ ", and " ++ last

/-- What is said when an error is given too many or too few arguments. -/
def misuse (owner : ErrorKind) (parameters : List String) (count : Nat) : String :=
  let head := owner.name ++ ".__init__() "
  let missing := parameters.drop count
  if missing.isEmpty then
    head ++ "takes " ++ toString (parameters.length + 1) ++ " positional arguments but " ++
      toString (count + 1) ++ " were given"
  else
    head ++ "missing " ++ toString missing.length ++ " required positional argument" ++
      (if missing.length = 1 then "" else "s") ++ ": " ++ enumeration missing

/-- An error about the structure of a graph. -/
def structural (violations : List Value) : Except Json.Refusal RaisedError := do
  let reason := structureMessage (← violations.mapM Value.shown)
  return ⟨.structural, reason, [("violations", .list violations)], some reason⟩

/-- An error about a node. -/
def ofNode (kind : ErrorKind) (id sort cause : Value) : Except Json.Refusal RaisedError := do
  let message := nodeFailureMessage (← id.shown) (← sort.shown) (← cause.shown)
  return ⟨kind, message,
    [("node_id", id), ("kind", sort), ("cause_type", .text cause.sortName)], none⟩

/-- An error about a run. An id that does not count as true names no node. -/
def ofRun (id cause : Value) : Except Json.Refusal RaisedError := do
  let failing ← if id.isTruthy then some <$> id.shown else pure none
  return ⟨.execution, runFailureMessage failing (← cause.shown), [], none⟩

/-- The fault of arguments that do not fit. -/
def unfit (text : String) : Fault := .thrown "TypeError" [.text text]

/-- The error of a kind that some arguments make, or what is raised when it is made or told. -/
def make (kind : ErrorKind) (args : List Value) : Except Fault RaisedError :=
  match kind, args with
  | .engine, args =>
    ((Fault.argsText args).map fun text => ⟨.engine, text, [], none⟩).mapError .unwritable
  | .structural, [violations] =>
    match violations.elements? with
    | some vs => (structural vs).mapError .unwritable
    | none => .error (unfit ("'" ++ violations.sortName ++ "' object is not iterable"))
  | .nodeExecution, [id, sort, cause] | .externalCall, [id, sort, cause] =>
    (ofNode kind id sort cause).mapError .unwritable
  | .execution, [id, cause] => (ofRun id cause).mapError .unwritable
  | .structural, args => .error (unfit (misuse .structural ["violations"] args.length))
  | .execution, args => .error (unfit (misuse .execution ["failing_node_id", "cause"] args.length))
  | .nodeExecution, args | .externalCall, args =>
    .error (unfit (misuse .nodeExecution ["node_id", "kind", "cause"] args.length))

end RaisedError

end Workflow
