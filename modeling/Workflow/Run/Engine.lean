import Workflow.File
import Workflow.Graph.Check
import Workflow.Graph.Reading
import Workflow.Run.Scheduler

/-! The engine: it reads a graph, checks it, plans it and runs it. -/

namespace Workflow

/-- Why a graph could not be read. -/
inductive LoadError where
  | invalid (issues : List Schema.Issue)
  | file (problem : Files.Problem)
  /-- What is given is neither data nor a text but of another sort. -/
  | noSource (sort : String)

/-- What is said of something that is no path. -/
def noSourceMessage (sort : String) : String :=
  "expected str, bytes or os.PathLike object, not " ++ sort

namespace Graph

/-- A graph from data in memory. -/
def ofValue (v : Value) : Except LoadError Graph :=
  (read .memory v).toExcept.mapError .invalid

/-- A graph from the text of a document. -/
def ofText (text : String) : Except LoadError Graph :=
  (readText text).toExcept.mapError .invalid

/-- A graph from a file. -/
def ofFile (files : Files) (path : String) : Except LoadError Graph :=
  match files.read path with
  | .ok text => ofText text
  | .error problem => .error (.file problem)

/-- A graph from a text that is a document, or else the path of one: a document starts with an
opening brace. -/
def load (files : Files) (text : String) : Except LoadError Graph :=
  if (Text.dropFront Text.isBlank text.toList).head? = some '{' then ofText text
  else ofFile files text

/-- A graph from data in memory or from a text. -/
def loadFrom (files : Files) (source : Value) : Except LoadError Graph :=
  match source.members?, source with
  | some _, _ => ofValue source
  | none, .text s => load files s
  | none, _ => .error (.noSource source.sortName)

/-- What the runs of a graph are named for. -/
def runName (g : Graph) : String :=
  let given := ([g.name, g.id].filterMap fun x => x).filter fun s => !s.isEmpty
  given.head?.getD "workflow"

/-- The id of a run: the given one, unless it is empty, or else the name of the run with a mark
that no other run has. -/
def runId (g : Graph) (given : Option String) (mark : String) : String :=
  (given.filter fun s => !s.isEmpty).getD (g.runName ++ "-" ++ mark)

/-- The report of a check, unless it holds a violation. -/
def validate (g : Graph) : Except (List Violation) CheckReport :=
  let report := g.check
  if report.valid then .ok report else .error report.violations

end Graph

/-- Why a run has no result. -/
inductive EngineError where
  | load (e : LoadError)
  | invalidGraph (violations : List Violation)
  | stopped (s : Stop)

namespace Engine

/-- A run of a graph that is valid. The answer comes with the calls that were made, each with the
node that made it. -/
def run (caps : Capabilities) (g : Graph) (setup : Setup) :
    Except EngineError RunResult × List (String × Call) :=
  match g.validate with
  | .error violations => (.error (.invalidGraph violations), [])
  | .ok _ =>
    let (result, progress) :=
      Scheduler.runFrom (.ofGraph g) (fun n inputs => n.execute inputs caps) setup
    (result.mapError .stopped, progress.calls)

end Engine

end Workflow
