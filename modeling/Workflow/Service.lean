import Workflow.Graph.Check
import Workflow.Run.Engine

/-! The engine as a service: routes that take a body and answer with one. -/

namespace Workflow.Service

open Schema

def graphKey : Field := .plain "graph"
def payloadKey : Field := .plain "payload"

/-- What a route answers: a body, or the details of a body that it cannot process. -/
inductive Answer where
  | body (v : Value)
  | unprocessable (details : List String)

/-- Why a run is not answered. -/
inductive Problem where
  | engine (e : EngineError)
  | events (refusal : Json.Refusal)

/-- The status of an answer that tells of an invalid graph. -/
def unprocessableStatus : Nat := 422

/-- A sign of life. -/
def health : Value := .object [("status", .text "ok")]

/-- The graph that a body holds. -/
def readGraph : Value → Checked Graph :=
  openRecord fun ms => graphKey.required ms (Graph.read .memory)

/-- Checks the graph of a body. -/
def validate (body : Value) : Checked Value :=
  (readGraph body).map fun g => g.check.toValue

structure RunRequest where
  graph : Graph
  payload : Value

def RunRequest.read : Value → Checked RunRequest :=
  openRecord fun ms =>
    RunRequest.mk <$> graphKey.required ms (Graph.read .memory)
      <*> payloadKey.withDefault ms .null readAny

def runBody (r : RunResult) : Value :=
  .object
    [("run_id", .text r.runId), ("status", .text r.status.name), ("output", r.output.opened),
     ("failing_node_id", .ofText? r.failingNodeId), ("cause", .ofText? r.cause),
     ("events", .list (r.trace.events.map TraceEvent.toValue))]

/-- Runs the graph of a request. An invalid graph is answered with its violations. The answer comes
with the calls that were made. -/
def run (caps : Capabilities) (mark : String) (clock : Nat → String) (request : RunRequest) :
    Except Problem Answer × List (String × Call) :=
  let setup := ⟨request.graph.runId none mark, request.payload, none, true, clock⟩
  let (result, calls) := Engine.run caps request.graph setup
  (match result with
    | .ok r =>
      match r.trace.dumpRefusal? with
      | some refusal => .error (.events refusal)
      | none => .ok (.body (runBody r))
    | .error (.invalidGraph violations) =>
      .ok (.unprocessable (violations.map Violation.message))
    | .error e => .error (.engine e), calls)

end Workflow.Service
