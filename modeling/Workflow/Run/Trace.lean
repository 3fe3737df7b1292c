import Workflow.Graph.Document
import Workflow.Run.State
import Workflow.Value.Copy

/-! The trace of a run: one event for each transition of a node, recorded until the trace is
sealed. -/

namespace Workflow

structure TraceEvent where
  sequence : Nat
  nodeId : String
  kind : String
  status : NodeStatus
  timestamp : String
  output : Value
  error : Option NodeError

namespace TraceEvent

def errorValue (e : TraceEvent) : Value :=
  match e.error with
  | some error => error.toValue
  | none => .null

/-- An event as data, with null for each number that is not finite. -/
def toValue (e : TraceEvent) : Value :=
  .object
    [("sequence", .int e.sequence), ("node_id", .text e.nodeId), ("kind", .text e.kind),
     ("status", .text e.status.name), ("timestamp", .text e.timestamp),
     ("output", e.output.finite), ("error", e.errorValue)]

/-- The most lists and objects that hold something and stand inside each other in an output that
becomes data. -/
def nestingLimit : Nat := 254

/-- What keeps an event from being data: an output that contains itself or is nested too deep. -/
def dumpRefusal? (e : TraceEvent) : Option Json.Refusal :=
  if !e.output.isTree then some .repeated
  else if nestingLimit < e.output.depth then some .tooDeep
  else none

/-- What keeps an event from being written. -/
def refusal? (e : TraceEvent) : Option Json.Refusal :=
  e.dumpRefusal?.or (Json.refusal? .sortedLine e.toValue)

/-- An event as one line of JSON, with keys in order. -/
def line (e : TraceEvent) : List Char := Json.render .sortedLine 0 e.toValue

end TraceEvent

/-- A sealed trace. -/
structure Trace where
  runId : String
  graphId : Option String
  status : RunStatus
  events : List TraceEvent
  output : Value
  failingNodeId : Option String
  cause : Option String

namespace Trace

/-- The statuses that a node went through. -/
def statuses (t : Trace) (id : String) : List NodeStatus :=
  (t.events.filter fun e => e.nodeId = id).map TraceEvent.status

/-- The statuses of every node, in the order of the first events. -/
def sequences (t : Trace) : Table (List NodeStatus) :=
  t.events.foldl (fun table e =>
    table.put e.nodeId (((table.get? e.nodeId).getD []) ++ [e.status])) []

/-- The last status of every node. -/
def finalStatuses (t : Trace) : Table NodeStatus :=
  t.events.foldl (fun table e => table.put e.nodeId e.status) []

def summary (t : Trace) : Value :=
  .object
    [("run_id", .text t.runId), ("status", .text t.status.name),
     ("event_count", .int t.events.length), ("failing_node_id", .ofText? t.failingNodeId),
     ("cause", .ofText? t.cause),
     ("nodes", .object (t.finalStatuses.mapValues fun s => .text s.name))]

/-- What keeps the events from being data. -/
def dumpRefusal? (t : Trace) : Option Json.Refusal := t.events.findSome? TraceEvent.dumpRefusal?

/-- What keeps the events from being written. -/
def refusal? (t : Trace) : Option Json.Refusal := t.events.findSome? TraceEvent.refusal?

/-- The events as text, one line for each. -/
def toLines (t : Trace) : String :=
  String.ofList (t.events.flatMap fun e => e.line ++ ['\n'])

end Trace

/-- A recorder of events. The clock tells the time at which an event is recorded by its place. -/
structure Recorder where
  runId : String
  graphId : Option String
  snapshotOutputs : Bool
  clock : Nat → String
  sequence : Nat
  events : List TraceEvent
  sealedTrace : Option Trace

namespace Recorder

def start (runId : String) (graphId : Option String) (snapshotOutputs : Bool)
    (clock : Nat → String) : Recorder :=
  ⟨runId, graphId, snapshotOutputs, clock, 0, [], none⟩

/-- The copy of an output that an event keeps. -/
def copied (r : Recorder) (output : Value) : Except Fault Value :=
  if r.snapshotOutputs then output.snapshot else .ok .null

/-- Records an event under the next number. The number is used up even when the output cannot be
copied and no event is recorded. -/
def record (r : Recorder) (nodeId kind : String) (status : NodeStatus) (output : Value)
    (error : Option NodeError) : Recorder × Except Fault TraceEvent :=
  match r.sealedTrace with
  | some _ => (r, .error (.traceSealed r.runId))
  | none =>
    let sequence := r.sequence + 1
    let r := { r with sequence }
    match r.copied output with
    | .error f => (r, .error f)
    | .ok output =>
      let event := ⟨sequence, nodeId, kind, status, r.clock sequence, output, error⟩
      ({ r with events := r.events ++ [event] }, .ok event)

/-- Seals the trace. A recorder whose output cannot be copied stays open. -/
def sealAs (r : Recorder) (status : RunStatus) (output : Value) (failingNodeId : Option String)
    (cause : Option String) : Recorder × Except Fault Trace :=
  match r.sealedTrace with
  | some _ => (r, .error (.traceSealed r.runId))
  | none =>
    match output.snapshot with
    | .error f => (r, .error f)
    | .ok output =>
      let trace := ⟨r.runId, r.graphId, status, r.events, output, failingNodeId, cause⟩
      ({ r with sealedTrace := some trace }, .ok trace)

end Recorder

end Workflow
