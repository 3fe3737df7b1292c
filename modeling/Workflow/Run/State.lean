import Workflow.Schema.Record
import Workflow.Value.Text
import Workflow.Table

/-! The state of the nodes of a run, and the transitions that it allows. -/

namespace Workflow

inductive NodeStatus where
  | pending
  | ready
  | running
  | succeeded
  | failed
  | skipped
  deriving DecidableEq

namespace NodeStatus

def all : List NodeStatus := [pending, ready, running, succeeded, failed, skipped]

def name : NodeStatus → String
  | pending => "pending"
  | ready => "ready"
  | running => "running"
  | succeeded => "succeeded"
  | failed => "failed"
  | skipped => "skipped"

def ofName? (s : String) : Option NodeStatus := all.find? fun status => status.name == s

/-- The statuses that a node may move to. -/
def following : NodeStatus → List NodeStatus
  | pending => [ready, skipped]
  | ready => [running]
  | running => [succeeded, failed]
  | succeeded | failed | skipped => []

/-- A status that no node leaves. -/
def isTerminal : NodeStatus → Bool
  | succeeded | failed | skipped => true
  | _ => false

theorem following_eq_nil_iff (s : NodeStatus) : s.following = [] ↔ s.isTerminal = true := by
  cases s <;> simp [following, isTerminal]

end NodeStatus

inductive RunStatus where
  | running
  | succeeded
  | failed
  | cancelled
  deriving DecidableEq

namespace RunStatus

def all : List RunStatus := [running, succeeded, failed, cancelled]

def name : RunStatus → String
  | running => "running"
  | succeeded => "succeeded"
  | failed => "failed"
  | cancelled => "cancelled"

def ofName? (s : String) : Option RunStatus := all.find? fun status => status.name == s

end RunStatus

/-- What is reported of the failure of a node. -/
structure NodeError where
  type : String
  message : String
  kind : Option String
  deriving DecidableEq

/-- Reads an error from data. -/
def NodeError.read : Value → Schema.Checked NodeError :=
  Schema.openRecord fun ms =>
    NodeError.mk <$> (Schema.Field.plain "type").required ms Schema.readString
      <*> (Schema.Field.plain "message").required ms Schema.readString
      <*> (Schema.Field.plain "kind").withDefault ms none (Schema.orNull Schema.readString)

def NodeError.toValue (e : NodeError) : Value :=
  .object [("type", .text e.type), ("message", .text e.message), ("kind", .ofText? e.kind)]

structure NodeState where
  id : String
  kind : String
  status : NodeStatus
  output : Value
  error : Option NodeError
  inputs : Table Value
  decision : Option (Table Value)

namespace NodeState

def initial (id kind : String) : NodeState := ⟨id, kind, .pending, .null, none, [], none⟩

/-- The port that the decision of a condition selects. -/
def selectedPort? (s : NodeState) : Option String :=
  match (s.decision.getD []).get? "selected_port" with
  | some (.text port) => some port
  | _ => none

end NodeState

/-- What a transition brings along. -/
structure Change where
  output : Value
  error : Option NodeError
  inputs : Option (Table Value)
  decision : Option (Table Value)

namespace Change

def none : Change := ⟨.null, .none, .none, .none⟩

def withOutput (v : Value) : Change := { none with output := v }

def withError (e : NodeError) : Change := { none with error := some e }

def withInputs (t : Table Value) : Change := { none with inputs := some t }

def withDecision (t : Table Value) : Change := { none with decision := some t }

end Change

/-- The states of the nodes of a run, and the nodes that are in a terminal status in the order in
which they came to it. -/
structure RunState where
  runId : String
  nodes : Table NodeState
  completed : List String

inductive TransitionError where
  | unknownNode (id : String)
  | illegal (id : String) (source target : NodeStatus)
  deriving DecidableEq

def TransitionError.message : TransitionError → String
  | .unknownNode id => Text.quoted id
  | .illegal id source target =>
    "Node '" ++ id ++ "' cannot move from " ++ source.name ++ " to " ++ target.name

/-- The state of a node after a transition. Output and decision are kept of a success only, and
the error of a failure only. -/
def NodeState.moved (s : NodeState) (status : NodeStatus) (change : Change) : NodeState :=
  { s with
    status := status
    output := if status = .succeeded then change.output else s.output
    decision := if status = .succeeded then change.decision else s.decision
    error := if status = .failed then change.error else s.error
    inputs := change.inputs.getD s.inputs }

namespace RunState

/-- A run in which every node is pending. -/
def start (runId : String) (nodes : List (String × String)) : RunState :=
  ⟨runId, Table.ofList (nodes.map fun (id, kind) => (id, .initial id kind)), []⟩

def get? (s : RunState) (id : String) : Option NodeState := s.nodes.get? id

def nodeIds (s : RunState) : List String := s.nodes.keys

def withStatus (s : RunState) (status : NodeStatus) : List String :=
  (s.nodes.filter fun (_, n) => n.status = status).map Prod.fst

def hasStatus (s : RunState) (id : String) (status : NodeStatus) : Bool :=
  (s.get? id).any fun n => n.status = status

/-- The nodes that succeeded, in the order in which they did. -/
def succeededInOrder (s : RunState) : List String :=
  s.completed.filter fun id => s.hasStatus id .succeeded

def output (s : RunState) (id : String) : Value :=
  match s.get? id with
  | some n => n.output
  | none => .null

/-- Moves a node to another status, if its own status allows it. -/
def transition (s : RunState) (id : String) (status : NodeStatus) (change : Change) :
    Except TransitionError RunState :=
  match s.get? id with
  | none => .error (.unknownNode id)
  | some n =>
    if n.status.following.contains status then
      .ok { s with
        nodes := s.nodes.put id (n.moved status change)
        completed := if status.isTerminal then s.completed ++ [id] else s.completed }
    else .error (.illegal id n.status status)

end RunState

end Workflow
