import Workflow.Graph.Stages
import Workflow.Text.Blank
import Workflow.Value.Text

/-! The structural check of a graph. It finds every violation and raises none. -/

namespace Workflow

/-- What can be wrong with a graph. -/
inductive Defect where
  | duplicateNode
  | emptyNodeId
  | inputCount
  | outputMissing
  | danglingEdge
  | edgeIntoInput
  | edgeFromOutput
  | unreachableNode
  | duplicatePort
  | unknownPort
  | cycle
  deriving DecidableEq

def Defect.code : Defect → String
  | duplicateNode => "duplicate_node"
  | emptyNodeId => "empty_node_id"
  | inputCount => "input_count"
  | outputMissing => "output_missing"
  | danglingEdge => "dangling_edge"
  | edgeIntoInput => "edge_into_input"
  | edgeFromOutput => "edge_from_output"
  | unreachableNode => "unreachable_node"
  | duplicatePort => "duplicate_port"
  | unknownPort => "unknown_port"
  | cycle => "cycle"

/-- A defect with what it is reported with. -/
inductive Violation where
  | duplicateNode (id : String)
  | emptyNodeId
  | inputCount (found : Nat)
  | outputMissing
  | danglingEdge (edge : Edge) (endpoint : String)
  | edgeIntoInput (edge : Edge)
  | edgeFromOutput (edge : Edge)
  | unreachableNode (id : String)
  | duplicatePort (node port : String)
  | unknownPort (edge : Edge) (ports : List String)
  | cycle (path : List String)
  deriving DecidableEq

namespace Violation

/-- The defect that a violation is of. -/
def defect : Violation → Defect
  | duplicateNode _ => .duplicateNode
  | emptyNodeId => .emptyNodeId
  | inputCount _ => .inputCount
  | outputMissing => .outputMissing
  | danglingEdge .. => .danglingEdge
  | edgeIntoInput _ => .edgeIntoInput
  | edgeFromOutput _ => .edgeFromOutput
  | unreachableNode _ => .unreachableNode
  | duplicatePort .. => .duplicatePort
  | unknownPort .. => .unknownPort
  | cycle _ => .cycle

def code (v : Violation) : String := v.defect.code

def message : Violation → String
  | duplicateNode id => "Node id '" ++ id ++ "' is used more than once."
  | emptyNodeId => "Node ids cannot be empty."
  | inputCount found =>
    "Workflow must have exactly one input node, found " ++ toString found ++ "."
  | outputMissing => "Workflow must have at least one output node."
  | danglingEdge edge endpoint =>
    "Edge " ++ edge.describe ++ " references unknown node '" ++ endpoint ++ "'."
  | edgeIntoInput edge => "Edge " ++ edge.describe ++ " targets the input node."
  | edgeFromOutput edge => "Edge " ++ edge.describe ++ " originates from an output node."
  | unreachableNode id => "Node '" ++ id ++ "' has no incoming edge."
  | duplicatePort node port =>
    "Condition node '" ++ node ++ "' declares port '" ++ port ++ "' more than once."
  | unknownPort edge ports =>
    "Edge " ++ edge.describe ++ " leaves condition node '" ++ edge.source ++
      "' through unrecognized port '" ++ edge.sourcePort.getD Value.spelling.null ++
      "'; expected one of " ++ (Value.ofTexts ports).layout ++ "."
  | cycle path => Graph.cycleMessage path

/-- The node that a violation is reported against. -/
def nodeId? : Violation → Option String
  | duplicateNode id | unreachableNode id | duplicatePort id _ => some id
  | emptyNodeId | inputCount _ | outputMissing => none
  | danglingEdge _ endpoint => some endpoint
  | edgeIntoInput edge => some edge.target
  | edgeFromOutput edge | unknownPort edge _ => some edge.source
  | cycle path => path.head?

/-- The edge that a violation is reported against. -/
def edge? : Violation → Option String
  | danglingEdge edge _ | edgeIntoInput edge | edgeFromOutput edge | unknownPort edge _ =>
    some edge.describe
  | _ => none

end Violation

/-- The elements that occur more than once, each once. -/
def repeated (xs : List String) : List String :=
  (distinct xs).filter fun x => decide (1 < xs.count x)

namespace Graph

/-- The ids that several nodes share. -/
def duplicateIds (g : Graph) : List String := sortedTexts (repeated g.nodeIds)

def idViolations (g : Graph) : List Violation :=
  g.duplicateIds.map .duplicateNode ++
    if g.nodeIds.any fun id => (Text.strip id).isEmpty then [.emptyNodeId] else []

def countViolations (g : Graph) : List Violation :=
  let inputs := (g.nodesOfKind .input).length
  (if inputs = 1 then [] else [.inputCount inputs]) ++
    if (g.nodesOfKind .output).isEmpty then [.outputMissing] else []

/-- The kind of the node that an id stands for. -/
def kindOf? (g : Graph) (id : String) : Option NodeKind := (g.nodeMap.get? id).map Node.kind

def edgeViolations (g : Graph) (e : Edge) : List Violation :=
  ([e.source, e.target].filter fun id => !g.nodeMap.contains id).map (.danglingEdge e) ++
    (if g.kindOf? e.target = some .input then [.edgeIntoInput e] else []) ++
    if g.kindOf? e.source = some .output then [.edgeFromOutput e] else []

/-- Functional nodes other than inputs that no functional edge leads to. -/
def reachViolations (g : Graph) : List Violation :=
  let targets := g.functionalEdges.map Edge.target
  (g.functionalNodes.filter fun n => n.kind ≠ .input && !targets.contains n.id).map
    fun n => .unreachableNode n.id

/-- Ports that a condition declares twice, and edges that leave it through a port it does not
declare. -/
def portViolations (g : Graph) (n : Node) : List Violation :=
  match n.config with
  | .condition c =>
    (repeated c.ports).map (.duplicatePort n.id) ++
      (g.functionalEdges.filter fun e =>
        e.source == n.id && !(c.ports.map some).contains e.sourcePort).map
          fun e => .unknownPort e c.ports
  | _ => []

def cycleViolations (g : Graph) : List Violation :=
  match g.findCycle with
  | some path => [.cycle path]
  | none => []

end Graph

/-- What the check of a graph reports. -/
structure CheckReport where
  violations : List Violation
  stages : List (List String)

def CheckReport.valid (r : CheckReport) : Bool := r.violations.isEmpty

/-- Every violation of a graph, and its stages unless it has a cycle or shares an id. -/
def Graph.check (g : Graph) : CheckReport where
  violations :=
    g.idViolations ++ g.countViolations ++ g.edges.flatMap g.edgeViolations ++
      g.reachViolations ++ g.nodes.flatMap g.portViolations ++ g.cycleViolations
  stages :=
    if g.findCycle.isSome || !g.duplicateIds.isEmpty then [] else g.staging.stages

def Violation.toValue (v : Violation) : Value :=
  .object
    [("code", .text v.code), ("message", .text v.message), ("node_id", .ofText? v.nodeId?),
     ("edge", .ofText? v.edge?)]

def CheckReport.toValue (r : CheckReport) : Value :=
  .object
    [("valid", .bool r.valid), ("violations", .list (r.violations.map Violation.toValue)),
     ("stages", .list (r.stages.map Value.ofTexts))]

end Workflow
