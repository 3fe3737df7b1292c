import Workflow.Graph.Stages

/-! The plan of a run: the functional nodes under their ids, the edges between them, and the
ancestors of each node. -/

namespace Workflow

structure Plan where
  graph : Graph
  nodes : Table Node
  edges : List Edge
  ancestors : Table (List String)

namespace Plan

def ofGraph (g : Graph) : Plan where
  graph := g
  nodes := Graph.indexNodes g.functionalNodes
  edges := g.functionalEdges
  ancestors := g.functionalIds.map fun id => (id, g.ancestors id)

/-- The edges into a node, in the order of the graph. -/
def incoming (p : Plan) (id : String) : List Edge := p.edges.filter fun e => e.target == id

/-- The edges out of a node, in the order of the graph. -/
def outgoing (p : Plan) (id : String) : List Edge := p.edges.filter fun e => e.source == id

/-- The targets of the edges out of a node, each once. -/
def successors (p : Plan) (id : String) : List String := targetsOf p.edges id

def kindOf? (p : Plan) (id : String) : Option NodeKind := (p.nodes.get? id).map Node.kind

def isCondition (p : Plan) (id : String) : Bool := p.kindOf? id == some .condition

def isOutput (p : Plan) (id : String) : Bool := p.kindOf? id == some .output

def isAncestor (p : Plan) (ancestor id : String) : Bool :=
  ((p.ancestors.get? id).getD []).contains ancestor

/-- The output nodes, in the order of the plan. -/
def outputIds (p : Plan) : List String := p.nodes.keys.filter p.isOutput

end Plan

end Workflow
