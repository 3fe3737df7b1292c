import Workflow.Graph.Basic
import Workflow.Ranked

/-! The functional graph as a relation between ids: successors, predecessors, and all that can be
reached over one link or more. -/

namespace Workflow

/-- The elements without their repetitions, in the order of first occurrence. -/
def distinct : List String → List String
  | [] => []
  | x :: rest => x :: (distinct rest).filter (· ≠ x)

/-- What is newly reached from a frontier, round by round. -/
def spread (next : String → List String) : Nat → List String → List String → List String
  | 0, seen, _ => seen
  | rounds + 1, seen, frontier =>
    match distinct ((frontier.flatMap next).filter fun x => !seen.contains x) with
    | [] => seen
    | fresh => spread next rounds (seen ++ fresh) fresh

/-- All that is reached over one link or more, in at most `rounds` further links. -/
def reachable (next : String → List String) (rounds : Nat) (start : String) : List String :=
  let first := distinct (next start)
  spread next rounds first first

/-- The targets of the edges out of a node, each once, in the order of the edges. -/
def targetsOf (edges : List Edge) (id : String) : List String :=
  distinct ((edges.filter fun e => e.source == id).map Edge.target)

/-- The sources of the edges into a node, each once, in the order of the edges. -/
def sourcesOf (edges : List Edge) (id : String) : List String :=
  distinct ((edges.filter fun e => e.target == id).map Edge.source)

namespace Graph

/-- The ids of the functional nodes, each once. -/
def functionalIds (g : Graph) : List String := distinct (g.functionalNodes.map Node.id)

def successors (g : Graph) (id : String) : List String := targetsOf g.functionalEdges id

def predecessors (g : Graph) (id : String) : List String := sourcesOf g.functionalEdges id

/-- All nodes on a path of functional edges to the node. It is one of them when it lies on a
cycle. -/
def ancestors (g : Graph) (id : String) : List String :=
  reachable (sourcesOf g.functionalEdges) g.functionalIds.length id

end Graph

theorem mem_distinct {x : String} {l : List String} : x ∈ distinct l ↔ x ∈ l := by
  induction l with
  | nil => simp [distinct]
  | cons y rest ih =>
      by_cases h : x = y
      · simp [distinct, h]
      · simp [distinct, h, ih]

theorem nodup_distinct (l : List String) : (distinct l).Nodup := by
  induction l with
  | nil => simp [distinct]
  | cons y rest ih =>
      exact List.nodup_cons.mpr ⟨by simp, ih.filter _⟩

end Workflow
