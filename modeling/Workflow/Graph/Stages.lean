import Workflow.Graph.Links

/-! The search for a cycle, depth first, with roots and successors in code point order; and
stages: the nodes whose predecessors all stand in earlier stages, then those whose predecessors
stand in these, and so on. -/

namespace Workflow

/-- The cycle that a link back to `node` closes: the path from `node` on, then `node` again. The
path is given with its end first. -/
def closedPath (path : List String) (node : String) : List String :=
  (path.takeWhile (· ≠ node) ++ [node]).reverse ++ [node]

/-- Searches from the node at the end of the path. An error is a cycle; otherwise the answer is
the nodes that are finished, the start among them. -/
def searchFrom (next : String → List String) :
    Nat → List String → List String → String → Except (List String) (List String)
  | 0, _, done, _ => .ok done
  | depth + 1, path, done, node => do
    let done ← (next node).foldlM (fun done child =>
      if path.contains child then .error (closedPath path child)
      else if done.contains child then .ok done
      else searchFrom next depth (child :: path) done child) done
    return node :: done

/-- Searches from every root that is not finished yet. -/
def searchAll (next : String → List String) (depth : Nat) (roots : List String) :
    Except (List String) (List String) :=
  roots.foldlM (fun done root =>
    if done.contains root then .ok done else searchFrom next depth [root] done root) []

/-- One cycle of functional edges as a closed path, if there is one. -/
def Graph.findCycle (g : Graph) : Option (List String) :=
  let ids := sortedTexts g.functionalIds
  let edges := g.functionalEdges
  match searchAll (fun id => sortedTexts (targetsOf edges id)) (ids.length + 1) ids with
  | .error cycle => some cycle
  | .ok _ => none

/-- Stages, and the nodes that no stage takes because a cycle holds them back. -/
structure Staging where
  stages : List (List String)
  held : List String

/-- The nodes that wait for no other waiting node. -/
def unblocked (previous : String → List String) (waiting : List String) : List String :=
  waiting.filter fun id => (previous id).all fun p => !waiting.contains p

/-- Takes stage after stage from the nodes that wait. -/
def stagesFrom (previous : String → List String) : Nat → List String → Staging
  | 0, waiting => ⟨[], waiting⟩
  | rounds + 1, waiting =>
    match unblocked previous waiting with
    | [] => ⟨[], waiting⟩
    | stage =>
      let rest := stagesFrom previous rounds (waiting.filter fun id => !stage.contains id)
      ⟨stage :: rest.stages, rest.held⟩

namespace Graph

/-- The stages of the functional graph, each in code point order. -/
def staging (g : Graph) : Staging :=
  stagesFrom (sourcesOf g.functionalEdges) g.functionalIds.length (sortedTexts g.functionalIds)

/-- The path that is named when nodes are held back: a cycle, or the held nodes should the search
find none. -/
def heldPath (g : Graph) : List String := g.findCycle.getD g.staging.held

def cycleMessage (path : List String) : String :=
  "Workflow graph contains a cycle: " ++ String.intercalate " -> " path

/-- Why staging ends early, if it does. -/
def stagingError? (g : Graph) : Option String :=
  if g.staging.held.isEmpty then none else some (cycleMessage g.heldPath)

end Graph

end Workflow
