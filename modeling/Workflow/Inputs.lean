import Workflow.Text.Blank
import Workflow.Text.Decimal
import Workflow.Text.Split
import Workflow.Value.Basic

/-! The values that a node sees when it runs, and references to them: dotted paths such as
`weather.days.0`. -/

namespace Workflow

namespace Reference

/-- The segments of a path: what stands between points and is not empty. -/
def segments (path : String) : List String :=
  ((Text.splitAtEach '.' (Text.trimBlank path.toList)).filter fun part => !part.isEmpty).map
    String.ofList

/-- The element at an index; a negative one counts from the end. -/
def element? (items : List Value) (i : Int) : Option Value :=
  if 0 ≤ i then items[i.toNat]?
  else if i.natAbs ≤ items.length then items[items.length - i.natAbs]?
  else none

/-- The part of a value under one segment: a member of an object, or an element of a list. -/
def part? (v : Value) (segment : String) : Option Value :=
  match v with
  | .list items => (Text.readInt? segment).bind (element? items)
  | v => v.members?.bind (·.get? segment)

/-- The part of a value that some segments lead to. -/
def descend? : Value → List String → Option Value
  | v, [] => some v
  | v, segment :: rest => (part? v segment).bind (descend? · rest)

end Reference

/-- What a node sees: the payload of the run, the outputs of its live direct predecessors in the
order of its incoming edges, the values that its ports deliver, and the outputs of its ancestors,
the one that completed last in front. -/
structure Inputs where
  payload : Value
  predecessors : Table Value
  ports : Table Value
  ancestors : Table Value

namespace Inputs

open Reference

/-- The value under a name in a table, followed along the other segments. -/
def named? (scope : Table Value) (head : String) (rest : List String) : Option Value :=
  (scope.get? head).bind (descend? · rest)

/-- The first value of a table that all the segments lead into. -/
def within? (scope : Table Value) (segments : List String) : Option Value :=
  scope.values.findSome? (descend? · segments)

/-- The value that a path refers to. Its first segment is taken for a predecessor, a port and an
ancestor in turn; after that the whole path is looked for inside the outputs. -/
def resolve? (inputs : Inputs) (path : String) : Option Value :=
  match segments path with
  | [] => none
  | head :: rest =>
    named? inputs.predecessors head rest
      |>.or (named? inputs.ports head rest)
      |>.or (named? inputs.ancestors head rest)
      |>.or (within? inputs.predecessors (head :: rest))
      |>.or (within? inputs.ancestors (head :: rest))

/-- What the state of a node keeps of its inputs. -/
def kept (inputs : Inputs) : Table Value :=
  [("predecessors", .object inputs.predecessors), ("ports", .object inputs.ports)]

end Inputs

end Workflow
