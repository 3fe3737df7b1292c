import Workflow.Fault
import Workflow.Graph.Basic
import Workflow.Inputs
import Workflow.Value.Equality

/-! Conditions: clauses that compare a referenced value with a constant, branches that join
clauses, and the choice of a port. -/

namespace Workflow

namespace Condition

/-- The number that a value can be compared as: an integer, a floating-point number, or a text
that reads as a number. An integer past the range of floating-point numbers is a fault. -/
def number? : Value → Except Fault (Option Double)
  | .int i => (Double.ofInt? i).elim (.error .integerTooLarge) fun x => .ok (some x)
  | .double x => .ok (some x)
  | .text s => .ok ((Double.read? (Text.strip s)).filter fun x => !x.isNaN)
  | _ => .ok none

/-- The text that a value is compared by. -/
def textOf (v : Value) : Except Fault String := v.shown.mapError .unwritable

/-- Both values as numbers. -/
def numbers? (left right : Value) : Except Fault (Option (Double × Double)) := do
  let l ← number? left
  let r ← number? right
  match l, r with
  | some x, some y => return some (x, y)
  | _, _ => return none

/-- Equal values, equal numbers, or equal texts of values that are neither lists nor objects. -/
def equal (left right : Value) : Except Fault Bool :=
  if left.equals right then .ok true
  else do
    match ← numbers? left right with
    | some (x, y) => return x.equals y
    | none =>
      if left.isContainer || right.isContainer then return false
      else return (← textOf left) == (← textOf right)

/-- Whether an order holds between the values as numbers. Values that are no numbers are in no
order. -/
def ordered (holds : Double → Double → Bool) (left right : Value) : Except Fault Bool := do
  match ← numbers? left right with
  | some (x, y) => return holds x y
  | none => return false

def someEqual (right : Value) : List Value → Except Fault Bool
  | [] => .ok false
  | item :: rest => do if ← equal item right then return true else someEqual right rest

/-- A text contains the text of a value, a list an equal element, and an object a key. -/
def contains (left right : Value) : Except Fault Bool :=
  match left with
  | .text s => do return Text.occursIn (← textOf right).toList s.toList
  | .list items => someEqual right items
  | left =>
    match left.members?, right with
    | some ms, .text key => .ok (ms.contains key)
    | _, _ => .ok false

/-- Null, a blank text, and a list or an object without elements. -/
def isEmpty : Value → Bool
  | .null => true
  | .text s => (Text.strip s).isEmpty
  | .list items => items.isEmpty
  | .object ms => ms.isEmpty
  | _ => false

def startsWith (left right : Value) : Except Fault Bool :=
  match left with
  | .text s => do return (← textOf right).toList.isPrefixOf s.toList
  | _ => .ok false

def endsWith (left right : Value) : Except Fault Bool :=
  match left with
  | .text s => do return (← textOf right).toList.isSuffixOf s.toList
  | _ => .ok false

/-- What an operator says of two values. -/
def evaluate : Operator → Value → Value → Except Fault Bool
  | .equals, l, r => equal l r
  | .notEquals, l, r => (equal l r).map (!·)
  | .contains, l, r => contains l r
  | .notContains, l, r => (contains l r).map (!·)
  | .startsWith, l, r => startsWith l r
  | .endsWith, l, r => endsWith l r
  | .greaterThan, l, r => ordered (fun x y => y.less x) l r
  | .greaterThanOrEqual, l, r => ordered (fun x y => y.lessEq x) l r
  | .lessThan, l, r => ordered Double.less l r
  | .lessThanOrEqual, l, r => ordered Double.lessEq l r
  | .isEmpty, l, _ => .ok (isEmpty l)
  | .isNotEmpty, l, _ => .ok (!isEmpty l)

end Condition

/-- The port that a condition selects, the branch that it belongs to unless it is the else port,
and the other ports. -/
structure Decision where
  selectedPort : String
  branchIndex : Option Nat
  prunedPorts : List String
  deriving DecidableEq

namespace Decision

def isElse (d : Decision) : Bool := d.branchIndex.isNone

def toValue (d : Decision) : Value :=
  .object
    [("selected_port", .text d.selectedPort),
     ("branch_index", (d.branchIndex.map fun i => Value.int i).getD .null),
     ("pruned_ports", .ofTexts d.prunedPorts)]

end Decision

/-- A clause whose field does not resolve is false. -/
def Clause.holds (inputs : Inputs) (c : Clause) : Except Fault Bool :=
  match inputs.resolve? c.field with
  | some v => Condition.evaluate c.operator v c.value
  | none => .ok false

namespace Branch

/-- Clauses are tried in order, up to the first one that is false. -/
def allHold (inputs : Inputs) : List Clause → Except Fault Bool
  | [] => .ok true
  | c :: rest => do if ← c.holds inputs then allHold inputs rest else return false

/-- Clauses are tried in order, up to the first one that is true. -/
def anyHolds (inputs : Inputs) : List Clause → Except Fault Bool
  | [] => .ok false
  | c :: rest => do if ← c.holds inputs then return true else anyHolds inputs rest

/-- A branch without clauses never matches. -/
def isTaken (inputs : Inputs) (b : Branch) : Except Fault Bool :=
  if b.clauses.isEmpty then .ok false
  else
    match b.joiner with
    | .all => allHold inputs b.clauses
    | .any => anyHolds inputs b.clauses

end Branch

namespace ConditionConfig

/-- The first branch from an index on that is taken. -/
def firstTaken? (inputs : Inputs) : Nat → List Branch → Except Fault (Option (Nat × Branch))
  | _, [] => .ok none
  | i, b :: rest => do
    if ← b.isTaken inputs then return some (i, b) else firstTaken? inputs (i + 1) rest

/-- The decision for a port: the others are pruned, in declared order. -/
def decisionFor (c : ConditionConfig) (port : String) (index : Option Nat) : Decision :=
  ⟨port, index, c.ports.filter (· ≠ port)⟩

/-- Selects the port of the first branch that is taken, or the else port. -/
def select (c : ConditionConfig) (inputs : Inputs) : Except Fault Decision := do
  match ← firstTaken? inputs 0 c.branches with
  | some (i, b) => return c.decisionFor b.port (some i)
  | none => return c.decisionFor c.elsePort none

end ConditionConfig

end Workflow
