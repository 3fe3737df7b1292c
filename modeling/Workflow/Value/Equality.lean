import Workflow.Value.Basic

/-! Equality of values by what they denote. -/

namespace Workflow.Value

/-- The number that a value is: an integer, a truth value as one or zero, or a floating-point
number. -/
inductive Numeral where
  | whole (i : Int)
  | double (x : Double)

def Numeral.equals : Numeral → Numeral → Bool
  | .whole i, .whole j => i == j
  | .whole i, .double x | .double x, .whole i => x.equalsInt i
  | .double x, .double y => x.equals y

def numeral? : Value → Option Numeral
  | .bool b => some (.whole (if b then 1 else 0))
  | .int i => some (.whole i)
  | .double x => some (.double x)
  | _ => none

/-- Whether a value is the number. -/
def equalNumeral (n : Numeral) (w : Value) : Bool :=
  match numeral? w with
  | some m => n.equals m
  | none => false

mutual

/-- Numbers are equal as numbers, objects as tables whatever their order. A live object, or one
that contains itself, is equal to nothing: two occurrences of it are two objects. -/
def equals : Value → Value → Bool
  | .null, .null => true
  | .text s, .text t => s == t
  | .list vs, .list ws => equalItems vs ws
  | .object ms, .object ns => ms.length == ns.length && equalMembers ms ns
  | .bool b, w => equalNumeral (.whole (if b then 1 else 0)) w
  | .int i, w => equalNumeral (.whole i) w
  | .double x, w => equalNumeral (.double x) w
  | _, _ => false

def equalItems : List Value → List Value → Bool
  | [], [] => true
  | v :: vs, w :: ws => equals v w && equalItems vs ws
  | _, _ => false

/-- Every member on the left has an equal one under its key on the right. -/
def equalMembers : List (String × Value) → Table Value → Bool
  | [], _ => true
  | (k, v) :: rest, ns =>
    (match ns.get? k with
      | some w => equals v w
      | none => false) && equalMembers rest ns

end

end Workflow.Value
