import Workflow.Double.Notation
import Workflow.Table
import Workflow.Text.Decimal

/-! The values that a workflow passes between its nodes: the data of a JSON document, with integers
and floating-point numbers apart, and the live objects of a host that pass through unread. -/

namespace Workflow

/-- The exception that is raised where a deep copy meets a live object. Its lineage are the full names
of its class and of the classes above that. -/
structure CopyFault where
  kind : String
  lineage : List String
  message : String
  deriving DecidableEq

namespace CopyFault

/-- The fault of an object that does not support copies. -/
def unsupported : CopyFault := ⟨"TypeError", ["TypeError"], "cannot be copied"⟩

/-- The classes of exceptions that do not leave a snapshot. -/
def toleratedKinds : List String := ["TypeError", "copy.Error", "RecursionError"]

def isTolerated (f : CopyFault) : Bool := f.lineage.any toleratedKinds.contains

end CopyFault

/-- A live object of the host, such as a lock. Nothing is known of it but the text that stands
for it and what becomes of a copy. -/
structure Handle where
  sort : String
  name : String
  fault : CopyFault
  deriving DecidableEq

def Handle.text (h : Handle) : String := "<" ++ h.sort ++ " " ++ h.name ++ ">"

/-- A value. `cyclic members self` is an object that has the members and, under the key `self`,
itself. -/
inductive Value where
  | null
  | bool (b : Bool)
  | int (i : Int)
  | double (x : Double)
  | text (s : String)
  | list (items : List Value)
  | object (members : List (String × Value))
  | handle (h : Handle)
  | cyclic (members : List (String × Value)) (self : String)

namespace Value

instance : Inhabited Value := ⟨.null⟩

/-- The members of an object; a cyclic one counts itself among them. -/
def members? : Value → Option (Table Value)
  | .object ms => some ms
  | .cyclic ms self => some (ms ++ [(self, .cyclic ms self)])
  | _ => none

def isNull : Value → Bool
  | .null => true
  | _ => false

/-- Lists and objects. -/
def isContainer : Value → Bool
  | .list _ | .object _ | .cyclic .. => true
  | _ => false

/-- Whether a value counts as true: it is not null, zero or empty. -/
def isTruthy : Value → Bool
  | .null => false
  | .bool b => b
  | .int i => i != 0
  | .double x => !x.equals .zero
  | .text s => !s.isEmpty
  | .list vs => !vs.isEmpty
  | .object ms => !ms.isEmpty
  | .handle _ | .cyclic .. => true

def ofTexts (xs : List String) : Value := .list (xs.map .text)

def ofText? : Option String → Value
  | some s => .text s
  | none => .null

mutual

/-- The value holds no object that contains itself. -/
def isTree : Value → Bool
  | .list vs => allTrees vs
  | .object ms => allTreeMembers ms
  | .cyclic .. => false
  | _ => true

def allTrees : List Value → Bool
  | [] => true
  | v :: rest => isTree v && allTrees rest

def allTreeMembers : List (String × Value) → Bool
  | [] => true
  | (_, v) :: rest => isTree v && allTreeMembers rest

end

mutual

/-- The value holds an integer of some kind. -/
def hasInteger (p : Int → Bool) : Value → Bool
  | .int i => p i
  | .list vs => anyHasInteger p vs
  | .object ms | .cyclic ms _ => anyMemberHasInteger p ms
  | _ => false

def anyHasInteger (p : Int → Bool) : List Value → Bool
  | [] => false
  | v :: rest => hasInteger p v || anyHasInteger p rest

def anyMemberHasInteger (p : Int → Bool) : List (String × Value) → Bool
  | [] => false
  | (_, v) :: rest => hasInteger p v || anyMemberHasInteger p rest

end

/-- The value holds an integer with more digits than can be written. -/
def hasLong (v : Value) : Bool := v.hasInteger Text.isLong

mutual

/-- How deep lists and objects that hold something are nested. -/
def depth : Value → Nat
  | .list vs => if vs.isEmpty then 0 else depthOfItems vs + 1
  | .object ms => if ms.isEmpty then 0 else depthOfMembers ms + 1
  | _ => 0

def depthOfItems : List Value → Nat
  | [] => 0
  | v :: rest => max (depth v) (depthOfItems rest)

def depthOfMembers : List (String × Value) → Nat
  | [] => 0
  | (_, v) :: rest => max (depth v) (depthOfMembers rest)

end

end Value

end Workflow
