import Workflow.Value.Basic

/-! Values laid out anew: objects that repeat a key with one member for it, and objects that
contain themselves opened once. -/

namespace Workflow.Value

mutual

/-- The same value with one member for each key of an object: the later value at the earlier
place. -/
def merged : Value → Value
  | .list vs => .list (mergedItems vs)
  | .object ms => .object (Table.ofList (mergedMembers ms))
  | v => v

def mergedItems : List Value → List Value
  | [] => []
  | v :: rest => merged v :: mergedItems rest

def mergedMembers : List (String × Value) → List (String × Value)
  | [] => []
  | (k, v) :: rest => (k, merged v) :: mergedMembers rest

end

mutual

/-- The same value with each object that contains itself laid out once: an ordinary object with the
same members, one of which is the object itself. -/
def opened : Value → Value
  | .list vs => .list (openedItems vs)
  | .object ms => .object (openedMembers ms)
  | .cyclic ms self => .object (openedMembers ms ++ [(self, .cyclic ms self)])
  | v => v

def openedItems : List Value → List Value
  | [] => []
  | v :: rest => opened v :: openedItems rest

def openedMembers : List (String × Value) → List (String × Value)
  | [] => []
  | (k, v) :: rest => (k, opened v) :: openedMembers rest

end

/-- A table with its values opened. -/
def openedTable (t : Table Value) : Value := .object (openedMembers t)

end Workflow.Value
