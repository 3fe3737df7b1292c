import Workflow.Fault

/-! Snapshots: copies of values that later changes cannot reach. Data is copied as it is; a value
with a live object whose fault is tolerated is written as JSON and read again. -/

namespace Workflow.Value

mutual

/-- What becomes of a deep copy: the fault of the first live object that it meets. -/
def copyFault? : Value → Option CopyFault
  | .handle h => some h.fault
  | .list vs => copyFaultOfItems? vs
  | .object ms | .cyclic ms _ => copyFaultOfMembers? ms
  | _ => none

def copyFaultOfItems? : List Value → Option CopyFault
  | [] => none
  | v :: rest => (copyFault? v).or (copyFaultOfItems? rest)

def copyFaultOfMembers? : List (String × Value) → Option CopyFault
  | [] => none
  | (_, v) :: rest => (copyFault? v).or (copyFaultOfMembers? rest)

end

/-- What is read again from the text of a value, in which live objects stand as their texts. A value
without such a text gives way to its written form, if it has one. -/
def retold (v : Value) : Except Fault Value :=
  match (Json.write .line v).toOption.bind fun s => (Json.read s).toOption with
  | some w => .ok w
  | none => (v.written.map .text).mapError .unwritable

/-- A copy of a value. Where the fault of a copy is tolerated the value is told again. -/
def snapshot (v : Value) : Except Fault Value :=
  match v.copyFault? with
  | none => .ok v
  | some fault =>
    if fault.isTolerated then v.retold else .error (.thrown fault.kind [.text fault.message])

end Workflow.Value
