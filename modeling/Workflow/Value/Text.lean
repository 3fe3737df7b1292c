import Workflow.Json.Writer
import Workflow.Text.Quoted
import Workflow.Value.Basic

/-! The text of a value, as it is shown in messages and compared in conditions. -/

namespace Workflow.Value

open Text

/-- How the constants are spelled. -/
structure Spelling where
  null : String
  yes : String
  no : String

def spelling : Spelling := ⟨"None", "True", "False"⟩

/-- Stands for an object inside itself. -/
def ellipsis : String := "\x7b...\x7d"

def enclosed (first last : String) (parts : List String) : String :=
  first ++ String.intercalate ", " parts ++ last

mutual

/-- The written form of a value, however long the integers in it are: texts in quotes, lists in
brackets, objects in braces. -/
def layout : Value → String
  | .null => spelling.null
  | .bool b => if b then spelling.yes else spelling.no
  | .int i => String.ofList (integer i)
  | .double x => toString x
  | .text s => quoted s
  | .list vs => enclosed "[" "]" (layoutItems vs)
  | .object ms => enclosed "\x7b" "\x7d" (layoutMembers ms)
  | .handle h => h.text
  | .cyclic ms self =>
    enclosed "\x7b" "\x7d" (layoutMembers ms ++ [quoted self ++ ": " ++ ellipsis])

def layoutItems : List Value → List String
  | [] => []
  | v :: rest => layout v :: layoutItems rest

def layoutMembers : List (String × Value) → List String
  | [] => []
  | (k, v) :: rest => (quoted k ++ ": " ++ layout v) :: layoutMembers rest

end

/-- The written form of a value. A value with an integer that is too long has none. -/
def written (v : Value) : Except Json.Refusal String :=
  if v.hasLong then .error .longInteger else .ok v.layout

/-- The text of a value: a text is itself, anything else is written. -/
def shown : Value → Except Json.Refusal String
  | .text s => .ok s
  | v => v.written

theorem written_of_short {v : Value} (short : v.hasLong = false) : v.written = .ok v.layout := by
  rw [written, short, if_neg Bool.false_ne_true]

theorem written_of_long {v : Value} (long : v.hasLong = true) :
    v.written = .error .longInteger := by rw [written, if_pos long]

theorem shown_of_long {v : Value} (long : v.hasLong = true) : v.shown = .error .longInteger := by
  cases v with
  | text s => cases long
  | _ => exact written_of_long long

theorem shown_of_short {v : Value} (short : v.hasLong = false) : ∃ s, v.shown = .ok s := by
  cases v with
  | text s => exact ⟨s, rfl⟩
  | _ => exact ⟨_, written_of_short short⟩

/-- The name of the sort of a value. -/
def sortName : Value → String
  | .null => "NoneType"
  | .bool _ => "bool"
  | .int _ => "int"
  | .double _ => "float"
  | .text _ => "str"
  | .list _ => "list"
  | .object _ => "dict"
  | .cyclic .. => "Cycle"
  | .handle h => h.sort.capitalize

/-- What there is to go through in a value: the characters of a text, the elements of a list, the
keys of an object. -/
def elements? : Value → Option (List Value)
  | .text s => some (s.toList.map fun c => .text (String.ofList [c]))
  | .list vs => some vs
  | v => v.members?.map fun ms => ms.keys.map .text

end Workflow.Value
