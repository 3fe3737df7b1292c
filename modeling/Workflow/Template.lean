import Workflow.Fault
import Workflow.Inputs

/-! Templates: texts with placeholders, which are references between double braces. -/

namespace Workflow

namespace Template

/-- A part of a template: one character of its own text, or the reference in a placeholder. -/
inductive Piece where
  | char (c : Char)
  | placeholder (reference : List Char)
  deriving DecidableEq

def isBrace (c : Char) : Bool := c == '{' || c == '}'

/-- The reference of a placeholder at the front of a text: one or more characters other than
braces, between double braces. -/
def placeholder? : List Char → Option (List Char)
  | '{' :: '{' :: rest =>
    match rest.dropWhile fun c => !isBrace c with
    | '}' :: '}' :: _ =>
      match rest.takeWhile fun c => !isBrace c with
      | [] => none
      | reference => some reference
    | _ => none
  | _ => none

/-- The pieces of a text after passing over `skip` characters. -/
def piecesAfter : Nat → List Char → List Piece
  | _, [] => []
  | skip + 1, _ :: rest => piecesAfter skip rest
  | 0, c :: rest =>
    match placeholder? (c :: rest) with
    | some reference => .placeholder reference :: piecesAfter (reference.length + 3) rest
    | none => .char c :: piecesAfter 0 rest

/-- The pieces of a template, from left to right. Placeholders do not overlap. -/
def pieces (template : String) : List Piece := piecesAfter 0 template.toList

/-- The text of a piece alone. -/
def Piece.source : Piece → List Char
  | .char c => [c]
  | .placeholder reference => '{' :: '{' :: reference ++ ['}', '}']

/-- The text that stands for a value in a template: nothing for null, a text as it is, lists and
objects as JSON, and the text of any other value. -/
def stringify : Value → Except Json.Refusal String
  | .null => .ok ""
  | .text s => .ok s
  | v => if v.isContainer then Json.write .line v else v.shown

/-- The text that a reference puts in place of its placeholder. -/
def referenceText (inputs : Inputs) (reference : List Char) : Except Json.Refusal String :=
  stringify ((inputs.resolve? (String.ofList reference)).getD .null)

def pieceText (inputs : Inputs) : Piece → Except Json.Refusal (List Char)
  | .char c => .ok [c]
  | .placeholder reference => (referenceText inputs reference).map String.toList

def piecesText (inputs : Inputs) : List Piece → Except Json.Refusal (List Char)
  | [] => .ok []
  | piece :: rest => do
    let text ← pieceText inputs piece
    let others ← piecesText inputs rest
    return text ++ others

/-- A template with the referenced value in place of each placeholder. -/
def render (inputs : Inputs) (template : String) : Except Json.Refusal String :=
  (piecesText inputs (pieces template)).map String.ofList

/-- The reference of a text that is one placeholder and nothing else, blanks around it apart. -/
def sole? (text : String) : Option String :=
  match pieces (Text.strip text) with
  | [.placeholder reference] => some (String.ofList reference)
  | _ => none

/-- A text that is one placeholder becomes the value it refers to, or null; any other is
rendered. -/
def renderLeaf (inputs : Inputs) (text : String) : Except Json.Refusal Value :=
  match sole? text with
  | some reference => .ok ((inputs.resolve? reference).getD .null)
  | none => (render inputs text).map .text

mutual

/-- A value with every text in it rendered. Keys are not rendered. An object that contains itself is
gone through again and again. -/
def renderValue (inputs : Inputs) : Value → Except Json.Refusal Value
  | .text s => renderLeaf inputs s
  | .list vs => (renderItems inputs vs).map .list
  | .object ms => (renderMembers inputs ms).map .object
  | .cyclic ms _ => do
    let _ ← renderMembers inputs ms
    .error .endless
  | v => .ok v

def renderItems (inputs : Inputs) : List Value → Except Json.Refusal (List Value)
  | [] => .ok []
  | v :: rest => do
    let v ← renderValue inputs v
    let rest ← renderItems inputs rest
    return v :: rest

def renderMembers (inputs : Inputs) :
    List (String × Value) → Except Json.Refusal (List (String × Value))
  | [] => .ok []
  | (k, v) :: rest => do
    let v ← renderValue inputs v
    let rest ← renderMembers inputs rest
    return (k, v) :: rest

end

end Template

end Workflow
