import Workflow.Ranked
import Workflow.Text.Decimal
import Workflow.Text.Digit
import Workflow.Value.Basic

/-! Writing values as JSON texts in a given style, and the values that a style refuses. -/

namespace Workflow.Json

open Text

/-- How a text is laid out. With an indent every element and member stands on a line of its own. -/
structure Style where
  comma : String
  colon : String
  indent : Option Nat
  sortKeys : Bool
  asciiOnly : Bool
  acceptsHandles : Bool
  acceptsNonFinite : Bool
  acceptsLong : Bool

namespace Style

/-- One line with a space after commas and colons. A live object is written as its text. -/
def line : Style := ⟨", ", ": ", none, false, true, true, true, false⟩

/-- One line, with keys in order. -/
def sortedLine : Style := { line with sortKeys := true }

/-- Lines with keys in order, indented by the given width at each level. -/
def indented (width : Nat) : Style := ⟨",", ": ", some width, true, true, true, true, false⟩

/-- No spaces, characters of every script as they are; for the body of a request, which has to be
plain data. -/
def compact : Style := ⟨",", ":", none, false, false, false, false, false⟩

/-- What a document takes before it is written: plain data with integers of any length. -/
def data : Style := { line with acceptsHandles := false, acceptsLong := true }

end Style

/-- The escape of one unit of sixteen bits. -/
def unitEscape (u : Nat) : List Char := '\\' :: 'u' :: hexDigits 4 u

/-- A character inside quotes. Beyond sixteen bits its escape is a surrogate pair. -/
def writtenChar (asciiOnly : Bool) (c : Char) : List Char :=
  if c == '"' || c == '\\' then ['\\', c]
  else if c == '\n' then ['\\', 'n']
  else if c == '\r' then ['\\', 'r']
  else if c == '\t' then ['\\', 't']
  else if c == '\x08' then ['\\', 'b']
  else if c == '\x0c' then ['\\', 'f']
  else if c.toNat < 0x20 then unitEscape c.toNat
  else if c.toNat < 0x7f || !asciiOnly then [c]
  else if c.toNat < 0x10000 then unitEscape c.toNat
  else
    unitEscape (0xd800 + (c.toNat - 0x10000) / 0x400) ++
      unitEscape (0xdc00 + (c.toNat - 0x10000) % 0x400)

def writtenText (asciiOnly : Bool) (s : String) : List Char :=
  '"' :: s.toList.flatMap (writtenChar asciiOnly) ++ ['"']

/-- How the numbers that are not finite are spelled. -/
def nonFinite : Double.Spelling := ⟨"NaN", "Infinity"⟩

/-- The start of a new line at a level, if the style has lines. -/
def Style.newline (style : Style) (level : Nat) : List Char :=
  match style.indent with
  | none => []
  | some width => '\n' :: List.replicate (width * level) ' '

/-- Parts between brackets, each on a line of its own if the style has lines. -/
def enclosed (style : Style) (level : Nat) (first last : Char) (parts : List (List Char)) :
    List Char :=
  if parts.isEmpty then [first, last]
  else
    let inner := style.newline (level + 1)
    first :: inner ++ List.intercalate (style.comma.toList ++ inner) parts ++
      style.newline level ++ [last]

/-- The members of an object from their keys and written values. -/
def memberParts (style : Style) (members : List (String × List Char)) : List (List Char) :=
  let members := if style.sortKeys then Table.sorted members else members
  members.map fun (k, v) => writtenText style.asciiOnly k ++ style.colon.toList ++ v

mutual

/-- The text of a value at a level, whatever a style refuses. Of an object that contains itself only
the other members are written. -/
def render (style : Style) (level : Nat) : Value → List Char
  | .null => "null".toList
  | .bool b => if b then "true".toList else "false".toList
  | .int i => integer i
  | .double x => Double.render nonFinite x
  | .text s => writtenText style.asciiOnly s
  | .handle h => writtenText style.asciiOnly h.text
  | .list vs => enclosed style level '[' ']' (renderItems style (level + 1) vs)
  | .object ms | .cyclic ms _ =>
    enclosed style level '\x7b' '\x7d' (memberParts style (renderMembers style (level + 1) ms))

def renderItems (style : Style) (level : Nat) : List Value → List (List Char)
  | [] => []
  | v :: rest => render style level v :: renderItems style level rest

def renderMembers (style : Style) (level : Nat) :
    List (String × Value) → List (String × List Char)
  | [] => []
  | (k, v) :: rest => (k, render style level v) :: renderMembers style level rest

end

/-- Why a value has no text, or is not gone through to its end. -/
inductive Refusal where
  | circular
  | repeated
  | endless
  | tooDeep
  | nonFinite
  | longInteger
  | handle (sort : String)
  deriving DecidableEq

mutual

/-- The first part of a value that the style refuses. -/
def refusal? (style : Style) : Value → Option Refusal
  | .int i => if style.acceptsLong || !isLong i then none else some .longInteger
  | .double x => if style.acceptsNonFinite || x.isFinite then none else some .nonFinite
  | .handle h => if style.acceptsHandles then none else some (.handle h.sort)
  | .list vs => refusalOfItems? style vs
  | .object ms => refusalOfMembers? style ms
  | .cyclic ms _ => (refusalOfMembers? style ms).or (some .circular)
  | _ => none

def refusalOfItems? (style : Style) : List Value → Option Refusal
  | [] => none
  | v :: rest => (refusal? style v).or (refusalOfItems? style rest)

def refusalOfMembers? (style : Style) : List (String × Value) → Option Refusal
  | [] => none
  | (_, v) :: rest => (refusal? style v).or (refusalOfMembers? style rest)

end

/-- The text of a value, unless the style refuses it. -/
def write (style : Style) (v : Value) : Except Refusal String :=
  match refusal? style v with
  | some r => .error r
  | none => .ok (String.ofList (render style 0 v))

end Workflow.Json
