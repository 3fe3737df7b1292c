import Workflow.Schema.Checked
import Workflow.Text.Case
import Workflow.Value.Reshape

/-! Reading texts, whole numbers, floating-point numbers and truth values from data that may give
them in another form: a number as its text, a truth value as a word. -/

namespace Workflow.Schema

open Text

/-- Where data comes from: built in memory, or read from the text of a document. -/
inductive Origin where
  | memory
  | document
  deriving DecidableEq

def readString : Value → Checked String
  | .text s => .good s
  | _ => .fail .stringType

def hasDoubleUnderscore : List Char → Bool
  | '_' :: '_' :: _ => true
  | _ :: rest => hasDoubleUnderscore rest
  | [] => false

/-- A text without its underscores, if it has some and they stand single and inside. -/
def dropUnderscores? (cs : List Char) : Option (List Char) :=
  if cs.head? = some '_' || cs.getLast? = some '_' || !cs.contains '_' ||
      hasDoubleUnderscore cs then
    none
  else some (cs.filter (· ≠ '_'))

/-- What is left after leading zeros, of which `last` is the last character read, and underscores
among them. That character stays before a point and at the end. -/
def afterZeros? (last : Char) : List Char → Option (List Char)
  | [] => some [last]
  | c :: rest =>
    if c = '0' || c = '_' then afterZeros? c rest
    else if ('1' ≤ c && c ≤ '9') || c = '-' then some (c :: rest)
    else if c = '.' then some (last :: c :: rest)
    else none

/-- A numeral, which starts with a digit, without the zeros in front of it. -/
def dropZeros? : List Char → Option (List Char)
  | [] => none
  | c :: rest =>
    if c = '0' then afterZeros? c rest
    else if '1' ≤ c && c ≤ '9' then some (c :: rest)
    else none

/-- A numeral that may have a minus sign, without the zeros in front of its digits. -/
def dropSignedZeros? : List Char → Option (List Char)
  | '-' :: rest => (dropZeros? rest).map ('-' :: ·)
  | cs => dropZeros? cs

/-- A numeral up to its point, which one or more zeros have to follow. -/
def dropFraction? (cs : List Char) : Option (List Char) :=
  match cs.dropWhile (· ≠ '.') with
  | [] => some cs
  | _ :: fraction =>
    if fraction.isEmpty || !fraction.all (· = '0') then none
    else some (cs.takeWhile (· ≠ '.'))

/-- A plus sign is passed over, unless a minus sign follows it. -/
def dropPlus : List Char → List Char
  | '+' :: '-' :: _ => []
  | '+' :: rest => rest
  | cs => cs

/-- A whole number in ASCII digits, with spaces around it and an optional sign. Single underscores
may stand between its digits, and a point and zeros after them. A minus sign may also follow the
zeros in front. -/
def wholeOfText? (s : String) : Option Int := do
  let cs ← dropSignedZeros? (dropPlus (trimSpace s.toList))
  let cs ← dropFraction? cs
  let cs := (dropUnderscores? cs).getD cs
  let (negative, body) := match cs with
    | '-' :: rest => (true, rest)
    | _ => (false, cs)
  match spanDigits asciiDigit? body with
  | ([], _) => none
  | (0 :: _ :: _, _) => none
  | (ds, []) => some (if negative then -(ofDigits ds : Int) else ofDigits ds)
  | _ => none

/-- The first whole number that a word of 64 bits with a sign does not hold. -/
def wordLimit : Int := Int.ofNat (Nat.pow 2 63)

def isWord (i : Int) : Bool := -wordLimit ≤ i && i < wordLimit

/-- The whole number that a floating-point number is. Its size has to be below that of the first
number that a word does not hold. -/
def wholeOfDouble (x : Double) : Checked Int :=
  if x.isFinite then
    match x.toInt? with
    | none => .fail .intFromFloat
    | some i => if -wordLimit < i && i < wordLimit then .good i else .fail .intParsingSize
  else .fail .finiteNumber

def readInt : Value → Checked Int
  | .int i => .good i
  | .bool b => .good (if b then 1 else 0)
  | .double x => wholeOfDouble x
  | .text s =>
    match wholeOfText? s with
    | some i => .good i
    | none => .fail .intParsing
  | _ => .fail .intType

/-- A floating-point number in ASCII digits, with spaces around it. -/
def doubleOfText? (s : String) : Option Double :=
  let read := Double.readSigned? (spanDigits asciiDigit?)
  match read (trimSpace s.toList) with
  | some x => some x
  | none => (dropUnderscores? s.toList).bind read

/-- A floating-point number. An integer past their range is an infinity when it stands in a
document, and no number of this type otherwise. -/
def readDouble (origin : Origin) : Value → Checked Double
  | .double x => .good x
  | .bool b => .good (if b then (Double.ofInt? 1).getD .zero else .zero)
  | .int i =>
    match Double.ofInt? i, origin with
    | some x, _ => .good x
    | none, .document => .good (.infinite (i < 0))
    | none, .memory => .fail .floatType
  | .text s =>
    match doubleOfText? s with
    | some x => .good x
    | none => .fail .floatParsing
  | _ => .fail .floatType

def yesWords : List String := ["1", "t", "y", "yes", "on", "true"]

def noWords : List String := ["0", "f", "n", "no", "off", "false"]

def boolOfInt (i : Int) : Checked Bool :=
  if i = 0 then .good false else if i = 1 then .good true else .fail .boolParsing

def readBool : Value → Checked Bool
  | .bool b => .good b
  | .int i => if isWord i then boolOfInt i else .fail .boolType
  | .double x =>
    match wholeOfDouble x with
    | .good i => boolOfInt i
    | .faulty _ => .fail .boolType
  | .text s =>
    let word := asciiLower s
    if yesWords.contains word then .good true
    else if noWords.contains word then .good false
    else .fail .boolParsing
  | _ => .fail .boolType

/-- A value of its own type or null. -/
def orNull {α : Type} (read : Value → Checked α) : Value → Checked (Option α)
  | .null => .good none
  | v => some <$> read v

def readList {α : Type} (read : Value → Checked α) : Value → Checked (List α)
  | .list vs => Checked.each read 0 vs
  | _ => .fail .listType

/-- A table. Every member has to be good, also one whose key is repeated later. -/
def readTable {α : Type} (read : Value → Checked α) (v : Value) : Checked (Table α) :=
  match v.members? with
  | some ms => (Checked.eachEntry read ms).map Table.ofList
  | none => .fail .dictType

/-- Any value, with one member for each key. -/
def readAny (v : Value) : Checked Value := .good v.merged

end Workflow.Schema
