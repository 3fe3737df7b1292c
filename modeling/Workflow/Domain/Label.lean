import Workflow.Domain.Joiner
import Workflow.Domain.Punycode
import Workflow.Text.Encoding
import Workflow.Text.Runs
import Workflow.Text.Normal.Form
import Workflow.Text.Quoted

/-! Domain names and labels, the words of them: which are allowed, and their forms in ASCII. -/

namespace Workflow.Domain

open Text (quotedCodes isNormal isMark isAsciiChar)

/-- Why a label or a name is refused. Places are counted from one; characters and labels are given
by their code points. -/
inductive Problem where
  | nameTooLong
  | noName
  | labelTooLong
  | noLabel
  | notNormal
  | innerHyphens
  | outerHyphen
  | leadingMark
  | character (code place : Nat) (label : List Nat)
  | joiner (code place : Nat) (label : List Nat)
  | unknownNeighbour (code place : Nat) (label : List Nat)
  | conditional (code place : Nat) (label : List Nat)
  | direction (p : DirectionProblem) (label : List Nat)
  | noNumbers
  | trailingHyphen
  | unreadable
  | otherForm
  deriving DecidableEq

/-- A code point as it is named, with four digits at least. -/
def codePointName (n : Nat) : String :=
  let width := if n < 0x10000 then 4 else if n < 0x100000 then 5 else 6
  "U+" ++ String.ofList ((Text.hexDigits width n).map Char.toUpper)

def DirectionProblem.message (label : List Nat) : DirectionProblem → String
  | unknown place =>
    "Unknown directionality in label " ++ quotedCodes label ++ " at position " ++ toString place
  | first =>
    "First codepoint in label " ++ quotedCodes label ++ " must be directionality L, R or AL"
  | foreign place fromRight =>
    "Invalid direction for codepoint at position " ++ toString place ++
      (if fromRight then " in a right-to-left label" else " in a left-to-right label")
  | mixedNumbers => "Can not mix numeral types in a right-to-left label"
  | ending => "Label ends with illegal codepoint directionality"

namespace Problem

/-- A place in a label. -/
def placeIn (place : Nat) (label : List Nat) : String :=
  "at position " ++ toString place ++ " in " ++ quotedCodes label

def message : Problem → String
  | nameTooLong => "Domain too long"
  | noName => "Empty domain"
  | labelTooLong => "Label too long"
  | noLabel => "Empty Label"
  | notNormal => "Label must be in Normalization Form C"
  | innerHyphens => "Label has disallowed hyphens in 3rd and 4th position"
  | outerHyphen => "Label must not start or end with a hyphen"
  | leadingMark => "Label begins with an illegal combining character"
  | character code place label =>
    "Codepoint " ++ codePointName code ++ " at position " ++ toString place ++ " of " ++
      quotedCodes label ++ " not allowed"
  | joiner code place label =>
    "Joiner " ++ codePointName code ++ " not allowed " ++ placeIn place label
  | unknownNeighbour code place label =>
    "Unknown codepoint adjacent to joiner " ++ codePointName code ++ " " ++ placeIn place label
  | conditional code place label =>
    "Codepoint " ++ codePointName code ++ " not allowed " ++ placeIn place label
  | direction p label => p.message label
  | noNumbers => "Malformed A-label, no Punycode eligible content found"
  | trailingHyphen => "A-label must not end with a hyphen"
  | unreadable => "Invalid A-label"
  | otherForm => "A-label is not the canonical Punycode encoding of its U-label"

/-- The name of the kind of a problem. -/
def name : Problem → String
  | character .. => "InvalidCodepoint"
  | joiner .. | conditional .. => "InvalidCodepointContext"
  | direction .. => "IDNABidiError"
  | _ => "IDNAError"

end Problem

/-- The longest label in its ASCII form. -/
def longestLabel : Nat := 63

/-- The longest name, with a point at its end. -/
def longestName : Nat := 254

/-- The first character that may not stand where it does, given what comes before it in reverse. -/
def misplaced? (label : List Nat) : List Char → List Nat → Option Problem
  | _, [] => none
  | before, code :: rest =>
    let c := Text.ofCodePoint code
    let after := rest.map Text.ofCodePoint
    let place := before.length + 1
    if isLetter c then misplaced? label (c :: before) rest
    else if isJoiner c then
      match allowsJoiner? c before after with
      | some true => misplaced? label (c :: before) rest
      | some false => some (.joiner code place label)
      | none => some (.unknownNeighbour code place label)
    else if isConditional c then
      if allowsConditional c before after then misplaced? label (c :: before) rest
      else some (.conditional code place label)
    else some (.character code place label)

/-- Checks a label: it is in normal form, has no hyphen at its ends and no two of them in the third
and fourth place, does not begin with a mark, and has its characters where they may stand. -/
def labelProblem? (codes : List Nat) : Option Problem :=
  let label := codes.map Text.ofCodePoint
  if label.isEmpty then some .noLabel
  else if longestName < label.length then some .labelTooLong
  else if !isNormal label then some .notNormal
  else if (label.drop 2).take 2 = ['-', '-'] then some .innerHyphens
  else if label.head? = some '-' || label.getLast? = some '-' then some .outerHyphen
  else if (label.head?.map isMark).getD false then some .leadingMark
  else (misplaced? codes [] codes).or ((directionProblem? label).map (.direction · codes))

/-- The label that some code points are, which has to be right. -/
def checked (codes : List Nat) : Except Problem (List Char) :=
  match labelProblem? codes with
  | some p => .error p
  | none => .ok (codes.map Text.ofCodePoint)

/-- What a label in ASCII starts with that stands for one with other characters. -/
def mark : List Char := "xn--".toList

/-- A label as it is read: what the ASCII form of one stands for, or the label itself. There is one
form for each label. -/
def readLabel (label : List Char) : Except Problem (List Char) := do
  if !label.all isAsciiChar then checked (label.map Char.toNat)
  else
    let word := label.map Char.toLower
    if word.take 4 != mark then checked (word.map Char.toNat)
    else
      let rest := word.drop 4
      if rest.isEmpty then throw .noNumbers
      if rest.getLast? = some '-' then throw .trailingHyphen
      match Punycode.read? rest with
      | none => throw .unreadable
      | some codes =>
        let label ← checked codes
        if Punycode.write label != rest then throw .otherForm
        return label

/-- A label in ASCII. One that is in ASCII already has to be readable. -/
def writeLabel (label : List Char) : Except Problem (List Char) := do
  let word ←
    if label.all isAsciiChar then do
      let _ ← readLabel label
      pure label
    else do pure (mark ++ Punycode.write (← checked (label.map Char.toNat)))
  if longestLabel < word.length then throw .labelTooLong
  return word

/-- The points that stand between labels, in the scripts that have one of their own. -/
def isPoint (c : Char) : Bool := [0x2e, 0x3002, 0xff0e, 0xff61].contains c.toNat

/-- The labels of a name, and whether a point ends it. -/
def labels (name : List Char) : Except Problem (List (List Char) × Bool) := do
  if longestName < name.length then throw .nameTooLong
  if name.isEmpty then throw .noName
  let parts := Text.splitAtEach '.' (name.map fun c => if isPoint c then '.' else c)
  if parts.getLast? = some [] then return (parts.dropLast, true) else return (parts, false)

/-- Labels with points between them, and one at the end if there was one. -/
def joined (parts : List (List Char)) (isEnded : Bool) : List Char :=
  List.intercalate ['.'] (if isEnded then parts ++ [[]] else parts)

/-- A name in ASCII. -/
def write (name : List Char) : Except Problem (List Char) := do
  let (parts, isEnded) ← labels name
  let words ← parts.mapM writeLabel
  let whole := joined words isEnded
  if (if isEnded then longestName else longestName - 1) < whole.length then throw .nameTooLong
  return whole

/-- What a name in ASCII stands for. -/
def read (name : List Char) : Except Problem (List Char) := do
  let (parts, isEnded) ← labels name
  let parts ← parts.mapM readLabel
  return joined parts isEnded

end Workflow.Domain
