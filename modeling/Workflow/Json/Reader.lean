import Workflow.Text.Decimal
import Workflow.Text.Digit
import Workflow.Value.Basic

/-! Reading JSON texts. Integers, of which only the number of digits is limited, and floating-point
numbers are kept apart, `NaN` and the infinities are accepted, and of two members under one key the
later value stands at the earlier place, unless all of them are asked for. A text that is no
document is refused with the place of the first fault. -/

namespace Workflow.Json

open Text

/-- What is wrong at a place of a text. -/
inductive Problem where
  | expectedValue
  | expectedKey
  | expectedColon
  | expectedComma
  | extraData
  | unterminated
  | controlCharacter
  | badEscape
  | badUnicodeEscape
  | byteOrderMark
  | loneSurrogate
  | tooDeep
  | longInteger (digits : Nat)
  deriving DecidableEq

def Problem.message : Problem → String
  | .expectedValue => "Expecting value"
  | .expectedKey => "Expecting property name enclosed in double quotes"
  | .expectedColon => "Expecting ':' delimiter"
  | .expectedComma => "Expecting ',' delimiter"
  | .extraData => "Extra data"
  | .unterminated => "Unterminated string starting at"
  | .controlCharacter => "Invalid control character at"
  | .badEscape => "Invalid \\escape"
  | .badUnicodeEscape => "Invalid \\uXXXX escape"
  | .byteOrderMark => "Unexpected UTF-8 BOM (decode using utf-8-sig)"
  | .loneSurrogate => "Lone surrogate in escape"
  | .tooDeep => "Nesting too deep"
  | .longInteger digits => longMessage (some digits)

/-- The text is no document. One with an integer that is too long may be a document none the less.
-/
def Problem.isOfSyntax : Problem → Bool
  | .longInteger _ => false
  | _ => true

/-- A problem, and how many characters of the text were left where it was met. -/
structure Fault where
  problem : Problem
  left : Nat
  deriving DecidableEq

/-- What a reader lets pass: escapes for half of a surrogate pair, which then stand for the
replacement character, how deep lists and objects that hold something may be nested, if there is a
limit, whether all members under one key are kept, and whether the sign of an integer counts among
its digits. -/
structure Rules where
  loneSurrogates : Bool
  depth : Option Nat
  keepsRepeated : Bool
  countsSign : Bool

/-- The members of an object as they are kept. -/
def Rules.members (rules : Rules) (ms : List (String × Value)) : List (String × Value) :=
  if rules.keepsRepeated then ms else Table.ofList ms

/-- Refuses a text at the place where `rest` is left of it. -/
def fail {α : Type} (problem : Problem) (rest : List Char) : Except Fault α :=
  .error ⟨problem, rest.length⟩

def isGap (c : Char) : Bool := c == ' ' || c == '\t' || c == '\n' || c == '\r'

def skipGap (cs : List Char) : List Char := cs.dropWhile isGap

/-- The character that a one-letter escape stands for. -/
def shortEscape? : Char → Option Char
  | '"' => some '"'
  | '\\' => some '\\'
  | '/' => some '/'
  | 'b' => some '\x08'
  | 'f' => some '\x0c'
  | 'n' => some '\n'
  | 'r' => some '\r'
  | 't' => some '\t'
  | _ => none

/-- The number of four hexadecimal digits. -/
def hexUnit? : List Char → Option (Nat × List Char)
  | a :: b :: c :: d :: rest => do
    let a ← hexValue? a
    let b ← hexValue? b
    let c ← hexValue? c
    let d ← hexValue? d
    some (((a * 16 + b) * 16 + c) * 16 + d, rest)
  | _ => none

def isHighSurrogate (u : Nat) : Bool := 0xd800 ≤ u && u < 0xdc00

def isLowSurrogate (u : Nat) : Bool := 0xdc00 ≤ u && u < 0xe000

def replacement : Char := '\ufffd'

/-- The character of one unit that is no half of a pair; a half stands for the replacement
character. -/
def ofUnit (u : Nat) : Char :=
  if isHighSurrogate u || isLowSurrogate u then replacement else Char.ofNat u

/-- One unit read after the letter of its escape; `start` is the text from that letter on. A digit
has to be followed by some character, be it the closing quote. -/
def readUnit (start digits : List Char) : Except Fault (Nat × List Char) :=
  match hexUnit? digits with
  | some (u, c :: rest) => .ok (u, c :: rest)
  | _ => fail .badUnicodeEscape start

/-- The character of a numbered escape, which may be made of two escapes for the halves of a
surrogate pair. -/
def readUnicode (rules : Rules) (start digits : List Char) :
    Except Fault (Char × List Char) := do
  let (u, rest) ← readUnit start digits
  if isHighSurrogate u then
    match rest with
    | '\\' :: 'u' :: more =>
      if 4 < more.length then
        let (w, after) ← readUnit ('u' :: more) more
        if isLowSurrogate w then
          return (Char.ofNat (0x10000 + (u - 0xd800) * 0x400 + (w - 0xdc00)), after)
    | _ => pure ()
  if rules.loneSurrogates || !(isHighSurrogate u || isLowSurrogate u) then
    return (ofUnit u, rest)
  fail .loneSurrogate start

/-- The characters of a text up to its closing quote; `start` is where its opening quote stands. -/
def readChars (rules : Rules) (start : List Char) :
    Nat → List Char → Except Fault (List Char × List Char)
  | 0, cs => fail .unterminated cs
  | fuel + 1, cs =>
    match cs with
    | [] => fail .unterminated start
    | '"' :: rest => .ok ([], rest)
    | ['\\'] => fail .unterminated start
    | '\\' :: 'u' :: digits => do
      let (c, rest) ← readUnicode rules ('u' :: digits) digits
      let (more, rest) ← readChars rules start fuel rest
      return (c :: more, rest)
    | '\\' :: e :: rest =>
      match shortEscape? e with
      | none => fail .badEscape cs
      | some c => do
        let (more, rest) ← readChars rules start fuel rest
        return (c :: more, rest)
    | c :: rest =>
      if c.toNat ≤ 0x1f then fail .controlCharacter cs
      else do
        let (more, rest) ← readChars rules start fuel rest
        return (c :: more, rest)

/-- A text in quotes, read from after the opening quote. -/
def readText (rules : Rules) (body : List Char) : Except Fault (String × List Char) := do
  let (cs, rest) ← readChars rules ('"' :: body) (body.length + 1) body
  return (String.ofList cs, rest)

/-- A fraction part, if one stands here. -/
def spanFraction : List Char → Option (List Nat) × List Char
  | '.' :: rest =>
    match spanDigits asciiDigit? rest with
    | ([], _) => (none, '.' :: rest)
    | (ds, rest) => (some ds, rest)
  | cs => (none, cs)

/-- An exponent part, if one stands here. -/
def spanExponent : List Char → Option Int × List Char
  | c :: rest =>
    if c == 'e' || c == 'E' then
      let (negative, body) := spanSign rest
      match spanDigits asciiDigit? body with
      | ([], _) => (none, c :: rest)
      | (ds, after) => (some (if negative then -(ofDigits ds : Int) else ofDigits ds), after)
    else (none, c :: rest)
  | [] => (none, [])

/-- The digits of a whole number: a zero alone or a run that does not start with zero. -/
def spanWhole : List Char → List Nat × List Char
  | '0' :: rest => ([0], rest)
  | cs => spanDigits asciiDigit? cs

/-- How much an integer takes of the digits that it may have. -/
def Rules.lengthOf (rules : Rules) (negative : Bool) (whole : List Nat) : Nat :=
  if rules.countsSign && negative then whole.length + 1 else whole.length

/-- A number: an integer unless it has a fraction or an exponent part. -/
def readNumber (rules : Rules) (cs : List Char) : Except Fault (Value × List Char) :=
  let (negative, body) := match cs with
    | '-' :: rest => (true, rest)
    | _ => (false, cs)
  match spanWhole body with
  | ([], _) => fail .expectedValue cs
  | (whole, rest) =>
    let (fraction, rest) := spanFraction rest
    let (exponent, rest) := spanExponent rest
    match fraction, exponent with
    | none, none =>
      if digitLimit < rules.lengthOf negative whole then fail (.longInteger whole.length) cs
      else .ok (.int (if negative then -(ofDigits whole : Int) else ofDigits whole), rest)
    | _, _ =>
      .ok (.double (Double.ofParts negative whole (fraction.getD []) (exponent.getD 0)), rest)

/-- The words for constants. -/
def constants : List (String × Value) :=
  [("null", .null), ("true", .bool true), ("false", .bool false), ("NaN", .double .nan),
   ("Infinity", .double (.infinite false)), ("-Infinity", .double (.infinite true))]

/-- What follows a word at the front of a text. -/
def afterWord? : List Char → List Char → Option (List Char)
  | [], cs => some cs
  | w :: word, c :: cs => if w = c then afterWord? word cs else none
  | _ :: _, [] => none

/-- A constant at the front of a text. -/
def readConstant? (cs : List Char) : Option (Value × List Char) :=
  constants.findSome? fun (word, v) => (afterWord? word.toList cs).map (v, ·)

/-- A number or a constant. -/
def readAtom (rules : Rules) (cs : List Char) : Except Fault (Value × List Char) :=
  match readConstant? cs with
  | some found => .ok found
  | none => readNumber rules cs

/-- One level deeper, if the rules allow it. -/
def Rules.inner (rules : Rules) (rest : List Char) : Except Fault Rules :=
  match rules.depth with
  | none => .ok rules
  | some 0 => .error ⟨.tooDeep, rest.length⟩
  | some (n + 1) => .ok { rules with depth := some n }

mutual

def readValue : Nat → Rules → List Char → Except Fault (Value × List Char)
  | 0, _, cs => fail .expectedValue cs
  | fuel + 1, rules, cs =>
    match cs with
    | '"' :: body => do
      let (s, rest) ← readText rules body
      return (.text s, rest)
    | '[' :: body =>
      match skipGap body with
      | ']' :: rest => return (.list [], rest)
      | body => do
        let rules ← rules.inner body
        let (vs, rest) ← readItems fuel rules body
        return (.list vs, rest)
    | '{' :: body =>
      match skipGap body with
      | '}' :: rest => return (.object [], rest)
      | body => do
        let rules ← rules.inner body
        let (ms, rest) ← readMembers fuel rules body
        return (.object (rules.members ms), rest)
    | _ => readAtom rules cs

/-- The elements of a list from one of them up to the closing bracket. -/
def readItems : Nat → Rules → List Char → Except Fault (List Value × List Char)
  | 0, _, cs => fail .expectedValue cs
  | fuel + 1, rules, cs => do
    let (v, rest) ← readValue fuel rules cs
    match skipGap rest with
    | ']' :: rest => return ([v], rest)
    | ',' :: rest => do
      let (vs, rest) ← readItems fuel rules (skipGap rest)
      return (v :: vs, rest)
    | rest => fail .expectedComma rest

/-- The members of an object from the key of one of them up to the closing brace. -/
def readMembers :
    Nat → Rules → List Char → Except Fault (List (String × Value) × List Char)
  | 0, _, cs => fail .expectedKey cs
  | fuel + 1, rules, cs =>
    match cs with
    | '"' :: body => do
      let (k, rest) ← readText rules body
      match skipGap rest with
      | ':' :: rest => do
        let (v, rest) ← readValue fuel rules (skipGap rest)
        match skipGap rest with
        | '}' :: rest => return ([(k, v)], rest)
        | ',' :: rest => do
          let (ms, rest) ← readMembers fuel rules (skipGap rest)
          return ((k, v) :: ms, rest)
        | rest => fail .expectedComma rest
      | rest => fail .expectedColon rest
    | _ => fail .expectedKey cs

end

/-- A document: one value with gaps around it. -/
def readDocument (rules : Rules) (cs : List Char) : Except Fault Value := do
  if cs.head? = some '\ufeff' then throw ⟨.byteOrderMark, cs.length⟩
  let (v, rest) ← readValue (2 * cs.length + 2) rules (skipGap cs)
  match skipGap rest with
  | [] => return v
  | rest => throw ⟨.extraData, rest.length⟩

/-- Where a text is faulty. Lines and columns count from one, the offset from zero. -/
structure ReadError where
  problem : Problem
  line : Nat
  column : Nat
  offset : Nat
  deriving DecidableEq

/-- Line and column after some characters. -/
def position (cs : List Char) : Nat × Nat :=
  cs.foldl (fun (line, column) c => if c = '\n' then (line + 1, 1) else (line, column + 1)) (1, 1)

def Fault.locate (cs : List Char) (fault : Fault) : ReadError :=
  let offset := cs.length - fault.left
  let (line, column) := position (cs.take offset)
  ⟨fault.problem, line, column, offset⟩

namespace ReadError

def message (e : ReadError) : String :=
  if e.problem.isOfSyntax then
    s!"{e.problem.message}: line {e.line} column {e.column} (char {e.offset})"
  else e.problem.message

def name (e : ReadError) : String :=
  if e.problem.isOfSyntax then "JSONDecodeError" else "ValueError"

end ReadError

/-- Reads a document. -/
def read (s : String) : Except ReadError Value :=
  (readDocument ⟨true, none, false, false⟩ s.toList).mapError (Fault.locate s.toList)

/-- Reads a document by the stricter rules for files: no half of a surrogate pair, lists and objects
nested at most two hundred deep, and integers whose sign counts among their digits. All members of
its objects are kept, also those under one key. -/
def readStrict? (s : String) : Option Value :=
  (readDocument ⟨false, some 200, true, true⟩ s.toList).toOption

end Workflow.Json
