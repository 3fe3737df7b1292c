import Workflow.Text.Blank
import Workflow.Text.Charset.Names
import Workflow.Text.Coded
import Workflow.Text.Decimal
import Workflow.Text.Encoding

/-! The type of some content with its parameters. A value may stand in quotes; a name with a star
stands for an encoded value, and one with a star and a number for a part of a value. -/

namespace Workflow.Http

open Text (Charset cutAt splitAtEach trimBlank asciiDigit? isAsciiChar)

/-- Cuts at each semicolon that is not in quotes. `part` is the current part in reverse; a quote
after a backslash does not count. -/
def cutParts (isQuoted : Bool) (part : List Char) : List Char → List (List Char)
  | [] => [part.reverse]
  | c :: rest =>
    if c = ';' && !isQuoted then part.reverse :: cutParts false [] rest
    else
      let isQuote := c = '"' && part.head? != some '\\'
      cutParts (isQuoted != isQuote) (c :: part) rest

/-- A text without its escapes: a backslash before a backslash is dropped, and then one before each
quote. -/
def unescaped (cs : List Char) : List Char :=
  let rec halved : List Char → List Char
    | '\\' :: '\\' :: rest => '\\' :: halved rest
    | c :: rest => c :: halved rest
    | [] => []
  let rec opened : List Char → List Char
    | '\\' :: '"' :: rest => '"' :: opened rest
    | c :: rest => c :: opened rest
    | [] => []
  opened (halved cs)

/-- A value without the quotes or angle brackets around it. -/
def unquoted (cs : List Char) : List Char :=
  let inner := (cs.drop 1).dropLast
  if cs.length < 2 then cs
  else if cs.head? = some '"' && cs.getLast? = some '"' then unescaped inner
  else if cs.head? = some '<' && cs.getLast? = some '>' then inner
  else cs

/-- A parameter: its name, in lower case if a value follows it, and its value. -/
structure Parameter where
  name : List Char
  value : List Char

def Parameter.read (part : List Char) : Parameter :=
  let (name, value) := cutAt '=' part
  let name := trimBlank name
  ⟨if part.contains '=' then name.map Char.toLower else name, unquoted (trimBlank value)⟩

/-- Whether a name is the name of a parameter in lower case or in another form. -/
def isNamed (name : String) (own : List Char) : Bool := String.ofList (own.map Char.toLower) = name

/-- Why the parameters of a type cannot be read. -/
inductive ParameterFlaw where
  /-- Of the pieces of one value some have numbers and some have none, so that they are in no order.
  It is told whether the first one that differs from those before it has a number. -/
  | unordered (isNumbered : Bool)
  /-- The name of a character set holds a zero. -/
  | zeroInName
  /-- The name of a character set is spelled in a set in which it cannot be read. -/
  | spelling (refusal : Text.CharsetRefusal)
  deriving DecidableEq

def ParameterFlaw.message : ParameterFlaw → String
  | unordered isNumbered =>
    let (later, earlier) := if isNumbered then ("int", "NoneType") else ("NoneType", "int")
    "'<' not supported between instances of '" ++ later ++ "' and '" ++ earlier ++ "'"
  | zeroInName => "embedded null character"
  | spelling refusal => refusal.message

/-- The name of the kind of a flaw. -/
def ParameterFlaw.name : ParameterFlaw → String
  | unordered _ => "TypeError"
  | zeroInName => "ValueError"
  | spelling refusal => refusal.name

/-- A part of a value: the name of the value, the number of the part, if it has one, its text, and
whether it is encoded. -/
structure Piece where
  name : List Char
  number : Option Nat
  text : List Char
  isEncoded : Bool

/-- Whether a piece comes before another: pieces are in the order of their numbers, then of their
texts, and those that are encoded are last. -/
def Piece.precedes (p q : Piece) : Bool :=
  let rank (p : Piece) : Nat := p.number.getD 0
  rank p < rank q ||
    (rank p = rank q &&
      (String.ofList p.text < String.ofList q.text ||
        (p.text = q.text && (!p.isEncoded || q.isEncoded))))

/-- Characters of the names of values that may be in pieces. -/
def isNameChar (c : Char) : Bool := isAsciiChar c && (c.isAlphanum || c = '_')

/-- The piece that a parameter is. -/
def Parameter.piece? (p : Parameter) : Option Piece :=
  let (own, mark) := cutAt '*' p.name
  if own.isEmpty || !own.all isNameChar || !p.name.contains '*' then none
  else
    let isEncoded := p.name.getLast? = some '*'
    match Text.spanDigits asciiDigit? mark with
    | ([], []) => some ⟨own, none, p.value, true⟩
    | ([], _) => none
    | (ds, rest) =>
      if rest = [] || rest = ['*'] then some ⟨own, some (Text.ofDigits ds), p.value, isEncoded⟩
      else none

/-- What keeps some pieces of one value from being in order. -/
def disorder? (pieces : List Piece) : Option ParameterFlaw :=
  match pieces with
  | [] => none
  | p :: rest =>
    (rest.find? fun q => q.number.isSome != p.number.isSome).map fun q =>
      .unordered q.number.isSome

/-- What keeps the pieces of some value from being in order. -/
def anyDisorder? (pieces : List Piece) : Option ParameterFlaw :=
  pieces.findSome? fun p => disorder? (pieces.filter fun q => q.name = p.name)

/-- An encoded value: a character set, a language and a text with apostrophes between them, or a
text alone, which is in ASCII. The text is kept as it is when it cannot be read. -/
def readEncoded (cs : List Char) : Except ParameterFlaw (List Char) :=
  let (set, rest) := cutAt '\'' cs
  let (_, text) := cutAt '\'' rest
  let isTold := 2 ≤ cs.count '\''
  let text := if isTold then text else cs
  let set := if isTold && !set.isEmpty then set else "us-ascii".toList
  if set.contains '\x00' then .error .zeroInName
  else
    match Charset.ofName? (String.ofList set) with
    | none => .ok text
    | some charset =>
      match charset.decodeWhole (text.map Char.toNat) with
      | .ok s => .ok (if s.toList.contains Charset.replacement then text else s.toList)
      | .error .broken => .error (.spelling .broken)
      | .error _ => .ok text

/-- The value that some pieces are together. A piece that is encoded has percent codes, each for
one character. -/
def joinPieces (pieces : List Piece) : Except ParameterFlaw (List Char) :=
  let sorted := pieces.mergeSort Piece.precedes
  let text := sorted.flatMap fun p =>
    if p.isEncoded then (Text.percentDecoded p.text).map Char.ofNat else p.text
  if sorted.any Piece.isEncoded then readEncoded text else .ok text

/-- The value of a parameter of a content type. One that stands plainly goes before one in
pieces. The pieces of every value have to be in order. -/
def parameter? (name contentType : String) : Except ParameterFlaw (Option (List Char)) :=
  let parameters := (cutParts false [] contentType.toList).map Parameter.read
  let pieces := (parameters.drop 1).filterMap Parameter.piece?
  match anyDisorder? pieces with
  | some flaw => .error flaw
  | none =>
    match parameters.find? fun p => isNamed name p.name with
    | some p => .ok (some p.value)
    | none =>
      match pieces.find? fun p => isNamed name p.name with
      | none => .ok none
      | some first => (joinPieces (pieces.filter fun p => p.name = first.name)).map some

/-- The character set that a content type names; UTF-8, if it names none that is known. -/
def charset (contentType : String) : Except ParameterFlaw Charset := do
  match ← parameter? "charset" contentType with
  | some name =>
    if !name.all isAsciiChar then return .utf8
    if name.contains '\x00' then throw .zeroInName
    return (Charset.ofName? (String.ofList name)).getD .utf8
  | none => return .utf8

end Workflow.Http
