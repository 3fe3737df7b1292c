import Workflow.Text.Charset.Chinese
import Workflow.Text.Charset.Japanese
import Workflow.Text.Charset.Korean

/-! Character sets of seven bits in which some bytes switch from one table of characters to
another. -/

namespace Workflow.Text

open Charset

/-- The tables of characters of one or two bytes. -/
inductive CharTable where
  | ascii
  | roman
  | katakana
  | latin
  | greek
  | kanji
  /-- The kanji of the first edition, which are read like the others. -/
  | oldKanji
  | supplement
  | firstPlane (edition : Edition)
  | secondPlane
  | hangul
  | hanzi
  deriving DecidableEq

namespace CharTable

/-- Whether each character has two bytes, and the byte that names the table. -/
def designation : CharTable → Bool × Char
  | ascii => (false, 'B')
  | roman => (false, 'J')
  | katakana => (false, 'I')
  | latin => (false, 'A')
  | greek => (false, 'F')
  | oldKanji => (true, '@')
  | hanzi => (true, 'A')
  | kanji => (true, 'B')
  | hangul => (true, 'C')
  | supplement => (true, 'D')
  | firstPlane .of2000 => (true, 'O')
  | secondPlane => (true, 'P')
  | firstPlane .of2004 => (true, 'Q')

def isDouble (t : CharTable) : Bool := t.designation.1

/-- What is in a cell of a table with characters of two bytes. -/
def inCell (t : CharTable) (row cell : Nat) : Option (List Char) :=
  let only (c : Option Char) : Option (List Char) := c.map fun c => [c]
  if 94 ≤ cell then none
  else
    match t with
    | kanji | oldKanji => only (inRows kanjiRows row cell)
    | supplement => only (inNumbered supplementRows row cell)
    | firstPlane e =>
      if (row, cell) = (0, 31) then e.inFirst row cell else e.inFirstPlain row cell
    | secondPlane => Edition.of2004.inSecond row cell
    | hangul =>
      if (row, cell) = (3, 51) then some [Char.ofNat 0x3164] else only (inRows hangulRows row cell)
    | hanzi => only (inRows hanziRows row cell)
    | _ => none

/-- The characters of two bytes, or of one when there is no second one. The tables of letters that
stand after others have nothing to be read by themselves. -/
def read? (t : CharTable) (a : Nat) (b : Option Nat) : Option (List Char) :=
  match t, b with
  | ascii, _ => some [Char.ofNat a]
  | roman, _ => some [Charset.roman a]
  | katakana, _ => (narrow? (a + 0x80)).map fun c => [c]
  | t, some b => if 0x21 ≤ a && 0x21 ≤ b then t.inCell (a - 0x21) (b - 0x21) else none
  | _, none => none

/-- The places of the Greek letters that Unicode does not keep as they are in Latin letters, from
0xb4 on. -/
def greekGaps : List Nat := [0xb7, 0xbb, 0xbd, 0xd2]

/-- The signs of the Greek set that are those of the Latin one. -/
def greekSigns : List Nat :=
  [0xa0, 0xa3, 0xa6, 0xa7, 0xa8, 0xa9, 0xab, 0xac, 0xad, 0xb0, 0xb1, 0xb2, 0xb3, 0xb7, 0xbb, 0xbd]

/-- The character of a byte in the Greek set. -/
def greekChar (b : Nat) : Option Char :=
  if b < 0xa0 || greekSigns.contains b then charOf b
  else if 0xb4 ≤ b && b ≤ 0xfe && !greekGaps.contains b then charOf (0x2d0 + b)
  else if b = 0xa1 then charOf 0x2018
  else if b = 0xa2 then charOf 0x2019
  else if b = 0xaf then charOf 0x2015
  else none

end CharTable

/-- The sets that switch, by the tables that they have besides ASCII. -/
inductive Switching where
  /-- A tilde and a brace switch to Chinese and back. -/
  | tildes
  /-- The tables are told by escape sequences. `shifts` tells whether two bytes switch between two
  of them, and `singles` whether one of a third table may stand after an escape. -/
  | escapes (tables : List CharTable) (shifts singles : Bool)
  deriving DecidableEq

namespace Switching

/-- What is to be read next: the tables that are selected, and how. -/
structure State where
  main : CharTable
  other : CharTable
  single : CharTable
  isShifted : Bool
  /-- Whether an unknown escape sequence is read, up to a capital letter or an at sign. -/
  isForeign : Bool

def start : State := ⟨.ascii, .ascii, .ascii, false, false⟩

/-- What the next bytes stand for: some characters, with the state after them and the number of the
bytes; something that lacks bytes; or a character of a table that has none. -/
inductive Step where
  | taken (s : State) (cs : List Char) (count : Nat)
  | waiting
  | broken

/-- Bytes that stand for no character. -/
def wrong (s : State) (count : Nat) : Step := .taken s ['\ufffd'] count

/-- A byte that ends an escape sequence. -/
def isFinal (b : Nat) : Bool := (0x41 ≤ b && b ≤ 0x5a) || b = 0x40

def escape : Nat := 0x1b

/-- The greatest number of bytes of an escape sequence. -/
def longestEscape : Nat := 16

/-- How many bytes an escape sequence has, given the bytes from some place on; none, if it is too
long. Nothing is known when the bytes do not suffice. With `extended` an ampersand, an at sign and
one more byte are passed over. -/
def escapeEnd (extended : Bool) : Nat → Nat → List Nat → Option (Option Nat)
  | 0, _, _ => none
  | fuel + 1, i, bytes =>
    if longestEscape ≤ i then some none
    else
      match bytes with
      | [] => none
      | b :: rest =>
        if isFinal b then some (some (i + 1))
        else if extended && b = 0x26 && rest.head? = some 0x40 then
          escapeEnd extended fuel (i + 3) (rest.drop 2)
        else escapeEnd extended fuel (i + 1) rest

/-- Which of the selected tables an escape sequence changes. -/
inductive Place where
  | main
  | other
  | single

/-- The place that an escape sequence changes, and the name of the table. -/
def designated? (singles extended : Bool) : List Char → Option (Place × Bool × Char)
  | ['$', c] => some (.main, true, c)
  | ['(', c] => some (.main, false, c)
  | [')', c] => some (.other, false, c)
  | ['.', c] => if singles then some (.single, false, c) else none
  | ['$', '(', c] => some (.main, true, c)
  | ['$', ')', c] => some (.other, true, c)
  | [_, _, '\x1b', '$', 'B'] => if extended then some (.main, true, 'B') else none
  | _ => none

def State.select (s : State) (place : Place) (t : CharTable) : State :=
  match place with
  | .main => { s with main := t }
  | .other => { s with other := t }
  | .single => { s with single := t }

/-- Reads an escape sequence that selects a table. -/
def selecting (tables : List CharTable) (singles extended : Bool) (s : State)
    (bytes : List Nat) : Step :=
  match escapeEnd extended longestEscape 1 (bytes.drop 1) with
  | none => .waiting
  | some none => wrong s 1
  | some (some count) =>
    match designated? singles extended (((bytes.take count).drop 1).map Char.ofNat) with
    | none => wrong s count
    | some (place, designation) =>
      match (CharTable.ascii :: tables).find? fun t => t.designation = designation with
      | some t => .taken (s.select place t) [] count
      | none => wrong s count

/-- Reads one character of the third table. -/
def singleChar (s : State) (b : Nat) : Step :=
  let high := if b < 0x80 then b + 0x80 else b - 0x80
  let step : Option Char → Step
    | some c => .taken s [c] 3
    | none => wrong s 3
  match s.single with
  | .latin => step (if b < 0x80 then charOf (b + 0x80) else none)
  | .greek => step (CharTable.greekChar high)
  | .ascii => step (if b < 0x80 then charOf b else none)
  | _ => .broken

/-- Reads a character of the table that is selected. `size` is the number of bytes that are replaced
when two of them stand for no character. -/
def ofTable (size : Nat) (s : State) (a : Nat) (rest : List Nat) : Step :=
  let t := if s.isShifted then s.other else s.main
  if !t.isDouble then
    match t.read? a none with
    | some cs => .taken s cs 1
    | none => wrong s 1
  else
    match rest with
    | [] => .waiting
    | b :: _ =>
      match t.read? a (some b) with
      | some cs => .taken s cs 2
      | none => wrong s size

/-- Bytes that select escape sequences rather than foreign ones: parentheses, a dollar sign, a point
and an ampersand. -/
def startsSelection (b : Nat) : Bool := [0x28, 0x29, 0x24, 0x2e, 0x26].contains b

/-- Reads what bytes start with when escape sequences select tables. -/
def escapeStep (tables : List CharTable) (shifts singles : Bool) (s : State) (a : Nat)
    (rest : List Nat) : Step :=
  let itself := [Char.ofNat a]
  if s.isForeign then .taken { s with isForeign := !isFinal a } itself 1
  else if a = escape then
    match rest with
    | [] => .waiting
    | b :: more =>
      if startsSelection b then selecting tables singles (!shifts) s (a :: rest)
      else if singles && b = 0x4e then
        match more with
        | [] => .waiting
        | c :: _ => singleChar s c
      else .taken { s with isForeign := true } itself 1
  else if shifts && a = 0x0f then .taken { s with isShifted := false } [] 1
  else if shifts && a = 0x0e then .taken { s with isShifted := true } [] 1
  else if a = 0x0a then .taken { s with isShifted := false } itself 1
  else if a < 0x20 then .taken s itself 1
  else if 0x80 ≤ a then wrong s 1
  else ofTable 2 s a rest

/-- Reads what bytes start with when tildes switch. -/
def tildeStep (s : State) (a : Nat) (rest : List Nat) : Step :=
  let isPlain := s.main = .ascii
  if a = 0x7e then
    match rest with
    | [] => .waiting
    | b :: _ =>
      if b = 0x7e && isPlain then .taken s ['~'] 2
      else if b = 0x7b && isPlain then .taken { s with main := .hanzi } [] 2
      else if b = 0x0a && isPlain then .taken s [] 2
      else if b = 0x7d && !isPlain then .taken { s with main := .ascii } [] 2
      else wrong s 1
  else if 0x80 ≤ a then wrong s 1
  else ofTable 1 s a rest

/-- Reads what bytes start with. -/
def step (set : Switching) (s : State) (a : Nat) (rest : List Nat) : Step :=
  match set with
  | tildes => tildeStep s a rest
  | escapes tables shifts singles => escapeStep tables shifts singles s a rest

/-- How reading ends before the end of the bytes. -/
inductive Halt where
  /-- More bytes wait for others than can be kept. -/
  | overflow
  | broken

/-- How many bytes can wait for others. -/
def longestWait : Nat := 8

/-- The characters of at most so many bytes. -/
def charsFrom (set : Switching) : Nat → State → List Nat → Except Halt (List Char)
  | fuel + 1, s, a :: rest =>
    match set.step s a rest with
    | .taken s cs count =>
      (charsFrom set fuel s ((a :: rest).drop count)).map (cs ++ ·)
    | .waiting => if longestWait < (a :: rest).length then .error .overflow else .ok ['\ufffd']
    | .broken => .error .broken
  | _, _, _ => .ok []

/-- The characters of some bytes. -/
def chars (set : Switching) (bytes : List Nat) : Except Halt (List Char) :=
  charsFrom set bytes.length start bytes

end Switching

end Workflow.Text
