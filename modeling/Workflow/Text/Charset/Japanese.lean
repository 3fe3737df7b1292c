import Workflow.Text.Charset.Cells
import Workflow.Text.Charset.Extended
import Workflow.Text.Charset.Kanji
import Workflow.Text.Charset.Supplement

/-! The Japanese characters of two or three bytes. -/

namespace Workflow.Text.Charset

/-- The row and the cell of two bytes, when a lead byte stands for two rows. -/
def doubled? (a b : Nat) : Option (Nat × Nat) :=
  (trail? 0x40 0xfc b).map fun i =>
    let row := 2 * (if a < 0xa0 then a - 0x81 else a - 0xc1)
    if i < 94 then (row, i) else (row + 1, i - 94)

def shiftJisPair (a b : Nat) : Option Char :=
  (doubled? a b).bind fun (row, cell) => inRows kanjiRows row cell

/-- Cells of the first row with a form of their own, with their code points. -/
def wideForms : List (Nat × Nat) :=
  [(32, 0xff5e), (33, 0x2225), (60, 0xff0d), (80, 0xffe0), (81, 0xffe1), (137, 0xffe2)]

def windows932Pair (a b : Nat) : Option Char :=
  match doubled? a b with
  | none => none
  | some (row, cell) =>
    if 0xf0 ≤ a && a ≤ 0xf9 then charOf (0xe000 + 188 * (a - 0xf0) + 94 * (row % 2) + cell)
    else
      match wideForms.lookup (94 * row + cell), addedKanjiRows.lookup row with
      | some n, _ => charOf n
      | none, some added => inRow added cell
      | none, none => inRows kanjiRows row cell

/-- The narrow forms of the syllables. -/
def narrow? (b : Nat) : Option Char :=
  if 0xa1 ≤ b && b ≤ 0xdf then charOf (0xfec0 + b) else none

/-- A byte in the Roman letters of Japan, which have two signs of their own. -/
def roman (b : Nat) : Char := if b = 0x5c then '¥' else if b = 0x7e then '‾' else Char.ofNat b

def eucJpPair (a b : Nat) : Option Char := if a = 0x8e then narrow? b else inSquare kanjiRows a b

/-- The character of two high bytes in the supplement. -/
def supplementPair (a b : Nat) : Option Char :=
  (square? a b).bind fun (row, cell) => inNumbered supplementRows row cell

/-- The editions of the set of two planes. -/
inductive Edition where
  | of2000
  | of2004
  deriving DecidableEq

/-- Cells of the first plane that only the later edition has. -/
def laterCells : List (Nat × Nat) :=
  [(13, 0), (14, 93), (46, 51), (46, 93), (83, 6), (93, 89), (93, 90), (93, 91), (93, 92),
   (93, 93)]

namespace Edition

/-- Whether the first plane of an edition lacks a cell. -/
def lacks (e : Edition) (row cell : Nat) : Bool := e = of2000 && laterCells.contains (row, cell)

/-- What is in a cell of the first plane. -/
def inFirst (e : Edition) (row cell : Nat) : Option (List Char) :=
  if e.lacks row cell then none
  else
    match markedLetters.lookup (row, cell) with
    | some letter => some letter.toList
    | none =>
      ((inRows kanjiRows row cell).or (inNumbered firstPlaneRows row cell)).map fun c => [c]

/-- What is in a cell of the first plane, of which two hold a backslash and a tilde. -/
def inFirstPlain (e : Edition) (row cell : Nat) : Option (List Char) :=
  if (row, cell) = (0, 31) then some ['\\']
  else if (row, cell) = (1, 17) then some ['~']
  else e.inFirst row cell

/-- What is in a cell of the second plane. One character has another form in the first edition. -/
def inSecond (e : Edition) (row cell : Nat) : Option (List Char) :=
  if e = of2000 && (row, cell) = (92, 26) then some [Char.ofNat 0x9b1d]
  else (inNumbered secondPlaneRows row cell).map fun c => [c]

/-- The row of the second plane that the number of a row after the first plane stands for. -/
def secondRow (n : Nat) : Nat :=
  if 0x67 ≤ n then n + 7 - 0x21
  else if 0x63 ≤ n || n = 0x5f then n - 0x37 - 0x21
  else n - 0x3d - 0x21

/-- The characters of two bytes, when a lead byte stands for two rows of either plane. -/
def shiftPair (e : Edition) (a b : Nat) : Option (List Char) :=
  (doubled? a b).bind fun (row, cell) =>
    if row < 94 then e.inFirstPlain row cell else e.inSecond (secondRow row) cell

/-- The characters of two high bytes in the first plane. -/
def eucPair (e : Edition) (a b : Nat) : Option (List Char) :=
  if a = 0x8e then (narrow? b).map fun c => [c]
  else (square? a b).bind fun (row, cell) => e.inFirst row cell

/-- The characters of two high bytes in the second plane, or else in the supplement. -/
def eucTriple (e : Edition) (a b : Nat) : Option (List Char) :=
  (square? a b).bind fun (row, cell) =>
    (e.inSecond row cell).or ((inNumbered supplementRows row cell).map fun c => [c])

end Edition

end Workflow.Text.Charset
