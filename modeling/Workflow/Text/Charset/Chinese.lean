import Workflow.Text.Charset.BigFive
import Workflow.Text.Charset.Cells
import Workflow.Text.Charset.Hanzi
import Workflow.Text.Charset.HongKong

/-! The Chinese characters of two or four bytes. -/

namespace Workflow.Text.Charset

/-- The ideographs that are not in the rows, in the order of their code points. -/
def otherHanzi : Array Char :=
  unlisted 0x4e00 20902 ((hanziRows.drop 15).flatMap String.toList)

def gbkPair (a b : Nat) : Option Char :=
  if 0x81 ≤ a && a ≤ 0xa0 then
    (trail? 0x40 0xfe b).bind fun i => otherHanzi[190 * (a - 0x81) + i]?
  else if 0xb0 ≤ a && a ≤ 0xf7 && 0xa1 ≤ b then inSquare hanziRows a b
  else if 0xa1 ≤ a && a ≤ 0xa9 && 0xa1 ≤ b then inSquare symbolRows a b
  else if 0xaa ≤ a && a ≤ 0xfe then
    (trail? 0x40 0xa0 b).bind fun i =>
      let n := 6080 + 96 * (a - 0xaa) + i
      otherHanzi[n]? <|> inRow lastHanzi (n - 14139)
  else if 0xa8 ≤ a && a ≤ 0xa9 then
    (trail? 0x40 0xa0 b).bind fun i => inRows moreSymbolRows (a - 0xa8) i
  else none

/-- The private code point of a cell in one of the areas for private use. -/
def privateUse? (a b : Nat) : Option Nat :=
  if 0xa1 ≤ b && b ≤ 0xfe then
    if 0xaa ≤ a && a ≤ 0xaf then some (0xe000 + 94 * (a - 0xaa) + (b - 0xa1))
    else if 0xf8 ≤ a && a ≤ 0xfe then some (0xe234 + 94 * (a - 0xf8) + (b - 0xa1))
    else none
  else if 0xa1 ≤ a && a ≤ 0xa7 then (trail? 0x40 0xa0 b).map fun i => 0xe4c6 + 96 * (a - 0xa1) + i
  else none

/-- The trail bytes of the widest Chinese sets. -/
def trails : List Nat := (List.range 191).filterMap fun i => if i = 63 then none else some (64 + i)

/-- Whether the rows and the areas for private use leave a cell empty. -/
def isGap (a b : Nat) : Bool := (gbkPair a b).isNone && (privateUse? a b).isNone

/-- How many empty cells come before a cell. -/
def gapsBefore (a b : Nat) : Nat :=
  (List.range (a - 0xa1)).foldl (fun n i => n + trails.countP fun t => isGap (0xa1 + i) t)
    (trails.countP fun t => t < b && isGap a t)

/-- The code point that an empty cell stands for: a private one, or one of its own. -/
def gapCode (i : Nat) : Nat := ((readEntries publicCodes).lookup (0xe766 + i)).getD (0xe766 + i)

def gb18030Pair (a b : Nat) : Option Char :=
  if a < 0x81 || 0xfe < a || !trails.contains b then none
  else
    match gbkPair a b, privateUse? a b with
    | some c, _ => some c
    | none, some n => charOf n
    | none, none => charOf (gapCode (gapsBefore a b))

/-- The character of four bytes, by their number. -/
def longChar (n : Nat) : Option Char :=
  if n < 39420 then
    ((readEntries longRuns).reverse.find? fun (first, _) => first ≤ n).bind
      fun (first, code) => charOf (code + (n - first))
  else if 189000 ≤ n && n < 189000 + 0x100000 then charOf (0x10000 + (n - 189000))
  else none

def quad (a b c d : Nat) : Option Char :=
  if 0x81 ≤ a && a ≤ 0xfe && 0x81 ≤ c && c ≤ 0xfe && 0x30 ≤ d && d ≤ 0x39 then
    longChar (((a - 0x81) * 10 + (b - 0x30)) * 1260 + (c - 0x81) * 10 + (d - 0x30))
  else none

def bigFiveCell? (a b : Nat) : Option (Nat × Nat) :=
  if a < 0xa1 then none
  else if 0x40 ≤ b && b ≤ 0x7e then some (a - 0xa1, b - 0x40)
  else if 0xa1 ≤ b && b ≤ 0xfe then some (a - 0xa1, b - 0x62)
  else none

def bigFivePair (a b : Nat) : Option Char :=
  (bigFiveCell? a b).bind fun (row, cell) => inRows bigFiveRows row cell

def windows950Pair (a b : Nat) : Option Char :=
  (bigFiveCell? a b).bind fun (row, cell) =>
    match (readEntries otherCells).lookup (157 * row + cell) with
    | some n => charOf n
    | none => inRows bigFiveRows row cell

/-- Letters with two marks, which are no single characters, with their bytes. -/
def hongKongLetters : List ((Nat × Nat) × String) :=
  [((0x88, 0x62), "\u00ca\u0304"), ((0x88, 0x64), "\u00ca\u030c"),
   ((0x88, 0xa3), "\u00ea\u0304"), ((0x88, 0xa5), "\u00ea\u030c")]

/-- Whether the rows of Hong Kong stand in the place of those of the common set. -/
def isReplaced (a b : Nat) : Bool := (0xc7 ≤ a && a ≤ 0xc8) || (a = 0xc6 && 0xa1 ≤ b)

def hongKongPair (a b : Nat) : Option (List Char) :=
  match hongKongLetters.lookup (a, b) with
  | some letter => some letter.toList
  | none =>
    let common := if isReplaced a b then none else bigFivePair a b
    let cell := if b ≤ 0x7e then b - 0x40 else b - 0x62
    let isTrail := (0x40 ≤ b && b ≤ 0x7e) || (0xa1 ≤ b && b ≤ 0xfe)
    (common.or (if isTrail then inNumbered hongKongRows a cell else none)).map fun c => [c]

end Workflow.Text.Charset
