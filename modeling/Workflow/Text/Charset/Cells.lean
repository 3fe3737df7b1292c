import Workflow.Text.Runs

/-! Tables of characters in rows of cells. A point stands for an empty cell, and what is missing at
the end of a row is empty. -/

namespace Workflow.Text.Charset

/-- The character in a cell of a row. -/
def inRow (row : String) (i : Nat) : Option Char := row.toList[i]?.filter (· ≠ '.')

/-- The character in a cell of some rows. -/
def inRows (rows : List String) (row cell : Nat) : Option Char := rows[row]?.bind (inRow · cell)

/-- The character in a cell of rows that are listed with their numbers. -/
def inNumbered (rows : List (Nat × String)) (row cell : Nat) : Option Char :=
  (rows.lookup row).bind (inRow · cell)

/-- The place of a trail byte among the bytes from `first` to `last`, of which 0x7f is none. -/
def trail? (first last b : Nat) : Option Nat :=
  if first ≤ b && b ≤ last && b ≠ 0x7f then some (if b < 0x7f then b - first else b - first - 1)
  else none

/-- The row and the cell, out of 94, of two high bytes. -/
def square? (a b : Nat) : Option (Nat × Nat) :=
  if 0xa1 ≤ a && 0xa1 ≤ b && b ≤ 0xfe then some (a - 0xa1, b - 0xa1) else none

/-- The character of two high bytes in rows of 94. -/
def inSquare (rows : List String) (a b : Nat) : Option Char :=
  (square? a b).bind fun (row, cell) => inRows rows row cell

/-- The character of a code point. -/
def charOf (n : Nat) : Option Char := some (Char.ofNat n)

/-- The characters from a code point on, so many of them, that are not listed. -/
def unlisted (start count : Nat) (listed : List Char) : Array Char :=
  let marks := listed.foldl
    (fun (marks : Array Bool) c => marks.setIfInBounds (c.toNat - start) true)
    (Array.replicate count false)
  ((List.range count).filterMap fun i =>
    if marks[i]?.getD true then none else charOf (start + i)).toArray

/-- Numbers in hexadecimal with a colon between them. -/
def readEntry (word : List Char) : Nat × Nat :=
  ((ofHexDigits (cutAt ':' word).1), ofHexDigits (cutAt ':' word).2)

def readEntries (lines : List String) : List (Nat × Nat) :=
  lines.flatMap fun line => (splitAtEach ' ' line.toList).map readEntry

end Workflow.Text.Charset
