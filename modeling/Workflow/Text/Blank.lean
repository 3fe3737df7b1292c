/-! Blank characters, and cutting them off either end of a text. -/

namespace Workflow.Text

/-- First and last code point of each run of blank characters: the spaces and line ends of
the Unicode standard, with the four ASCII information separators. -/
def blankRuns : List (Nat × Nat) :=
  [(0x9, 0xd), (0x1c, 0x20), (0x85, 0x85), (0xa0, 0xa0), (0x1680, 0x1680), (0x2000, 0x200a),
   (0x2028, 0x2029), (0x202f, 0x202f), (0x205f, 0x205f), (0x3000, 0x3000)]

/-- Whether a code point lies in one of the runs. -/
def inRuns (runs : List (Nat × Nat)) (n : Nat) : Bool :=
  runs.any fun (first, last) => first ≤ n && n ≤ last

def isBlank (c : Char) : Bool := inRuns blankRuns c.toNat

/-- The blanks without the four information separators; these may stand around a numeral. -/
def isSpace (c : Char) : Bool := isBlank c && !(0x1c ≤ c.toNat && c.toNat ≤ 0x1f)

/-- Drops the leading characters of a class. -/
def dropFront (p : Char → Bool) (cs : List Char) : List Char := cs.dropWhile p

/-- Drops the trailing characters of a class. -/
def dropBack (p : Char → Bool) (cs : List Char) : List Char :=
  (cs.reverse.dropWhile p).reverse

/-- The characters between the first and the last one that is not blank. -/
def trimBlank (cs : List Char) : List Char := dropBack isBlank (dropFront isBlank cs)

/-- The characters between the first and the last one that is not a space. -/
def trimSpace (cs : List Char) : List Char := dropBack isSpace (dropFront isSpace cs)

/-- A text without the blanks at its ends. -/
def strip (s : String) : String := String.ofList (trimBlank s.toList)

theorem isBlank_space : isBlank ' ' = true := by decide

end Workflow.Text
