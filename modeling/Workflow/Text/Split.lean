/-! Texts taken apart at a mark, and texts inside texts. -/

namespace Workflow.Text

/-- The parts between the occurrences of a mark. -/
def splitAtEach (mark : Char) : List Char → List (List Char)
  | [] => [[]]
  | c :: rest =>
    match splitAtEach mark rest with
    | [] => [[c]]
    | part :: parts => if c = mark then [] :: part :: parts else (c :: part) :: parts

/-- What stands before the first occurrence of a mark, and what stands after it. -/
def cutAt (mark : Char) (cs : List Char) : List Char × List Char :=
  (cs.takeWhile (· ≠ mark), (cs.dropWhile (· ≠ mark)).drop 1)

/-- Whether some text stands inside another. -/
def occursIn (part : List Char) : List Char → Bool
  | [] => part.isEmpty
  | c :: rest => part.isPrefixOf (c :: rest) || occursIn part rest

/-- The characters at which lines end. -/
def isLineEnd (c : Char) : Bool :=
  ['\n', '\r', '\x0b', '\x0c', '\x1c', '\x1d', '\x1e', '\u0085', '\u2028', '\u2029'].contains c

/-- The lines of a text whose first one has begun with `line`, given in reverse. A carriage return
and the line feed after it are one line end, and nothing follows the last one. -/
def linesFrom (line : List Char) : List Char → List String
  | [] => if line.isEmpty then [] else [String.ofList line.reverse]
  | '\r' :: '\n' :: rest => String.ofList line.reverse :: linesFrom [] rest
  | c :: rest =>
    if isLineEnd c then String.ofList line.reverse :: linesFrom [] rest
    else linesFrom (c :: line) rest

/-- The lines of a text. -/
def lines (s : String) : List String := linesFrom [] s.toList

theorem splitAtEach_ne_nil (mark : Char) (cs : List Char) : splitAtEach mark cs ≠ [] := by
  induction cs with
  | nil => simp [splitAtEach]
  | cons c rest ih =>
      cases h : splitAtEach mark rest with
      | nil => exact absurd h ih
      | cons part parts => by_cases hc : c = mark <;> simp [splitAtEach, h, hc]

end Workflow.Text
