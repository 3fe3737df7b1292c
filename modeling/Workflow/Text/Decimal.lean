import Workflow.Text.Blank
import Workflow.Text.Digit

/-! Natural numbers and integers in decimal notation, and runs of digits read from a text. -/

namespace Workflow.Text

/-- The decimal digits of `n`, at most `fuel` of them. -/
def decimalUpTo : Nat → Nat → List Char
  | 0, _ => []
  | fuel + 1, n =>
    if n < 10 then [digitChar n] else decimalUpTo fuel (n / 10) ++ [digitChar (n % 10)]

/-- The decimal digits of a natural number, without leading zeros. -/
def decimal (n : Nat) : List Char := decimalUpTo (n + 1) n

/-- An integer in decimal notation, with a minus sign when it is negative. -/
def integer (i : Int) : List Char :=
  if i < 0 then '-' :: decimal i.natAbs else decimal i.natAbs

/-- The most digits that an integer may have where a text is made of it or it is read from one. -/
def digitLimit : Nat := 4300

def isLong (i : Int) : Bool := digitLimit < (decimal i.natAbs).length

/-- What is said of an integer that is too long, of which so many digits were read, if it was
read. -/
def longMessage (digits : Option Nat) : String :=
  "Exceeds the limit (" ++ toString digitLimit ++ " digits) for integer string conversion" ++
    (digits.map fun n => ": value has " ++ toString n ++ " digits").getD "" ++
    "; use sys.set_int_max_str_digits() to increase the limit"

/-- The number with the given decimal digits, the first of them the most significant. -/
def ofDigits (ds : List Nat) : Nat := ds.foldl (fun n d => 10 * n + d) 0

/-- The longest run of digits at the front, and what follows it. -/
def spanDigits (digit? : Char → Option Nat) : List Char → List Nat × List Char
  | [] => ([], [])
  | c :: r =>
    match digit? c with
    | some d => (d :: (spanDigits digit? r).1, (spanDigits digit? r).2)
    | none => ([], c :: r)

/-- Digits of any script, a single underscore allowed between two of them: the rest of a run that
has started. -/
def spanGrouped : List Char → List Nat × List Char
  | [] => ([], [])
  | '_' :: c :: r =>
    match digitValue? c with
    | some d => (d :: (spanGrouped r).1, (spanGrouped r).2)
    | none => ([], '_' :: c :: r)
  | c :: r =>
    match digitValue? c with
    | some d => (d :: (spanGrouped r).1, (spanGrouped r).2)
    | none => ([], c :: r)

/-- A run of digits of any script that starts with a digit. -/
def spanNumber : List Char → List Nat × List Char
  | [] => ([], [])
  | c :: r => if (digitValue? c).isSome then spanGrouped (c :: r) else ([], c :: r)

/-- An optional sign: whether it is a minus, and what follows. -/
def spanSign : List Char → Bool × List Char
  | '-' :: r => (true, r)
  | '+' :: r => (false, r)
  | cs => (false, cs)

/-- A whole number in any script, with blanks around it and not too many digits, zeros in front
among them. -/
def readInt? (s : String) : Option Int :=
  let (negative, body) := spanSign (trimSpace s.toList)
  match spanNumber body with
  | ([], _) => none
  | (ds, []) =>
    if digitLimit < ds.length then none
    else some (if negative then -(ofDigits ds : Int) else ofDigits ds)
  | _ => none

end Workflow.Text
