import Workflow.Text.Digit
import Workflow.Text.Utf8

/-! Bytes as characters: as percent codes, which are a percent sign and two hexadecimal digits, and
as digits of base 64, in groups of four that stand for three bytes each. -/

namespace Workflow.Text

def upperHexDigit (n : Nat) : Char := (hexDigit n).toUpper

/-- The code of a byte. -/
def percentCode (b : Nat) : List Char := ['%', upperHexDigit (b / 16), upperHexDigit (b % 16)]

/-- A text in which all but some safe characters stand as the codes of their bytes. -/
def percentEncoded (isSafe : Char → Bool) (cs : List Char) : List Char :=
  cs.flatMap fun c => if isSafe c then [c] else (utf8Char c).flatMap percentCode

/-- The bytes of a text with codes. A percent sign without two digits stands for itself. -/
def percentDecoded : List Char → List Nat
  | [] => []
  | '%' :: a :: b :: rest =>
    match hexValue? a, hexValue? b with
    | some x, some y => (16 * x + y) :: percentDecoded rest
    | _, _ => 0x25 :: percentDecoded (a :: b :: rest)
  | c :: rest => utf8Char c ++ percentDecoded rest

/-- The text of a text with codes; bytes that stand for no character are replaced. -/
def percentRead (cs : List Char) : String := ofUtf8 (percentDecoded cs)

/-- The digit of a value below 64. -/
def base64Digit (n : Nat) : Char :=
  if n < 26 then Char.ofNat (65 + n)
  else if n < 52 then Char.ofNat (71 + n)
  else if n < 62 then Char.ofNat (n - 4)
  else if n = 62 then '+'
  else '/'

/-- The value of a digit. -/
def base64Value? (c : Char) : Option Nat :=
  if 'A' ≤ c && c ≤ 'Z' then some (c.toNat - 65)
  else if 'a' ≤ c && c ≤ 'z' then some (c.toNat - 71)
  else if '0' ≤ c && c ≤ '9' then some (c.toNat + 4)
  else if c = '+' then some 62
  else if c = '/' then some 63
  else none

/-- The digits of some bytes; equals signs fill up the last group. -/
def base64 : List Nat → List Char
  | [] => []
  | [a] => [base64Digit (a / 4), base64Digit (a % 4 * 16), '=', '=']
  | [a, b] =>
    [base64Digit (a / 4), base64Digit (a % 4 * 16 + b / 16), base64Digit (b % 16 * 4), '=']
  | a :: b :: c :: rest =>
    base64Digit (a / 4) :: base64Digit (a % 4 * 16 + b / 16) ::
      base64Digit (b % 16 * 4 + c / 64) :: base64Digit (c % 64) :: base64 rest

end Workflow.Text
