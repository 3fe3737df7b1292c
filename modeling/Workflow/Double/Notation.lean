import Workflow.Double.Shortest
import Workflow.Text.Decimal

/-! Floating-point numbers as text, written with the fewest digits and read in any script. -/

namespace Workflow.Double

open Text

/-- Where positional notation ends: the least and the greatest exponent of the leading digit that
is written without an exponent part. -/
structure Layout where
  lowest : Int
  highest : Int

/-- Numbers from 0.0001 up to 10¹⁶ are written in positional notation. -/
def layout : Layout := ⟨-4, 15⟩

/-- Digits without the zeros at their end, and the exponent that makes up for them. -/
def dropZeros : Nat → Nat → Int → Nat × Int
  | 0, c, e => (c, e)
  | fuel + 1, c, e => if c ≠ 0 ∧ c % 10 = 0 then dropZeros fuel (c / 10) (e + 1) else (c, e)

/-- `0.`, as many zeros as the exponent asks for and the digits; or the digits with a point inside;
or the digits, zeros up to the point and `.0`. -/
def positional (ds : List Char) (leading : Int) : List Char :=
  if leading < 0 then '0' :: '.' :: List.replicate (-leading - 1).toNat '0' ++ ds
  else
    let whole := leading.toNat + 1
    if ds.length ≤ whole then ds ++ List.replicate (whole - ds.length) '0' ++ ['.', '0']
    else ds.take whole ++ '.' :: ds.drop whole

/-- One digit, the others after a point, and an exponent with a sign and two digits at least. -/
def scientific (ds : List Char) (leading : Int) : List Char :=
  let fraction := if ds.length ≤ 1 then [] else '.' :: ds.drop 1
  let exponent := decimal leading.natAbs
  ds.take 1 ++ fraction ++ 'e' :: (if leading < 0 then '-' else '+') ::
    List.replicate (2 - exponent.length) '0' ++ exponent

/-- A number from its digits and the exponent of the last of them. -/
def laidOut (c : Nat) (e : Int) : List Char :=
  let ds := decimal c
  let leading := e + ds.length - 1
  if layout.lowest ≤ leading ∧ leading ≤ layout.highest then positional ds leading
  else scientific ds leading

/-- A positive magnitude in decimal notation. -/
def magnitude (units : Nat) : List Char :=
  let short := dropZeros 20 (shortest units).1 (shortest units).2
  laidOut short.1 short.2

/-- How the numbers that are not finite are spelled. -/
structure Spelling where
  nan : String
  infinity : String

/-- The text of a number: the fewest digits that read back as it. -/
def render (spelling : Spelling) : Double → List Char
  | .nan => spelling.nan.toList
  | .infinite negative =>
    if negative then '-' :: spelling.infinity.toList else spelling.infinity.toList
  | .finite negative units _ =>
    let ds := if units = 0 then ['0', '.', '0'] else magnitude units
    if negative then '-' :: ds else ds

/-- The spelling in texts. -/
def plain : Spelling := ⟨"nan", "inf"⟩

instance : ToString Double := ⟨fun x => String.ofList (render plain x)⟩

/-- The number with the given digits before and after the point and the given exponent. -/
def ofParts (negative : Bool) (whole fraction : List Nat) (exponent : Int) : Double :=
  ofDecimal negative (ofDigits (whole ++ fraction)) (exponent - fraction.length)

/-- An exponent part read with `span`: nothing, or a letter e, an optional sign and digits. It has
to reach the end of the text. -/
def readExponent? (span : List Char → List Nat × List Char) : List Char → Option Int
  | [] => some 0
  | c :: r =>
    if c == 'e' || c == 'E' then
      let (negative, body) := spanSign r
      match span body with
      | ([], _) => none
      | (ds, []) => some (if negative then -(ofDigits ds : Int) else ofDigits ds)
      | _ => none
    else none

/-- Digits with an optional point and an optional exponent part, up to the end of the text. -/
def readUnsigned? (span : List Char → List Nat × List Char) (negative : Bool)
    (cs : List Char) : Option Double :=
  let (whole, r) := span cs
  let (fraction, r) := match r with
    | '.' :: r => span r
    | r => ([], r)
  if whole.isEmpty && fraction.isEmpty then none
  else (readExponent? span r).map (ofParts negative whole fraction)

/-- A number with an optional sign, or one of the words for infinity and NaN in any case. -/
def readSigned? (span : List Char → List Nat × List Char) (cs : List Char) : Option Double :=
  let (negative, body) := spanSign cs
  let word := body.map Char.toLower
  if word = "inf".toList || word = "infinity".toList then some (.infinite negative)
  else if word = "nan".toList then some .nan
  else readUnsigned? span negative body

/-- A number in any script with blanks around it, single underscores allowed between digits. -/
def read? (s : String) : Option Double := readSigned? spanNumber (trimSpace s.toList)

end Workflow.Double
