import Workflow.Text.Decimal
import Workflow.Text.Encoding

/-! The form of a label in ASCII: its ASCII characters, a hyphen, and numbers that tell where the
others are inserted and which they are. A number has digits of base 36 with a weight that depends
on the place and on the numbers before. -/

namespace Workflow.Domain.Punycode

def base : Nat := 36

def digitChar (d : Nat) : Char := if d < 26 then Char.ofNat (97 + d) else Char.ofNat (22 + d)

/-- The value of a digit in either case. -/
def digitValue? (c : Char) : Option Nat :=
  if 'a' ≤ c && c ≤ 'z' then some (c.toNat - 97)
  else if 'A' ≤ c && c ≤ 'Z' then some (c.toNat - 65)
  else (Text.asciiDigit? c).map (· + 26)

/-- The digit at a place that is the last one of its number when it is lower than this. -/
def threshold (place bias : Nat) : Nat := min 26 (max 1 (base * (place + 1) - bias))

/-- Divides down to the range of the bias; the answer also counts the divisions. -/
def damped : Nat → Nat → Nat × Nat
  | 0, n => (n, 0)
  | fuel + 1, n =>
    if 455 < n then
      let (rest, count) := damped fuel (n / 35)
      (rest, count + 1)
    else (n, 0)

/-- The bias after a number, given how many characters there are now. -/
def adapted (delta : Nat) (isFirst : Bool) (count : Nat) : Nat :=
  let delta := if isFirst then delta / 700 else delta / 2
  let (rest, divisions) := damped delta (delta + delta / count)
  base * divisions + base * rest / (rest + 38)

def firstBias : Nat := 72

def firstForeign : Nat := 0x80

/-- The digits of a number, from a place on. -/
def numberFrom (bias : Nat) : Nat → Nat → Nat → List Char
  | 0, _, _ => []
  | fuel + 1, place, n =>
    let t := threshold place bias
    if n < t then [digitChar n]
    else digitChar (t + (n - t) % (base - t)) ::
      numberFrom bias fuel (place + 1) ((n - t) / (base - t))

def number (bias n : Nat) : List Char := numberFrom bias (n + 1) 0 n

/-- A label that is being written: what is written so far, the steps since the last insertion, the
bias, and how many characters are inserted. -/
structure Writing where
  written : List Char
  delta : Nat
  bias : Nat
  count : Nat

/-- Passes a character of the label while those of one code point are inserted. -/
def Writing.pass (basic code : Nat) (w : Writing) (c : Char) : Writing :=
  if c.toNat < code then { w with delta := w.delta + 1 }
  else if c.toNat = code then
    ⟨w.written ++ number w.bias w.delta, 0, adapted w.delta (w.count == basic) (w.count + 1),
     w.count + 1⟩
  else w

/-- Inserts the characters of each of some code points, given the code point that comes next. -/
def writeCodes (label : List Char) (basic : Nat) : Nat → Writing → List Nat → Writing
  | _, w, [] => w
  | next, w, code :: rest =>
    let w := { w with delta := w.delta + (code - next) * (w.count + 1) }
    let w := label.foldl (Writing.pass basic code) w
    writeCodes label basic (code + 1) { w with delta := w.delta + 1 } rest

def insertCode (code : Nat) : List Nat → List Nat
  | [] => [code]
  | d :: rest =>
    if code < d then code :: d :: rest else if code = d then d :: rest
    else d :: insertCode code rest

/-- The code points outside ASCII, in order. -/
def foreignCodes (label : List Char) : List Nat :=
  (label.filter fun c => firstForeign ≤ c.toNat).foldr (fun c codes => insertCode c.toNat codes) []

def write (label : List Char) : List Char :=
  let basic := label.filter fun c => c.toNat < firstForeign
  let w := writeCodes label basic.length firstForeign ⟨[], 0, firstBias, basic.length⟩
    (foreignCodes label)
  basic ++ (if basic.isEmpty then [] else ['-']) ++ w.written

/-- A number that stands in front, and what follows it. -/
def readNumber (bias : Nat) : Nat → Nat → Nat → List Char → Option (Nat × List Char)
  | _, _, _, [] => none
  | place, weight, n, c :: rest =>
    match digitValue? c with
    | none => none
    | some d =>
      let t := threshold place bias
      if d < t then some (n + d * weight, rest)
      else readNumber bias (place + 1) (weight * (base - t)) (n + d * weight) rest

/-- Inserts code points as the numbers tell, given the last code point, the place after the last
insertion and the bias. Halves of surrogate pairs are code points, too. -/
def readInsertions : Nat → Nat → Nat → Nat → List Nat → List Char → Option (List Nat)
  | _, _, _, _, label, [] => some label
  | 0, _, _, _, _, _ :: _ => none
  | fuel + 1, code, place, bias, label, cs =>
    match readNumber bias 0 1 0 cs with
    | none => none
    | some (delta, rest) =>
      let size := label.length + 1
      let code' := code + (place + delta) / size
      let place' := (place + delta) % size
      if code' < 0x110000 then
        let isFirst := label.all (· < firstForeign)
        readInsertions fuel code' (place' + 1) (adapted delta isFirst size)
          (label.insertIdx place' code') rest
      else none

/-- Inserts characters as the numbers tell, until one of them cannot be read. A number that is too
high for a code point stands for a question mark. -/
def readWhile : Nat → Bool → Nat → Nat → Nat → List Char → List Char → List Char
  | 0, _, _, _, _, label, _ => label
  | fuel + 1, isFirst, code, place, bias, label, cs =>
    match readNumber bias 0 1 0 cs with
    | none => label
    | some (delta, rest) =>
      let size := label.length + 1
      let told := code + (place + delta) / size
      let code' := if told < 0x110000 then told else 0x3f
      let place' := (place + delta) % size
      readWhile fuel false code' (place' + 1) (adapted delta isFirst size)
        (label.insertIdx place' (Text.ofCodePoint code')) rest

/-- The ASCII characters of a label in its ASCII form, and the digits of the numbers after the last
hyphen. -/
def parts (cs : List Char) : List Char × List Char :=
  let reversed := cs.reverse
  (((reversed.dropWhile (· ≠ '-')).drop 1).reverse, (reversed.takeWhile (· ≠ '-')).reverse)

/-- Reads as much of a label in its ASCII form as can be read. -/
def readLoosely (cs : List Char) : List Char :=
  let (basic, numbers) := parts cs
  readWhile cs.length true firstForeign 0 firstBias basic numbers

/-- The code points of a label in its ASCII form. -/
def read? (cs : List Char) : Option (List Nat) :=
  let (basic, numbers) := parts cs
  readInsertions cs.length firstForeign 0 firstBias (basic.map Char.toNat) numbers

end Workflow.Domain.Punycode
