import Workflow.Text.Encoding
import Workflow.Text.Named.Lookup

/-! Bytes in which a character may be written by its number or its name after a backslash. -/

namespace Workflow.Text

inductive Escapes where
  /-- Numbers in base 8 and base 16, and letters for control characters. -/
  | all
  /-- Only the numbers of four and eight digits. -/
  | numbers
  deriving DecidableEq

namespace Escapes

def unread : Char := '\ufffd'

/-- The values of the digits in front, at most so many. -/
def digitsOf (value? : Nat → Option Nat) : Nat → List Nat → List Nat
  | count + 1, b :: rest =>
    match value? b with
    | some d => d :: digitsOf value? count rest
    | none => []
  | _, _ => []

/-- A character with so many hexadecimal digits, and how many of them there are. -/
def numbered (count : Nat) (bytes : List Nat) : Char × Nat :=
  let digits := digitsOf (fun b => hexValue? (Char.ofNat b)) count bytes
  let n := digits.foldl (fun n d => 16 * n + d) 0
  (if digits.length = count && n < 0x110000 then ofCodePoint n else unread, digits.length)

/-- A character of three digits of base 8 or less, and how many they are. -/
def octal (bytes : List Nat) : Char × Nat :=
  let digits := digitsOf (fun b => if 0x30 ≤ b && b < 0x38 then some (b - 0x30) else none) 3 bytes
  (Char.ofNat (digits.foldl (fun n d => 8 * n + d) 0), digits.length)

/-- The character of a name in braces, and how many bytes stand for it. The closing brace is not one
of them when there is no name. -/
def named : List Nat → Char × Nat
  | 0x7b :: 0x7d :: _ => (unread, 1)
  | 0x7b :: rest =>
    let name := rest.takeWhile (· ≠ 0x7d)
    if name.length = rest.length then (unread, 1 + rest.length)
    else ((named? (name.map Char.ofNat)).getD unread, 2 + name.length)
  | _ => (unread, 0)

/-- The number of digits that a letter announces. -/
def width? (e : Escapes) (b : Nat) : Option Nat :=
  if b = 0x75 then some 4
  else if b = 0x55 then some 8
  else if b = 0x78 && e = all then some 2
  else none

/-- The characters that stand for themselves or for a control character after a backslash. -/
def letters : List (Nat × Nat) :=
  [(0x5c, 0x5c), (0x27, 0x27), (0x22, 0x22), (0x62, 8), (0x66, 12), (0x74, 9), (0x6e, 10),
   (0x72, 13), (0x76, 11), (0x61, 7)]

/-- What a backslash and the bytes after it stand for, and how many of those bytes belong to
it. -/
def escaped (e : Escapes) : List Nat → List Char × Nat
  | [] => ([if e = all then unread else '\\'], 0)
  | b :: rest =>
    match e.width? b, letters.lookup b with
    | some count, _ => ([(numbered count rest).1], 1 + (numbered count rest).2)
    | none, code =>
      if e = numbers then (['\\', Char.ofNat b], 1)
      else if b = 0x0a then ([], 1)
      else if 0x30 ≤ b && b < 0x38 then ([(octal (b :: rest)).1], (octal (b :: rest)).2)
      else if b = 0x4e then ([(named rest).1], 1 + (named rest).2)
      else
        match code with
        | some n => ([Char.ofNat n], 1)
        | none => (['\\', Char.ofNat b], 1)

/-- The characters of at most so many bytes. -/
def charsUpTo (e : Escapes) : Nat → List Nat → List Char
  | fuel + 1, b :: rest =>
    if b = 0x5c then
      (e.escaped rest).1 ++ charsUpTo e fuel (rest.drop (e.escaped rest).2)
    else Char.ofNat b :: charsUpTo e fuel rest
  | _, _ => []

def chars (e : Escapes) (bytes : List Nat) : List Char := e.charsUpTo bytes.length bytes

end Escapes

end Workflow.Text
