import Workflow.Text.Charset.Cells
import Workflow.Text.Charset.Hangul

/-! The Korean characters of two bytes, and those that are spelled with more. -/

namespace Workflow.Text.Charset

/-- The syllables that are not in the rows, in the order of their code points. -/
def otherHangul : Array Char :=
  unlisted 0xac00 11172 (((hangulRows.drop 15).take 25).flatMap String.toList)

/-- The place of a trail byte among letters and the bytes from 129 on. -/
def letterTrail? (b : Nat) : Option Nat :=
  if 0x41 ≤ b && b ≤ 0x5a then some (b - 0x41)
  else if 0x61 ≤ b && b ≤ 0x7a then some (b - 0x61 + 26)
  else if 0x81 ≤ b && b ≤ 0xfe then some (b - 0x81 + 52)
  else none

/-- A filler for syllables that are put together from letters. -/
def filler : Nat × Nat := (0xa4, 0xd4)

def eucKrPair (a b : Nat) : Option Char :=
  if (a, b) = filler then none else inSquare hangulRows a b

def windows949Pair (a b : Nat) : Option Char :=
  if 0xa1 ≤ a && 0xa1 ≤ b then inSquare hangulRows a b
  else
    (letterTrail? b).bind fun i =>
      if 0x81 ≤ a && a ≤ 0xa0 then otherHangul[178 * (a - 0x81) + i]?
      else if 0xa1 ≤ a && a ≤ 0xc6 && i < 84 then otherHangul[5696 + 84 * (a - 0xa1) + i]?
      else none

/-- The letters that a syllable may start with, in order. -/
def leadLetters : List Char := "ㄱㄲㄴㄷㄸㄹㅁㅂㅃㅅㅆㅇㅈㅉㅊㅋㅌㅍㅎ".toList

/-- The letters that a syllable may end with, in order. -/
def tailLetters : List Char := "ㄱㄲㄳㄴㄵㄶㄷㄹㄺㄻㄼㄽㄾㄿㅀㅁㅂㅄㅅㅆㅇㅈㅊㅋㅌㅍㅎ".toList

/-- The syllable of a first letter, a vowel and a last letter or none, by their numbers. -/
def syllable (lead vowel tail : Nat) : Char := Char.ofNat (0xac00 + lead * 588 + vowel * 28 + tail)

/-- The number of a letter, given by its byte, among some letters. -/
def letterIndex? (letters : List Char) (b : Nat) : Option Nat :=
  if 0xa1 ≤ b && b ≤ 0xbe then letters.idxOf? (Char.ofNat (0x3131 + (b - 0xa1))) else none

/-- The syllable that is spelled with a filler and three letters of two bytes; a filler stands for
no last letter. -/
def spelledSyllable : List Nat → Option Char
  | [_, _, a, lead, b, vowel, c, tail] => do
    if !(a = filler.1 && b = filler.1 && c = filler.1) then none
    let i ← letterIndex? leadLetters lead
    let j ← if 0xbf ≤ vowel && vowel ≤ 0xd3 then some (vowel - 0xbf) else none
    let k ← if tail = filler.2 then some 0 else (letterIndex? tailLetters tail).map (· + 1)
    return syllable i j k
  | _ => none

/-- A number of five bits in a syllable: a filler, or the number of a letter. -/
inductive Slot where
  | filler
  | letter (i : Nat)

/-- The slot of a number, given the filler and the numbers of the letters in order. -/
def slot? (fill : Nat) (numbers : List Nat) (n : Nat) : Option Slot :=
  if n = fill then some .filler else (numbers.idxOf? n).map .letter

def leadSlot? : Nat → Option Slot := slot? 1 ((List.range 19).map (· + 2))

def vowelSlot? : Nat → Option Slot :=
  slot? 2 [3, 4, 5, 6, 7, 10, 11, 12, 13, 14, 15, 18, 19, 20, 21, 22, 23, 26, 27, 28, 29]

def tailSlot? : Nat → Option Slot :=
  slot? 1 ((List.range 16).map (· + 2) ++ (List.range 11).map (· + 19))

/-- The syllable of three numbers of five bits, or the letter that stands alone. -/
def combined (n : Nat) : Option Char := do
  let lead ← leadSlot? (n / 1024 % 32)
  let vowel ← vowelSlot? (n / 32 % 32)
  let tail ← tailSlot? (n % 32)
  match lead, vowel, tail with
  | .filler, .filler, .filler => charOf 0x3000
  | .filler, .filler, .letter k => tailLetters[k]?
  | .filler, .letter j, .filler => charOf (0x314f + j)
  | .letter i, .filler, .filler => leadLetters[i]?
  | .letter i, .letter j, .filler => some (syllable i j 0)
  | .letter i, .letter j, .letter k => some (syllable i j (k + 1))
  | _, _, _ => none

/-- The place of a trail byte beside combined syllables. -/
def besideTrail? (b : Nat) : Option Nat :=
  if 0x31 ≤ b && b ≤ 0x7e then some (b - 0x31)
  else if 0x91 ≤ b && b ≤ 0xfe then some (b - 0x43)
  else none

/-- The characters of two bytes when syllables are combined of numbers; other characters are in rows
of 94, of which one that has letters is left out. -/
def johabPair (a b : Nat) : Option Char :=
  if a < 0xd8 then combined (0x100 * a + b)
  else if a = 0xd8 || a = 0xdf || 0xf9 < a || (a = 0xda && 0xa1 ≤ b && b ≤ 0xd3) then none
  else
    (besideTrail? b).bind fun i =>
      let row := if a < 0xe0 then 2 * (a - 0xd9) else 2 * a - 0x197
      if i < 94 then inRows hangulRows row i else inRows hangulRows (row + 1) (i - 94)

end Workflow.Text.Charset
