import Workflow.Text.Charset.Chinese
import Workflow.Text.Charset.Japanese
import Workflow.Text.Charset.Korean

/-! Character sets with two bytes for most characters. -/

namespace Workflow.Text

open Charset

inductive Wide where
  | shiftJis
  | windows932
  | shiftPlanes (edition : Edition)
  | eucJp
  | eucPlanes (edition : Edition)
  | gb2312
  | gbk
  | gb18030
  | bigFive
  | windows950
  | hongKong
  | eucKr
  | windows949
  | johab
  deriving DecidableEq

namespace Wide

/-- The characters of two bytes. -/
def pair? (w : Wide) (a b : Nat) : Option (List Char) :=
  match w with
  | shiftJis => (shiftJisPair a b).map fun c => [c]
  | windows932 => (windows932Pair a b).map fun c => [c]
  | shiftPlanes e => e.shiftPair a b
  | eucJp => (eucJpPair a b).map fun c => [c]
  | eucPlanes e => e.eucPair a b
  | gb2312 => (inSquare hanziRows a b).map fun c => [c]
  | gbk => (gbkPair a b).map fun c => [c]
  | gb18030 => (gb18030Pair a b).map fun c => [c]
  | bigFive => (bigFivePair a b).map fun c => [c]
  | windows950 => (windows950Pair a b).map fun c => [c]
  | hongKong => hongKongPair a b
  | eucKr => (eucKrPair a b).map fun c => [c]
  | windows949 => (windows949Pair a b).map fun c => [c]
  | johab => (johabPair a b).map fun c => [c]

/-- The character of one byte. -/
def single? (w : Wide) (b : Nat) : Option Char :=
  match w with
  | shiftPlanes _ => if b < 0x80 then some (roman b) else narrow? b
  | shiftJis => if b < 0x80 then charOf b else narrow? b
  | windows932 =>
    if b ≤ 0x80 then charOf b
    else if b = 0xa0 then charOf 0xf8f0
    else if 0xfd ≤ b then charOf (0xf8f1 + (b - 0xfd))
    else narrow? b
  | _ => if b < 0x80 then charOf b else none

/-- Whether a character can start with a byte and go on. -/
def isLead (w : Wide) (b : Nat) : Bool :=
  match w with
  | shiftJis => (0x81 ≤ b && b ≤ 0x9f) || (0xe0 ≤ b && b ≤ 0xea)
  | shiftPlanes _ => (0x81 ≤ b && b ≤ 0x9f) || (0xe0 ≤ b && b ≤ 0xfc)
  | _ => true

/-- How many bytes a character has that starts with a lead byte and goes on with others. -/
def size (w : Wide) (a : Nat) (rest : List Nat) : Nat :=
  match w, a, rest with
  | eucJp, 0x8f, _ | eucPlanes _, 0x8f, _ => 3
  | gb18030, _, b :: _ => if 0x30 ≤ b && b ≤ 0x39 then 4 else 2
  | eucKr, a, b :: _ => if (a, b) = filler then 8 else 2
  | _, _, _ => 2

/-- The characters of as many bytes as one has. -/
def read? (w : Wide) (bytes : List Nat) : Option (List Char) :=
  match w, bytes with
  | _, [a, b] => w.pair? a b
  | eucJp, [_, b, c] => (supplementPair b c).map fun c => [c]
  | eucPlanes e, [_, b, c] => e.eucTriple b c
  | gb18030, [a, b, c, d] => (quad a b c d).map fun c => [c]
  | eucKr, _ => (spelledSyllable bytes).map fun c => [c]
  | _, _ => none

/-- How many bytes are replaced together when they stand for no character. -/
def wrongSize (w : Wide) (bytes : List Nat) : Nat :=
  let cell? : Option (Edition × Nat × Nat) := match w, bytes with
    | shiftPlanes e, [a, b] => (doubled? a b).map (e, ·)
    | eucPlanes e, [a, b] => (square? a b).map (e, ·)
    | _, _ => none
  match cell? with
  | some (e, row, cell) => if e.lacks row cell then 2 else 1
  | none => 1

/-- The first characters of some bytes, and how many bytes stand for them. Bytes that stand for no
character are replaced; so is everything at the end that lacks a byte. -/
def first (w : Wide) : List Nat → Option (List Char × Nat)
  | [] => none
  | a :: rest =>
    match w.single? a with
    | some c => some ([c], 1)
    | none =>
      let bytes := (a :: rest).take (w.size a rest)
      if !w.isLead a then some (['\ufffd'], 1)
      else if bytes.length < w.size a rest then some (['\ufffd'], bytes.length)
      else
        match w.read? bytes with
        | some cs => some (cs, bytes.length)
        | none => some (['\ufffd'], w.wrongSize bytes)

/-- The characters of at most so many bytes. -/
def charsUpTo (w : Wide) : Nat → List Nat → List Char
  | 0, _ => []
  | fuel + 1, bytes =>
    match w.first bytes with
    | some (cs, size) => cs ++ charsUpTo w fuel (bytes.drop size)
    | none => []

def chars (w : Wide) (bytes : List Nat) : List Char := w.charsUpTo bytes.length bytes

end Wide

end Workflow.Text
