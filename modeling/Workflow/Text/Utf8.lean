/-! The UTF-8 form of texts, as lists of bytes given by their numbers. -/

namespace Workflow.Text

/-- The bytes of one character. -/
def utf8Char (c : Char) : List Nat :=
  let n := c.toNat
  if n < 0x80 then [n]
  else if n < 0x800 then [0xc0 + n / 0x40, 0x80 + n % 0x40]
  else if n < 0x10000 then [0xe0 + n / 0x1000, 0x80 + n / 0x40 % 0x40, 0x80 + n % 0x40]
  else
    [0xf0 + n / 0x40000, 0x80 + n / 0x1000 % 0x40, 0x80 + n / 0x40 % 0x40, 0x80 + n % 0x40]

def utf8 (s : String) : List Nat := s.toList.flatMap utf8Char

/-- How many bytes follow a first byte, the bits that it holds, and the range of the second byte.
The range rules out overlong forms, surrogates and numbers past the last code point. -/
def leadByte? (b : Nat) : Option (Nat × Nat × Nat × Nat) :=
  if 0xc2 ≤ b && b ≤ 0xdf then some (1, b - 0xc0, 0x80, 0xbf)
  else if b = 0xe0 then some (2, 0, 0xa0, 0xbf)
  else if b = 0xed then some (2, 0xd, 0x80, 0x9f)
  else if 0xe1 ≤ b && b ≤ 0xef then some (2, b - 0xe0, 0x80, 0xbf)
  else if b = 0xf0 then some (3, 0, 0x90, 0xbf)
  else if b = 0xf4 then some (3, 4, 0x80, 0x8f)
  else if 0xf1 ≤ b && b ≤ 0xf3 then some (3, b - 0xf0, 0x80, 0xbf)
  else none

/-- A character of several bytes that has begun: how many bytes are still to come, the bits so far
and the range of the next byte. -/
structure Begun where
  missing : Nat
  bits : Nat
  low : Nat
  high : Nat

/-- Decodes bytes; what stands for no character, up to the byte that shows it, becomes one
replacement character. -/
def decodeUtf8 : Option Begun → List Nat → List Char
  | none, [] => []
  | some _, [] => ['\ufffd']
  | none, b :: rest => start b rest
  | some p, b :: rest =>
    if p.low ≤ b && b ≤ p.high then
      let bits := p.bits * 0x40 + (b - 0x80)
      if p.missing ≤ 1 then Char.ofNat bits :: decodeUtf8 none rest
      else decodeUtf8 (some ⟨p.missing - 1, bits, 0x80, 0xbf⟩) rest
    else '\ufffd' :: start b rest
where
  /-- The first byte of a character. -/
  start (b : Nat) (rest : List Nat) : List Char :=
    if b < 0x80 then Char.ofNat b :: decodeUtf8 none rest
    else
      match leadByte? b with
      | none => '\ufffd' :: decodeUtf8 none rest
      | some (missing, bits, low, high) => decodeUtf8 (some ⟨missing, bits, low, high⟩) rest

/-- The text of some bytes. -/
def ofUtf8 (bytes : List Nat) : String := String.ofList (decodeUtf8 none bytes)

end Workflow.Text
