import Workflow.Domain.Punycode
import Workflow.Text.Charset.Escape
import Workflow.Text.Charset.Switching
import Workflow.Text.Charset.Wide
import Workflow.Text.Coded
import Workflow.Text.Encoding

/-! Bytes read in a character set. What stands for no character is replaced. -/

namespace Workflow.Text

/-- Why nothing can be read in some set. -/
inductive CharsetRefusal where
  /-- The bytes do not start with a byte order mark; the number is that of the bits of a unit. -/
  | noMark (bits : Nat)
  /-- The set has no characters. -/
  | undefined
  /-- The set cannot replace what stands for no character. -/
  | strict
  /-- A byte is not in ASCII where only ASCII can stand. -/
  | notAscii (byte position : Nat)
  /-- The name stands for a form of bytes. -/
  | bytes
  /-- The name stands for a form of letters. -/
  | letters
  /-- More bytes wait for the rest of an escape sequence than can be kept. -/
  | overflow
  /-- A character is taken from a table that has none. -/
  | broken
  deriving DecidableEq

def CharsetRefusal.message : CharsetRefusal → String
  | noMark bits => "UTF-" ++ toString bits ++ " stream does not start with BOM"
  | undefined => "undefined encoding"
  | strict => "Unsupported error handling replace"
  | notAscii byte position =>
    "'ascii' codec can't decode byte 0x" ++ String.ofList (hexDigits 2 byte) ++ " in position " ++
      toString position ++ ": ordinal not in range(128)"
  | bytes => ""
  | letters => "descriptor 'translate' for 'str' objects doesn't apply to a 'bytes' object"
  | overflow => "pending buffer overflow"
  | broken => "internal codec error"

/-- The name of the kind of a refusal. -/
def CharsetRefusal.name : CharsetRefusal → String
  | bytes => "AssertionError"
  | letters => "TypeError"
  | notAscii .. => "UnicodeDecodeError"
  | broken => "RuntimeError"
  | _ => "UnicodeError"

inductive Charset where
  | utf8
  /-- The set in which a byte order mark at the start is no part of the text. -/
  | markedUtf8
  | utf7
  /-- Units of two bytes, in an order that is known or told by a byte order mark. -/
  | utf16 (order : Option ByteOrder)
  | utf32 (order : Option ByteOrder)
  | ascii
  | latin1
  /-- ASCII, and a character for each byte from 128 on. -/
  | half (chars : String)
  /-- A character for each byte. -/
  | full (chars : String)
  /-- Two bytes for most characters. -/
  | wide (set : Wide)
  /-- Seven bits, and tables that are switched. -/
  | switching (set : Switching)
  | escaped (escapes : Escapes)
  /-- ASCII characters and numbers that tell where the others are inserted. -/
  | punycode
  | refused (reason : CharsetRefusal)
  deriving DecidableEq

namespace Charset

def replacement : Char := '\ufffd'

def asciiChar (b : Nat) : Char := if b < 0x80 then Char.ofNat b else replacement

/-- Half of a surrogate pair that stands alone. -/
def alone (half : Option Nat) : List Char := (half.map fun _ => replacement).toList

/-- Takes a unit of sixteen bits after the first half of a surrogate pair or after nothing. The
answer is a first half that waits for the second one, and the characters that are complete. -/
def takeUnit (half : Option Nat) (u : Nat) : Option Nat × List Char :=
  if 0xd800 ≤ u && u < 0xdc00 then (some u, alone half)
  else if 0xdc00 ≤ u && u < 0xe000 then
    match half with
    | some h => (none, [Char.ofNat (0x10000 + (h - 0xd800) * 0x400 + (u - 0xdc00))])
    | none => (none, [replacement])
  else (none, alone half ++ [Char.ofNat u])

/-- The characters of bytes in units of two. Half of a surrogate pair is replaced, and so is what
is left at the end. -/
def chars16 (order : ByteOrder) : Option Nat → List Nat → List Char
  | first, a :: b :: rest =>
    (takeUnit first (order.number [a, b])).2 ++
      chars16 order (takeUnit first (order.number [a, b])).1 rest
  | first, [] => alone first
  | _, [_] => [replacement]

/-- The characters of bytes in units of four. -/
def chars32 (order : ByteOrder) : List Nat → List Char
  | a :: b :: c :: d :: rest =>
    let n := order.number [a, b, c, d]
    (if n < 0x110000 then ofCodePoint n else replacement) :: chars32 order rest
  | [] => []
  | _ => [replacement]

/-- A shifted part of a text in seven bits: how many bits there are for the next unit, their
number, and the first half of a surrogate pair. -/
structure Shift where
  count : Nat
  bits : Nat
  half : Option Nat

/-- Whether bits are left over that do not fill up the last digit with zeros. -/
def Shift.isOpen (s : Shift) : Bool := 6 ≤ s.count || s.bits != 0

/-- Takes a digit of base 64. -/
def Shift.take (s : Shift) (digit : Nat) : Shift × List Char :=
  let bits := 64 * s.bits + digit
  let count := s.count + 6
  if count < 16 then (⟨count, bits, s.half⟩, [])
  else
    let size := Nat.pow 2 (count - 16)
    let (half, chars) := takeUnit s.half (bits / size)
    (⟨count - 16, bits % size, half⟩, chars)

/-- Where a text in seven bits is: outside of shifted parts, right after the plus sign that starts
one, or in one. -/
inductive SevenBit where
  | plain
  | opened
  | shifted (s : Shift)

def digit64? (b : Nat) : Option Nat := base64Value? (Char.ofNat b)

/-- The characters of bytes of seven bits. A plus sign starts a part in base 64, which ends with a
minus sign or before any other byte that is no digit. -/
def chars7 : SevenBit → List Nat → List Char
  | .plain, b :: rest =>
    if b = 0x2b then chars7 .opened rest else asciiChar b :: chars7 .plain rest
  | .opened, b :: rest =>
    match digit64? b with
    | some v => chars7 (.shifted (Shift.take ⟨0, 0, none⟩ v).1) rest
    | none => (if b = 0x2d then '+' else replacement) :: chars7 .plain rest
  | .shifted s, b :: rest =>
    match digit64? b with
    | some v => (s.take v).2 ++ chars7 (.shifted (s.take v).1) rest
    | none =>
      if s.isOpen then replacement :: chars7 .plain rest
      else if b = 0x2d then alone s.half ++ chars7 .plain rest
      else if b < 0x80 then alone s.half ++ Char.ofNat b :: chars7 .plain rest
      else replacement :: chars7 .plain rest
  | .shifted s, [] => if s.isOpen || s.half.isSome then [replacement] else []
  | _, [] => []

/-- The bytes after a byte order mark with the order that it tells, if there is one. -/
def ordered16? : List Nat → Option (ByteOrder × List Nat)
  | 0xff :: 0xfe :: rest => some (.little, rest)
  | 0xfe :: 0xff :: rest => some (.big, rest)
  | _ => none

def ordered32? : List Nat → Option (ByteOrder × List Nat)
  | 0xff :: 0xfe :: 0 :: 0 :: rest => some (.little, rest)
  | 0 :: 0 :: 0xfe :: 0xff :: rest => some (.big, rest)
  | _ => none

/-- The characters after a byte order mark. Without one nothing can be read, but a unit that ends
too soon is replaced. -/
def afterMark (bits : Nat) (chars : ByteOrder → List Nat → List Char) (bytes : List Nat)
    (ordered? : Option (ByteOrder × List Nat)) : Except CharsetRefusal (List Char) :=
  match ordered? with
  | some (order, rest) => .ok (chars order rest)
  | none =>
    if bytes.isEmpty then .ok []
    else if bytes.length < bits / 8 then .ok [replacement]
    else .error (.noMark bits)

/-- The characters of bytes by a table. -/
def charsIn (table : Array Char) (bytes : List Nat) : List Char :=
  bytes.map fun b => table[b]?.getD replacement

/-- The characters of bytes in which the others are inserted into the ASCII ones. -/
def inserted (bytes : List Nat) : Except CharsetRefusal (List Char) :=
  let cs := bytes.map Char.ofNat
  let numbers := (Domain.Punycode.parts cs).2
  match numbers.findIdx? fun c => 0x80 ≤ c.toNat with
  | some i => .error (.notAscii ((numbers[i]?.getD ' ').toNat) i)
  | none =>
    .ok (Domain.Punycode.readLoosely (cs.map fun c => if c.toNat < 0x80 then c else replacement))

/-- The characters of some bytes. -/
def chars (bytes : List Nat) : Charset → Except CharsetRefusal (List Char)
  | utf8 => .ok (decodeUtf8 none bytes)
  | markedUtf8 =>
    match bytes with
    | [0xef] | [0xef, 0xbb] => .ok []
    | 0xef :: 0xbb :: 0xbf :: rest => .ok (decodeUtf8 none rest)
    | _ => .ok (decodeUtf8 none bytes)
  | utf7 => .ok (chars7 .plain bytes)
  | utf16 (some order) => .ok (chars16 order none bytes)
  | utf16 none => afterMark 16 (chars16 · none) bytes (ordered16? bytes)
  | utf32 (some order) => .ok (chars32 order bytes)
  | utf32 none => afterMark 32 chars32 bytes (ordered32? bytes)
  | ascii => .ok (bytes.map asciiChar)
  | latin1 => .ok (bytes.map Char.ofNat)
  | half upper =>
    let table := ((List.range 128).map Char.ofNat ++ upper.toList).toArray
    .ok (charsIn table bytes)
  | full all => .ok (charsIn all.toList.toArray bytes)
  | wide set => .ok (set.chars bytes)
  | switching set =>
    (set.chars bytes).mapError fun
      | .overflow => .overflow
      | .broken => .broken
  | escaped escapes => .ok (escapes.chars bytes)
  | punycode => inserted bytes
  | refused reason => .error reason

/-- The text of bytes that come piece by piece. -/
def decode (c : Charset) (bytes : List Nat) : Except CharsetRefusal String :=
  if bytes.isEmpty then .ok "" else (c.chars bytes).map String.ofList

/-- The text of bytes that are there as a whole. Without a byte order mark, the first byte of a unit
is the lowest one. -/
def decodeWhole (c : Charset) (bytes : List Nat) : Except CharsetRefusal String :=
  match c with
  | utf16 none =>
    if (ordered16? bytes).isSome then c.decode bytes
    else (utf16 (some .little)).decode bytes
  | utf32 none =>
    if (ordered32? bytes).isSome then c.decode bytes
    else (utf32 (some .little)).decode bytes
  | _ => c.decode bytes

end Charset

end Workflow.Text
