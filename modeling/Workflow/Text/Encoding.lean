import Workflow.Text.Decimal
import Workflow.Text.Digit
import Workflow.Text.Utf8

/-! Bytes as text in the Unicode encoding that their first bytes tell, and where they are no
text; and texts that have to be in ASCII, and what is said of those that are not. -/

namespace Workflow.Text

/-- What is wrong with bytes that stand for no character. -/
inductive ByteFlaw where
  | start
  | continuation
  | endOfData
  | truncated
  | range
  deriving DecidableEq

def ByteFlaw.reason : ByteFlaw → String
  | .start => "invalid start byte"
  | .continuation => "invalid continuation byte"
  | .endOfData => "unexpected end of data"
  | .truncated => "truncated data"
  | .range => "code point not in range(0x110000)"

/-- The bytes at fault: the place of the first one, the first one itself, and how many they are. -/
structure ByteFault where
  encoding : String
  position : Nat
  byte : Nat
  count : Nat
  flaw : ByteFlaw
  deriving DecidableEq

def ByteFault.place (f : ByteFault) : String :=
  if f.count = 1 then
    "byte 0x" ++ String.ofList (hexDigits 2 f.byte) ++ " in position " ++ toString f.position
  else "bytes in position " ++ toString f.position ++ "-" ++ toString (f.position + f.count - 1)

def ByteFault.message (f : ByteFault) : String :=
  "'" ++ f.encoding ++ "' codec can't decode " ++ f.place ++ ": " ++ f.flaw.reason

/-- A character of several bytes that has begun at a place, with its first byte. -/
structure Opened where
  position : Nat
  byte : Nat
  begun : Begun

/-- The fault of a character that ends too soon, with the place where it ends. -/
def Opened.fault (o : Opened) (stop : Nat) (flaw : ByteFlaw) : ByteFault :=
  ⟨"utf-8", o.position, o.byte, stop - o.position, flaw⟩

/-- The first fault of bytes in UTF-8, from a place on. -/
def utf8FaultFrom : Nat → Option Opened → List Nat → Option ByteFault
  | _, none, [] => none
  | i, some o, [] => some (o.fault i .endOfData)
  | i, none, b :: rest =>
    if b < 0x80 then utf8FaultFrom (i + 1) none rest
    else
      match leadByte? b with
      | none => some ⟨"utf-8", i, b, 1, .start⟩
      | some (missing, bits, low, high) =>
        utf8FaultFrom (i + 1) (some ⟨i, b, ⟨missing, bits, low, high⟩⟩) rest
  | i, some o, b :: rest =>
    if o.begun.low ≤ b && b ≤ o.begun.high then
      if o.begun.missing ≤ 1 then utf8FaultFrom (i + 1) none rest
      else
        utf8FaultFrom (i + 1) (some { o with begun := ⟨o.begun.missing - 1, 0, 0x80, 0xbf⟩ }) rest
    else some (o.fault i .continuation)

/-- The first fault of bytes in UTF-8. -/
def utf8Fault? (bytes : List Nat) : Option ByteFault := utf8FaultFrom 0 none bytes

/-- Bytes in which the forms of halves of surrogate pairs are those of the replacement character,
which are as long. -/
def halvesReplaced : List Nat → List Nat
  | 0xed :: b :: c :: rest =>
    if 0xa0 ≤ b && b < 0xc0 && 0x80 ≤ c && c < 0xc0 then
      0xef :: 0xbf :: 0xbd :: halvesReplaced rest
    else 0xed :: halvesReplaced (b :: c :: rest)
  | b :: rest => b :: halvesReplaced rest
  | [] => []

/-- Bytes in UTF-8 that have no fault. Half of a surrogate pair is none; it stands for the
replacement character. -/
def readUtf8 (bytes : List Nat) : Except ByteFault String :=
  let bytes := halvesReplaced bytes
  match utf8Fault? bytes with
  | some f => .error f
  | none => .ok (ofUtf8 bytes)

/-- Which of the bytes of a unit comes first. -/
inductive ByteOrder where
  | big
  | little
  deriving DecidableEq

def ByteOrder.suffix : ByteOrder → String
  | .big => "be"
  | .little => "le"

/-- The number that some bytes stand for. -/
def ByteOrder.number (order : ByteOrder) (bytes : List Nat) : Nat :=
  match order with
  | .big => bytes.foldl (fun n b => n * 0x100 + b) 0
  | .little => bytes.foldr (fun b n => n * 0x100 + b) 0

/-- The character of a code point; half of a surrogate pair stands for the replacement
character. -/
def ofCodePoint (n : Nat) : Char := if 0xd800 ≤ n && n < 0xe000 then '\ufffd' else Char.ofNat n

/-- The characters of units of sixteen bits. -/
def ofUnits : List Nat → List Char
  | [] => []
  | [u] => [ofCodePoint u]
  | u :: w :: rest =>
    if 0xd800 ≤ u && u < 0xdc00 && 0xdc00 ≤ w && w < 0xe000 then
      Char.ofNat (0x10000 + (u - 0xd800) * 0x400 + (w - 0xdc00)) :: ofUnits rest
    else ofCodePoint u :: ofUnits (w :: rest)

/-- The units of bytes taken by twos, or the byte that is left over. -/
def units16 (order : ByteOrder) : Nat → List Nat → Except ByteFault (List Nat)
  | _, [] => .ok []
  | i, [a] => .error ⟨"utf-16-" ++ order.suffix, i, a, 1, .truncated⟩
  | i, a :: b :: rest => (units16 order (i + 2) rest).map (order.number [a, b] :: ·)

/-- The characters of bytes taken by fours, or the bytes that are left over. -/
def chars32 (order : ByteOrder) : Nat → List Nat → Except ByteFault (List Char)
  | _, [] => .ok []
  | i, a :: b :: c :: d :: rest =>
    let n := order.number [a, b, c, d]
    if n < 0x110000 then (chars32 order (i + 4) rest).map (ofCodePoint n :: ·)
    else .error ⟨"utf-32-" ++ order.suffix, i, a, 4, .range⟩
  | i, a :: rest => .error ⟨"utf-32-" ++ order.suffix, i, a, rest.length + 1, .truncated⟩

def read16 (order : ByteOrder) (i : Nat) (bytes : List Nat) : Except ByteFault String :=
  (units16 order i bytes).map fun us => String.ofList (ofUnits us)

def read32 (order : ByteOrder) (i : Nat) (bytes : List Nat) : Except ByteFault String :=
  (chars32 order i bytes).map String.ofList

/-- The encodings in which bytes stand for code points. -/
inductive Form where
  | utf8
  | utf16 (order : ByteOrder)
  | utf32 (order : ByteOrder)
  deriving DecidableEq

/-- Bytes in an encoding, from a place on. -/
def Form.read : Form → Nat → List Nat → Except ByteFault String
  | .utf8, _, bytes => readUtf8 bytes
  | .utf16 order, i, bytes => read16 order i bytes
  | .utf32 order, i, bytes => read32 order i bytes

/-- The byte order marks with their encodings. One that begins like another one stands before it. -/
def byteOrderMarks : List (List Nat × Form) :=
  [([0, 0, 0xfe, 0xff], .utf32 .big), ([0xff, 0xfe, 0, 0], .utf32 .little),
   ([0xfe, 0xff], .utf16 .big), ([0xff, 0xfe], .utf16 .little), ([0xef, 0xbb, 0xbf], .utf8)]

/-- The encoding of bytes without a mark: zeros among the first of them tell how wide the characters
are. -/
def unmarkedForm : List Nat → Form
  | a :: b :: c :: d :: _ =>
    if a = 0 then if b = 0 then .utf32 .big else .utf16 .big
    else if b = 0 then if c = 0 ∧ d = 0 then .utf32 .little else .utf16 .little
    else .utf8
  | [a, b] => if a = 0 then .utf16 .big else if b = 0 then .utf16 .little else .utf8
  | _ => .utf8

/-- The encoding that the first bytes tell, and the bytes behind the mark that tells it. -/
def formOf (bytes : List Nat) : Form × List Nat :=
  match byteOrderMarks.find? fun (mark, _) => mark.isPrefixOf bytes with
  | some (mark, form) => (form, bytes.drop mark.length)
  | none => (unmarkedForm bytes, bytes)

/-- Bytes as text, in the encoding that the first of them tell. -/
def readBytes (bytes : List Nat) : Except ByteFault String :=
  let (form, rest) := formOf bytes
  form.read (bytes.length - rest.length) rest

def isAsciiChar (c : Char) : Bool := c.toNat < 0x80

def isAscii (s : String) : Bool := s.toList.all isAsciiChar

/-- The place of the first character outside ASCII, and the run of such characters there. -/
def foreignRun (cs : List Char) : Nat × List Char :=
  ((cs.takeWhile isAsciiChar).length,
   (cs.dropWhile isAsciiChar).takeWhile fun c => !isAsciiChar c)

/-- What is said of a text that is not in ASCII. -/
def notAsciiMessage (s : String) : String :=
  let (position, run) := foreignRun s.toList
  let place := match run with
    | [c] =>
      "character '" ++ String.ofList (numberedEscape c) ++ "' in position " ++ toString position
    | run =>
      "characters in position " ++ toString position ++ "-" ++
        toString (position + run.length - 1)
  "'ascii' codec can't encode " ++ place ++ ": ordinal not in range(128)"

end Workflow.Text
