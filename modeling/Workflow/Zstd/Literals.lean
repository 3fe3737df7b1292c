import Workflow.Zstd.Words

/-! What may be wrong with a frame of compressed data, and the literals of a block: bytes as they
are, one byte many times, or bytes in a prefix code, which a block describes or takes over from an
earlier one. -/

namespace Workflow.Zstd

/-- What is wrong with a frame. -/
inductive Flaw where
  | unknownFrame
  | reservedBit
  | windowTooLarge
  | otherDictionary
  /-- Literals are in the words of earlier ones, and there are none. -/
  | noEarlierWords
  | literalsHeader
  | size
  | noRoom
  | corrupted
  | checksum
  deriving DecidableEq

def Flaw.reason : Flaw → String
  | unknownFrame => "Unknown frame descriptor"
  | reservedBit => "Unsupported frame parameter"
  | windowTooLarge => "Frame requires too much memory for decoding"
  | otherDictionary => "Dictionary mismatch"
  | noEarlierWords => "Dictionary is corrupted"
  | literalsHeader => "Header of Literals' block doesn't respect format specification"
  | size => "Src size is incorrect"
  | noRoom => "Destination buffer is too small"
  | corrupted => "Data corruption detected"
  | checksum => "Restored data doesn't match checksum"

def Flaw.message (f : Flaw) : String := "zstd decompressor error: " ++ f.reason

/-- Why reading stops: the data ends too soon, or there is a flaw in it. -/
inductive Halt where
  | short
  | flaw (f : Flaw)
  deriving DecidableEq

/-- Where the content of a block goes: how large the content of any block may be, how much room is
left, and whether the content of the whole frame is written to one place. -/
structure Place where
  limit : Nat
  room : Nat
  isWhole : Bool

/-- The literals of a block, the code that they leave for later ones, the room for the content of
the block, and the bytes after the literals. -/
structure Literals where
  bytes : List Nat
  words : Option Words
  room : Nat
  rest : List Nat

/-- How far what is copied at once may reach past its end. -/
def overreach : Nat := 32

/-- The room for content, when literals are kept: in a place for the whole content they come after
the content of the block, if they fit there. -/
def Place.roomBeside (p : Place) (size : Nat) : Nat :=
  if p.isWhole && p.limit + size + 2 * overreach < p.room then p.limit + overreach else p.room

/-- Literals have to be as small as the content of a block, and to fit. -/
def Place.checkSize (p : Place) (size : Nat) : Except Flaw Unit := do
  if p.limit < size then throw .corrupted
  if p.room < size then throw .noRoom

/-- The header of literals that are not in words has one to three bytes. The answer is how many, and
how many literals there are. -/
def plainSizes (bytes : List Nat) : Nat × Nat :=
  let form := bytes.headD 0 / 4 % 4
  let header := if form = 1 then 2 else if form = 3 then 3 else 1
  let number := littleEndian (bytes.take header)
  (header, if header = 1 then number / 8 else number / 16)

/-- Literals as they are, or a single one that is repeated. -/
def plainLiterals (place : Place) (isRepeated : Bool) (earlier : Option Words) (bytes : List Nat) :
    Except Flaw Literals := do
  let (header, size) := plainSizes bytes
  let told := if isRepeated then header + 1 else header
  if bytes.length < told then throw .corrupted
  place.checkSize size
  if isRepeated then
    return ⟨List.replicate size ((bytes.drop header).headD 0), earlier, place.roomBeside size,
      bytes.drop told⟩
  if bytes.length < header + size then throw .corrupted
  let room := if bytes.length < header + size + overreach then place.roomBeside size else place.room
  return ⟨(bytes.drop header).take size, earlier, room, bytes.drop (header + size)⟩

/-- The least number of literals in four streams. -/
def leastForFour : Nat := 6

/-- Literals in words. The header tells how many there are and how many bytes they take, in 10, 14
or 18 bits each. -/
def codedLiterals (place : Place) (earlier : Option Words) (bytes : List Nat) :
    Except Flaw Literals := do
  if bytes.length < 5 then throw .corrupted
  let form := bytes.headD 0 / 4 % 4
  let header := max 3 (form + 2)
  let width := 4 * header - 2
  let numbers := littleEndian (bytes.take header) / 16
  let size := numbers % Nat.pow 2 width
  let taken := numbers / Nat.pow 2 width
  if place.limit < size then throw .corrupted
  if form != 0 && size < leastForFour then throw .literalsHeader
  if bytes.length < header + taken then throw .corrupted
  place.checkSize size
  let coded := (bytes.drop header).take taken
  let described := match earlier with
    | some words => some (words, coded)
    | none => describedWords? coded
  let decoded := do
    let (words, coded) ← described
    let out ← if form = 0 then words.stream? size #[] coded else words.fourStreams? size coded
    return (words, out.toList)
  match decoded with
  | some (words, out) =>
    return ⟨out, some words, place.roomBeside size, bytes.drop (header + taken)⟩
  | none => throw .corrupted

/-- Reads the literals of a block. -/
def readLiterals (place : Place) (earlier : Option Words) (bytes : List Nat) :
    Except Flaw Literals := do
  if bytes.length < 2 then throw .corrupted
  match bytes.headD 0 % 4 with
  | 0 => plainLiterals place false earlier bytes
  | 1 => plainLiterals place true earlier bytes
  | 2 => codedLiterals place none bytes
  | _ => if earlier.isNone then throw .noEarlierWords else codedLiterals place earlier bytes

end Workflow.Zstd
