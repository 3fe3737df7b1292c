import Workflow.Zstd.Sequences
import Workflow.Zstd.Digest

/-! Frames: a header, blocks, and a digest of the content if the header tells that there is one.
A frame that may be skipped tells its size and has no content. Frames follow each other. -/

namespace Workflow.Zstd

/-- What a block leaves for the blocks after it. -/
structure Memory where
  words : Option Words
  codes : Option Codes
  recent : Recent

/-- Before the first block there are no codes, and the recent distances are agreed on. -/
def Memory.initial : Memory := ⟨none, none, ⟨1, 4, 8⟩⟩

/-- Writes the content of a compressed block after what is written. -/
def unpackBlock (place : Place) (memory : Memory) (written : Array Nat) (bytes : List Nat) :
    Except Flaw (Memory × Array Nat) := do
  if place.limit < bytes.length then throw .size
  let literals ← readLiterals place memory.words bytes
  let (codes, w) ← performSequences memory.codes
    ⟨written, literals.bytes, literals.room, memory.recent⟩ literals.rest
  if w.room < w.literals.length then throw .noRoom
  return (⟨literals.words, codes, w.recent⟩, w.literals.foldl Array.push w.written)

/-- The first bytes of a frame with content, and of one that may be skipped, where the lowest four
bits of the first byte do not matter. -/
def contentMark : List Nat := [0x28, 0xb5, 0x2f, 0xfd]

def skippedMark : List Nat := [0x50, 0x2a, 0x4d, 0x18]

/-- Bytes without the lowest four bits of the first one. -/
def withoutLowBits : List Nat → List Nat
  | [] => []
  | b :: rest => b / 0x10 * 0x10 :: rest

/-- What a header tells of a frame. -/
structure Header where
  window : Nat
  size : Option Nat
  dictionary : Nat
  hasDigest : Bool

/-- How large the content of a block may be at most. -/
def greatestBlock : Nat := 0x20000

/-- How large the content of a block may be. -/
def Header.blockLimit (h : Header) : Nat := min h.window greatestBlock

/-- The exponent of the greatest window that can be told. -/
def greatestExponent : Nat := 31

/-- The greatest window that is used: 128 MiB and one byte. -/
def greatestWindow : Nat := 0x8000001

/-- The size of a window, told by an exponent in the highest five bits of a byte and by how many
eighths are added. -/
def windowSize (b : Nat) : Except Flaw Nat :=
  let exponent := b / 8 + 10
  if greatestExponent < exponent then throw .windowTooLarge
  else return Nat.pow 2 exponent + Nat.pow 2 (exponent - 3) * (b % 8)

/-- The number that stands for a size that is not told. -/
def noSize : Nat := 0xffffffffffffffff

/-- What a header tells after its mark, with the bytes after the header. The first byte tells which
parts there are and how long they are; a frame without a window has its content for one. -/
def readHeader : List Nat → Except Halt (Header × List Nat)
  | [] => throw .short
  | kinds :: rest => do
    let isSingle := kinds / 0x20 % 2 = 1
    let forWindow := if isSingle then 0 else 1
    let forDictionary := if kinds % 4 = 3 then 4 else kinds % 4
    let forSize :=
      match kinds / 0x40 with
      | 0 => if isSingle then 1 else 0
      | n => Nat.pow 2 n
    let total := forWindow + forDictionary + forSize
    if rest.length < total then throw .short
    if kinds / 8 % 2 = 1 then throw (.flaw .reservedBit)
    let window ← if isSingle then pure 0 else (windowSize (rest.headD 0)).mapError .flaw
    let dictionary := littleEndian ((rest.drop forWindow).take forDictionary)
    let told := littleEndian ((rest.drop (forWindow + forDictionary)).take forSize)
    let told := if forSize = 2 then told + 0x100 else told
    let size := if forSize = 0 || told = noSize then none else some told
    return (⟨if isSingle then told else window, size, dictionary, kinds / 4 % 2 = 1⟩,
      rest.drop total)

/-- The header of a block: whether it is the last one, its kind, and its size. -/
structure BlockHeader where
  isLast : Bool
  kind : Nat
  size : Nat

def BlockHeader.ofBytes (bytes : List Nat) : BlockHeader :=
  let n := littleEndian bytes
  ⟨n % 2 = 1, n / 2 % 4, n / 8⟩

/-- How many bytes there are after the header of a block; a byte that is repeated stands once. -/
def BlockHeader.bytes (b : BlockHeader) : Nat := if b.kind = 1 then 1 else b.size

/-- Whether bytes hold all blocks of a frame and `extra` bytes after them. -/
def holdsBlocks (extra : Nat) : Nat → List Nat → Bool
  | 0, _ => false
  | fuel + 1, bytes =>
    let block := BlockHeader.ofBytes (bytes.take 3)
    let rest := bytes.drop 3
    if bytes.length < 3 || block.kind = 3 || rest.length < block.bytes then false
    else
      let rest := rest.drop block.bytes
      if block.isLast then extra ≤ rest.length else holdsBlocks extra fuel rest

/-- The content of a frame as far as it has been read: the bytes that are left, what has been
written, from where on it fills the place for it, and what the last block left. -/
structure Progress where
  bytes : List Nat
  written : Array Nat
  filledFrom : Nat
  memory : Memory

/-- Reading a frame. What has been written stays when reading stops. -/
abbrev Reading := EStateM Halt Progress

def takeBytes (n : Nat) : Reading (List Nat) := do
  let p ← get
  if p.bytes.length < n then throw .short
  set { p with bytes := p.bytes.drop n }
  return p.bytes.take n

/-- How the content of a frame is written: to one place that is large enough for small contents, or
to a place for the window and some blocks, which is filled again and again. -/
structure Manner where
  header : Header
  isWhole : Bool

/-- The size of the place for content. -/
def Manner.capacity (m : Manner) : Nat :=
  if m.isWhole then greatestBlock
  else
    let window := max m.header.window 0x400
    let needed := window + 2 * min window m.header.blockLimit + 2 * overreach
    match m.header.size with
    | some size => min size needed
    | none => needed

/-- Whether the place for content is filled again: it holds less than the whole. -/
def Manner.isRefilled (m : Manner) : Bool :=
  !m.isWhole &&
    match m.header.size with
    | some size => m.capacity < size
    | none => true

/-- The place for the content of the next block. -/
def Manner.place (m : Manner) (p : Progress) : Place :=
  ⟨m.header.blockLimit, m.capacity - (p.written.size - p.filledFrom), m.isWhole⟩

/-- After a block the place for content is filled from its beginning on, if the next block might
not fit. -/
def Manner.refill (m : Manner) : Reading Unit := modify fun p =>
  if m.isRefilled && m.capacity < p.written.size - p.filledFrom + m.header.blockLimit then
    { p with filledFrom := p.written.size }
  else p

/-- A block of bytes as they are; those that are there are written even if some are missing. -/
def plainBlock (m : Manner) (size : Nat) : Reading Unit := do
  let p ← get
  let there := p.bytes.take size
  if (m.place p).room < there.length then throw (.flaw .noRoom)
  set { p with bytes := p.bytes.drop size, written := there.foldl Array.push p.written }
  if there.length < size then throw .short

/-- A block of one byte that is repeated. -/
def repeatedBlock (m : Manner) (size : Nat) : Reading Unit := do
  let bytes ← takeBytes 1
  let p ← get
  if (m.place p).room < size then throw (.flaw .noRoom)
  set { p with written := p.written ++ Array.replicate size (bytes.headD 0) }

def compressedBlock (m : Manner) (size : Nat) : Reading Unit := do
  let bytes ← takeBytes size
  let p ← get
  match unpackBlock (m.place p) p.memory p.written bytes with
  | .ok (memory, written) => set { p with memory, written }
  | .error f => throw (.flaw f)

/-- Writes the content of a block. When content is not written to one place, a block has to be
small, and one without bytes is passed over. -/
def readBlock (m : Manner) (b : BlockHeader) : Reading Unit := do
  let before := (← get).written.size
  if !m.isWhole && m.header.blockLimit < b.bytes then throw (.flaw .corrupted)
  if m.isWhole || b.bytes != 0 then
    match b.kind with
    | 0 => plainBlock m b.size
    | 1 => repeatedBlock m b.size
    | 2 => compressedBlock m b.size
    | _ => throw (.flaw .corrupted)
  if !m.isWhole && m.header.blockLimit < (← get).written.size - before then
    throw (.flaw .corrupted)
  m.refill

/-- Reads blocks up to the last one, at most `fuel` of them. The content has to have the size that
the header tells; but this is not asked at a last block without bytes, unless content is written to
one place. -/
def readBlocks (m : Manner) : Nat → Reading Unit
  | 0 => throw .short
  | fuel + 1 => do
    let block := BlockHeader.ofBytes (← takeBytes 3)
    if block.kind = 3 then throw (.flaw .corrupted)
    readBlock m block
    if block.isLast then
      let differs := m.header.size.any (· != (← get).written.size)
      if differs && (m.isWhole || block.bytes != 0) then throw (.flaw .corrupted)
    else readBlocks m fuel

/-- Reads the blocks of a frame and the digest after them. -/
def readContent (m : Manner) : Reading Unit := do
  readBlocks m ((← get).bytes.length + 1)
  if m.header.hasDigest then
    let told ← takeBytes 4
    if littleEndian told != (digest (← get).written.toList).toNat % 0x100000000 then
      throw (.flaw .checksum)

/-- Reads a frame with content after its mark. -/
def readContentFrame : Reading Unit := do
  let (header, rest) ← match readHeader (← get).bytes with
    | .ok told => pure told
    | .error halt => throw halt
  modify fun p => { p with bytes := rest }
  let isSmall := header.size.any (· ≤ greatestBlock)
  let isWhole := isSmall && holdsBlocks (if header.hasDigest then 4 else 0) (rest.length + 1) rest
  if header.dictionary != 0 then throw (.flaw .otherDictionary)
  if !isWhole && greatestWindow < header.window then throw (.flaw .windowTooLarge)
  readContent ⟨header, isWhole⟩

/-- Passes over a frame after its mark. -/
def readSkippedFrame : Reading Unit := do
  let size ← takeBytes 4
  let _ ← takeBytes (littleEndian size)

/-- Reads a frame. A mark that ends too soon has to be the beginning of one. -/
def readFrame : Reading Unit := do
  let bytes := (← get).bytes
  let mark := bytes.take 4
  let isContent := mark = contentMark.take mark.length
  if !isContent && withoutLowBits mark != skippedMark.take mark.length then
    throw (.flaw .unknownFrame)
  let _ ← takeBytes 4
  if isContent then readContentFrame else readSkippedFrame

/-- The content of frames, as far as the data goes, and whether the last frame is complete. -/
structure Content where
  bytes : List Nat
  isComplete : Bool

/-- Reads frames up to the end of the data, at most `fuel` of them. -/
def readFrames : Nat → List Nat → Except Flaw Content
  | 0, _ => return ⟨[], true⟩
  | fuel + 1, bytes =>
    match readFrame.run ⟨bytes, #[], 0, .initial⟩ with
    | .ok _ p => do
      if p.bytes.isEmpty then return ⟨p.written.toList, true⟩
      let more ← readFrames fuel p.bytes
      return { more with bytes := p.written.toList ++ more.bytes }
    | .error .short p => return ⟨p.written.toList, false⟩
    | .error (.flaw f) _ => throw f

/-- The content of data; without any data there is no complete frame. -/
def unpack (bytes : List Nat) : Except Flaw Content :=
  if bytes.isEmpty then return ⟨[], false⟩ else readFrames bytes.length bytes

end Workflow.Zstd
