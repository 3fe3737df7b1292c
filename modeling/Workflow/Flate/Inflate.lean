import Workflow.Flate.Bits

/-! Prefix codes given by the lengths of their words: words of one length are numbers that follow
each other in the order of the symbols, and longer words go on after shorter ones. Compressed data
is a sequence of blocks: bytes as they are, or symbols in a prefix code, which stand for bytes and
for copies of what was written before. -/

namespace Workflow.Flate

def longestWord : Nat := 15

/-- A code: how many words there are of each length from one on, and the symbols in the order of
their words. -/
structure Code where
  counts : List Nat
  symbols : Array Nat

/-- The symbols with words of a length. -/
def symbolsOfLength (lengths : List Nat) (n : Nat) : List Nat :=
  (lengths.zipIdx.filter fun (l, _) => l = n).map Prod.snd

/-- The code with words of the given lengths, one for each symbol; zero stands for no word. -/
def Code.ofLengths (lengths : List Nat) : Code :=
  let words := (List.range longestWord).map fun i => symbolsOfLength lengths (i + 1)
  ⟨words.map List.length, words.flatten.toArray⟩

/-- How many words of the greatest length are left over by words of each length from one on, given
how many are left for the next length; nothing, if there are too many words. -/
def leftOver : Nat → List Nat → Option Nat
  | left, [] => some left
  | left, count :: rest => if 2 * left < count then none else leftOver (2 * left - count) rest

/-- Whether a code can be used: it has no word; or its words are all that there can be; or, if that
is allowed, it has a single word of one bit. -/
def Code.isUsable (c : Code) (allowsSingle : Bool) : Bool :=
  c.counts.all (· = 0) ||
    (match leftOver 1 c.counts with
    | some left => left = 0 || (allowsSingle && (c.counts.drop 1).all (· = 0))
    | none => false)

/-- The longest word of a code, or a single bit if there is none. -/
def Code.width (c : Code) : Nat :=
  max 1 (c.counts.length - (c.counts.reverse.takeWhile (· = 0)).length)

/-- Reads a word bit by bit. `word` is what has been read, `first` is the first word of the current
length, and `index` is the number of shorter words. -/
def readWord (c : Code) : List Nat → Nat → Nat → Nat → Reading (Option Nat)
  | [], _, _, _ => return none
  | count :: rest, word, first, index => do
    let word := 2 * word + (← nextBit).toNat
    if word < first + count then return c.symbols[index + (word - first)]?
    else readWord c rest word (2 * (first + count)) (index + count)

/-- The symbol whose word comes next, unless there is no such word. -/
def Code.read (c : Code) : Reading (Option Nat) := readWord c (c.counts.take c.width) 0 0 0

/-- The codes of a block: one for bytes and lengths, and one for distances. -/
structure Codes where
  literals : Code
  distances : Code

def endOfBlock : Nat := 256

/-- How many extra bits tell a value in a table of values by their symbols, when the first
`count` symbols have none and every `width` symbols have one more. -/
def extraBits (count width symbol : Nat) : Nat :=
  if symbol < count then 0 else (symbol - count) / width + 1

/-- The least value of each symbol, the first of them having the value `start`. -/
def leastValue (extra : Nat → Nat) (start symbol : Nat) : Nat :=
  (List.range symbol).foldl (fun n i => n + Nat.pow 2 (extra i)) start

def lengthExtra : Nat → Nat := extraBits 8 4

def distanceExtra : Nat → Nat := extraBits 4 2

/-- Symbols that stand for lengths, counted from zero; the last one is the greatest length. -/
def readLength (symbol : Nat) : Reading Nat := do
  if symbol = 28 then return 258
  return leastValue lengthExtra 3 symbol + (← number (lengthExtra symbol))

def readDistance (symbol : Nat) : Reading Nat := do
  return leastValue distanceExtra 1 symbol + (← number (distanceExtra symbol))

/-- How many length symbols and distance symbols there are. -/
def lengthSymbols : Nat := 29

def distanceSymbols : Nat := 30

/-- Writes a copy of what stands some distance back. -/
def copyBack (codes : Codes) (length : Nat) : Reading Unit := do
  match ← codes.distances.read with
  | none => throw (.flaw .distanceCode)
  | some symbol =>
    if distanceSymbols ≤ symbol then throw (.flaw .distanceCode)
    let distance ← readDistance symbol
    if (← get).written.size < distance then throw (.flaw .tooFarBack)
    repeatBytes distance length

/-- Reads symbols up to the end of the block, at most `fuel` of them. -/
def readSymbols (codes : Codes) : Nat → Reading Unit
  | 0 => throw .short
  | fuel + 1 => do
    match ← codes.literals.read with
    | none => throw (.flaw .literalCode)
    | some symbol =>
      if symbol = endOfBlock then return
      else if symbol < endOfBlock then
        writeByte symbol
        readSymbols codes fuel
      else
        let symbol := symbol - (endOfBlock + 1)
        if lengthSymbols ≤ symbol then throw (.flaw .literalCode)
        copyBack codes (← readLength symbol)
        readSymbols codes fuel

/-- A block of bytes as they are, after their number and its complement. -/
def readStored : Reading Unit := do
  alignToByte
  let size ← byteNumber 2
  let complement ← byteNumber 2
  if size + complement != 0xffff then throw (.flaw .storedLengths)
  copyBytes size

/-- The codes that need not be told. -/
def fixedCodes : Codes :=
  ⟨.ofLengths (List.replicate 144 8 ++ List.replicate 112 9 ++ List.replicate 24 7 ++
    List.replicate 8 8), .ofLengths (List.replicate 32 5)⟩

/-- The order in which the lengths of the words for lengths are told. -/
def lengthOrder : List Nat := [16, 17, 18, 0, 8, 7, 9, 6, 10, 5, 11, 4, 12, 3, 13, 2, 14, 1, 15]

/-- Reads a length of three bits for each of some symbols. -/
def readShortLengths : List Nat → Reading (List (Nat × Nat))
  | [] => return []
  | symbol :: rest => do
    let length ← number 3
    let more ← readShortLengths rest
    return (symbol, length) :: more

/-- The lengths of the words for lengths. -/
def readLengthCode (count : Nat) : Reading Code := do
  let told ← readShortLengths (lengthOrder.take count)
  let code := Code.ofLengths ((List.range 19).map fun s => (told.lookup s).getD 0)
  if !code.isUsable false then throw (.flaw .codeLengths)
  return code

/-- Reads `count` lengths after those that are known, which are in reverse, at most `fuel` symbols.
A symbol from 16 on repeats the length before it or stands for zeros. -/
def readLengths (code : Code) (count : Nat) : Nat → List Nat → Reading (List Nat)
  | 0, _ => throw .short
  | fuel + 1, known => do
    if count ≤ known.length then return known.reverse
    let symbol := (← code.read).getD 0
    if symbol < 16 then readLengths code count fuel (symbol :: known)
    else
      let times ←
        if symbol = 16 then do pure (3 + (← number 2))
        else if symbol = 17 then do pure (3 + (← number 3))
        else do pure (11 + (← number 7))
      if symbol = 16 && known.isEmpty then throw (.flaw .lengthRepeat)
      if count < known.length + times then throw (.flaw .lengthRepeat)
      let length := if symbol = 16 then known.head?.getD 0 else 0
      readLengths code count fuel (List.replicate times length ++ known)

/-- The codes that a block tells before its symbols. -/
def readCodes : Reading Codes := do
  let literalCount := 257 + (← number 5)
  let distanceCount := 1 + (← number 5)
  let lengthCount := 4 + (← number 4)
  if 286 < literalCount || distanceSymbols < distanceCount then throw (.flaw .tooManySymbols)
  let code ← readLengthCode lengthCount
  let lengths ← readLengths code (literalCount + distanceCount) ((← get).left + 1) []
  if lengths[endOfBlock]?.getD 0 = 0 then throw (.flaw .noEndOfBlock)
  let literals := Code.ofLengths (lengths.take literalCount)
  if !literals.isUsable true then throw (.flaw .literalLengths)
  let distances := Code.ofLengths (lengths.drop literalCount)
  if !distances.isUsable true then throw (.flaw .distances)
  return ⟨literals, distances⟩

/-- Reads blocks up to the last one, at most `fuel` of them. -/
def readBlocks : Nat → Reading Unit
  | 0 => throw .short
  | fuel + 1 => do
    let isLast ← nextBit
    match ← number 2 with
    | 0 => readStored
    | 1 => readSymbols fixedCodes ((← get).left + 1)
    | 2 =>
      let codes ← readCodes
      readSymbols codes ((← get).left + 1)
    | _ => throw (.flaw .blockType)
    if isLast then return else readBlocks fuel

/-- Reads compressed data. -/
def readData : Reading Unit := do readBlocks ((← get).left + 1)

end Workflow.Flate
