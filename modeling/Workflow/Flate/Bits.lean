/-! Compressed data as bits, the lowest bit of each byte first, and what may be wrong with it. -/

namespace Workflow.Flate

/-- What is wrong with compressed data. -/
inductive Flaw where
  | header
  | method
  | windowSize
  | headerFlags
  | headerCheck
  | blockType
  | storedLengths
  | tooManySymbols
  | codeLengths
  | lengthRepeat
  | noEndOfBlock
  | literalLengths
  | distances
  | literalCode
  | distanceCode
  | tooFarBack
  | dataCheck
  | lengthCheck
  deriving DecidableEq

def Flaw.reason : Flaw → String
  | header => "incorrect header check"
  | method => "unknown compression method"
  | windowSize => "invalid window size"
  | headerFlags => "unknown header flags set"
  | headerCheck => "header crc mismatch"
  | blockType => "invalid block type"
  | storedLengths => "invalid stored block lengths"
  | tooManySymbols => "too many length or distance symbols"
  | codeLengths => "invalid code lengths set"
  | lengthRepeat => "invalid bit length repeat"
  | noEndOfBlock => "invalid code -- missing end-of-block"
  | literalLengths => "invalid literal/lengths set"
  | distances => "invalid distances set"
  | literalCode => "invalid literal/length code"
  | distanceCode => "invalid distance code"
  | tooFarBack => "invalid distance too far back"
  | dataCheck => "incorrect data check"
  | lengthCheck => "incorrect length check"

def Flaw.message (f : Flaw) : String := "Error -3 while decompressing data: " ++ f.reason

/-- Why reading stops: the data ends too soon, or there is a flaw in it. -/
inductive Halt where
  | short
  | flaw (f : Flaw)
  deriving DecidableEq

/-- Data that is being read: the bits that are left of a byte, the bytes after it, and the bytes
that have been written. -/
structure Progress where
  bits : List Bool
  bytes : List Nat
  written : Array Nat

/-- How many bits there are to read. -/
def Progress.left (p : Progress) : Nat := p.bits.length + 8 * p.bytes.length

/-- Reading compressed data. What has been written stays when reading stops. -/
abbrev Reading := EStateM Halt Progress

/-- The bits of a byte, the lowest first. -/
def byteBits (b : Nat) : List Bool := (List.range 8).map fun i => b / Nat.pow 2 i % 2 == 1

def nextBit : Reading Bool := do
  let p ← get
  match p.bits, p.bytes with
  | bit :: rest, _ =>
    set { p with bits := rest }
    return bit
  | [], b :: rest =>
    set { p with bits := (byteBits b).drop 1, bytes := rest }
    return b % 2 == 1
  | [], [] => throw .short

/-- The number of some bits, the lowest first. -/
def number : Nat → Reading Nat
  | 0 => return 0
  | n + 1 => do
    let bit ← nextBit
    let rest ← number n
    return bit.toNat + 2 * rest

/-- Passes the bits that are left of a byte. -/
def alignToByte : Reading Unit := modify fun p => { p with bits := [] }

def nextByte : Reading Nat := do
  let p ← get
  match p.bytes with
  | b :: rest =>
    set { p with bytes := rest }
    return b
  | [] => throw .short

/-- The number of some bytes, the lowest first. -/
def byteNumber : Nat → Reading Nat
  | 0 => return 0
  | n + 1 => do
    let b ← nextByte
    let rest ← byteNumber n
    return b + 0x100 * rest

def writeByte (b : Nat) : Reading Unit := modify fun p => { p with written := p.written.push b }

/-- Copies bytes, one after the other. -/
def copyBytes : Nat → Reading Unit
  | 0 => return
  | n + 1 => do
    writeByte (← nextByte)
    copyBytes n

/-- Writes bytes again that stand some distance back. -/
def repeatBytes (distance : Nat) : Nat → Reading Unit
  | 0 => return
  | n + 1 => do
    let p ← get
    writeByte (p.written[p.written.size - distance]?.getD 0)
    repeatBytes distance n

end Workflow.Flate
