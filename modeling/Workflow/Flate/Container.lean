import Workflow.Flate.Inflate

/-! Compressed data with a header before it and a checksum after it. Data that ends too soon stands
for what it holds so far. -/

namespace Workflow.Flate

/-- The sums of Adler: of the bytes, and of the sums so far, modulo the greatest prime below
2^16. -/
def adler (bytes : List Nat) : Nat :=
  let (a, b) := bytes.foldl (fun (a, b) byte =>
    let a := (a + byte) % 65521
    (a, (b + a) % 65521)) (1, 0)
  0x10000 * b + a

/-- One bit of a cyclic sum, the lowest bit first. -/
def cyclicStep (n : Nat) : Nat :=
  if n % 2 = 0 then n / 2 else (n / 2) ^^^ 0xedb88320

def cyclicByte (n byte : Nat) : Nat :=
  (List.range 8).foldl (fun n _ => cyclicStep n) (n ^^^ byte)

/-- The cyclic sum of 32 bits. -/
def cyclic (bytes : List Nat) : Nat := bytes.foldl cyclicByte 0xffffffff ^^^ 0xffffffff

/-- The method of compression in every header. -/
def deflateMethod : Nat := 8

/-- Bytes up to one that is zero, at most `fuel` of them; the zero is one of them. -/
def readName : Nat → Reading (List Nat)
  | 0 => throw .short
  | fuel + 1 => do
    let b ← nextByte
    if b = 0 then return [b]
    let rest ← readName fuel
    return b :: rest

def readBytes : Nat → Reading (List Nat)
  | 0 => return []
  | n + 1 => do
    let b ← nextByte
    let rest ← readBytes n
    return b :: rest

def hasFlag (flags n : Nat) : Bool := flags / Nat.pow 2 n % 2 = 1

/-- The parts of a header that its flags tell of; the answer is their bytes. -/
def readExtras (flags : Nat) : Reading (List Nat) := do
  let fuel := (← get).bytes.length + 1
  let extra ←
    if hasFlag flags 2 then do
      let size ← readBytes 2
      let field ← readBytes ((size.getLast?.getD 0) * 0x100 + size.head?.getD 0)
      pure (size ++ field)
    else pure []
  let name ← if hasFlag flags 3 then readName fuel else pure []
  let comment ← if hasFlag flags 4 then readName fuel else pure []
  return extra ++ name ++ comment

/-- A member of an archive: a header with a name and more, the data, a cyclic sum and the size. -/
def readMember : Reading Unit := do
  let mark ← readBytes 2
  if mark != [0x1f, 0x8b] then throw (.flaw .header)
  let kind ← readBytes 2
  let flags := kind.getLast?.getD 0
  if kind.head? != some deflateMethod then throw (.flaw .method)
  if 32 ≤ flags then throw (.flaw .headerFlags)
  let time ← readBytes 6
  let extras ← readExtras flags
  if hasFlag flags 1 then
    let check ← byteNumber 2
    if check != cyclic (mark ++ kind ++ time ++ extras) % 0x10000 then
      throw (.flaw .headerCheck)
  readData
  alignToByte
  let written := (← get).written.toList
  if (← byteNumber 4) != cyclic written then throw (.flaw .dataCheck)
  if (← byteNumber 4) != written.length % 0x100000000 then throw (.flaw .lengthCheck)

/-- A stream: a header of two bytes, the data and the sums of Adler. Nothing is read that needs a
dictionary. -/
def readStream : Reading Unit := do
  let first ← nextByte
  let second ← nextByte
  if (0x100 * first + second) % 31 != 0 then throw (.flaw .header)
  if first % 16 != deflateMethod then throw (.flaw .method)
  if 7 < first / 16 then throw (.flaw .windowSize)
  if hasFlag second 5 then
    let _ ← byteNumber 4
    throw (.flaw .header)
  readData
  alignToByte
  let sums ← readBytes 4
  let written := (← get).written.toList
  if sums.foldl (fun n b => 0x100 * n + b) 0 != adler written then throw (.flaw .dataCheck)

/-- What some reading writes, as far as the data goes. -/
def Reading.written (reading : Reading Unit) (bytes : List Nat) : Except Flaw (List Nat) :=
  match reading.run ⟨[], bytes, #[]⟩ with
  | .ok _ p => .ok p.written.toList
  | .error .short p => .ok p.written.toList
  | .error (.flaw f) _ => .error f

/-- The bytes of a member. -/
def gunzip (bytes : List Nat) : Except Flaw (List Nat) := Reading.written readMember bytes

/-- The bytes of a stream, or of data without a header. -/
def inflate (bytes : List Nat) : Except Flaw (List Nat) :=
  match Reading.written readStream bytes with
  | .ok out => .ok out
  | .error _ => Reading.written readData bytes

end Workflow.Flate
