import Workflow.Flate.Bits

/-! Bits of a block. Descriptions are read from the first byte on, the lowest bit of each byte
first; what they describe is read from the last byte backwards, the highest bit first. -/

namespace Workflow.Zstd

/-- Reading bits one after the other, as far as there are any. -/
abbrev Bits := StateT (List Bool) Option

def nextBit : Bits Bool
  | [] => none
  | bit :: rest => some (bit, rest)

/-- The number of some bits, the lowest first. -/
def lowFirst : Nat → Bits Nat
  | 0 => return 0
  | n + 1 => do
    let bit ← nextBit
    let rest ← lowFirst n
    return bit.toNat + 2 * rest

/-- The number of some bits, the highest first. -/
def highFirst : Nat → Bits Nat
  | 0 => return 0
  | n + 1 => do
    let bit ← nextBit
    let rest ← highFirst n
    return bit.toNat * Nat.pow 2 n + rest

/-- The number of the next bits, the highest first, without passing them; bits that are not there
are zero. -/
def peek : Nat → List Bool → Nat
  | 0, _ => 0
  | _ + 1, [] => 0
  | n + 1, bit :: rest => bit.toNat * Nat.pow 2 n + peek n rest

/-- Passes some bits. -/
def skip : Nat → Bits Unit
  | 0 => return
  | n + 1 => do
    let _ ← nextBit
    skip n

/-- The bits of bytes from the first byte on. -/
def forward (bytes : List Nat) : List Bool := bytes.flatMap Flate.byteBits

/-- The bits of bytes from the last byte backwards. They begin after the highest bit of the last
byte that is set; in a last byte of zero there is no beginning. -/
def backward? (bytes : List Nat) : Option (List Bool) :=
  match bytes.reverse with
  | [] => none
  | last :: others =>
    let high (b : Nat) := (Flate.byteBits b).reverse
    match (high last).dropWhile (!·) with
    | [] => none
    | _ :: bits => some (bits ++ others.flatMap high)

/-- The number of some bytes, the lowest first. -/
def littleEndian : List Nat → Nat
  | [] => 0
  | b :: rest => b + 0x100 * littleEndian rest

end Workflow.Zstd
