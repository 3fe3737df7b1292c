import Workflow.Zstd.Bits

/-! The digest of 64 bits that a frame may tell of its content. Words of eight bytes go by turns
into four sums, and what is left over is mixed in after them. -/

namespace Workflow.Zstd

/-- The factors of the digest, which are primes. -/
def firstPrime : UInt64 := 0x9e3779b185ebca87

def secondPrime : UInt64 := 0xc2b2ae3d27d4eb4f

def thirdPrime : UInt64 := 0x165667b19e3779f9

def fourthPrime : UInt64 := 0x85ebca77c2b2ae63

def fifthPrime : UInt64 := 0x27d4eb2f165667c5

def rotate (n places : UInt64) : UInt64 := (n <<< places) ||| (n >>> (64 - places))

/-- A sum with one more word. -/
def mixed (sum word : UInt64) : UInt64 := rotate (sum + word * secondPrime) 31 * firstPrime

/-- Words of eight bytes, and the bytes after them. -/
def eights : List Nat → List UInt64 × List Nat
  | a :: b :: c :: d :: e :: f :: g :: h :: rest =>
    let (ws, left) := eights rest
    (UInt64.ofNat (littleEndian [a, b, c, d, e, f, g, h]) :: ws, left)
  | left => ([], left)

/-- The four sums of words that are taken by fours, and the words after them. -/
def sums : UInt64 × UInt64 × UInt64 × UInt64 → List UInt64 →
    (UInt64 × UInt64 × UInt64 × UInt64) × List UInt64
  | (a, b, c, d), w :: x :: y :: z :: rest =>
    sums (mixed a w, mixed b x, mixed c y, mixed d z) rest
  | four, left => (four, left)

/-- The four sums in one. -/
def joined (a b c d : UInt64) : UInt64 :=
  [a, b, c, d].foldl (fun n sum => (n ^^^ mixed 0 sum) * firstPrime + fourthPrime)
    (rotate a 1 + rotate b 7 + rotate c 12 + rotate d 18)

def withWord (n word : UInt64) : UInt64 :=
  rotate (n ^^^ mixed 0 word) 27 * firstPrime + fourthPrime

def withHalfWord (n half : UInt64) : UInt64 :=
  rotate (n ^^^ (half * firstPrime)) 23 * secondPrime + thirdPrime

def withByte (n : UInt64) (b : Nat) : UInt64 :=
  rotate (n ^^^ (UInt64.ofNat b * fifthPrime)) 11 * firstPrime

/-- A digest with bytes that are no whole word. -/
def withTail (n : UInt64) : List Nat → UInt64
  | a :: b :: c :: d :: rest =>
    rest.foldl withByte (withHalfWord n (UInt64.ofNat (littleEndian [a, b, c, d])))
  | bytes => bytes.foldl withByte n

/-- Spreads each bit over all of them. -/
def spread (n : UInt64) : UInt64 :=
  let n := (n ^^^ (n >>> 33)) * secondPrime
  let n := (n ^^^ (n >>> 29)) * thirdPrime
  n ^^^ (n >>> 32)

def digest (bytes : List Nat) : UInt64 :=
  let (all, tail) := eights bytes
  let ((a, b, c, d), left) := sums (firstPrime + secondPrime, secondPrime, 0, 0 - firstPrime) all
  let start := if all.length < 4 then fifthPrime else joined a b c d
  spread (withTail (left.foldl withWord (start + UInt64.ofNat bytes.length)) tail)

end Workflow.Zstd
