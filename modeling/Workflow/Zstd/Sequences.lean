import Workflow.Zstd.Literals

/-! The sequences of a block: each one takes some literals and repeats what stands some distance
back. What is left of the literals comes after the last one. -/

namespace Workflow.Zstd

/-- Numbers that are told by symbols with extra bits: how many bits each symbol has, and the least
number of the first. -/
structure Scale where
  extra : List Nat
  least : Nat

def literalScale : Scale :=
  ⟨List.replicate 16 0 ++ [1, 1, 1, 1, 2, 2, 3, 3, 4, 6, 7, 8, 9, 10, 11, 12, 13, 14, 15, 16], 0⟩

def lengthScale : Scale :=
  ⟨List.replicate 32 0 ++
    [1, 1, 1, 1, 2, 2, 3, 3, 4, 4, 5, 7, 8, 9, 10, 11, 12, 13, 14, 15, 16], 3⟩

def distanceScale : Scale := ⟨List.range 32, 1⟩

/-- The least number of a symbol: the numbers of the symbols follow each other. -/
def Scale.leastOf (scale : Scale) (symbol : Nat) : Nat :=
  (scale.extra.take symbol).foldl (fun n width => n + Nat.pow 2 width) scale.least

def Scale.read (scale : Scale) (symbol : Nat) : Bits Nat :=
  return scale.leastOf symbol + (← highFirst (scale.extra[symbol]?.getD 0))

/-- The codes of the three numbers of a sequence. -/
structure Codes where
  literals : States
  distances : States
  lengths : States

/-- Shares by their sizes, with rare symbols at the end. -/
def sharesOf (sizes : List Nat) (rare : Nat) : List Share :=
  sizes.map .states ++ List.replicate rare .rare

/-- The codes that need not be described. -/
def commonLiterals : States :=
  .ofShares 6 (sharesOf ([4, 3] ++ List.replicate 11 2 ++ [1, 1, 1] ++ List.replicate 9 2 ++
    [3, 2, 1, 1, 1, 1, 1]) 4)

def commonDistances : States :=
  .ofShares 5 (sharesOf (List.replicate 6 1 ++ [2, 2, 2] ++ List.replicate 15 1) 5)

def commonLengths : States :=
  .ofShares 6 (sharesOf ([1, 4, 3] ++ List.replicate 6 2 ++ List.replicate 37 1) 7)

/-- Reads a code: the common one, that of a single symbol, one that is described, or the earlier
one. -/
def readStates (kind : Nat) (scale : Scale) (accuracyLimit : Nat) (common : States)
    (earlier : Option States) (bytes : List Nat) : Option (States × List Nat) :=
  match kind with
  | 0 => some (common, bytes)
  | 1 =>
    match bytes with
    | symbol :: rest => if symbol < scale.extra.length then some (.single symbol, rest) else none
    | [] => none
  | 2 => do
    let (states, _, rest) ← describedStates? scale.extra.length accuracyLimit bytes
    return (states, rest)
  | _ => earlier.map (·, bytes)

/-- Reads the codes of a block after a byte that tells their kinds. -/
def readCodes (kinds : Nat) (earlier : Option Codes) (bytes : List Nat) :
    Option (Codes × List Nat) := do
  let (literals, bytes) ← readStates (kinds / 0x40) literalScale 9 commonLiterals
    (earlier.map Codes.literals) bytes
  let (distances, bytes) ← readStates (kinds / 0x10 % 4) distanceScale 8 commonDistances
    (earlier.map Codes.distances) bytes
  let (lengths, bytes) ← readStates (kinds / 4 % 4) lengthScale 9 commonLengths
    (earlier.map Codes.lengths) bytes
  return (⟨literals, distances, lengths⟩, bytes)

/-- How many sequences there are, told by one to three bytes, and the bytes after them. -/
def readCount : List Nat → Except Flaw (Nat × List Nat)
  | [] => throw .size
  | a :: rest =>
    if a < 0x80 then return (a, rest)
    else
      match rest with
      | [] => throw .size
      | b :: rest =>
        if a < 0xff then return (0x100 * (a - 0x80) + b, rest)
        else
          match rest with
          | [] => throw .size
          | c :: rest => return (b + 0x100 * c + 0x7f00, rest)

/-- The last three distances, the last one first. -/
structure Recent where
  first : Nat
  second : Nat
  third : Nat

/-- The distance that a number stands for. Numbers up to three stand for recent distances, shifted
by one after no literals; the last of them then stands for the first one less one. -/
def Recent.distance (r : Recent) (number : Nat) (afterLiterals : Bool) : Nat × Recent :=
  if 3 < number then (number - 3, ⟨number - 3, r.first, r.second⟩)
  else
    match if afterLiterals then number - 1 else number with
    | 0 => (r.first, r)
    | 1 => (r.second, ⟨r.second, r.first, r.third⟩)
    | 2 => (r.third, ⟨r.third, r.first, r.second⟩)
    | _ => (r.first - 1, ⟨r.first - 1, r.first, r.second⟩)

/-- What has been written, the literals that are left, the room that is left, and the last
distances. -/
structure Writing where
  written : Array Nat
  literals : List Nat
  room : Nat
  recent : Recent

/-- Takes literals one after the other, as far as there are any. -/
def takeLiterals : Nat → List Nat → Array Nat → Option (List Nat × Array Nat)
  | 0, literals, out => some (literals, out)
  | _ + 1, [], _ => none
  | n + 1, b :: literals, out => takeLiterals n literals (out.push b)

/-- Writes bytes again that stand some distance back. -/
def repeatBack (distance : Nat) : Nat → Array Nat → Array Nat
  | 0, out => out
  | n + 1, out => repeatBack distance n (out.push (out[out.size - distance]?.getD 0))

/-- Carries out a sequence: so many literals, then so many bytes from some distance back. -/
def Writing.perform : Writing → Nat → Nat → Nat → Except Flaw Writing
  | ⟨written, left, room, recent⟩, literals, number, length => do
    let (distance, recent) := recent.distance number (literals != 0)
    if room < literals + length then throw .noRoom
    match takeLiterals literals left written with
    | none => throw .corrupted
    | some (left, out) =>
      if distance = 0 || out.size < distance then throw .corrupted
      return ⟨repeatBack distance length out, left, room - (literals + length), recent⟩

/-- The states of the three codes. -/
structure Turn where
  literals : State
  distances : State
  lengths : State

def Codes.start (c : Codes) : Bits Turn := do
  let literals ← c.literals.start
  let distances ← c.distances.start
  let lengths ← c.lengths.start
  return ⟨literals, distances, lengths⟩

def Codes.next (c : Codes) (t : Turn) : Bits Turn := do
  let literals ← c.literals.next t.literals
  let lengths ← c.lengths.next t.lengths
  let distances ← c.distances.next t.distances
  return ⟨literals, distances, lengths⟩

/-- The numbers of a sequence: of literals, for the distance, and of bytes that are repeated. -/
def Turn.read (t : Turn) : Bits (Nat × Nat × Nat) := do
  let number ← distanceScale.read t.distances.symbol
  let length ← lengthScale.read t.lengths.symbol
  let literals ← literalScale.read t.literals.symbol
  return (literals, number, length)

/-- Carries out sequences, the bits of which have to end with the last one. -/
def Codes.perform (c : Codes) : Nat → Turn → Writing → List Bool → Except Flaw Writing
  | 0, _, w, _ => return w
  | n + 1, turn, w, bits =>
    match turn.read bits with
    | none => throw .corrupted
    | some ((literals, number, length), bits) => do
      let w ← w.perform literals number length
      if n = 0 then
        if bits.isEmpty then return w else throw .corrupted
      else
        match c.next turn bits with
        | none => throw .corrupted
        | some (turn, bits) => c.perform n turn w bits

/-- Carries out the sequences that are described by some bytes; the codes are left for later
ones. -/
def performSequences (earlier : Option Codes) (w : Writing) (bytes : List Nat) :
    Except Flaw (Option Codes × Writing) := do
  let (count, bytes) ← readCount bytes
  match count, bytes with
  | 0, [] => return (earlier, w)
  | 0, _ :: _ => throw .corrupted
  | _ + 1, [] => throw .size
  | count, kinds :: bytes =>
    if kinds % 4 != 0 then throw .corrupted
    match readCodes kinds earlier bytes with
    | none => throw .corrupted
    | some (codes, bytes) =>
      if w.room = 0 then throw .noRoom
      match backward? bytes >>= codes.start with
      | none => throw .corrupted
      | some (turn, bits) => return (some codes, ← codes.perform count turn w bits)

end Workflow.Zstd
