import Workflow.Zstd.States

/-! Prefix codes that are given by the weights of symbols: each weight more halves the words. -/

namespace Workflow.Zstd

/-- A prefix code: the symbol that the next bits begin with and the length of its word, for each
number of as many bits as the longest word has. -/
structure Words where
  longest : Nat
  table : Array (Nat × Nat)

/-- The greatest weight, and the greatest length of a word. -/
def greatestWeight : Nat := 12

/-- The part of all words that a symbol of some weight takes. -/
def part : Nat → Nat
  | 0 => 0
  | w + 1 => Nat.pow 2 w

/-- The code of weights. The last symbol is not among them: it takes what the others leave over,
which has to be a power of two. Words of the greatest length come in pairs. -/
def Words.ofWeights? (weights : List Nat) : Option Words := do
  let total := weights.foldl (fun n w => n + part w) 0
  let longest := Nat.log2 total + 1
  let left := Nat.pow 2 longest - total
  let all := weights ++ [Nat.log2 left + 1]
  let ones := all.count 1
  guard (weights.all (· ≤ greatestWeight) && total != 0 && longest ≤ greatestWeight &&
    Nat.pow 2 (Nat.log2 left) = left && 2 ≤ ones && ones % 2 = 0)
  let table := (List.range longest).flatMap fun w =>
    (all.zipIdx.filter fun (weight, _) => weight = w + 1).flatMap fun (_, s) =>
      List.replicate (part (w + 1)) (s, longest - w)
  return ⟨longest, table.toArray⟩

/-- The symbols of two states that take turns, up to the end of the bits; `out` are those before,
in reverse. When a state has no next one, the other state has its turn and is the last. -/
def takingTurns (c : States) : Nat → State → State → List Nat → List Bool → Option (List Nat)
  | 0, _, _, _, _ => none
  | fuel + 1, now, other, out, bits =>
    match c.next now bits with
    | some (next, bits) => takingTurns c fuel other next (now.symbol :: out) bits
    | none => some (other.symbol :: now.symbol :: out).reverse

/-- How many weights may be told, less the last of them. -/
def weightLimit : Nat := 254

/-- How many different weights a code of them may have: a finer code leaves less room for them. -/
def differentWeights (accuracy : Nat) : Nat := if accuracy < 6 then 92 else 12

/-- Weights in a code of states. -/
def codedWeights? (bytes : List Nat) : Option (List Nat) := do
  let (states, different, bytes) ← describedStates? 256 6 bytes
  guard (different ≤ differentWeights states.accuracy)
  let bits ← backward? bytes
  let (first, bits) ← states.start bits
  let (second, bits) ← states.start bits
  takingTurns states weightLimit first second [] bits

/-- The code that is described at the beginning of some bytes, and the bytes after it. The first
byte tells how many bytes the weights take, or how many weights of half a byte there are. -/
def describedWords? : List Nat → Option (Words × List Nat)
  | [] => none
  | size :: rest => do
    let taken := if size < 128 then size else (size - 126) / 2
    guard (taken ≤ rest.length)
    let weights ←
      if size < 128 then codedWeights? (rest.take taken)
      else some (((rest.take taken).flatMap fun b => [b / 16, b % 16]).take (size - 127))
    return (← Words.ofWeights? weights, rest.drop taken)

/-- The symbols of some number of words, after those in `out`, if the bits end with them. -/
def Words.symbols? (c : Words) : Nat → Array Nat → List Bool → Option (Array Nat)
  | 0, out, bits => if bits.isEmpty then some out else none
  | n + 1, out, bits =>
    let (symbol, width) := c.table[peek c.longest bits]?.getD (0, 0)
    match skip width bits with
    | some (_, bits) => c.symbols? n (out.push symbol) bits
    | none => none

/-- The symbols of some number of words in one stream of bytes. -/
def Words.stream? (c : Words) (count : Nat) (out : Array Nat) (bytes : List Nat) :
    Option (Array Nat) := do
  c.symbols? count out (← backward? bytes)

/-- The symbols of some number of words, after those in `out`, and the bits that are left. -/
def Words.run (c : Words) : Nat → Array Nat → List Bool → Array Nat × List Bool
  | 0, out, bits => (out, bits)
  | n + 1, out, bits =>
    let (symbol, width) := c.table[peek c.longest bits]?.getD (0, 0)
    c.run n (out.push symbol) (bits.drop width)

/-- How often five words are read from each of four long streams at once, at most so many times: as
long as the first stream has more than fourteen bytes with those before it. -/
def Words.rounds (c : Words) : Nat → List Bool → Nat
  | 0, _ => 0
  | n + 1, bits =>
    if (bits.drop 112).isEmpty then 0 else c.rounds n (c.run 5 #[] bits).2 + 1

/-- One of several streams: where it begins and ends, and how many words it has. -/
structure Stream where
  start : Nat
  stop : Nat
  count : Nat

/-- How many bytes a stream has that is read together with others. -/
def longStream : Nat := 8

/-- The symbols of long streams. A stream runs on into the bytes before it if its words take more
bits than it has; but when streams are no longer read at once, none may have done so for a byte. -/
def Words.longStreams? (c : Words) (joint : Nat) (bytes : List Nat) (streams : List Stream) :
    Option (Array Nat) :=
  streams.foldlM (fun out s => do
    let bytes := bytes.take s.stop
    let (out, bits) := c.run joint out ((backward? bytes).getD (forward bytes).reverse)
    guard (8 * (s.start - 1) < bits.length)
    return (c.run (s.count - joint) out bits).1) #[]

/-- The symbols of short streams, each of which has to end with its words. -/
def Words.shortStreams? (c : Words) (bytes : List Nat) (streams : List Stream) :
    Option (Array Nat) :=
  streams.foldlM (fun out s => c.stream? s.count out ((bytes.take s.stop).drop s.start)) #[]

/-- The symbols of words in four streams, the sizes of the first three being told before them. The
streams have equally many symbols, except that the last one may have fewer. -/
def Words.fourStreams? (c : Words) (count : Nat) (bytes : List Nat) : Option (Array Nat) := do
  guard (10 ≤ bytes.length)
  let size (i : Nat) := littleEndian ((bytes.drop (2 * i)).take 2)
  let first := 6 + size 0
  let second := first + size 1
  let third := second + size 2
  guard (third ≤ bytes.length)
  let quarter := (count + 3) / 4
  guard (3 * quarter ≤ count)
  let last := count - 3 * quarter
  let streams := [⟨6, first, quarter⟩, ⟨first, second, quarter⟩, ⟨second, third, quarter⟩,
    ⟨third, bytes.length, last⟩]
  if c.longest < greatestWeight && last != 0 && streams.all (fun s => s.start + longStream ≤ s.stop)
  then
    let rounds := c.rounds (last / 5) ((backward? (bytes.take first)).getD [])
    c.longStreams? (5 * rounds) bytes streams
  else c.shortStreams? bytes streams

end Workflow.Zstd
