import Workflow.Zstd.Bits

/-! Codes of states. A symbol has a share of the states, and each state tells how many bits are
read to get from it to the next one. -/

namespace Workflow.Zstd

/-- The share that a symbol has of the states: a rare symbol has one of the last states, and any
other has some number of states spread over the rest. -/
inductive Share where
  | rare
  | states (n : Nat)
  deriving DecidableEq

def Share.size : Share → Nat
  | rare => 1
  | states n => n

/-- Reads a share of `left` states. Of the numbers up to `left + 1`, which stand for the shares,
the least ones are one bit shorter, as far as there are words for that. -/
def readShare (left : Nat) : Bits Share := do
  let width := Nat.log2 (left + 1)
  let shorter := 2 * Nat.pow 2 width - (left + 2)
  let low ← lowFirst width
  let number ←
    if low < shorter then pure low
    else do
      let bit ← nextBit
      pure (if bit then low + Nat.pow 2 width - shorter else low)
  return match number with
    | 0 => .rare
    | n + 1 => .states n

/-- How many more symbols without a share follow one, told by threes, in at most `fuel` steps. -/
def readEmpty : Nat → Bits Nat
  | 0 => failure
  | fuel + 1 => do
    let n ← lowFirst 2
    if n < 3 then return n
    return 3 + (← readEmpty fuel)

/-- Reads shares until no state is left, for at most `count` symbols, after those that are known,
which are in reverse. -/
def readShares (count : Nat) : Nat → Nat → List Share → Bits (List Share)
  | 0, _, _ => failure
  | fuel + 1, left, known => do
    if left = 0 then return known.reverse
    if count ≤ known.length then failure
    let share ← readShare left
    let empty ← if share = .states 0 then readEmpty (count + 1) else pure 0
    readShares count fuel (left - share.size) (List.replicate empty (.states 0) ++ share :: known)

/-- One state: the symbol that it stands for, how many bits tell the next state, and the state
that they are counted from. -/
structure State where
  symbol : Nat
  width : Nat
  base : Nat
  deriving Inhabited

/-- The states of a code, two to the power of its accuracy. -/
structure States where
  accuracy : Nat
  all : Array State

/-- The code of a single symbol, which needs no bits. -/
def States.single (symbol : Nat) : States := ⟨0, #[⟨symbol, 0, 0⟩]⟩

/-- The symbols of the states in order. Rare symbols have the last states, from the end on; the
others are dealt out over the rest in steps that meet each state once. -/
def symbolsOfStates (size : Nat) (shares : List Share) : List Nat :=
  let rare := shares.zipIdx.filterMap fun (share, s) => if share = .rare then some s else none
  let dealt := shares.zipIdx.flatMap fun
    | (.states n, s) => List.replicate n s
    | (.rare, _) => []
  let places := ((List.range size).map fun i => i * (size / 2 + size / 8 + 3) % size).filter
    (· < size - rare.length)
  let placed := places.zip dealt ++ rare.zipIdx.map fun (s, i) => (size - 1 - i, s)
  (placed.foldl (fun all (place, s) => all.setIfInBounds place s) (Array.replicate size 0)).toList

/-- The states of symbols. The states of one symbol are numbered from its share on, and a state
needs the more bits the smaller its number is. -/
def States.ofShares (accuracy : Nat) (shares : List Share) : States :=
  let size := Nat.pow 2 accuracy
  let numbers := (shares.map Share.size).toArray
  let (_, all) := (symbolsOfStates size shares).foldl (fun (numbers, all) s =>
    let number := numbers[s]?.getD 0
    let width := accuracy - Nat.log2 number
    (numbers.setIfInBounds s (number + 1), all.push ⟨s, width, number * Nat.pow 2 width - size⟩))
    (numbers, (#[] : Array State))
  ⟨accuracy, all⟩

/-- The state with a number. -/
def States.state (c : States) (n : Nat) : State := c.all[n]?.getD default

/-- The first state is told by its number. -/
def States.start (c : States) : Bits State := return c.state (← highFirst c.accuracy)

/-- The state after another one. -/
def States.next (c : States) (s : State) : Bits State :=
  return c.state (s.base + (← highFirst s.width))

/-- A code as it is described by some bytes, for at most `count` symbols, with how many of them
have a place in it, and the bytes after the description. -/
def describedStates? (count accuracyLimit : Nat) (bytes : List Nat) :
    Option (States × Nat × List Nat) := do
  let bits := forward bytes
  let reading : Bits (Nat × List Share) := do
    let accuracy := 5 + (← lowFirst 4)
    if accuracyLimit < accuracy then failure
    let shares ← readShares count (count + 1) (Nat.pow 2 accuracy) []
    return (accuracy, shares)
  let ((accuracy, shares), left) ← reading bits
  let told := (bits.length - left.length + 7) / 8
  return (.ofShares accuracy shares, shares.length, bytes.drop told)

end Workflow.Zstd
