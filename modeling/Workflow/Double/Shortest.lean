import Workflow.Double.Basic

/-! The shortest decimal that reads back as a given number: the fewest digits of which some choice
lies among the reals that round to the number, and of these the choice nearest to it. -/

namespace Workflow.Double

/-- The ratio `units / one` against powers of ten: `10 ^ e` for `e` not negative is `scale.1 /
scale.2` with one of the two equal to one. -/
def powerOfTen (e : Int) : Nat × Nat :=
  if 0 ≤ e then (Nat.pow 10 e.toNat, 1) else (1, Nat.pow 10 (-e).toNat)

/-- Whether `10 ^ e` is at most the magnitude. -/
def reaches (units : Nat) (e : Int) : Bool :=
  let (up, down) := powerOfTen e
  up * one ≤ units * down

/-- The largest exponent `e`, among `start` and the `fuel` ones below it, whose power of ten is at
most the magnitude. -/
def leadingExponent (units : Nat) : Nat → Int → Int
  | 0, e => e
  | fuel + 1, e => if reaches units e then e else leadingExponent units fuel (e - 1)

/-- An exponent that is not below the leading one: 1233 / 4096 differs from log₁₀ 2 by less than
one part in 65000. -/
def exponentAbove (units : Nat) : Int := ((units.log2 : Int) - 1073) * 1233 / 4096 + 2

/-- The distance down to the number below: half a step where the magnitude is a power of two. -/
def stepBelow (units : Nat) : Nat :=
  let s := step units
  if units = Nat.pow 2 units.log2 ∧ 1 < s then s / 2 else s

/-- Whether `c * 10 ^ e` rounds to the magnitude. The ends of the interval belong to it when the
significand is even. -/
def roundsTo (units c : Nat) (e : Int) : Bool :=
  let (up, down) := powerOfTen e
  let x := units * down
  let y := c * up * one
  let even := units / step units % 2 = 0
  if y ≤ x then
    if even then 2 * (x - y) ≤ stepBelow units * down else 2 * (x - y) < stepBelow units * down
  else
    if even then 2 * (y - x) ≤ step units * down else 2 * (y - x) < step units * down

/-- Of the two multiples of `grid` around `x` the one that is a hit: the nearer of two hits, the
even one when they are equally near. -/
def nearer? (hits : Nat → Bool) (x grid : Nat) : Option Nat :=
  let c := x / grid
  let below := x - c * grid
  let above := grid - below
  match hits c, hits (c + 1) with
  | true, true =>
    some (if below < above then c else if above < below then c + 1
      else if c % 2 = 0 then c else c + 1)
  | true, false => some c
  | false, true => some (c + 1)
  | false, false => none

/-- The multiple of `10 ^ e` that rounds to the magnitude, if one does. -/
def onGrid? (units : Nat) (e : Int) : Option Nat :=
  let (up, down) := powerOfTen e
  nearer? (fun c => roundsTo units c e) (units * down) (up * one)

/-- The first exponent with a hit, from `e` downwards, and the hit; past the last try it is the
given one. -/
def firstHit (hit? : Int → Option Nat) (past : Int → Nat) : Nat → Int → Nat × Int
  | 0, e => (past e, e)
  | fuel + 1, e =>
    match hit? e with
    | some c => (c, e)
    | none => firstHit hit? past fuel (e - 1)

/-- The magnitude in multiples of `10 ^ e`, cut off. -/
def truncated (units : Nat) (e : Int) : Nat :=
  let (up, down) := powerOfTen e
  units * down / (up * one)

/-- Digits `c` and exponent `e` of the shortest decimal `c * 10 ^ e` for a positive magnitude. -/
def shortest (units : Nat) : Nat × Int :=
  firstHit (onGrid? units) (truncated units) 17
    (leadingExponent units 330 (exponentAbove units))

end Workflow.Double
