/-! Binary floating-point numbers of 64 bits, held exactly. A finite number is a sign and a count
of units, one unit being the smallest positive number, 2⁻¹⁰⁷⁴. Comparison and conversion are then
exact arithmetic on natural numbers. -/

namespace Workflow

namespace Double

/-- One in units. -/
def one : Nat := Nat.pow 2 1074

/-- The first count of units that is too large for a finite number: 2¹⁰²⁴. -/
def limit : Nat := Nat.pow 2 2098

/-- The distance from a count of units to the next one above it: 53 significant bits are kept. -/
def step (units : Nat) : Nat := Nat.pow 2 (units.log2 - 52)

/-- A count of units that is a magnitude: a multiple of its own step, below the limit. -/
def Fits (units : Nat) : Prop := step units ∣ units ∧ units < limit

instance (units : Nat) : Decidable (Fits units) := inferInstanceAs (Decidable (_ ∧ _))

theorem limit_pos : 0 < limit := by decide +kernel

theorem fits_zero : Fits 0 := ⟨Nat.dvd_zero _, limit_pos⟩

end Double

inductive Double where
  | nan
  | infinite (negative : Bool)
  | finite (negative : Bool) (units : Nat) (fits : Double.Fits units)
  deriving DecidableEq

namespace Double

def zero : Double := .finite false 0 fits_zero

instance : Inhabited Double := ⟨zero⟩

/-- The quotient of two natural numbers rounded to the nearest; a half goes to the even side. -/
def divHalfEven (n d : Nat) : Nat :=
  let q := n / d
  let twice := 2 * (n % d)
  if twice < d then q else if d < twice then q + 1 else if q % 2 = 0 then q else q + 1

/-- A ratio in units, rounded to a multiple of the step that its size asks for. -/
def roundUnits (n d : Nat) : Nat :=
  let s := step (n / d)
  divHalfEven n (d * s) * s

/-- The number with the given sign and a magnitude of `n / d` units; past the largest one it is
infinite. -/
def ofUnits (negative : Bool) (n d : Nat) : Double :=
  let u := roundUnits n d
  if h : Fits u then .finite negative u h else .infinite negative

/-- The number nearest to `significand * 10 ^ exponent`. The two cut-offs spare the power of ten
where the result is infinite or zero anyhow. -/
def ofDecimal (negative : Bool) (significand : Nat) (exponent : Int) : Double :=
  if significand = 0 then .finite negative 0 fits_zero
  else if 0 ≤ exponent then
    if 310 < exponent then .infinite negative
    else ofUnits negative (significand * Nat.pow 10 exponent.toNat * one) 1
  else
    if 400 + significand.log2 < (-exponent).toNat then .finite negative 0 fits_zero
    else ofUnits negative (significand * one) (Nat.pow 10 (-exponent).toNat)

/-- A number that is not infinite. -/
def bounded? : Double → Option Double
  | .infinite _ => none
  | x => some x

/-- The number nearest to an integer, unless that lies past the largest one. -/
def ofInt? (i : Int) : Option Double :=
  bounded? (ofUnits (decide (i < 0)) (i.natAbs * one) 1)

/-- A count of units with its sign. -/
def signed (negative : Bool) (units : Nat) : Int := if negative then -units else units

def isNaN : Double → Bool
  | .nan => true
  | _ => false

def isFinite : Double → Bool
  | .finite .. => true
  | _ => false

/-- Numeric equality: the two zeros are equal, and a NaN equals nothing. -/
def equals : Double → Double → Bool
  | .finite s u _, .finite t v _ => signed s u == signed t v
  | .infinite s, .infinite t => s == t
  | _, _ => false

def less : Double → Double → Bool
  | .finite s u _, .finite t v _ => signed s u < signed t v
  | .finite .., .infinite t => !t
  | .infinite s, .finite .. => s
  | .infinite s, .infinite t => s && !t
  | _, _ => false

def lessEq (x y : Double) : Bool := less x y || equals x y

/-- Numeric equality with an integer, decided without rounding it. -/
def equalsInt : Double → Int → Bool
  | .finite s u _, i => signed s u == i * one
  | _, _ => false

/-- The integer that a finite number is, if it is one. -/
def toInt? : Double → Option Int
  | .finite s u _ => if u % one = 0 then some (signed s (u / one)) else none
  | _ => none

end Double

end Workflow
