import Mathlib.Tactic.Linarith
import Mathlib.Tactic.Ring
import Workflow.Double.Shortest

/-! Rounding to a magnitude. Around every magnitude there is an interval of ratios that are rounded
to it; it is narrower below a power of two, where the magnitudes lie closer. -/

namespace Workflow.Double

/-- The ratio `n / d` of units lies in the interval of the magnitude. The ends belong to it when the
significand is even. -/
structure Rounds (u n d : Nat) : Prop where
  below : 2 * (u * d - n) ≤ stepBelow u * d
  above : 2 * (n - u * d) ≤ step u * d
  odd : u / step u % 2 = 1 →
    2 * (u * d - n) < stepBelow u * d ∧ 2 * (n - u * d) < step u * d

variable {u n d k m : Nat}

theorem divHalfEven_eq (pos : 0 < d) (below : 2 * (m * d - n) ≤ d) (above : 2 * (n - m * d) ≤ d)
    (odd : m % 2 = 1 → 2 * (m * d - n) < d ∧ 2 * (n - m * d) < d) : divHalfEven n d = m := by
  unfold divHalfEven
  by_cases under : m * d ≤ n
  · have quotient : n / d = m := by
      apply Nat.div_eq_of_lt_le
      · exact under
      · rw [Nat.succ_mul]
        omega
    have rest : n % d = n - m * d := by
      have := Nat.div_add_mod n d
      rw [quotient, Nat.mul_comm] at this
      omega
    simp only [quotient, rest]
    split
    · rfl
    · split
      · omega
      · split
        · rfl
        · have := (odd (by omega)).2
          omega
  · obtain ⟨k, rfl⟩ : ∃ k, m = k + 1 := Nat.exists_eq_succ_of_ne_zero (by rintro rfl; simp at under)
    have expand : (k + 1) * d = k * d + d := Nat.succ_mul k d
    have quotient : n / d = k := by
      apply Nat.div_eq_of_lt_le
      · omega
      · rw [Nat.succ_mul]
        omega
    have rest : n % d = n - k * d := by
      have := Nat.div_add_mod n d
      rw [quotient, Nat.mul_comm] at this
      omega
    simp only [quotient, rest]
    split
    · omega
    · split
      · rfl
      · split
        · have := (odd (by omega)).1
          omega
        · rfl

theorem step_pos (u : Nat) : 0 < step u := Nat.two_pow_pos _

theorem step_of_log2_le (h : u.log2 ≤ 52) : step u = 1 := by
  rw [step, Nat.sub_eq_zero_of_le h, Nat.pow_eq, Nat.pow_zero]

theorem step_congr (h : n.log2 = u.log2) : step n = step u := by
  rw [step, h, step]

theorem step_dvd_pow (h : u.log2 ≤ k) : step u ∣ 2 ^ k :=
  Nat.pow_dvd_pow 2 (Nat.le_trans (Nat.sub_le _ _) h)

theorem pow_log2 (h : 52 ≤ u.log2) : 2 ^ u.log2 = 2 ^ 52 * step u := by
  rw [step, Nat.pow_eq, ← Nat.pow_add, Nat.add_sub_cancel' h]

theorem stepBelow_le (u : Nat) : stepBelow u ≤ step u := by
  unfold stepBelow
  dsimp only
  split
  · exact Nat.div_le_self _ _
  · exact Nat.le_refl _

theorem stepBelow_pos (u : Nat) : 0 < stepBelow u := by
  unfold stepBelow
  dsimp only
  split
  · omega
  · exact step_pos u

theorem step_le (fits : Fits u) (pos : 0 < u) : step u ≤ u := Nat.le_of_dvd pos fits.1

theorem add_step_le (fits : Fits u) : u + step u ≤ 2 ^ (u.log2 + 1) := by
  have below : u < 2 ^ (u.log2 + 1) := Nat.lt_log2_self
  have apart : step u ∣ 2 ^ (u.log2 + 1) - u :=
    Nat.dvd_sub (step_dvd_pow (Nat.le_succ _)) fits.1
  have := Nat.le_of_dvd (Nat.sub_pos_of_lt below) apart
  omega

/-- A magnitude is a power of two, or lies a step above one at least. -/
theorem pow_add_step_le (fits : Fits u) (pos : 0 < u) (other : u ≠ 2 ^ u.log2) :
    2 ^ u.log2 + step u ≤ u := by
  have above : 2 ^ u.log2 ≤ u := Nat.log2_self_le pos.ne'
  have apart : step u ∣ u - 2 ^ u.log2 := Nat.dvd_sub fits.1 (step_dvd_pow (Nat.le_refl _))
  have := Nat.le_of_dvd (Nat.sub_pos_of_lt (Nat.lt_of_le_of_ne above other.symm)) apart
  omega

theorem log2_eq (low : 2 ^ k ≤ n) (high : n < 2 ^ (k + 1)) : n.log2 = k := by
  have pos : n ≠ 0 := (Nat.lt_of_lt_of_le (Nat.two_pow_pos k) low).ne'
  exact (Nat.log2_eq_iff pos).mpr ⟨low, high⟩

namespace Rounds

theorem div_lt (h : Rounds u n d) (fits : Fits u) (pos : 0 < d) : n / d < 2 ^ (u.log2 + 1) := by
  rw [Nat.div_lt_iff_lt_mul pos]
  have room : (u + step u) * d ≤ 2 ^ (u.log2 + 1) * d := Nat.mul_le_mul_right d (add_step_le fits)
  have wide : 0 < step u * d := Nat.mul_pos (step_pos u) pos
  have := h.above
  rw [Nat.add_mul] at room
  omega

/-- Unless it lies below a power of two, it is counted in the same steps. -/
theorem step_div (h : Rounds u n d) (fits : Fits u) (posU : 0 < u) (pos : 0 < d)
    (side : u * d ≤ n ∨ u ≠ 2 ^ u.log2 ∨ step u = 1) : step (n / d) = step u := by
  have low : 2 ^ u.log2 ≤ u := Nat.log2_self_le posU.ne'
  have high := h.div_lt fits pos
  have wide : 0 < step u * d := Nat.mul_pos (step_pos u) pos
  have near : 2 * (u * d - n) ≤ step u * d :=
    h.below.trans (Nat.mul_le_mul_right d (stepBelow_le u))
  rcases side with above | other | one
  · apply step_congr
    exact log2_eq (low.trans ((Nat.le_div_iff_mul_le pos).mpr above)) high
  · apply step_congr
    refine log2_eq ((Nat.le_div_iff_mul_le pos).mpr ?_) high
    have room := Nat.mul_le_mul_right d (pow_add_step_le fits posU other)
    rw [Nat.add_mul] at room
    omega
  · -- Up to a power of two the steps are ones.
    by_cases small : u.log2 ≤ 52
    · rw [one]
      by_cases zero : n / d = 0
      · rw [zero]
        rfl
      · apply step_of_log2_le
        have : (n / d).log2 < u.log2 + 1 := (Nat.log2_lt zero).mpr high
        omega
    · have := pow_log2 (u := u) (by omega)
      rw [step, Nat.pow_eq] at one
      have : u.log2 - 52 = 0 := by
        by_contra more
        have := Nat.one_lt_two_pow more
        omega
      omega

theorem eq_of_step_div (h : Rounds u n d) (fits : Fits u) (pos : 0 < d)
    (same : step (n / d) = step u) : roundUnits n d = u := by
  have whole : u / step u * step u = u := Nat.div_mul_cancel fits.1
  have scale : u / step u * (d * step u) = u * d := by
    rw [Nat.mul_comm d, ← Nat.mul_assoc, whole]
  have narrow : stepBelow u * d ≤ d * step u := by
    rw [Nat.mul_comm d]
    exact Nat.mul_le_mul_right d (stepBelow_le u)
  have commute : step u * d = d * step u := Nat.mul_comm _ _
  have quotient : divHalfEven n (d * step u) = u / step u := by
    apply divHalfEven_eq (Nat.mul_pos pos (step_pos u))
    · rw [scale]
      exact h.below.trans narrow
    · rw [scale, ← commute]
      exact h.above
    · intro odd
      obtain ⟨below, above⟩ := h.odd odd
      rw [scale]
      omega
  rw [roundUnits, same]
  exact quotient ▸ whole

/-- Below a power of two the steps are half as long. -/
theorem eq_of_below_pow (h : Rounds u n d) (pos : 0 < d) (below : n < u * d)
    (power : u = 2 ^ u.log2) (long : 1 < step u) : roundUnits n d = u := by
  obtain ⟨l, same⟩ : ∃ l, u.log2 = l + 53 := by
    refine ⟨u.log2 - 53, ?_⟩
    by_contra small
    rw [step_of_log2_le (by omega)] at long
    omega
  have long' : step u = 2 * 2 ^ l := by
    rw [step, same, Nat.pow_eq, ← Nat.pow_succ']
    congr 1
  have half : stepBelow u = 2 ^ l := by
    have here : u = Nat.pow 2 u.log2 ∧ 1 < step u := ⟨power, long⟩
    rw [stepBelow, if_pos here, long', Nat.mul_div_cancel_left _ (by decide)]
  have near := h.below
  rw [half] at near
  have before : u = 2 * 2 ^ (l + 52) := by rw [power, same, ← Nat.pow_succ']
  have count : 2 ^ (l + 52) = 2 ^ 52 * 2 ^ l := by rw [Nat.add_comm, Nat.pow_add]
  have short : step (n / d) = 2 ^ l := by
    have low : 2 ^ (l + 52) ≤ n / d := by
      rw [Nat.le_div_iff_mul_le pos]
      have one : 2 ^ l * d ≤ 2 ^ (l + 52) * d :=
        Nat.mul_le_mul_right d (Nat.pow_le_pow_right (by decide) (Nat.le_add_right l 52))
      rw [before, Nat.mul_assoc] at near
      omega
    have high : n / d < 2 ^ (l + 52 + 1) := by
      rw [Nat.div_lt_iff_lt_mul pos, Nat.pow_succ', ← before]
      exact below
    rw [step, log2_eq low high, Nat.add_sub_cancel, Nat.pow_eq]
  have quotient : divHalfEven n (d * 2 ^ l) = 2 * 2 ^ 52 := by
    have scale : 2 * 2 ^ 52 * (d * 2 ^ l) = u * d := by
      rw [before, count]
      generalize 2 ^ 52 = count
      ring
    apply divHalfEven_eq (Nat.mul_pos pos (Nat.two_pow_pos l))
    · rw [scale, Nat.mul_comm d]
      exact near
    · rw [scale]
      omega
    · intro odd
      rw [Nat.mul_mod_right] at odd
      cases odd
  rw [roundUnits, short, quotient, before, count, Nat.mul_assoc]

theorem roundUnits_eq (h : Rounds u n d) (fits : Fits u) (posU : 0 < u) (pos : 0 < d) :
    roundUnits n d = u := by
  by_cases side : u * d ≤ n ∨ u ≠ 2 ^ u.log2 ∨ step u = 1
  · exact h.eq_of_step_div fits pos (h.step_div fits posU pos side)
  · push Not at side
    obtain ⟨below, power, more⟩ := side
    have := step_pos u
    exact h.eq_of_below_pow pos below power (by omega)

theorem ofUnits_eq (h : Rounds u n d) (fits : Fits u) (posU : 0 < u) (pos : 0 < d)
    (negative : Bool) : ofUnits negative n d = .finite negative u fits := by
  have rounded := h.roundUnits_eq fits posU pos
  unfold ofUnits
  simp only [rounded]
  rw [dif_pos fits]

theorem scale (h : Rounds u n d) {n' d' : Nat} (pos : 0 < d) (pos' : 0 < d')
    (same : n * d' = n' * d) : Rounds u n' d' := by
  have below : (u * d' - n') * d = (u * d - n) * d' := by
    rw [Nat.sub_mul, Nat.sub_mul, same, Nat.mul_right_comm]
  have above : (n' - u * d') * d = (n - u * d) * d' := by
    rw [Nat.sub_mul, Nat.sub_mul, same, Nat.mul_right_comm]
  have swap : ∀ s, s * d' * d = s * d * d' := fun s => Nat.mul_right_comm s d' d
  refine ⟨?_, ?_, fun odd => ⟨?_, ?_⟩⟩
  · apply Nat.le_of_mul_le_mul_right _ pos
    rw [Nat.mul_assoc, below, ← Nat.mul_assoc, swap]
    exact Nat.mul_le_mul_right d' h.below
  · apply Nat.le_of_mul_le_mul_right _ pos
    rw [Nat.mul_assoc, above, ← Nat.mul_assoc, swap]
    exact Nat.mul_le_mul_right d' h.above
  · apply Nat.lt_of_mul_lt_mul_right (a := d)
    rw [Nat.mul_assoc, below, ← Nat.mul_assoc, swap]
    exact Nat.mul_lt_mul_of_pos_right (h.odd odd).1 pos'
  · apply Nat.lt_of_mul_lt_mul_right (a := d)
    rw [Nat.mul_assoc, above, ← Nat.mul_assoc, swap]
    exact Nat.mul_lt_mul_of_pos_right (h.odd odd).2 pos'

end Rounds

/-- The decimal `c * 10 ^ e` lies in the interval of the magnitude. -/
def Near (u c : Nat) (e : Int) : Prop :=
  Rounds u (c * (powerOfTen e).1 * one) (powerOfTen e).2

theorem powerOfTen_nonneg {e : Int} (h : 0 ≤ e) : powerOfTen e = (10 ^ e.toNat, 1) := if_pos h

theorem powerOfTen_neg {e : Int} (h : e < 0) : powerOfTen e = (1, 10 ^ (-e).toNat) :=
  if_neg (Int.not_le.mpr h)

theorem powerOfTen_pos (e : Int) : 0 < (powerOfTen e).1 ∧ 0 < (powerOfTen e).2 := by
  by_cases h : 0 ≤ e
  · rw [powerOfTen_nonneg h]
    exact ⟨Nat.pow_pos (by decide), Nat.one_pos⟩
  · rw [powerOfTen_neg (Int.not_le.mp h)]
    exact ⟨Nat.one_pos, Nat.pow_pos (by decide)⟩

theorem one_pos : 0 < one := by decide +kernel

theorem powerOfTen_add (e : Int) (k : Nat) :
    (powerOfTen (e + k)).1 * (powerOfTen e).2 =
      10 ^ k * (powerOfTen e).1 * (powerOfTen (e + k)).2 := by
  by_cases low : 0 ≤ e
  · have total : (e + k).toNat = e.toNat + k := by omega
    rw [powerOfTen_nonneg low, powerOfTen_nonneg (by omega), total, Nat.pow_add]
    ring
  · by_cases high : 0 ≤ e + k
    · have total : k = (-e).toNat + (e + k).toNat := by omega
      rw [powerOfTen_neg (Int.not_le.mp low), powerOfTen_nonneg high]
      dsimp only
      rw [Nat.mul_one, Nat.mul_one, ← Nat.pow_add, Nat.add_comm, ← total]
    · have total : (-e).toNat = k + (-(e + k)).toNat := by omega
      rw [powerOfTen_neg (Int.not_le.mp low), powerOfTen_neg (Int.not_le.mp high), total,
        Nat.pow_add]
      ring

theorem near_of_roundsTo {u c : Nat} {e : Int} (h : roundsTo u c e = true) : Near u c e := by
  have pos : 0 < (powerOfTen e).2 := (powerOfTen_pos e).2
  have wide : 0 < step u * (powerOfTen e).2 := Nat.mul_pos (step_pos u) pos
  have narrow : 0 < stepBelow u * (powerOfTen e).2 := Nat.mul_pos (stepBelow_pos u) pos
  unfold roundsTo at h
  dsimp only at h
  unfold Near
  generalize c * (powerOfTen e).1 * one = n at h ⊢
  generalize (powerOfTen e).2 = d at h wide narrow ⊢
  by_cases under : n ≤ u * d
  · by_cases even : u / step u % 2 = 0
    · rw [if_pos under, if_pos even, decide_eq_true_eq] at h
      exact ⟨h, by omega, by omega⟩
    · rw [if_pos under, if_neg even, decide_eq_true_eq] at h
      exact ⟨by omega, by omega, fun _ => ⟨h, by omega⟩⟩
  · by_cases even : u / step u % 2 = 0
    · rw [if_neg under, if_pos even, decide_eq_true_eq] at h
      exact ⟨by omega, h, by omega⟩
    · rw [if_neg under, if_neg even, decide_eq_true_eq] at h
      exact ⟨by omega, by omega, fun _ => ⟨by omega, h⟩⟩

theorem roundsTo_of_le {u c : Nat} {e : Int}
    (under : c * (powerOfTen e).1 * one ≤ u * (powerOfTen e).2)
    (near : 2 * (u * (powerOfTen e).2 - c * (powerOfTen e).1 * one) <
      stepBelow u * (powerOfTen e).2) : roundsTo u c e = true := by
  unfold roundsTo
  dsimp only
  generalize c * (powerOfTen e).1 * one = n at under near ⊢
  rw [if_pos under]
  split
  · exact decide_eq_true near.le
  · exact decide_eq_true near

theorem roundsTo_of_lt {u c : Nat} {e : Int}
    (above : u * (powerOfTen e).2 < c * (powerOfTen e).1 * one)
    (near : 2 * (c * (powerOfTen e).1 * one - u * (powerOfTen e).2) <
      step u * (powerOfTen e).2) : roundsTo u c e = true := by
  unfold roundsTo
  dsimp only
  generalize c * (powerOfTen e).1 * one = n at above near ⊢
  rw [if_neg (Nat.not_le.mpr above)]
  split
  · exact decide_eq_true near.le
  · exact decide_eq_true near

theorem ten_pow_mul_le {i j k : Nat} (h : i + j ≤ k) : 10 ^ i * 10 ^ j ≤ 10 ^ k := by
  rw [← Nat.pow_add]
  exact Nat.pow_le_pow_right (by decide) h

namespace Near

variable {c : Nat} {e : Int}

theorem pos (h : Near u c e) (fits : Fits u) (posU : 0 < u) : 0 < c := by
  apply Nat.pos_of_ne_zero
  rintro rfl
  have below := Rounds.below h
  have short := Nat.mul_le_mul_right (powerOfTen e).2
    ((stepBelow_le u).trans (step_le fits posU))
  have wide := Nat.mul_pos posU (powerOfTen_pos e).2
  rw [Nat.zero_mul, Nat.zero_mul, Nat.sub_zero] at below
  omega

theorem le_of_nonneg (h : Near u c e) (fits : Fits u) (posU : 0 < u) (sign : 0 ≤ e) :
    e ≤ 310 := by
  by_contra large
  have above := Rounds.above h
  rw [powerOfTen_nonneg sign] at above
  have power : 10 ^ 200 * 10 ^ 111 ≤ 10 ^ e.toNat := ten_pow_mul_le (by omega)
  have reach : 10 ^ e.toNat * one ≤ c * 10 ^ e.toNat * one :=
    Nat.mul_le_mul_right one (Nat.le_mul_of_pos_left _ (h.pos fits posU))
  have least : 10 ^ 200 * 10 ^ 111 * one ≤ 10 ^ e.toNat * one := Nat.mul_le_mul_right one power
  have past : 2 * limit ≤ 10 ^ 200 * 10 ^ 111 * one := by decide +kernel
  have short := step_le fits posU
  have bound : u < limit := fits.2
  dsimp only at above
  omega

/-- A small power of ten needs many digits to come up to the least magnitude. -/
theorem le_of_neg (h : Near u c e) (fits : Fits u) (posU : 0 < u) (sign : e < 0) :
    (-e).toNat ≤ 400 + c.log2 := by
  by_contra small
  have below := Rounds.below h
  rw [powerOfTen_neg sign] at below
  have short := Nat.mul_le_mul_right (10 ^ (-e).toNat)
    ((stepBelow_le u).trans (step_le fits posU))
  have least : 10 ^ (-e).toNat ≤ u * 10 ^ (-e).toNat := Nat.le_mul_of_pos_left _ posU
  have digits : c < 2 ^ (c.log2 + 1) := Nat.lt_log2_self
  have scaled : c * one < 2 ^ (c.log2 + 1) * one := Nat.mul_lt_mul_of_pos_right digits one_pos
  have power : 10 ^ 200 * 10 ^ 201 * 2 ^ c.log2 ≤ 10 ^ (-e).toNat := by
    calc 10 ^ 200 * 10 ^ 201 * 2 ^ c.log2 ≤ 10 ^ 200 * 10 ^ 201 * 10 ^ c.log2 :=
          Nat.mul_le_mul_left _ (Nat.pow_le_pow_left (by decide) _)
      _ ≤ 10 ^ ((-e).toNat - c.log2) * 10 ^ c.log2 :=
          Nat.mul_le_mul_right _ (ten_pow_mul_le (by omega))
      _ = 10 ^ (-e).toNat := by rw [← Nat.pow_add, Nat.sub_add_cancel (by omega)]
  have past : 4 * one ≤ 10 ^ 200 * 10 ^ 201 := by decide +kernel
  have room : 4 * one * 2 ^ c.log2 ≤ 10 ^ 200 * 10 ^ 201 * 2 ^ c.log2 := Nat.mul_le_mul_right _ past
  have same : 2 ^ (c.log2 + 1) * one * 2 = 4 * one * 2 ^ c.log2 := by
    rw [Nat.pow_succ]
    ring
  dsimp only at below
  rw [Nat.mul_one] at below
  omega

/-- A zero more at the end of the digits makes up for an exponent that is one less. -/
theorem shift_iff (k : Nat) : Near u c (e + k) ↔ Near u (c * 10 ^ k) e := by
  have same : c * (powerOfTen (e + k)).1 * one * (powerOfTen e).2 =
      c * 10 ^ k * (powerOfTen e).1 * one * (powerOfTen (e + k)).2 := by
    have ratio := powerOfTen_add e k
    generalize powerOfTen (e + k) = p at ratio ⊢
    generalize powerOfTen e = q at ratio ⊢
    calc c * p.1 * one * q.2 = c * one * (p.1 * q.2) := by ring
      _ = c * one * (10 ^ k * q.1 * p.2) := by rw [ratio]
      _ = c * 10 ^ k * q.1 * one * p.2 := by ring
  constructor
  · exact fun h => h.scale (powerOfTen_pos _).2 (powerOfTen_pos _).2 same
  · exact fun h => h.scale (powerOfTen_pos _).2 (powerOfTen_pos _).2 same.symm

theorem ofDecimal_eq (h : Near u c e) (fits : Fits u) (posU : 0 < u) (negative : Bool) :
    ofDecimal negative c e = .finite negative u fits := by
  unfold ofDecimal
  rw [if_neg (h.pos fits posU).ne']
  by_cases sign : 0 ≤ e
  · have within := h.le_of_nonneg fits posU sign
    rw [if_pos sign, if_neg (by omega)]
    rw [Near, powerOfTen_nonneg sign] at h
    exact Rounds.ofUnits_eq h fits posU Nat.one_pos negative
  · have within := h.le_of_neg fits posU (Int.not_le.mp sign)
    rw [if_neg sign, if_neg (by omega)]
    rw [Near, powerOfTen_neg (Int.not_le.mp sign), Nat.mul_one] at h
    exact Rounds.ofUnits_eq h fits posU (Nat.pow_pos (by decide)) negative

end Near

end Workflow.Double
