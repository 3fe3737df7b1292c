import Workflow.Proofs.Double.Shortest

/-! Integers as floating-point numbers. An integer is rounded to 53 significant bits: the rounding
keeps the order, no floating-point number is nearer, and it ends in infinity from halfway between
the largest number and the power of two above it on. -/

namespace Workflow.Double

variable {n m d k : Nat} {i j : Int} {x y : Double}

def ceiling : Nat := Nat.pow 2 1024

/-- Halfway between the largest number and the power of two above it. -/
def overflow : Nat := ceiling - Nat.pow 2 970

/-- An integer with its sign, rounded to 53 significant bits, a half to the even side. What is too
large for a number then becomes the power of two past them, which stands for infinity. -/
def rounded (i : Int) : Int := signed (decide (i < 0)) (min (roundUnits i.natAbs 1) ceiling)

/-- Some floating-point number is the integer. -/
def Held (i : Int) : Prop := Fits (i.natAbs * one)

/-- The place of a number in units, with the infinities past the largest number. -/
def place? : Double → Option Int
  | .finite negative units _ => some (signed negative units)
  | .infinite negative => some (signed negative limit)
  | .nan => none

/-- The number is the integer, or infinity for the power of two past all numbers. -/
def StandsFor (i : Int) (x : Double) : Prop := x.place? = some (i * one)

/-- A function on integers rounds to the nearest floating-point number, and past their range to
the power of two above them. -/
structure RoundsNearest (f : Int → Int) : Prop where
  mono : ∀ i j, i ≤ j → f i ≤ f j
  exact' : ∀ i, Held i → f i = i
  small : ∀ i, i.natAbs ≤ 2 ^ 53 → Held i
  held : ∀ i, i.natAbs < overflow → Held (f i)
  nearest : ∀ i j, i.natAbs < overflow → Held j → (i - f i).natAbs ≤ (i - j).natAbs
  past : ∀ i, overflow ≤ i.natAbs → f i = signed (decide (i < 0)) ceiling

theorem divHalfEven_cases (n d : Nat) :
    (divHalfEven n d = n / d ∧ 2 * (n % d) ≤ d) ∨
      (divHalfEven n d = n / d + 1 ∧ d ≤ 2 * (n % d)) := by
  unfold divHalfEven
  dsimp only
  split
  · exact .inl ⟨rfl, by omega⟩
  · split
    · exact .inr ⟨rfl, by omega⟩
    · split
      · exact .inl ⟨rfl, by omega⟩
      · exact .inr ⟨rfl, by omega⟩

theorem divHalfEven_mono (h : n ≤ m) : divHalfEven n d ≤ divHalfEven m d := by
  rcases Nat.lt_or_eq_of_le (Nat.div_le_div_right (c := d) h) with less | same
  · rcases divHalfEven_cases n d with ⟨low, -⟩ | ⟨low, -⟩ <;>
      rcases divHalfEven_cases m d with ⟨high, -⟩ | ⟨high, -⟩ <;> omega
  · have rest : n % d ≤ m % d := by
      have first := Nat.div_add_mod n d
      have second := Nat.div_add_mod m d
      rw [same] at first
      omega
    unfold divHalfEven
    dsimp only
    rw [same]
    by_cases under : 2 * (m % d) < d
    · rw [if_pos under, if_pos (by omega)]
    · rw [if_neg under]
      split
      · split <;> (try split) <;> omega
      · split
        · rw [if_pos (by omega)]
        · split <;> split <;> omega

theorem divHalfEven_mul (k : Nat) (pos : 0 < d) : divHalfEven (k * d) d = k :=
  divHalfEven_eq pos (by omega) (by omega) fun _ => by omega

theorem divHalfEven_scale (pos : 0 < k) : divHalfEven (n * k) (d * k) = divHalfEven n d := by
  have twice : 2 * (n % d * k) = 2 * (n % d) * k := (Nat.mul_assoc _ _ _).symm
  unfold divHalfEven
  simp only [Nat.mul_div_mul_right _ _ pos, Nat.mul_mod_mul_right, twice, Nat.mul_lt_mul_right pos]

theorem roundUnits_one (n : Nat) : roundUnits n 1 = divHalfEven n (step n) * step n := by
  unfold roundUnits
  dsimp only
  rw [Nat.div_one, Nat.one_mul]

theorem roundUnits_le_of_dvd (multiple : step n ∣ m) (h : n ≤ m) : roundUnits n 1 ≤ m := by
  obtain ⟨k, rfl⟩ := multiple
  rw [Nat.mul_comm] at h ⊢
  rw [roundUnits_one]
  have count := divHalfEven_mono (d := step n) h
  rw [divHalfEven_mul k (step_pos n)] at count
  exact Nat.mul_le_mul_right _ count

theorem le_roundUnits_of_dvd (multiple : step n ∣ m) (h : m ≤ n) : m ≤ roundUnits n 1 := by
  obtain ⟨k, rfl⟩ := multiple
  rw [Nat.mul_comm] at h ⊢
  rw [roundUnits_one]
  have count := divHalfEven_mono (d := step n) h
  rw [divHalfEven_mul k (step_pos n)] at count
  exact Nat.mul_le_mul_right _ count

theorem roundUnits_of_dvd (multiple : step n ∣ n) : roundUnits n 1 = n :=
  Nat.le_antisymm (roundUnits_le_of_dvd multiple (Nat.le_refl n))
    (le_roundUnits_of_dvd multiple (Nat.le_refl n))

theorem roundUnits_mono (h : n ≤ m) : roundUnits n 1 ≤ roundUnits m 1 := by
  by_cases zero : n = 0
  · rw [zero, roundUnits_of_dvd (Nat.dvd_zero _)]
    exact Nat.zero_le _
  have positive : m ≠ 0 := by omega
  have order : n.log2 ≤ m.log2 := by
    rw [Nat.le_log2 positive]
    exact (Nat.log2_self_le zero).trans h
  rcases Nat.lt_or_eq_of_le order with less | same
  · -- A power of two lies between them.
    calc roundUnits n 1 ≤ 2 ^ (n.log2 + 1) :=
          roundUnits_le_of_dvd (step_dvd_pow (Nat.le_succ _)) Nat.lt_log2_self.le
      _ ≤ 2 ^ m.log2 := Nat.pow_le_pow_right (by decide) less
      _ ≤ roundUnits m 1 :=
          le_roundUnits_of_dvd (step_dvd_pow (Nat.le_refl _)) (Nat.log2_self_le positive)
  · rw [roundUnits_one, roundUnits_one, step_congr same]
    exact Nat.mul_le_mul_right _ (divHalfEven_mono h)

theorem roundUnits_lt_ceiling_iff : roundUnits n 1 < ceiling ↔ n < overflow := by
  have past : roundUnits overflow 1 = ceiling := by decide +kernel
  have before : roundUnits (overflow - 1) 1 < ceiling := by decide +kernel
  constructor
  · intro small
    by_contra large
    have := roundUnits_mono (Nat.not_lt.mp large)
    omega
  · intro small
    have := roundUnits_mono (Nat.le_sub_one_of_lt small)
    omega

theorem one_eq_pow : one = 2 ^ one.log2 := by decide +kernel

theorem log2_mul_one (h : n ≠ 0) : (n * one).log2 = n.log2 + 1074 := by
  have low := Nat.mul_le_mul_right one (Nat.log2_self_le h)
  have high := Nat.mul_lt_mul_of_pos_right (Nat.lt_log2_self (n := n)) one_pos
  rw [one_eq_pow, ← Nat.pow_add, ← one_eq_pow] at low high
  rw [Nat.add_right_comm] at high
  rw [log2_eq low high, log2_one]

theorem step_mul_one (h : n ≠ 0) : step (n * one) = 2 ^ (n.log2 + 1022) := by
  rw [step, log2_mul_one h]
  rfl

theorem step_mul_one_of_le (h : n ≠ 0) (large : 52 ≤ n.log2) : step (n * one) = step n * one := by
  have unit := log2_one
  have exponent : n.log2 + 1022 = n.log2 - 52 + one.log2 := by omega
  rw [step_mul_one h, exponent, Nat.pow_add, ← one_eq_pow]
  rfl

theorem roundUnits_mul_one (n : Nat) : roundUnits (n * one) 1 = roundUnits n 1 * one := by
  by_cases zero : n = 0
  · rw [zero, Nat.zero_mul, roundUnits_of_dvd (Nat.dvd_zero _), Nat.zero_mul]
  by_cases large : 52 ≤ n.log2
  · rw [roundUnits_one, roundUnits_one, step_mul_one_of_le zero large,
      divHalfEven_scale one_pos, Nat.mul_assoc]
  · have whole : step n = 1 := step_of_log2_le (by omega)
    rw [roundUnits_of_dvd (n := n) (whole ▸ Nat.one_dvd n)]
    apply roundUnits_of_dvd
    have unit := log2_one
    rw [step_mul_one zero, one_eq_pow]
    exact Dvd.dvd.mul_left (Nat.pow_dvd_pow 2 (by omega)) n

/-- A number of 53 significant bits is a multiple of its own step. -/
theorem step_dvd_mul_pow (h : m ≤ 2 ^ 53) : step (m * 2 ^ k) ∣ m * 2 ^ k := by
  by_cases zero : m * 2 ^ k = 0
  · rw [zero]
    exact Nat.dvd_zero _
  rcases Nat.lt_or_eq_of_le h with less | same
  · have size : (m * 2 ^ k).log2 < 53 + k := by
      rw [Nat.log2_lt zero, Nat.pow_add]
      exact Nat.mul_lt_mul_of_pos_right less (Nat.two_pow_pos k)
    rw [step, Nat.pow_eq]
    exact Dvd.dvd.mul_left (Nat.pow_dvd_pow 2 (by omega)) m
  · rw [same, ← Nat.pow_add]
    apply step_dvd_pow
    rw [Nat.log2_two_pow]

theorem limit_eq : limit = ceiling * one := by decide +kernel

theorem fits_roundUnits_iff : Fits (roundUnits n 1 * one) ↔ roundUnits n 1 < ceiling := by
  have bound : roundUnits n 1 * one < limit ↔ roundUnits n 1 < ceiling := by
    rw [limit_eq, Nat.mul_lt_mul_right one_pos]
  have bits : divHalfEven n (step n) ≤ 2 ^ 53 := by
    have top : n ≤ 2 ^ 53 * step n := by
      have below := Nat.lt_log2_self (n := n)
      have power : 2 ^ (n.log2 + 1) ≤ 2 ^ 53 * step n := by
        rw [step, Nat.pow_eq, ← Nat.pow_add]
        exact Nat.pow_le_pow_right (by decide) (by omega)
      omega
    have count := divHalfEven_mono (d := step n) top
    rwa [divHalfEven_mul _ (step_pos n)] at count
  have whole : step (roundUnits n 1 * one) ∣ roundUnits n 1 * one := by
    have count : roundUnits n 1 * one =
        divHalfEven n (step n) * 2 ^ (n.log2 - 52 + one.log2) := by
      rw [roundUnits_one, Nat.mul_assoc, Nat.pow_add, ← one_eq_pow]
      rfl
    rw [count]
    exact step_dvd_mul_pow bits
  exact ⟨fun fits => bound.mp fits.2, fun small => ⟨whole, bound.mpr small⟩⟩

theorem step_dvd_of_fits (fits : Fits (m * one)) (order : n.log2 ≤ m.log2) : step n ∣ m := by
  by_cases small : n.log2 ≤ 52
  · rw [step_of_log2_le small]
    exact Nat.one_dvd m
  · have positive : m ≠ 0 := by
      rintro rfl
      rw [Nat.log2_zero] at order
      omega
    have whole := fits.1
    rw [step_mul_one_of_le positive (by omega)] at whole
    exact (Nat.pow_dvd_pow 2 (by omega)).trans (Nat.dvd_of_mul_dvd_mul_right one_pos whole)

theorem roundUnits_nearest_of_dvd (multiple : step n ∣ m) :
    ((n : Int) - roundUnits n 1).natAbs ≤ ((n : Int) - m).natAbs := by
  obtain ⟨k, rfl⟩ := multiple
  rw [roundUnits_one, Nat.mul_comm (step n) k]
  have parts := Nat.div_add_mod' n (step n)
  have rest := Nat.mod_lt n (step_pos n)
  have next : (n / step n + 1) * step n = n / step n * step n + step n := Nat.succ_mul _ _
  have side : k * step n ≤ n / step n * step n ∨ n / step n * step n + step n ≤ k * step n := by
    rcases Nat.lt_or_ge (n / step n) k with above | below
    · exact .inr (next ▸ Nat.mul_le_mul_right _ above)
    · exact .inl (Nat.mul_le_mul_right _ below)
  rcases divHalfEven_cases n (step n) with ⟨down, near⟩ | ⟨up, near⟩
  · rw [down]
    omega
  · rw [up, next]
    omega

/-- No floating-point number is nearer to a natural number than what it is rounded to. -/
theorem roundUnits_nearest (fits : Fits (m * one)) :
    ((n : Int) - roundUnits n 1).natAbs ≤ ((n : Int) - m).natAbs := by
  by_cases order : n.log2 ≤ m.log2
  · exact roundUnits_nearest_of_dvd (step_dvd_of_fits fits order)
  · -- Below the power of two under the number the steps may be shorter, but all is further off.
    have positive : n ≠ 0 := by
      rintro rfl
      exact order (Nat.log2_zero ▸ Nat.zero_le _)
    have power := roundUnits_nearest_of_dvd (n := n) (step_dvd_pow (Nat.le_refl _))
    have reach : 2 ^ n.log2 ≤ n := Nat.log2_self_le positive
    have below : m < 2 ^ n.log2 := by
      by_contra above
      have large : m ≠ 0 := by
        rintro rfl
        exact above (Nat.two_pow_pos _)
      exact order ((Nat.le_log2 large).mpr (Nat.not_lt.mp above))
    omega

theorem signed_false (n : Nat) : signed false n = n := rfl

theorem signed_true (n : Nat) : signed true n = -n := rfl

theorem natAbs_signed (negative : Bool) (n : Nat) : (signed negative n).natAbs = n := by
  cases negative with
  | false => exact Int.natAbs_natCast n
  | true => rw [signed_true, Int.natAbs_neg, Int.natAbs_natCast]

theorem signed_decide (i : Int) : signed (decide (i < 0)) i.natAbs = i := by
  by_cases negative : i < 0
  · rw [decide_eq_true negative, signed_true]
    omega
  · rw [decide_eq_false negative, signed_false]
    omega

theorem rounded_signed (negative : Bool) (n : Nat) :
    rounded (signed negative n) = signed negative (min (roundUnits n 1) ceiling) := by
  cases negative with
  | false =>
      have above : decide (signed false n < 0) = false := by
        rw [signed_false, decide_eq_false_iff_not]
        omega
      rw [rounded, above, natAbs_signed]
  | true =>
      by_cases zero : n = 0
      · -- There is one zero among the integers.
        have nothing : roundUnits 0 1 = 0 := roundUnits_of_dvd (Nat.dvd_zero _)
        have above : decide (signed true 0 < 0) = false := by decide
        rw [zero, rounded, above, natAbs_signed, nothing, Nat.zero_min]
        rfl
      · have below : decide (signed true n < 0) = true := by
          rw [signed_true, decide_eq_true_eq]
          omega
        rw [rounded, below, natAbs_signed]

theorem rounded_mono (h : i ≤ j) : rounded i ≤ rounded j := by
  unfold rounded signed
  simp only [decide_eq_true_eq]
  split
  · split
    · have := roundUnits_mono (n := j.natAbs) (m := i.natAbs) (by omega)
      omega
    · omega
  · split
    · omega
    · have := roundUnits_mono (n := i.natAbs) (m := j.natAbs) (by omega)
      omega

theorem rounded_of_held (held : Held i) : rounded i = i := by
  have exact' := roundUnits_of_dvd (step_dvd_of_fits held (Nat.le_refl _))
  have small : i.natAbs < ceiling := by
    have bound := held.2
    rwa [limit_eq, Nat.mul_lt_mul_right one_pos] at bound
  rw [rounded, exact', Nat.min_eq_left small.le, signed_decide]

theorem held_of_natAbs_le (h : i.natAbs ≤ 2 ^ 53) : Held i := by
  have room : 2 ^ 53 < ceiling := by decide +kernel
  refine ⟨?_, ?_⟩
  · rw [one_eq_pow]
    exact step_dvd_mul_pow h
  · rw [limit_eq, Nat.mul_lt_mul_right one_pos]
    omega

theorem rounded_nearest (held : Held j) (small : i.natAbs < overflow) :
    (i - rounded i).natAbs ≤ (i - j).natAbs := by
  have near := roundUnits_nearest (n := i.natAbs) held
  have zero := roundUnits_nearest (n := i.natAbs) (held_of_natAbs_le (i := 0) (Nat.zero_le _))
  have bound : min (roundUnits i.natAbs 1) ceiling = roundUnits i.natAbs 1 :=
    Nat.min_eq_left (roundUnits_lt_ceiling_iff.mpr small).le
  unfold rounded signed
  rw [bound]
  simp only [decide_eq_true_eq]
  split <;> omega

theorem rounded_roundsNearest : RoundsNearest rounded where
  mono := fun _ _ => rounded_mono
  exact' := fun _ => rounded_of_held
  small := fun _ => held_of_natAbs_le
  held := by
    intro i small
    have below := roundUnits_lt_ceiling_iff.mpr small
    rw [Held, rounded, natAbs_signed, Nat.min_eq_left below.le]
    exact fits_roundUnits_iff.mpr below
  nearest := fun _ _ small held => rounded_nearest held small
  past := by
    intro i large
    have above : ceiling ≤ roundUnits i.natAbs 1 := Nat.not_lt.mp fun below =>
      Nat.not_lt.mpr large (roundUnits_lt_ceiling_iff.mp below)
    rw [rounded, Nat.min_eq_right above]

theorem signed_mul (negative : Bool) (n m : Nat) :
    signed negative (n * m) = signed negative n * m := by
  cases negative with
  | false => exact Int.natCast_mul n m
  | true => rw [signed_true, signed_true, Int.natCast_mul, Int.neg_mul]

theorem signed_bounds (negative : Bool) (h : n < m) :
    -(m : Int) < signed negative n ∧ signed negative n < m := by
  cases negative with
  | false =>
      rw [signed_false]
      omega
  | true =>
      rw [signed_true]
      omega

theorem signed_lt_iff {s t : Bool} (positive : 0 < n) :
    signed s n < signed t n ↔ (s && !t) = true := by
  cases s with
  | false =>
      refine iff_of_false ?_ Bool.false_ne_true
      cases t with
      | false => exact Int.lt_irrefl _
      | true =>
          rw [signed_false, signed_true]
          omega
  | true =>
      cases t with
      | false =>
          refine iff_of_true ?_ rfl
          rw [signed_true, signed_false]
          omega
      | true => exact iff_of_false (Int.lt_irrefl _) Bool.false_ne_true

theorem signed_inj {s t : Bool} (positive : 0 < n) : signed s n = signed t n ↔ s = t := by
  refine ⟨fun same => ?_, fun same => same ▸ rfl⟩
  by_contra differ
  have order : (s && !t) = true ∨ (t && !s) = true := by
    revert differ
    cases s <;> cases t <;> decide
  rcases order with less | less
  · exact ((signed_lt_iff positive).mpr less).ne same
  · exact ((signed_lt_iff positive).mpr less).ne' same

theorem less_iff_of_place {a b : Int} (left : x.place? = some a) (right : y.place? = some b) :
    x.less y = true ↔ a < b := by
  cases x with
  | nan => cases left
  | infinite s =>
      cases left
      cases y with
      | nan => cases right
      | infinite t =>
          cases right
          rw [less]
          exact (signed_lt_iff limit_pos).symm
      | finite t v fits =>
          cases right
          obtain ⟨low, high⟩ := signed_bounds t fits.2
          rw [less]
          cases s with
          | false => exact iff_of_false Bool.false_ne_true (Int.not_lt.mpr high.le)
          | true => exact iff_of_true rfl low
  | finite s u fits =>
      cases left
      cases y with
      | nan => cases right
      | infinite t =>
          cases right
          obtain ⟨low, high⟩ := signed_bounds s fits.2
          rw [less]
          cases t with
          | false => exact iff_of_true rfl high
          | true => exact iff_of_false Bool.false_ne_true (Int.not_lt.mpr low.le)
      | finite t v _ =>
          cases right
          rw [less, decide_eq_true_eq]

theorem equals_iff_of_place {a b : Int} (left : x.place? = some a) (right : y.place? = some b) :
    x.equals y = true ↔ a = b := by
  cases x with
  | nan => cases left
  | infinite s =>
      cases left
      cases y with
      | nan => cases right
      | infinite t =>
          cases right
          rw [equals]
          rw [beq_iff_eq, signed_inj limit_pos]
      | finite t v fits =>
          cases right
          obtain ⟨low, high⟩ := signed_bounds t fits.2
          refine iff_of_false Bool.false_ne_true ?_
          cases s with
          | false => exact high.ne'
          | true => exact low.ne
  | finite s u fits =>
      cases left
      cases y with
      | nan => cases right
      | infinite t =>
          cases right
          obtain ⟨low, high⟩ := signed_bounds s fits.2
          refine iff_of_false Bool.false_ne_true ?_
          cases t with
          | false => exact high.ne
          | true => exact low.ne'
      | finite t v _ =>
          cases right
          rw [equals, beq_iff_eq]

theorem ofUnits_fits (negative : Bool) (small : roundUnits n 1 < ceiling) :
    ∃ fits, ofUnits negative (n * one) 1 = .finite negative (roundUnits n 1 * one) fits := by
  have fits := fits_roundUnits_iff.mpr small
  refine ⟨fits, ?_⟩
  unfold ofUnits
  simp only [roundUnits_mul_one]
  rw [dif_pos fits]

theorem ofUnits_past (negative : Bool) (large : ceiling ≤ roundUnits n 1) :
    ofUnits negative (n * one) 1 = .infinite negative := by
  have past : ¬Fits (roundUnits n 1 * one) := fun fits =>
    Nat.not_lt.mpr large (fits_roundUnits_iff.mp fits)
  unfold ofUnits
  simp only [roundUnits_mul_one]
  rw [dif_neg past]

theorem standsFor_ofUnits (negative : Bool) (n : Nat) :
    StandsFor (rounded (signed negative n)) (ofUnits negative (n * one) 1) := by
  rw [rounded_signed]
  rcases Nat.lt_or_ge (roundUnits n 1) ceiling with small | large
  · obtain ⟨fits, number⟩ := ofUnits_fits negative small
    rw [number, Nat.min_eq_left small.le, StandsFor, place?, signed_mul]
  · rw [ofUnits_past negative large, Nat.min_eq_right large, StandsFor, place?, limit_eq,
      signed_mul]

theorem ofInt?_eq_none_iff : ofInt? i = none ↔ overflow ≤ i.natAbs := by
  rw [← Nat.not_lt, ← roundUnits_lt_ceiling_iff, ofInt?]
  rcases Nat.lt_or_ge (roundUnits i.natAbs 1) ceiling with small | large
  · obtain ⟨fits, number⟩ := ofUnits_fits (decide (i < 0)) small
    rw [number]
    exact ⟨fun h => (Option.some_ne_none _ h).elim, fun h => (h small).elim⟩
  · rw [ofUnits_past (decide (i < 0)) large]
    exact ⟨fun _ => Nat.not_lt.mpr large, fun _ => rfl⟩

theorem standsFor_of_ofInt? (h : ofInt? i = some x) : StandsFor (rounded i) x := by
  have stands := standsFor_ofUnits (decide (i < 0)) i.natAbs
  rw [signed_decide] at stands
  rw [ofInt?] at h
  generalize ofUnits (decide (i < 0)) (i.natAbs * one) 1 = z at stands h
  cases z with
  | infinite _ => cases h
  | _ =>
      cases h
      exact stands

theorem standsFor_ofDecimal (negative : Bool) (n : Nat) :
    StandsFor (rounded (signed negative n)) (ofDecimal negative n 0) := by
  by_cases zero : n = 0
  · have nothing : rounded (signed negative 0) = signed negative 0 := by
      apply rounded_of_held
      apply held_of_natAbs_le
      rw [natAbs_signed]
      exact Nat.zero_le _
    rw [zero, nothing, ofDecimal, if_pos rfl, StandsFor, place?, ← signed_mul, Nat.zero_mul]
  · have power : Nat.pow 10 (0 : Int).toNat = 1 := rfl
    rw [ofDecimal, if_neg zero, if_pos (by decide), if_neg (by decide), power, Nat.mul_one]
    exact standsFor_ofUnits negative n

theorem not_isNaN (h : StandsFor i x) : x.isNaN = false := by
  cases x with
  | nan => cases h
  | _ => rfl

theorem less_iff (left : StandsFor i x) (right : StandsFor j y) : x.less y = true ↔ i < j :=
  (less_iff_of_place left right).trans (Int.mul_lt_mul_right (Int.natCast_pos.mpr one_pos))

theorem equals_iff (left : StandsFor i x) (right : StandsFor j y) : x.equals y = true ↔ i = j :=
  (equals_iff_of_place left right).trans
    (Int.mul_eq_mul_right_iff (Int.natCast_pos.mpr one_pos).ne')

theorem lessEq_iff (left : StandsFor i x) (right : StandsFor j y) :
    x.lessEq y = true ↔ i ≤ j := by
  rw [lessEq, Bool.or_eq_true, less_iff left right, equals_iff left right]
  omega

end Workflow.Double
