import Workflow.Proofs.Double.Rounding

/-! The shortest decimal of a magnitude is rounded to it. The search starts at or above the leading
digit, and sixteen digits further on the grid is so fine that one of its points is a hit. -/

namespace Workflow.Double

variable {u c : Nat} {e : Int}

theorem reaches_iff :
    reaches u e = true ↔ (powerOfTen e).1 * one ≤ u * (powerOfTen e).2 := by
  unfold reaches
  generalize one = unit
  exact decide_eq_true_iff

theorem reaches_leadingExponent {fuel : Nat} (h : ∃ n < fuel, reaches u (e - n) = true) :
    reaches u (leadingExponent u fuel e) = true := by
  induction fuel generalizing e with
  | zero =>
      obtain ⟨n, less, -⟩ := h
      cases less
  | succ fuel ih =>
      unfold leadingExponent
      by_cases here : reaches u e = true
      · rw [if_pos here]
        exact here
      · rw [if_neg here]
        apply ih
        obtain ⟨n, less, found⟩ := h
        cases n with
        | zero =>
            rw [Int.natCast_zero, Int.sub_zero] at found
            exact absurd found here
        | succ n =>
            refine ⟨n, by omega, ?_⟩
            rwa [show e - 1 - (n : Int) = e - (n + 1 : Nat) by omega]

theorem log2_one : one.log2 = 1074 := by decide +kernel

theorem one_le_pow {n : Nat} (h : 1074 ≤ n) : one ≤ 2 ^ n := by
  have power : one = 2 ^ one.log2 := by decide +kernel
  rw [← log2_one] at h
  rw [power]
  exact Nat.pow_le_pow_right (by decide) h

theorem log2_lt_of_fits (fits : Fits u) (pos : 0 < u) : u.log2 < 2098 := by
  have size : limit.log2 = 2098 := by decide +kernel
  have power : limit = 2 ^ limit.log2 := by decide +kernel
  rw [← size, Nat.log2_lt pos.ne', ← power]
  exact fits.2

/-- The last power of ten that is tried is small enough: ten is more than the cube of two. -/
theorem reaches_low (fits : Fits u) (pos : 0 < u) :
    reaches u (exponentAbove u - (329 : Nat)) = true := by
  have low : 2 ^ u.log2 ≤ u := Nat.log2_self_le pos.ne'
  have large := log2_lt_of_fits fits pos
  have negative : exponentAbove u - (329 : Nat) < 0 := by
    unfold exponentAbove
    omega
  obtain ⟨k, exponent⟩ : ∃ k : Nat, exponentAbove u - (329 : Nat) = -k :=
    ⟨(-(exponentAbove u - (329 : Nat))).toNat, by omega⟩
  have enough : 1074 ≤ u.log2 + 3 * k := by
    unfold exponentAbove at exponent
    omega
  rw [exponent] at negative ⊢
  have size : (- -(k : Int)).toNat = k := by omega
  have unit : one ≤ 2 ^ (u.log2 + 3 * k) := one_le_pow enough
  rw [reaches_iff, powerOfTen_neg negative, size, Nat.one_mul]
  generalize one = unit' at unit
  calc unit' ≤ 2 ^ (u.log2 + 3 * k) := unit
    _ = 2 ^ u.log2 * 8 ^ k := by rw [Nat.pow_add, Nat.pow_mul]
    _ ≤ u * 10 ^ k := Nat.mul_le_mul low (Nat.pow_le_pow_left (by decide) k)

/-- A magnitude has fifty-three bits, also when it is counted in the shorter steps below it. -/
theorem le_stepBelow (u : Nat) : u ≤ 2 ^ 53 * stepBelow u := by
  have high : u < 2 ^ (u.log2 + 1) := Nat.lt_log2_self
  by_cases small : u.log2 ≤ 52
  · have narrow : 2 ^ 53 * 1 ≤ 2 ^ 53 * stepBelow u := Nat.mul_le_mul_left _ (stepBelow_pos u)
    have : 2 ^ (u.log2 + 1) ≤ 2 ^ 53 := Nat.pow_le_pow_right (by decide) (by omega)
    omega
  · obtain ⟨l, same⟩ : ∃ l, u.log2 = l + 53 := ⟨u.log2 - 53, by omega⟩
    have long : step u = 2 * 2 ^ l := by
      rw [step, same, Nat.pow_eq, ← Nat.pow_succ']
      congr 1
    have value : 2 ^ u.log2 = 2 ^ 53 * 2 ^ l := by rw [same, Nat.add_comm, Nat.pow_add]
    unfold stepBelow
    dsimp only
    rw [long]
    split
    · rename_i power
      rw [Nat.mul_div_cancel_left _ (by decide), ← value]
      exact power.1.le
    · rw [Nat.mul_left_comm, ← value, ← Nat.pow_succ']
      exact high.le

theorem fine_of_reaches (h : reaches u e = true) :
    (powerOfTen (e - (16 : Nat))).1 * one < stepBelow u * (powerOfTen (e - (16 : Nat))).2 := by
  have ratio := powerOfTen_add (e - (16 : Nat)) 16
  rw [Int.sub_add_cancel] at ratio
  have reached := reaches_iff.mp h
  have digits := Nat.mul_le_mul_right (powerOfTen (e - (16 : Nat))).2 (le_stepBelow u)
  have posE := (powerOfTen_pos e).2
  have posF := (powerOfTen_pos (e - (16 : Nat))).2
  have narrow := Nat.mul_pos (stepBelow_pos u) posF
  generalize powerOfTen (e - (16 : Nat)) = fine at ratio digits posF narrow ⊢
  generalize powerOfTen e = coarse at ratio reached posE
  generalize one = unit at reached ⊢
  have scaled : 10 ^ 16 * (fine.1 * unit) ≤ u * fine.2 := by
    apply Nat.le_of_mul_le_mul_right _ posE
    calc 10 ^ 16 * (fine.1 * unit) * coarse.2 = 10 ^ 16 * fine.1 * coarse.2 * unit := by ring
      _ = coarse.1 * unit * fine.2 := by rw [← ratio]; ring
      _ ≤ u * coarse.2 * fine.2 := Nat.mul_le_mul_right _ reached
      _ = u * fine.2 * coarse.2 := Nat.mul_right_comm _ _ _
  rw [Nat.mul_assoc] at digits
  omega

theorem nearer?_sound {hits : Nat → Bool} {x grid : Nat} (h : nearer? hits x grid = some c) :
    hits c = true := by
  unfold nearer? at h
  dsimp only at h
  cases first : hits (x / grid) <;> cases second : hits (x / grid + 1) <;>
    simp only [first, second, reduceCtorEq, Option.some.injEq] at h
  · exact h ▸ second
  · exact h ▸ first
  · split at h
    · exact h ▸ first
    · split at h
      · exact h ▸ second
      · split at h
        · exact h ▸ first
        · exact h ▸ second

/-- Where a grid is finer than the distances at which its points are hits, one of them is. -/
theorem nearer?_isSome {hits : Nat → Bool} {x grid low high : Nat} (pos : 0 < grid)
    (below : ∀ c, c * grid ≤ x → 2 * (x - c * grid) < low → hits c = true)
    (above : ∀ c, x < c * grid → 2 * (c * grid - x) < high → hits c = true)
    (fine : grid < low) (wide : low ≤ high) : (nearer? hits x grid).isSome = true := by
  have hit : hits (x / grid) = true ∨ hits (x / grid + 1) = true := by
    have split := Nat.div_add_mod' x grid
    have rest := Nat.mod_lt x pos
    have next : (x / grid + 1) * grid = x / grid * grid + grid := Nat.succ_mul _ grid
    by_cases near : 2 * (x % grid) ≤ grid
    · exact .inl (below _ (by omega) (by omega))
    · exact .inr (above _ (by omega) (by omega))
  unfold nearer?
  dsimp only
  cases first : hits (x / grid) <;> cases second : hits (x / grid + 1) <;> simp_all

theorem onGrid?_eq (u : Nat) (e : Int) :
    onGrid? u e =
      nearer? (fun c => roundsTo u c e) (u * (powerOfTen e).2) ((powerOfTen e).1 * one) := by
  unfold onGrid?
  generalize one = unit
  rfl

theorem onGrid?_sound (h : onGrid? u e = some c) : roundsTo u c e = true := by
  rw [onGrid?_eq] at h
  have hit := nearer?_sound h
  exact hit

theorem onGrid?_isSome (fine : (powerOfTen e).1 * one < stepBelow u * (powerOfTen e).2) :
    (onGrid? u e).isSome = true := by
  have coarse : stepBelow u * (powerOfTen e).2 ≤ step u * (powerOfTen e).2 :=
    Nat.mul_le_mul_right _ (stepBelow_le u)
  rw [onGrid?_eq]
  refine nearer?_isSome (Nat.mul_pos (powerOfTen_pos e).1 one_pos) ?_ ?_ fine coarse
  · intro c under near
    rw [← Nat.mul_assoc] at under near
    exact roundsTo_of_le under near
  · intro c above near
    rw [← Nat.mul_assoc] at above near
    exact roundsTo_of_lt above near

theorem firstHit_sound {hit? : Int → Option Nat} {past : Int → Nat} {fuel : Nat}
    (h : ∃ n < fuel, (hit? (e - (n : Nat))).isSome = true) :
    hit? (firstHit hit? past fuel e).2 = some (firstHit hit? past fuel e).1 := by
  induction fuel generalizing e with
  | zero =>
      obtain ⟨n, less, -⟩ := h
      cases less
  | succ fuel ih =>
      unfold firstHit
      cases here : hit? e with
      | some c => exact here
      | none =>
          apply ih
          obtain ⟨n, less, found⟩ := h
          cases n with
          | zero =>
              rw [Int.natCast_zero, Int.sub_zero, here] at found
              cases found
          | succ n =>
              refine ⟨n, by omega, ?_⟩
              rwa [show e - 1 - (n : Int) = e - (n + 1 : Nat) by omega]

theorem near_shortest (fits : Fits u) (pos : 0 < u) :
    Near u (shortest u).1 (shortest u).2 := by
  have tried : ∃ n < 330, reaches u (exponentAbove u - (n : Nat)) = true :=
    ⟨329, by decide, reaches_low fits pos⟩
  have fine := onGrid?_isSome (fine_of_reaches (reaches_leadingExponent tried))
  have hit : ∃ n < 17, (onGrid? u (leadingExponent u 330 (exponentAbove u) - (n : Nat))).isSome =
      true := ⟨16, by decide, fine⟩
  exact near_of_roundsTo (onGrid?_sound (firstHit_sound hit))

end Workflow.Double
