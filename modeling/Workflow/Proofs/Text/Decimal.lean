import Mathlib.Data.List.Induction
import Mathlib.Tactic.Ring
import Workflow.Double.Notation
import Workflow.Proofs.Text.Blank

/-! Numbers in decimal notation are read back: the digits of a number make it up again, and a run of
digits ends where something else follows. A digit of any script is no blank, no sign and no letter,
so that a text of digits with a sign or without one is read as the number that they make up. -/

namespace Workflow.Text

def EndsDigits (rest : List Char) : Prop := ∀ c, rest.head? = some c → asciiDigit? c = none

/-- Digits of a number, without zeros in front. -/
structure Numeral (n : Nat) (ds : List Nat) : Prop where
  digits : ∀ d ∈ ds, d < 10
  value : ofDigits ds = n
  lead : ∃ d rest, ds = d :: rest ∧ (d = 0 → rest = [])

theorem Numeral.ne_nil {n : Nat} {ds : List Nat} (h : Numeral n ds) : ds ≠ [] := by
  obtain ⟨d, others, rfl, -⟩ := h.lead
  exact List.cons_ne_nil _ _

theorem ofDigits_append (ds es : List Nat) :
    ofDigits (ds ++ es) = ofDigits ds * 10 ^ es.length + ofDigits es := by
  induction es using List.reverseRecOn with
  | nil => simp [ofDigits]
  | append_singleton es d ih =>
      have last : ∀ xs : List Nat, ofDigits (xs ++ [d]) = 10 * ofDigits xs + d := by
        intro xs
        simp [ofDigits]
      rw [← List.append_assoc, last, ih, last, List.length_append, List.length_singleton,
        Nat.pow_succ]
      ring

theorem ofDigits_zeros (k : Nat) : ofDigits (List.replicate k 0) = 0 := by
  induction k with
  | zero => rfl
  | succ k ih =>
      rw [List.replicate_succ', ofDigits_append, ih]
      rfl

theorem decimalUpTo_numeral {fuel n : Nat} (h : n < fuel) :
    ∃ ds, decimalUpTo fuel n = ds.map digitChar ∧ Numeral n ds := by
  induction fuel generalizing n with
  | zero => cases h
  | succ fuel ih =>
      unfold decimalUpTo
      by_cases small : n < 10
      · refine ⟨[n], if_pos small, by simpa using small, by simp [ofDigits], n, [], rfl, ?_⟩
        exact fun _ => rfl
      · obtain ⟨ds, text, numeral⟩ := ih (n := n / 10) (by omega)
        obtain ⟨d, rest, shape, lead⟩ := numeral.lead
        refine ⟨ds ++ [n % 10], ?_, ?_, ?_, d, rest ++ [n % 10], ?_, ?_⟩
        · rw [if_neg small, text, List.map_append]
          rfl
        · intro e mem
          rcases List.mem_append.mp mem with old | last
          · exact numeral.digits e old
          · rw [List.mem_singleton.mp last]
            exact Nat.mod_lt n (by decide)
        · rw [ofDigits_append, numeral.value]
          simp only [ofDigits, List.length_singleton, List.foldl_cons, List.foldl_nil]
          omega
        · rw [shape, List.cons_append]
        · rintro rfl
          -- A number of two digits or more does not start with a zero.
          have zero := numeral.value
          rw [shape, lead rfl] at zero
          simp only [ofDigits, List.foldl_cons, List.foldl_nil] at zero
          omega

theorem decimal_numeral (n : Nat) : ∃ ds, decimal n = ds.map digitChar ∧ Numeral n ds :=
  decimalUpTo_numeral (Nat.lt_succ_self n)

theorem ofDigits_lt {ds : List Nat} (digits : ∀ d ∈ ds, d < 10) :
    ofDigits ds < 10 ^ ds.length := by
  induction ds using List.reverseRecOn with
  | nil => exact Nat.one_pos
  | append_singleton ds d ih =>
      obtain ⟨front, last⟩ := List.forall_mem_append.mp digits
      have below := ih front
      have small := last d (List.mem_singleton_self d)
      have one : ofDigits [d] = d := by simp [ofDigits]
      rw [ofDigits_append, one, List.length_append, List.length_singleton, pow_one, pow_succ]
      omega

/-- A number with more than one digit is not below the power of ten of its first one. -/
theorem Numeral.pow_le {n d e : Nat} {ds : List Nat} (h : Numeral n (d :: e :: ds)) :
    10 ^ (ds.length + 1) ≤ n := by
  obtain ⟨f, rest, shape, lead⟩ := h.lead
  obtain ⟨rfl, rfl⟩ := List.cons.inj shape
  have positive : 1 ≤ ofDigits [d] := by
    rw [Nat.one_le_iff_ne_zero]
    intro zero
    exact List.cons_ne_nil _ _ (lead (by simpa [ofDigits] using zero))
  have split : n = ofDigits [d] * 10 ^ (e :: ds).length + ofDigits (e :: ds) := by
    rw [← ofDigits_append, ← h.value]
    rfl
  rw [split, List.length_cons]
  exact Nat.le_add_right_of_le (Nat.le_mul_of_pos_left _ positive)

/-- An integer is too long from the power of ten of the limit on. -/
theorem isLong_iff {i : Int} : isLong i = true ↔ 10 ^ digitLimit ≤ i.natAbs := by
  obtain ⟨ds, text, numeral⟩ := decimal_numeral i.natAbs
  have below := ofDigits_lt numeral.digits
  rw [numeral.value] at below
  rw [isLong, decide_eq_true_eq, text, List.length_map]
  constructor
  · intro long
    match ds, numeral, long with
    | [], numeral, _ => exact absurd rfl numeral.ne_nil
    | [_], _, long => exact absurd (show digitLimit < 1 from long) (by decide)
    | d :: e :: ds, numeral, long =>
        refine le_trans (Nat.pow_le_pow_right (by decide) ?_) numeral.pow_le
        simpa [Nat.lt_succ_iff] using long
  · intro large
    by_contra short
    exact absurd (below.trans_le (Nat.pow_le_pow_right (by decide) (Nat.not_lt.mp short)))
      (Nat.not_lt.mpr large)

def firstLong : Int := ((10 ^ digitLimit : Nat) : Int)

theorem isLong_firstLong : isLong firstLong = true := by
  rw [firstLong, isLong_iff, Int.natAbs_natCast]

theorem spanDigits_digits {ds : List Nat} {rest : List Char} (digits : ∀ d ∈ ds, d < 10)
    (ends : EndsDigits rest) : spanDigits asciiDigit? (ds.map digitChar ++ rest) = (ds, rest) := by
  induction ds with
  | nil =>
      cases rest with
      | nil => rfl
      | cons c rest => simp [spanDigits, ends c rfl]
  | cons d ds ih =>
      have first := asciiDigit?_digitChar (digits d List.mem_cons_self)
      have others := ih fun e mem => digits e (List.mem_cons_of_mem _ mem)
      simp [spanDigits, first, others]

variable {c other : Char} {d : Nat} {cs r : List Char} {ds : List Nat}

/-- The characters are decimal digits, of any script, with the given values. -/
def Digits (cs : List Char) (ds : List Nat) : Prop :=
  List.Forall₂ (fun c d => digitValue? c = some d) cs ds

theorem toNat_of_digit (h : digitValue? c = some d) :
    ∃ z ∈ zeros, ∃ k < 10, c.toNat = z + k := by
  rw [digitValue?, Option.map_eq_some_iff] at h
  obtain ⟨z, found, -⟩ := h
  have near := List.find?_some found
  rw [Bool.and_eq_true, decide_eq_true_eq, decide_eq_true_eq] at near
  exact ⟨z, List.mem_of_find?_eq_some found, c.toNat - z, by omega, by omega⟩

theorem ne_of_digit (digit : digitValue? c = some d) (h : digitValue? other = none) :
    c ≠ other := by
  rintro rfl
  rw [digit] at h
  cases h

theorem isBlank_of_digit (digit : digitValue? c = some d) : isBlank c = false := by
  have apart : ∀ z ∈ zeros, ∀ k < 10, inRuns blankRuns (z + k) = false := by decide +kernel
  obtain ⟨z, zero, k, small, code⟩ := toNat_of_digit digit
  rw [isBlank, code]
  exact apart z zero k small

theorem toLower_of_digit (digit : digitValue? c = some d) : c.toLower = c := by
  have apart : ∀ z ∈ zeros, ∀ k < 10, ¬(65 ≤ z + k ∧ z + k ≤ 90) := by decide +kernel
  obtain ⟨z, zero, k, small, code⟩ := toNat_of_digit digit
  have lower := apart z zero k small
  rw [← code] at lower
  exact dif_neg lower

theorem spanGrouped_cons (digit : digitValue? c = some d) :
    spanGrouped (c :: r) = (d :: (spanGrouped r).1, (spanGrouped r).2) := by
  have mark : c ≠ '_' := ne_of_digit digit (by decide)
  cases r <;> simp [spanGrouped, mark, digit]

theorem spanGrouped_digits (digits : Digits cs ds) : spanGrouped cs = (ds, []) := by
  induction digits with
  | nil => rfl
  | cons digit _ ih => rw [spanGrouped_cons digit, ih]

theorem spanNumber_digits (digits : Digits cs ds) : spanNumber cs = (ds, []) := by
  cases digits with
  | nil => rfl
  | cons digit rest => rw [spanNumber, digit, Option.isSome_some, if_pos rfl,
      spanGrouped_digits (.cons digit rest)]

theorem spanSign_digits (digits : Digits cs ds) : spanSign cs = (false, cs) := by
  cases digits with
  | nil => rfl
  | @cons c _ _ _ digit _ =>
      have minus : c ≠ '-' := ne_of_digit digit (by decide)
      have plus : c ≠ '+' := ne_of_digit digit (by decide)
      unfold spanSign
      split
      · rename_i same
        exact absurd (List.cons.inj same).1 minus
      · rename_i same
        exact absurd (List.cons.inj same).1 plus
      · rfl

theorem dropBack_dropFront {p : Char → Bool} (h : ∀ c ∈ cs, p c = false) :
    dropBack p (dropFront p cs) = cs := by
  have front : dropFront p cs = cs := dropFront_of_first fun c head => h c (List.mem_of_head? head)
  rw [front, dropBack_of_last fun c last => h c (List.mem_of_getLast? last)]

theorem isSpace_of_isBlank (h : isBlank c = false) : isSpace c = false := by
  rw [isSpace, h, Bool.false_and]

theorem Digits.plain (digits : Digits cs ds) : ∀ c ∈ cs, isBlank c = false := by
  induction digits with
  | nil => exact fun _ mem => (List.not_mem_nil mem).elim
  | cons digit _ ih => exact List.forall_mem_cons.mpr ⟨isBlank_of_digit digit, ih⟩

end Workflow.Text

namespace Workflow.Double

open Text

variable {cs text : List Char} {ds : List Nat}

theorem word_ne_of_digits (digits : Digits cs ds) {first : Char} {word : List Char}
    (letter : digitValue? first = none) : cs.map Char.toLower ≠ first :: word := by
  cases digits with
  | nil => exact List.cons_ne_nil _ _ ∘ Eq.symm
  | cons digit _ =>
      rw [List.map_cons, toLower_of_digit digit]
      exact fun same => ne_of_digit digit letter (List.cons.inj same).1

theorem readUnsigned?_digits (negative : Bool) (digits : Digits cs ds) (some' : ds ≠ []) :
    readUnsigned? spanNumber negative cs = some (ofDecimal negative (ofDigits ds) 0) := by
  have filled : ds.isEmpty = false := by
    rwa [List.isEmpty_eq_false_iff]
  simp [readUnsigned?, spanNumber_digits digits, filled, readExponent?, ofParts]

/-- A text of digits with a sign or without one is read as the number that they make up. -/
theorem read?_digits {negative : Bool} (sign : spanSign text = (negative, cs))
    (digits : Digits cs ds) (some' : ds ≠ []) (plain : ∀ c ∈ text, isBlank c = false) :
    read? (strip (String.ofList text)) = some (ofDecimal negative (ofDigits ds) 0) := by
  have spaces : trimSpace text = text :=
    dropBack_dropFront fun c mem => isSpace_of_isBlank (plain c mem)
  have blanks : trimBlank text = text := dropBack_dropFront plain
  rw [strip, String.toList_ofList, blanks, read?, String.toList_ofList, spaces, readSigned?, sign]
  dsimp only
  rw [if_neg, if_neg, readUnsigned?_digits negative digits some']
  · exact word_ne_of_digits digits (by decide)
  · rw [Bool.or_eq_true, decide_eq_true_eq, decide_eq_true_eq, not_or]
    exact ⟨word_ne_of_digits digits (by decide), word_ne_of_digits digits (by decide)⟩

end Workflow.Double
