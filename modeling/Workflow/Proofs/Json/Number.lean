import Workflow.Json.Reader
import Workflow.Json.Writer
import Workflow.Proofs.Double.Shortest
import Workflow.Proofs.Text.Decimal

/-! Numbers are read back from JSON texts: integers as they are, unless they are too long for the
rules, and floating-point numbers because the decimal that is written lies in the interval of ratios
that are rounded to the number. -/

namespace Workflow.Json

open Text Double

/-- The text that follows a number does not go on with a part of one. -/
structure EndsNumber (rest : List Char) : Prop where
  digit : EndsDigits rest
  point : rest.head? ≠ some '.'
  exponent : rest.head? ≠ some 'e' ∧ rest.head? ≠ some 'E'

variable {rest : List Char} {ds : List Nat} {d : Nat}

theorem digitChar_ne {c : Char} (digit : d < 10) (other : asciiDigit? c = none) :
    digitChar d ≠ c := by
  rintro rfl
  rw [asciiDigit?_digitChar digit] at other
  cases other

theorem endsDigits_cons {c : Char} (other : asciiDigit? c = none) : EndsDigits (c :: rest) := by
  intro c' first
  cases first
  exact other

theorem spanWhole_digits (digits : ∀ e ∈ d :: ds, e < 10) (lead : d ≠ 0)
    (ends : EndsDigits rest) :
    spanWhole ((d :: ds).map digitChar ++ rest) = (d :: ds, rest) := by
  have first : digitChar d ≠ '0' := by
    intro zero
    have value := asciiDigit?_digitChar (digits d List.mem_cons_self)
    rw [zero] at value
    exact lead (Option.some.inj value).symm
  rw [← spanDigits_digits digits ends]
  unfold spanWhole
  split
  · rename_i heq
    exact absurd (List.cons.inj heq).1 first
  · rfl

theorem spanWhole_numeral {n : Nat} (numeral : Numeral n ds) (ends : EndsDigits rest) :
    spanWhole (ds.map digitChar ++ rest) = (ds, rest) := by
  obtain ⟨d, others, rfl, lead⟩ := numeral.lead
  by_cases zero : d = 0
  · rw [lead zero, zero]
    rfl
  · exact spanWhole_digits numeral.digits zero ends

theorem spanFraction_digits (digits : ∀ e ∈ ds, e < 10) (some' : ds ≠ [])
    (ends : EndsDigits rest) :
    spanFraction ('.' :: (ds.map digitChar ++ rest)) = (some ds, rest) := by
  obtain ⟨d, others, rfl⟩ := List.exists_cons_of_ne_nil some'
  simp only [spanFraction, spanDigits_digits digits ends]

theorem spanFraction_none (h : rest.head? ≠ some '.') : spanFraction rest = (none, rest) := by
  unfold spanFraction
  split
  · exact absurd rfl h
  · rfl

theorem spanExponent_none (h : rest.head? ≠ some 'e' ∧ rest.head? ≠ some 'E') :
    spanExponent rest = (none, rest) := by
  cases rest with
  | nil => rfl
  | cons c rest =>
      simp only [List.head?_cons, ne_eq, Option.some.injEq] at h
      simp [spanExponent, h.1, h.2]

theorem spanExponent_digits (negative : Bool) (digits : ∀ e ∈ ds, e < 10) (some' : ds ≠ [])
    (ends : EndsDigits rest) :
    spanExponent ('e' :: (if negative then '-' else '+') :: (ds.map digitChar ++ rest)) =
      (some (if negative then -(ofDigits ds : Int) else ofDigits ds), rest) := by
  have digits' := spanDigits_digits digits ends
  obtain ⟨d, others, rfl⟩ := List.exists_cons_of_ne_nil some'
  have sign : spanSign ((if negative then '-' else '+') ::
      ((d :: others).map digitChar ++ rest)) = (negative, (d :: others).map digitChar ++ rest) := by
    cases negative <;> rfl
  simp only [spanExponent, sign, digits', beq_self_eq_true, Bool.true_or, if_true]

def signed (negative : Bool) (body : List Char) : List Char :=
  if negative then '-' :: body else body

/-- The value of a number from its parts: an integer unless it has a fraction or an exponent. -/
def valueOfParts (negative : Bool) (whole : List Nat) : Option (List Nat) → Option Int → Value
  | none, none => .int (if negative then -(ofDigits whole : Int) else ofDigits whole)
  | fraction, exponent =>
    .double (.ofParts negative whole (fraction.getD []) (exponent.getD 0))

theorem signed_append (negative : Bool) (body rest : List Char) :
    signed negative body ++ rest = signed negative (body ++ rest) := by
  cases negative <;> rfl

variable (rules : Rules)

section

variable {body r s t : List Char} {whole : List Nat} {fraction : Option (List Nat)}
  {exponent : Option Int}

/-- A number is read part by part. The length of its whole part matters only where it has no other
parts. -/
theorem readNumber_signed (negative : Bool) (unsigned : body.head? ≠ some '-')
    (ds : spanWhole body = (whole, r)) (some' : whole ≠ [])
    (point : spanFraction r = (fraction, s)) (power : spanExponent s = (exponent, t)) :
    readNumber rules (signed negative body) =
      if fraction = none ∧ exponent = none ∧ digitLimit < rules.lengthOf negative whole then
        fail (.longInteger whole.length) (signed negative body)
      else .ok (valueOfParts negative whole fraction exponent, t) := by
  obtain ⟨d, others, rfl⟩ := List.exists_cons_of_ne_nil some'
  have front : ∀ rest, body ≠ '-' :: rest := fun rest minus =>
    unsigned (congrArg List.head? minus)
  unfold readNumber signed
  cases negative with
  | true =>
      simp only [if_true, ds, point, power]
      cases fraction <;> cases exponent <;> simp [valueOfParts]
  | false =>
      simp only [Bool.false_eq_true, if_false, ds, point, power]
      cases fraction <;> cases exponent <;> simp [valueOfParts]

end

def Rules.isLong (rules : Rules) (i : Int) : Bool :=
  digitLimit < if rules.countsSign then (integer i).length else (decimal i.natAbs).length

theorem Rules.isLong_of_isLong {i : Int} (long : Text.isLong i = true) : rules.isLong i = true := by
  rw [Text.isLong, decide_eq_true_eq] at long
  rw [Rules.isLong, decide_eq_true_eq]
  split
  · unfold integer
    split
    · exact long.trans (Nat.lt_succ_self _)
    · exact long
  · exact long

theorem head_ne_minus (numeral : ∀ e ∈ ds, e < 10) (some' : ds ≠ []) (rest : List Char) :
    (ds.map digitChar ++ rest).head? ≠ some '-' := by
  obtain ⟨d, others, rfl⟩ := List.exists_cons_of_ne_nil some'
  intro first
  exact digitChar_ne (numeral d List.mem_cons_self) (by decide) (Option.some.inj first)

theorem readNumber_integer (i : Int) (ends : EndsNumber rest) :
    readNumber rules (integer i ++ rest) =
      if rules.isLong i then fail (.longInteger (decimal i.natAbs).length) (integer i ++ rest)
      else .ok (.int i, rest) := by
  obtain ⟨ds, text, numeral⟩ := decimal_numeral i.natAbs
  have form : integer i = signed (decide (i < 0)) (ds.map digitChar) := by
    unfold integer signed
    rw [text]
    by_cases negative : i < 0 <;> simp [negative]
  have read := readNumber_signed rules (decide (i < 0))
    (head_ne_minus numeral.digits numeral.ne_nil rest) (spanWhole_numeral numeral ends.digit)
    numeral.ne_nil (spanFraction_none ends.point) (spanExponent_none ends.exponent)
  have value : (if decide (i < 0) = true then -(i.natAbs : Int) else i.natAbs) = i := by
    by_cases negative : i < 0
    · rw [if_pos (decide_eq_true negative)]
      omega
    · rw [if_neg (by simpa using negative)]
      omega
  have long : rules.isLong i = true ↔
      digitLimit < rules.lengthOf (decide (i < 0)) ds := by
    rw [Rules.isLong, decide_eq_true_eq, Rules.lengthOf, form, text]
    cases rules.countsSign <;> by_cases negative : i < 0 <;> simp [signed, negative]
  rw [valueOfParts, numeral.value, value] at read
  rw [form, signed_append, read, text, List.length_map]
  simp only [long, true_and]

theorem near_dropZeros {u c : Nat} {e : Int} (fuel : Nat) (h : Near u c e) :
    Near u (dropZeros fuel c e).1 (dropZeros fuel c e).2 := by
  induction fuel generalizing c e with
  | zero => exact h
  | succ fuel ih =>
      unfold dropZeros
      split
      · rename_i zero
        apply ih
        apply (Near.shift_iff 1).mpr
        have whole : c / 10 * 10 ^ 1 = c := by omega
        rwa [whole]
      · exact h

/-- Digits that make up a magnitude, with the exponent of the first of them. -/
structure Spells (u : Nat) (ds : List Nat) (leading : Int) : Prop where
  digits : ∀ d ∈ ds, d < 10
  lead : ∃ d others, ds = d :: others ∧ d ≠ 0
  near : Near u (ofDigits ds) (leading + 1 - ds.length)

theorem Spells.ne_nil {u : Nat} {leading : Int} (h : Spells u ds leading) : ds ≠ [] := by
  obtain ⟨d, others, rfl, -⟩ := h.lead
  exact List.cons_ne_nil _ _

section

variable {u : Nat} {leading : Int} (negative : Bool)

theorem endsDigits_point : EndsDigits ('.' :: rest) := endsDigits_cons (by decide)

theorem endsDigits_exponent : EndsDigits ('e' :: rest) := endsDigits_cons (by decide)

theorem readNumber_point {whole fraction : List Nat} (digits : ∀ d ∈ whole ++ fraction, d < 10)
    (lead : whole = [0] ∨ ∃ d others, whole = d :: others ∧ d ≠ 0) (some' : fraction ≠ [])
    (ends : EndsNumber rest) :
    readNumber rules (signed negative (whole.map digitChar ++ '.' :: (fraction.map digitChar ++ rest))) =
      .ok (.double (.ofParts negative whole fraction 0), rest) := by
  have front : ∀ d ∈ whole, d < 10 := fun d mem => digits d (List.mem_append_left _ mem)
  have back : ∀ d ∈ fraction, d < 10 := fun d mem => digits d (List.mem_append_right _ mem)
  have known : whole ≠ [] := by
    rcases lead with rfl | ⟨d, others, rfl, -⟩ <;> exact List.cons_ne_nil _ _
  have first : ∀ r, EndsDigits r → spanWhole (whole.map digitChar ++ r) = (whole, r) := by
    intro r above
    rcases lead with rfl | ⟨d, others, rfl, other⟩
    · rfl
    · exact spanWhole_digits front other above
  have read := readNumber_signed rules negative (head_ne_minus front known _)
    (first _ endsDigits_point) known (spanFraction_digits back some' ends.digit)
    (spanExponent_none ends.exponent)
  exact read.trans (if_neg fun long => nomatch long.1)

theorem readNumber_exponent (below : Bool) {fraction power : List Nat}
    (digits : ∀ e ∈ d :: fraction, e < 10) (other : d ≠ 0) (powers : ∀ e ∈ power, e < 10)
    (some' : power ≠ []) (ends : EndsNumber rest) :
    readNumber rules (signed negative (digitChar d ::
        ((if fraction = [] then [] else '.' :: fraction.map digitChar) ++
          'e' :: (if below then '-' else '+') :: (power.map digitChar ++ rest)))) =
      .ok (.double (.ofParts negative [d] fraction
        (if below then -(ofDigits power : Int) else ofDigits power)), rest) := by
  have front : ∀ e ∈ [d], e < 10 := fun e mem =>
    digits e (List.mem_singleton.mp mem ▸ List.mem_cons_self)
  have back : ∀ e ∈ fraction, e < 10 := fun e mem => digits e (List.mem_cons_of_mem _ mem)
  have exponent := spanExponent_digits below powers some' ends.digit
  by_cases none' : fraction = []
  · subst none'
    have above : EndsDigits ('e' :: (if below then '-' else '+') ::
        (power.map digitChar ++ rest)) := endsDigits_exponent
    have unsigned := head_ne_minus front (List.cons_ne_nil d [])
    have read := readNumber_signed rules negative (unsigned _) (spanWhole_digits front other above)
      (List.cons_ne_nil d []) (spanFraction_none (by simp)) exponent
    exact read.trans (if_neg fun long => nomatch long.2.1)
  · rw [if_neg none']
    have unsigned := head_ne_minus front (List.cons_ne_nil d [])
    have read := readNumber_signed rules negative (unsigned _)
      (spanWhole_digits front other endsDigits_point) (List.cons_ne_nil d [])
      (spanFraction_digits back none' endsDigits_exponent) exponent
    exact read.trans (if_neg fun long => nomatch long.1)

theorem ofParts_eq {whole fraction : List Nat} {exponent : Int} (fits : Fits u) (pos : 0 < u)
    (near : Near u (ofDigits (whole ++ fraction)) (exponent - fraction.length)) :
    Double.ofParts negative whole fraction exponent = .finite negative u fits :=
  near.ofDecimal_eq fits pos negative

theorem zeros_text (k : Nat) : List.replicate k '0' = (List.replicate k 0).map digitChar := by
  rw [List.map_replicate]
  rfl

theorem ofDigits_zeros_append (k : Nat) (ds : List Nat) :
    ofDigits (List.replicate k 0 ++ ds) = ofDigits ds := by
  rw [ofDigits_append, ofDigits_zeros, Nat.zero_mul, Nat.zero_add]

theorem digits_zeros_append (k : Nat) (digits : ∀ d ∈ ds, d < 10) :
    ∀ d ∈ List.replicate k 0 ++ ds, d < 10 := by
  intro d mem
  rcases List.mem_append.mp mem with zero | mem
  · rw [List.eq_of_mem_replicate zero]
    decide
  · exact digits d mem

/-- Below one there are a zero, the point, and zeros in front of the digits. -/
theorem readNumber_below_one (spells : Spells u ds leading) (fits : Fits u) (pos : 0 < u)
    (ends : EndsNumber rest) (below : leading < 0) :
    readNumber rules (signed negative ('0' :: '.' :: (List.replicate (-leading - 1).toNat '0' ++
        ds.map digitChar) ++ rest)) =
      .ok (.double (.finite negative u fits), rest) := by
  obtain ⟨k, zeros⟩ : ∃ k : Nat, -leading - 1 = k := ⟨(-leading - 1).toNat, by omega⟩
  have digits : ∀ e ∈ [0] ++ (List.replicate k 0 ++ ds), e < 10 :=
    digits_zeros_append (k + 1) spells.digits
  have value : ofDigits ([0] ++ (List.replicate k 0 ++ ds)) = ofDigits ds :=
    ofDigits_zeros_append (k + 1) ds
  have read := readNumber_point rules negative digits (.inl rfl)
    (List.append_ne_nil_of_right_ne_nil _ spells.ne_nil) ends
  rw [ofParts_eq negative fits pos] at read
  · rw [zeros, Int.toNat_natCast, zeros_text, ← List.map_append]
    exact read
  · rw [value, List.length_append, List.length_replicate]
    have exponent : leading + 1 - (ds.length : Int) = 0 - ((k + ds.length : Nat) : Int) := by
      omega
    have near := spells.near
    rwa [exponent] at near

/-- Where all digits stand in front of the point, zeros make up for the exponent. -/
theorem readNumber_whole (spells : Spells u ds leading) (fits : Fits u) (pos : 0 < u)
    (ends : EndsNumber rest) (k : Nat) (missing : leading + 1 = ds.length + k) :
    readNumber rules (signed negative (ds.map digitChar ++ List.replicate k '0' ++ ['.', '0'] ++ rest)) =
      .ok (.double (.finite negative u fits), rest) := by
  obtain ⟨d, others, shape, other⟩ := spells.lead
  have digits : ∀ e ∈ ds ++ List.replicate k 0 ++ [0], e < 10 := by
    intro e mem
    rw [List.append_assoc, ← List.replicate_succ'] at mem
    rcases List.mem_append.mp mem with mem | zero
    · exact spells.digits e mem
    · rw [List.eq_of_mem_replicate zero]
      decide
  have value : ofDigits (ds ++ List.replicate k 0 ++ [0]) = ofDigits ds * 10 ^ (k + 1) := by
    rw [List.append_assoc, ← List.replicate_succ', ofDigits_append, ofDigits_zeros,
      List.length_replicate, Nat.add_zero]
  have read := readNumber_point rules negative digits
    (.inr ⟨d, others ++ List.replicate k 0, by rw [shape]; rfl, other⟩)
    (List.cons_ne_nil 0 []) ends
  rw [ofParts_eq negative fits pos] at read
  · rw [zeros_text, ← List.map_append, List.append_assoc]
    exact read
  · rw [value, List.length_singleton]
    apply (Near.shift_iff (k + 1)).mp
    have exponent : leading + 1 - (ds.length : Int) =
        0 - ((1 : Nat) : Int) + ((k + 1 : Nat) : Int) := by omega
    have near := spells.near
    rwa [exponent] at near

theorem readNumber_among (spells : Spells u ds leading) (fits : Fits u) (pos : 0 < u)
    (ends : EndsNumber rest) (w : Nat) (place : leading = w) (long : w + 1 < ds.length) :
    readNumber rules (signed negative ((ds.map digitChar).take (w + 1) ++
        '.' :: (ds.map digitChar).drop (w + 1) ++ rest)) =
      .ok (.double (.finite negative u fits), rest) := by
  obtain ⟨d, others, shape, other⟩ := spells.lead
  have digits : ∀ e ∈ ds.take (w + 1) ++ ds.drop (w + 1), e < 10 := by
    rw [List.take_append_drop]
    exact spells.digits
  have lead : ∃ e others, ds.take (w + 1) = e :: others ∧ e ≠ 0 :=
    ⟨d, others.take w, by rw [shape]; rfl, other⟩
  have read := readNumber_point rules negative digits (.inr lead)
    (by simpa using long) ends
  rw [ofParts_eq negative fits pos] at read
  · rw [List.append_assoc, ← List.map_take, ← List.map_drop]
    exact read
  · rw [List.take_append_drop, List.length_drop]
    have exponent : leading + 1 - (ds.length : Int) = 0 - ((ds.length - (w + 1) : Nat) : Int) := by
      omega
    have near := spells.near
    rwa [exponent] at near

theorem readNumber_positional (spells : Spells u ds leading) (fits : Fits u) (pos : 0 < u)
    (ends : EndsNumber rest) :
    readNumber rules (signed negative (positional (ds.map digitChar) leading ++ rest)) =
      .ok (.double (.finite negative u fits), rest) := by
  unfold positional
  rw [List.length_map]
  by_cases below : leading < 0
  · rw [if_pos below]
    exact readNumber_below_one rules negative spells fits pos ends below
  · obtain ⟨w, place⟩ : ∃ w : Nat, leading = w := ⟨leading.toNat, by omega⟩
    rw [if_neg below, place, Int.toNat_natCast]
    dsimp only
    by_cases short : ds.length ≤ w + 1
    · rw [if_pos short]
      exact readNumber_whole rules negative spells fits pos ends _ (by omega)
    · rw [if_neg short]
      exact readNumber_among rules negative spells fits pos ends w place (by omega)

/-- Scientific notation is read as the magnitude that its digits spell. -/
theorem readNumber_scientific (spells : Spells u ds leading) (fits : Fits u) (pos : 0 < u)
    (ends : EndsNumber rest) :
    readNumber rules (signed negative (scientific (ds.map digitChar) leading ++ rest)) =
      .ok (.double (.finite negative u fits), rest) := by
  obtain ⟨d, others, rfl, other⟩ := spells.lead
  obtain ⟨power, text, numeral⟩ := decimal_numeral leading.natAbs
  have near := spells.near
  unfold scientific
  rw [text]
  simp only [List.length_map]
  generalize 2 - power.length = k
  have powers := digits_zeros_append k numeral.digits
  have value : (if decide (leading < 0) = true
      then -(ofDigits (List.replicate k 0 ++ power) : Int)
      else ofDigits (List.replicate k 0 ++ power)) = leading := by
    rw [ofDigits_zeros_append, numeral.value]
    by_cases below : leading < 0
    · rw [if_pos (decide_eq_true below)]
      omega
    · rw [if_neg (by simpa using below)]
      omega
  have read := readNumber_exponent rules negative (decide (leading < 0))
    spells.digits other powers
    (List.append_ne_nil_of_right_ne_nil _ numeral.ne_nil) ends
  rw [value, ofParts_eq negative fits pos] at read
  · have one : ((d :: others).length ≤ 1) = (others = []) := by simp
    rw [List.map_append, ← zeros_text] at read
    simp only [decide_eq_true_eq] at read
    simpa [one] using read
  · have exponent : leading + 1 - (((d :: others).length : Nat) : Int) =
        leading - (others.length : Int) := by
      rw [List.length_cons]
      omega
    rwa [exponent] at near

theorem readNumber_laidOut {c : Nat} {e : Int} (near : Near u c e) (fits : Fits u) (pos : 0 < u)
    (ends : EndsNumber rest) :
    readNumber rules (signed negative (laidOut c e ++ rest)) =
      .ok (.double (.finite negative u fits), rest) := by
  obtain ⟨ds, text, numeral⟩ := decimal_numeral c
  unfold laidOut
  simp only [text, List.length_map]
  have spells : Spells u ds (e + ds.length - 1) := by
    refine ⟨numeral.digits, ?_, ?_⟩
    · obtain ⟨d, others, shape, lead⟩ := numeral.lead
      refine ⟨d, others, shape, ?_⟩
      rintro rfl
      -- A zero stands alone, and no positive magnitude is near it.
      have zero := numeral.value
      rw [shape, lead rfl] at zero
      exact absurd zero.symm (Nat.pos_iff_ne_zero.mp (near.pos fits pos))
    · have exponent : e + ds.length - 1 + 1 - (ds.length : Int) = e := by omega
      rwa [numeral.value, exponent]
  split
  · exact readNumber_positional rules negative spells fits pos ends
  · exact readNumber_scientific rules negative spells fits pos ends

theorem readNumber_magnitude (fits : Fits u) (pos : 0 < u) (ends : EndsNumber rest) :
    readNumber rules (signed negative (magnitude u ++ rest)) =
      .ok (.double (.finite negative u fits), rest) :=
  readNumber_laidOut rules negative (near_dropZeros 20 (near_shortest fits pos)) fits pos ends

end

theorem ofParts_zero (negative : Bool) :
    Double.ofParts negative [0] [0] 0 = .finite negative 0 fits_zero := by
  unfold Double.ofParts ofDecimal
  exact if_pos rfl

theorem readNumber_render {x : Double} (finite : x.isFinite = true) (ends : EndsNumber rest) :
    readNumber rules (Double.render nonFinite x ++ rest) = .ok (.double x, rest) := by
  cases x with
  | nan => cases finite
  | infinite negative => cases finite
  | finite negative units fits =>
      have form : ∀ body, (if negative then '-' :: body else body) ++ rest =
          signed negative (body ++ rest) := fun body => signed_append negative body rest
      unfold Double.render
      dsimp only
      rw [form]
      by_cases zero : units = 0
      · subst zero
        have digits : ∀ d ∈ [0] ++ [0], d < 10 := by decide
        have read := readNumber_point rules negative digits (.inl rfl) (List.cons_ne_nil 0 []) ends
        rw [ofParts_zero] at read
        rw [if_pos rfl]
        exact read
      · rw [if_neg zero]
        exact readNumber_magnitude rules negative fits (Nat.pos_of_ne_zero zero) ends

theorem eq_append_of_afterWord? {word cs : List Char} (h : afterWord? word cs = some rest) :
    cs = word ++ rest := by
  induction word generalizing cs with
  | nil => exact Option.some.inj h
  | cons w word ih =>
      cases cs with
      | nil => cases h
      | cons c cs =>
          unfold afterWord? at h
          split at h
          · rename_i same
            rw [same, List.cons_append, ← ih h]
          · cases h

def StartsNumber (cs : List Char) : Prop := ∀ rules, readNumber rules cs ≠ fail .expectedValue cs

theorem startsNumber_integer (i : Int) (ends : EndsNumber rest) :
    StartsNumber (integer i ++ rest) := by
  intro rules
  rw [readNumber_integer rules i ends]
  split <;> exact nofun

theorem startsNumber_render {x : Double} (finite : x.isFinite = true) (ends : EndsNumber rest) :
    StartsNumber (Double.render nonFinite x ++ rest) := by
  intro rules
  rw [readNumber_render rules finite ends]
  exact nofun

theorem StartsNumber.readAtom_eq {cs : List Char} (h : StartsNumber cs) :
    readAtom rules cs = readNumber rules cs := by
  have none' : readConstant? cs = none := by
    unfold readConstant?
    rw [List.findSome?_eq_none_iff]
    intro constant mem
    rw [Option.map_eq_none_iff]
    by_contra some'
    obtain ⟨rest, after⟩ := Option.ne_none_iff_exists'.mp some'
    rw [eq_append_of_afterWord? after] at h
    simp only [constants, List.mem_cons, List.not_mem_nil, or_false] at mem
    rcases mem with rfl | rfl | rfl | rfl | rfl | rfl <;> exact h rules rfl
  rw [readAtom, none']

end Workflow.Json
