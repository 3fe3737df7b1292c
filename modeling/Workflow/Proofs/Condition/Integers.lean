import Workflow.Proofs.Condition.Evaluation
import Workflow.Proofs.Text.Decimal

/-! Integers in conditions. Operators compare integers, and texts that are integers, rounded to
floating-point numbers. -/

namespace Workflow

open Condition Double

/-- A value is an integer, or a text of its digits behind a minus sign or not. -/
inductive Value.IsInteger : Value → Int → Prop
  | int (i : Int) : IsInteger (.int i) i
  | digits {cs : List Char} {ds : List Nat} (digits : Text.Digits cs ds) (some' : ds ≠ []) :
      IsInteger (.text (String.ofList cs)) (Text.ofDigits ds)
  | minus {cs : List Char} {ds : List Nat} (digits : Text.Digits cs ds) (some' : ds ≠ []) :
      IsInteger (.text (String.ofList ('-' :: cs))) (-Text.ofDigits ds)

def Operator.onIntegers? : Operator → Option (Int → Int → Bool)
  | .equals => some fun l r => l = r
  | .notEquals => some fun l r => l ≠ r
  | .greaterThan => some fun l r => l > r
  | .greaterThanOrEqual => some fun l r => l ≥ r
  | .lessThan => some fun l r => l < r
  | .lessThanOrEqual => some fun l r => l ≤ r
  | _ => none

variable {v w : Value} {i j : Int} {items : List Value} {is : List Int} {op : Operator}
  {relation : Int → Int → Bool}

/-- A text that is read as a decimal without a point is compared as the rounded integer. -/
theorem Condition.number?_of_read {s : String} {negative : Bool} {n : Nat}
    (value : signed negative n = i)
    (read : Double.read? (Text.strip s) = some (ofDecimal negative n 0)) :
    ∃ x, number? (.text s) = .ok (some x) ∧ StandsFor (rounded i) x := by
  subst value
  have stands := standsFor_ofDecimal negative n
  refine ⟨_, ?_, stands⟩
  rw [number?, read, Option.filter_some, not_isNaN stands]
  rfl

namespace Value.IsInteger

theorem number? (h : v.IsInteger i) (fit : ¬v.Oversized) :
    ∃ x, Condition.number? v = .ok (some x) ∧ StandsFor (rounded i) x := by
  cases h with
  | int =>
      obtain ⟨x, number⟩ := Option.ne_none_iff_exists'.mp fun none' =>
        fit (ofInt?_eq_none_iff.mp none')
      exact ⟨x, by rw [Condition.number?, number, Option.elim_some], standsFor_of_ofInt? number⟩
  | digits digits some' =>
      have sign := Text.spanSign_digits digits
      exact number?_of_read rfl (read?_digits sign digits some' digits.plain)
  | @minus cs _ digits some' =>
      have dash : Text.isBlank '-' = false := by decide
      have plain : ∀ c ∈ '-' :: cs, Text.isBlank c = false :=
        List.forall_mem_cons.mpr ⟨dash, digits.plain⟩
      have sign : Text.spanSign ('-' :: cs) = (true, cs) := rfl
      exact number?_of_read rfl (read?_digits sign digits some' plain)

/-- Integers, and texts that are integers, are equal only when they are the same value. -/
theorem eq_of_equals (left : v.IsInteger i) (right : w.IsInteger j) (h : v.equals w = true) :
    v = w := by
  cases left <;> cases right <;> simp_all [Value.equals, equalNumeral, numeral?, Numeral.equals]

end Value.IsInteger

namespace Condition

/-- Integers are equal in a condition when they are rounded to the same number. -/
theorem equal_integers (left : v.IsInteger i) (right : w.IsInteger j)
    (fit : ¬(v.Oversized ∨ w.Oversized)) :
    equal v w = .ok (decide (rounded i = rounded j)) := by
  obtain ⟨x, first, standsLeft⟩ := left.number? fun large => fit (.inl large)
  obtain ⟨y, second, standsRight⟩ := right.number? fun large => fit (.inr large)
  cases same : v.equals w with
  | true =>
      cases left.eq_of_equals right same
      cases first.symm.trans second
      have order := (less_iff standsLeft standsRight).symm.trans (less_iff standsRight standsLeft)
      have both : rounded i = rounded j := by omega
      rw [equal_of_equals same, decide_eq_true both]
  | false =>
      unfold equal
      rw [if_neg (by rw [same]; decide), numbers?_eq first second]
      refine congrArg Except.ok ?_
      rw [Bool.eq_iff_iff, decide_eq_true_eq]
      exact equals_iff standsLeft standsRight

theorem ordered_integers {holds : Double → Double → Bool} (left : v.IsInteger i)
    (right : w.IsInteger j) (fit : ¬(v.Oversized ∨ w.Oversized))
    (order : op.order? = some holds) (asks : op.onIntegers? = some relation) :
    ordered holds v w = .ok (relation (rounded i) (rounded j)) := by
  obtain ⟨x, first, standsLeft⟩ := left.number? fun large => fit (.inl large)
  obtain ⟨y, second, standsRight⟩ := right.number? fun large => fit (.inr large)
  rw [ordered_of_numbers first second]
  refine congrArg Except.ok ?_
  rw [Bool.eq_iff_iff]
  cases op <;> cases order <;> cases asks <;> rw [decide_eq_true_eq]
  · exact less_iff standsRight standsLeft
  · exact lessEq_iff standsRight standsLeft
  · exact less_iff standsLeft standsRight
  · exact lessEq_iff standsLeft standsRight

theorem evaluate_integers (left : v.IsInteger i) (right : w.IsInteger j)
    (fit : ¬(v.Oversized ∨ w.Oversized)) (asks : op.onIntegers? = some relation) :
    evaluate op v w = .ok (relation (rounded i) (rounded j)) := by
  cases order : op.order? with
  | some holds => rw [evaluate_of_order? order, ordered_integers left right fit order asks]
  | none =>
      cases op <;> cases order <;> cases asks
      · exact equal_integers left right fit
      · rw [evaluate, equal_integers left right fit]
        exact congrArg Except.ok decide_not.symm

/-- A list of integers contains one when an item is rounded to the same number. -/
theorem contains_integers (all : List.Forall₂ Value.IsInteger items is) (right : w.IsInteger j)
    (fit : ¬w.Oversized) (fits : ∀ v ∈ items, ¬v.Oversized) :
    contains (.list items) w = .ok (decide (rounded j ∈ is.map rounded)) := by
  show someEqual w items = _
  induction all with
  | nil => rfl
  | @cons v i items is left _ ih =>
      obtain ⟨first, others⟩ := List.forall_mem_cons.mp fits
      rw [someEqual, equal_integers left right (not_or.mpr ⟨first, fit⟩), List.map_cons]
      by_cases same : rounded i = rounded j
      · have mem : rounded j ∈ rounded i :: is.map rounded := same ▸ List.mem_cons_self
        rw [decide_eq_true same, decide_eq_true mem]
        rfl
      · have other : rounded j ∈ rounded i :: is.map rounded ↔ rounded j ∈ is.map rounded := by
          rw [List.mem_cons, or_iff_right (Ne.symm same)]
        rw [decide_eq_false same, decide_eq_decide.mpr other]
        exact ih others

end Condition

/-- Clauses compare integers after rounding them to floating-point numbers: the rounding keeps the
order, leaves these numbers as they are, and comes to the nearest. -/
theorem integers_compared_rounded (inputs : Inputs) (field : String) (w : Value) (r : Int)
    (right : w.IsInteger r) (fit : ¬w.Oversized) :
    (∀ v l, inputs.resolve? field = some v → v.IsInteger l → ¬v.Oversized →
      ∀ op relation, op.onIntegers? = some relation →
        (⟨field, op, w⟩ : Clause).holds inputs = .ok (relation (rounded l) (rounded r))) ∧
    (∀ items ls, inputs.resolve? field = some (.list items) →
      List.Forall₂ Value.IsInteger items ls → (∀ v ∈ items, ¬v.Oversized) →
        (⟨field, .contains, w⟩ : Clause).holds inputs =
          .ok (decide (rounded r ∈ ls.map rounded))) ∧
    RoundsNearest rounded := by
  refine ⟨fun v l resolved left fits op relation asks => ?_,
    fun items ls resolved all fits => ?_, rounded_roundsNearest⟩
  · unfold Clause.holds
    rw [resolved]
    exact evaluate_integers left right (not_or.mpr ⟨fits, fit⟩) asks
  · unfold Clause.holds
    rw [resolved]
    exact contains_integers all right fit fits

/-- A node sees a count past the integers that are all floating-point numbers, and a list. -/
def tallied : Inputs :=
  ⟨.null,
   [("in", .object
     [("count", .int 9007199254740993), ("marks", .list [.text "-12", .int 9007199254740993])])],
   [], []⟩

theorem integers_compared_rounded_tallied :
    (⟨"marks", .contains, .int 9007199254740992⟩ : Clause).holds tallied = .ok true ∧
      (⟨"count", .lessThan, .int 9007199254740996⟩ : Clause).holds tallied = .ok true := by
  have count : tallied.resolve? "count" = some (.int 9007199254740993) := by rfl
  have marks : tallied.resolve? "marks" = some (.list [.text "-12", .int 9007199254740993]) := by
    rfl
  have room : 9007199254740996 < Double.overflow := by decide +kernel
  have fit : ∀ i : Int, i.natAbs ≤ 9007199254740996 → ¬(Value.int i).Oversized :=
    fun i small large => by
      have : Double.overflow ≤ i.natAbs := large
      omega
  have digits : Text.Digits ['1', '2'] [1, 2] := .cons (by decide) (.cons (by decide) .nil)
  have whole : List.Forall₂ Value.IsInteger [.text "-12", .int 9007199254740993]
      [-12, 9007199254740993] :=
    .cons (.minus digits (by decide)) (.cons (.int _) .nil)
  have fits : ∀ v ∈ [Value.text "-12", .int 9007199254740993], ¬v.Oversized := by
    simp only [List.forall_mem_cons]
    exact ⟨id, fit _ (by decide), fun _ mem => (List.not_mem_nil mem).elim⟩
  have contains := (integers_compared_rounded tallied "marks" _ _ (.int 9007199254740992)
    (fit _ (by decide))).2.1 _ _ marks whole fits
  have less := (integers_compared_rounded tallied "count" _ _ (.int 9007199254740996)
    (fit _ (by decide))).1 _ _ count (.int _) (fit _ (by decide)) .lessThan _ rfl
  refine ⟨contains.trans (congrArg Except.ok ?_), less.trans (congrArg Except.ok ?_)⟩
  · decide +kernel
  · decide +kernel

/-- Two integers next to each other are equal to a clause. -/
theorem neighbours_equal :
    tallied.resolve? "count" = some (.int 9007199254740993) ∧
      (9007199254740993 : Int) ≠ 9007199254740992 ∧
      (⟨"count", .equals, .int 9007199254740992⟩ : Clause).holds tallied = .ok true := by
  have equal : ((⟨"count", .equals, .int 9007199254740992⟩ : Clause).holds tallied).toOption =
      some true := by decide +kernel
  refine ⟨by rfl, by decide, ?_⟩
  cases holds : (⟨"count", .equals, .int 9007199254740992⟩ : Clause).holds tallied with
  | ok t =>
      rw [holds] at equal
      exact congrArg Except.ok (Option.some.inj equal)
  | error f =>
      rw [holds] at equal
      cases equal

end Workflow
