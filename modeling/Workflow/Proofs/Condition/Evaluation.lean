import Workflow.Condition
import Workflow.Proofs.Double.Integer
import Workflow.Proofs.Text.Decimal

/-! What the operators of conditions ask of two values. Every operator comes to a truth value unless
it asks for the number of an integer past the range of floating-point numbers, or for the text of a
value with an integer that is too long for a text. -/

namespace Workflow

/-- An integer past the range of floating-point numbers. -/
def Value.Oversized : Value → Prop
  | .int i => Double.overflow ≤ i.natAbs
  | _ => False

/-- A value that can be compared as a number: an integer, a floating-point number other than NaN,
or a text that reads as one. -/
def Value.Numeric : Value → Prop
  | .int _ => True
  | .double x => x.isNaN = false
  | .text s => ∃ x, Double.read? (Text.strip s) = some x ∧ x.isNaN = false
  | _ => False

/-- An integer that is too long for a text is far past the range of floating-point numbers. -/
theorem Value.oversized_of_long {v : Value} (atom : v.isContainer = false)
    (long : v.hasLong = true) : v.Oversized := by
  cases v with
  | int i =>
      have range : Double.overflow ≤ (10 ^ 103) ^ 10 := by decide +kernel
      have limit : 103 * 10 ≤ Text.digitLimit := by decide
      rw [← Nat.pow_mul] at range
      generalize 103 * 10 = k at range limit
      exact (range.trans (Nat.pow_le_pow_right (by decide) limit)).trans (Text.isLong_iff.mp long)
  | list vs => cases atom
  | object ms => cases atom
  | cyclic ms self => cases atom
  | _ => cases long

def Operator.order? : Operator → Option (Double → Double → Bool)
  | .greaterThan => some fun x y => y.less x
  | .greaterThanOrEqual => some fun x y => y.lessEq x
  | .lessThan => some Double.less
  | .lessThanOrEqual => some Double.lessEq
  | _ => none

namespace Condition

section

variable {α : Type} {passes : α → Prop} {test : α → Except Fault Bool} {n : Nat} {x y : α}
  {xs : List α}

/-- An element of a list at some index, all elements in front of it being of a kind. -/
structure Reaches (passes : α → Prop) (xs : List α) (n : Nat) (x : α) : Prop where
  found : xs[n]? = some x
  before : ∀ m < n, ∀ y, xs[m]? = some y → passes y

theorem reaches_zero : Reaches passes (x :: xs) 0 x :=
  ⟨rfl, fun _ less => (Nat.not_lt_zero _ less).elim⟩

theorem Reaches.cons (h : Reaches passes xs n x) (pass : passes y) :
    Reaches passes (y :: xs) (n + 1) x := by
  refine ⟨h.found, fun m less z found => ?_⟩
  cases m with
  | zero => exact Option.some.inj found ▸ pass
  | succ m => exact h.before m (Nat.lt_of_succ_lt_succ less) z found

theorem Reaches.tail (h : Reaches passes (y :: xs) (n + 1) x) : Reaches passes xs n x :=
  ⟨h.found, fun m less => h.before (m + 1) (Nat.succ_lt_succ less)⟩

theorem Reaches.mem (h : Reaches passes xs n x) : x ∈ xs := List.mem_of_getElem? h.found

/-- The first element that passes a test. A fault of the test ends the search. -/
def first? (test : α → Except Fault Bool) : List α → Except Fault (Option α)
  | [] => .ok none
  | x :: rest =>
    match test x with
    | .ok true => .ok (some x)
    | .ok false => first? test rest
    | .error f => .error f

theorem first?_of_reaches (h : Reaches (fun y => test y = .ok false) xs n x)
    (stops : test x ≠ .ok false) : first? test xs = (test x).map fun _ => some x := by
  induction xs generalizing n with
  | nil => cases h.found
  | cons y rest ih =>
      unfold first?
      cases n with
      | zero =>
          cases h.found
          cases found : test x with
          | error f => rfl
          | ok b =>
              cases b with
              | false => exact absurd found stops
              | true => rfl
      | succ n =>
          rw [h.before 0 (Nat.succ_pos n) y rfl]
          exact ih h.tail

theorem first?_of_forall (h : ∀ x ∈ xs, test x = .ok false) : first? test xs = .ok none := by
  induction xs with
  | nil => rfl
  | cons y rest ih =>
      unfold first?
      rw [h y List.mem_cons_self]
      exact ih fun x mem => h x (List.mem_cons_of_mem _ mem)

theorem forall_or_reaches (passes : α → Prop) (xs : List α) :
    (∀ x ∈ xs, passes x) ∨ ∃ n x, Reaches passes xs n x ∧ ¬passes x := by
  induction xs with
  | nil => exact .inl fun _ mem => (List.not_mem_nil mem).elim
  | cons y rest ih =>
      by_cases pass : passes y
      · rcases ih with all | ⟨n, x, reaches, stops⟩
        · exact .inl (List.forall_mem_cons.mpr ⟨pass, all⟩)
        · exact .inr ⟨n + 1, x, reaches.cons pass, stops⟩
      · exact .inr ⟨0, y, reaches_zero, pass⟩

end

theorem someEqual_eq (r : Value) (items : List Value) :
    someEqual r items = (first? (equal · r) items).map Option.isSome := by
  induction items with
  | nil => rfl
  | cons item rest ih =>
      unfold someEqual first?
      rw [ih]
      cases equal item r with
      | error f => rfl
      | ok b => cases b <;> rfl

variable {l r v : Value} {items : List Value} {op : Operator} {holds : Double → Double → Bool}

theorem number?_of_oversized (h : v.Oversized) : number? v = .error .integerTooLarge := by
  cases v with
  | int i =>
      have none' : Double.ofInt? i = none := Double.ofInt?_eq_none_iff.mpr h
      rw [number?, none', Option.elim_none]
  | _ => exact h.elim

theorem number?_ok (h : ¬v.Oversized) : ∃ n, number? v = .ok n := by
  cases v with
  | int i =>
      have some' : Double.ofInt? i ≠ none := fun none' => h (Double.ofInt?_eq_none_iff.mp none')
      obtain ⟨x, number⟩ := Option.ne_none_iff_exists'.mp some'
      exact ⟨some x, by rw [number?, number, Option.elim_some]⟩
  | _ => exact ⟨_, rfl⟩

theorem number?_of_not_numeric {n : Option Double} (h : ¬v.Numeric) (number : number? v = .ok n) :
    n = none ∨ n = some .nan := by
  cases v with
  | int i => exact (h trivial).elim
  | double x =>
      cases number
      cases x with
      | nan => exact .inr rfl
      | _ => exact (h rfl).elim
  | text s =>
      left
      rw [← Except.ok.inj number, Option.filter_eq_none_iff]
      intro x read number
      exact h ⟨x, read, by simpa using number⟩
  | _ =>
      cases number
      exact .inl rfl

theorem textOf_of_long (long : v.hasLong = true) :
    textOf v = .error (.unwritable .longInteger) := by
  rw [textOf, Value.shown_of_long long]
  rfl

theorem textOf_ok (short : v.hasLong = false) : ∃ s, textOf v = .ok s := by
  obtain ⟨s, text⟩ := Value.shown_of_short short
  exact ⟨s, by rw [textOf, text]; rfl⟩

theorem textOf_ok_of_fit (atom : v.isContainer = false) (fit : ¬v.Oversized) :
    ∃ s, textOf v = .ok s :=
  textOf_ok (Bool.not_eq_true _ ▸ fun long => fit (Value.oversized_of_long atom long))

theorem numbers?_of_oversized (h : l.Oversized ∨ r.Oversized) :
    numbers? l r = .error .integerTooLarge := by
  unfold numbers?
  by_cases left : l.Oversized
  · rw [number?_of_oversized left]
    rfl
  · obtain ⟨n, number⟩ := number?_ok left
    rw [number, number?_of_oversized (h.resolve_left left)]
    rfl

theorem numbers?_eq {n m : Option Double} (left : number? l = .ok n) (right : number? r = .ok m) :
    numbers? l r = .ok (n.bind fun x => m.map fun y => (x, y)) := by
  unfold numbers?
  rw [left, right]
  cases n <;> cases m <;> rfl

theorem numbers?_ok (h : ¬(l.Oversized ∨ r.Oversized)) : ∃ pair, numbers? l r = .ok pair := by
  obtain ⟨n, left⟩ := number?_ok fun large => h (.inl large)
  obtain ⟨m, right⟩ := number?_ok fun large => h (.inr large)
  exact ⟨_, numbers?_eq left right⟩

theorem equal_of_equals (h : l.equals r = true) : equal l r = .ok true := by
  unfold equal
  rw [if_pos h]

theorem equal_of_oversized (differ : l.equals r = false) (h : l.Oversized ∨ r.Oversized) :
    equal l r = .error .integerTooLarge := by
  unfold equal
  rw [if_neg (by rw [differ]; decide), numbers?_of_oversized h]
  rfl

theorem equal_ok (h : l.equals r = false → ¬(l.Oversized ∨ r.Oversized)) :
    ∃ b, equal l r = .ok b := by
  cases same : l.equals r with
  | true => exact ⟨true, equal_of_equals same⟩
  | false =>
      obtain ⟨pair, numbers⟩ := numbers?_ok (h same)
      unfold equal
      rw [if_neg (by rw [same]; decide), numbers]
      cases pair with
      | some pair => exact ⟨_, rfl⟩
      | none =>
          by_cases container : (l.isContainer || r.isContainer) = true
          · exact ⟨false, if_pos container⟩
          · obtain ⟨left, right⟩ := Bool.or_eq_false_iff.mp (Bool.not_eq_true _ ▸ container)
            obtain ⟨s, text⟩ := textOf_ok_of_fit left fun large => h same (.inl large)
            obtain ⟨t, text'⟩ := textOf_ok_of_fit right fun large => h same (.inr large)
            refine ⟨s == t, (if_neg container).trans ?_⟩
            rw [text, text']
            rfl

theorem ordered_of_oversized (h : l.Oversized ∨ r.Oversized) :
    ordered holds l r = .error .integerTooLarge := by
  unfold ordered
  rw [numbers?_of_oversized h]
  rfl

theorem ordered_ok (h : ¬(l.Oversized ∨ r.Oversized)) : ∃ b, ordered holds l r = .ok b := by
  obtain ⟨pair, numbers⟩ := numbers?_ok h
  unfold ordered
  rw [numbers]
  cases pair <;> exact ⟨_, rfl⟩

theorem ordered_of_numbers {x y : Double} (left : number? l = .ok (some x))
    (right : number? r = .ok (some y)) : ordered holds l r = .ok (holds x y) := by
  unfold ordered
  rw [numbers?_eq left right]
  rfl

theorem ordered_of_not_numeric (order : op.order? = some holds) (h : ¬(l.Numeric ∧ r.Numeric))
    (fit : ¬(l.Oversized ∨ r.Oversized)) : ordered holds l r = .ok false := by
  have nan : ∀ x, holds .nan x = false ∧ holds x .nan = false := by
    intro x
    cases op <;> cases order <;> cases x <;> exact ⟨rfl, rfl⟩
  obtain ⟨n, left⟩ := number?_ok fun large => fit (.inl large)
  obtain ⟨m, right⟩ := number?_ok fun large => fit (.inr large)
  have missing : (n = none ∨ n = some .nan) ∨ m = none ∨ m = some .nan := by
    rcases not_and_or.mp h with other | other
    · exact .inl (number?_of_not_numeric other left)
    · exact .inr (number?_of_not_numeric other right)
  unfold ordered
  rw [numbers?_eq left right]
  rcases missing with (rfl | rfl) | rfl | rfl
  · rfl
  · cases m with
    | none => rfl
    | some y => exact congrArg Except.ok (nan y).1
  · cases n <;> rfl
  · cases n with
    | none => rfl
    | some x => exact congrArg Except.ok (nan x).2

theorem contains_ok (list : ∀ items, l ≠ .list items) (text : ∀ s, l ≠ .text s) :
    ∃ b, contains l r = .ok b := by
  cases l with
  | list items => exact absurd rfl (list items)
  | text s => exact absurd rfl (text s)
  | object ms | cyclic ms self => cases r <;> exact ⟨_, rfl⟩
  | _ => exact ⟨_, rfl⟩

theorem evaluate_of_order? (h : op.order? = some holds) (l r : Value) :
    evaluate op l r = ordered holds l r := by
  cases op <;> cases h <;> rfl

end Condition

end Workflow
