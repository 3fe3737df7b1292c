import Workflow.Node.Execution
import Workflow.Proofs.Condition.Selection

/-! Where conditions fail. The only faults of a condition are an integer past the range of
floating-point numbers in a place where it is compared as a number, and one too long for a text in a
place where its text is looked for; in every other case the clauses come to truth values, the
condition to a decision and its node to success. -/

namespace Workflow

open Condition

/-- The fault of an operator between two values. Values that are equal as they are, are not compared
as numbers, and the text of a value is looked for in texts only. -/
def Condition.Breaks : Operator → Value → Value → Fault → Prop
  | .equals, l, r, f | .notEquals, l, r, f =>
    (l.equals r = false ∧ (l.Oversized ∨ r.Oversized)) ∧ f = .integerTooLarge
  | .contains, l, r, f | .notContains, l, r, f =>
    (∃ items, l = .list items ∧ ∃ n item, Reaches (fun v => equal v r = .ok false) items n item ∧
      (item.equals r = false ∧ (item.Oversized ∨ r.Oversized)) ∧ f = .integerTooLarge) ∨
    (∃ s, l = .text s) ∧ r.hasLong = true ∧ f = .unwritable .longInteger
  | .startsWith, l, r, f | .endsWith, l, r, f =>
    (∃ s, l = .text s) ∧ r.hasLong = true ∧ f = .unwritable .longInteger
  | .greaterThan, l, r, f | .greaterThanOrEqual, l, r, f | .lessThan, l, r, f
  | .lessThanOrEqual, l, r, f => (l.Oversized ∨ r.Oversized) ∧ f = .integerTooLarge
  | .isEmpty, _, _, _ | .isNotEmpty, _, _, _ => False

/-- The fault of a clause: its field resolves, and its operator breaks. -/
def Clause.Breaks (inputs : Inputs) (c : Clause) (f : Fault) : Prop :=
  ∃ v, inputs.resolve? c.field = some v ∧ Condition.Breaks c.operator v c.value f

/-- There is nothing that a clause could compare: its field does not resolve, or it asks for an
order of something that is no number. -/
def Clause.Incomparable (inputs : Inputs) (c : Clause) : Prop :=
  ∀ v, inputs.resolve? c.field = some v →
    c.operator.order?.isSome = true ∧ ¬(v.Numeric ∧ c.value.Numeric)

/-- A clause breaks before the branch is settled: all clauses in front of it hold, or none does. -/
def Branch.Breaks (inputs : Inputs) (b : Branch) (f : Fault) : Prop :=
  ∃ n c, Reaches (fun c : Clause => c.holds inputs = .ok (b.joiner == .all)) b.clauses n c ∧
    c.Breaks inputs f

/-- A branch breaks before one is taken. -/
def ConditionConfig.Breaks (inputs : Inputs) (c : ConditionConfig) (f : Fault) : Prop :=
  ∃ i b, Reaches (fun b : Branch => b.isTaken inputs = .ok false) c.branches i b ∧ b.Breaks inputs f

/-- Something fails with the faults of a kind and no others. Where there are none it has an answer.
-/
def FailsAs {α : Type} (p : Fault → Prop) (x : Except Fault α) : Prop := ∀ f, x = .error f ↔ p f

variable {α β : Type} {p q : Fault → Prop} {x : Except Fault α} {inputs : Inputs} {op : Operator}
  {l r : Value} {c : Clause} {b : Branch} {config : ConditionConfig} {caps : Capabilities}
  {n : Node} {f : Fault}

namespace FailsAs

theorem of_imp {h : Prop} (fails : h → x = .error f) (answers : ¬h → ∃ a, x = .ok a) :
    FailsAs (fun g => h ∧ g = f) x := by
  intro g
  constructor
  · intro fault
    by_cases holds : h
    · exact ⟨holds, Except.error.inj (fault.symm.trans (fails holds))⟩
    · obtain ⟨a, answer⟩ := answers holds
      exact nomatch fault.symm.trans answer
  · rintro ⟨holds, rfl⟩
    exact fails holds

theorem ok (a : α) : FailsAs (fun _ => False) (.ok a) := fun _ => iff_of_false nofun not_false

theorem map (h : FailsAs p x) (f : α → β) : FailsAs p (x.map f) := by
  intro g
  rw [← h g]
  cases x with
  | error f => exact ⟨fun fault => congrArg _ (Except.error.inj fault),
      fun fault => congrArg _ (Except.error.inj fault)⟩
  | ok a => exact ⟨nofun, nofun⟩

theorem congr (h : FailsAs p x) (same : ∀ f, p f ↔ q f) : FailsAs q x := fun f =>
  (h f).trans (same f)

theorem cases (h : FailsAs p x) : (∃ f, p f ∧ x = .error f) ∨ (∀ f, ¬p f) ∧ ∃ a, x = .ok a := by
  cases x with
  | error f => exact .inl ⟨f, (h f).mp rfl, rfl⟩
  | ok a => exact .inr ⟨fun f fault => (nomatch (h f).mpr fault), a, rfl⟩

/-- A search fails where it comes to an element whose test fails. Its answer comes from the test
that stops it, or from there being none. -/
theorem search {test : α → Except Fault Bool} {xs : List α} {fails : α → Fault → Prop}
    {y : Except Fault β} (h : ∀ x, FailsAs (fails x) (test x))
    (found : ∀ n x, Reaches (fun y => test y = .ok false) xs n x → test x ≠ .ok false →
      ∃ f : Bool → β, y = (test x).map f)
    (none' : (∀ x ∈ xs, test x = .ok false) → ∃ b, y = .ok b) :
    FailsAs (fun f => ∃ n x, Reaches (fun y => test y = .ok false) xs n x ∧ fails x f) y := by
  intro f
  constructor
  · intro fault
    rcases forall_or_reaches (fun y => test y = .ok false) xs with all | ⟨n, x, reaches, stops⟩
    · obtain ⟨b, answer⟩ := none' all
      exact nomatch fault.symm.trans answer
    · obtain ⟨g, result⟩ := found n x reaches stops
      exact ⟨n, x, reaches, ((h x).map g f).mp (result.symm.trans fault)⟩
  · rintro ⟨n, x, reaches, breaks⟩
    have fault := (h x f).mpr breaks
    obtain ⟨g, result⟩ := found n x reaches (fault ▸ nofun)
    rw [result, fault]
    rfl

theorem first? {test : α → Except Fault Bool} {fails : α → Fault → Prop} (xs : List α)
    (h : ∀ x, FailsAs (fails x) (test x)) :
    FailsAs (fun f => ∃ n x, Reaches (fun y => test y = .ok false) xs n x ∧ fails x f)
      (Condition.first? test xs) :=
  search h (fun _ x reaches stops => ⟨fun _ => some x, first?_of_reaches reaches stops⟩)
    fun all => ⟨none, first?_of_forall all⟩

end FailsAs

namespace Condition

theorem textOf_fails :
    FailsAs (fun f => r.hasLong = true ∧ f = .unwritable .longInteger) (textOf r) :=
  .of_imp textOf_of_long fun short => textOf_ok (Bool.not_eq_true _ ▸ short)

theorem equal_fails :
    FailsAs (fun f => (l.equals r = false ∧ (l.Oversized ∨ r.Oversized)) ∧ f = .integerTooLarge)
      (equal l r) :=
  .of_imp (fun h => equal_of_oversized h.1 h.2) fun h => equal_ok fun differ large =>
    h ⟨differ, large⟩

theorem ordered_fails (holds : Double → Double → Bool) :
    FailsAs (fun f => (l.Oversized ∨ r.Oversized) ∧ f = .integerTooLarge) (ordered holds l r) :=
  .of_imp ordered_of_oversized ordered_ok

/-- What is looked for in a text is the text of a value; in anything else there is nothing. -/
theorem inText_fails (test : String → String → Bool) {find : Value → Value → Except Fault Bool}
    (inText : ∀ s, find (.text s) r = (textOf r).map (test s))
    (other : (∀ s, l ≠ .text s) → ∃ b, find l r = .ok b) :
    FailsAs (fun f => (∃ s, l = .text s) ∧ r.hasLong = true ∧ f = .unwritable .longInteger)
      (find l r) := by
  by_cases text : ∃ s, l = .text s
  · obtain ⟨s, rfl⟩ := text
    rw [inText]
    exact (textOf_fails.map _).congr fun f => (and_iff_right ⟨s, rfl⟩).symm
  · obtain ⟨b, found⟩ := other fun s same => text ⟨s, same⟩
    rw [found]
    exact (FailsAs.ok b).congr fun f => iff_of_false not_false fun fault => text fault.1

theorem contains_fails : FailsAs (Breaks .contains l r) (contains l r) := by
  by_cases list : ∃ items, l = .list items
  · obtain ⟨items, rfl⟩ := list
    have search := (FailsAs.first? items fun v => equal_fails (l := v) (r := r)).map Option.isSome
    rw [← someEqual_eq] at search
    refine search.congr fun f => ⟨fun found => .inl ⟨items, rfl, found⟩, ?_⟩
    rintro (⟨_, same, found⟩ | ⟨⟨s, same⟩, -⟩)
    · cases same
      exact found
    · cases same
  · have inText : FailsAs _ (contains l r) := inText_fails
      (fun s t => Text.occursIn t.toList s.toList)
      (fun s => by rw [contains]; cases textOf r <;> rfl)
      fun text => contains_ok (fun items same => list ⟨items, same⟩) text
    refine inText.congr fun f => ⟨.inr, ?_⟩
    rintro (⟨items, same, -⟩ | found)
    · exact absurd ⟨items, same⟩ list
    · exact found

theorem startsWith_fails : FailsAs (Breaks .startsWith l r) (startsWith l r) :=
  inText_fails (fun s t => t.toList.isPrefixOf s.toList)
    (fun s => by rw [startsWith]; cases textOf r <;> rfl)
    fun text => by cases l with
      | text s => exact absurd rfl (text s)
      | _ => exact ⟨false, rfl⟩

theorem endsWith_fails : FailsAs (Breaks .endsWith l r) (endsWith l r) :=
  inText_fails (fun s t => t.toList.isSuffixOf s.toList)
    (fun s => by rw [endsWith]; cases textOf r <;> rfl)
    fun text => by cases l with
      | text s => exact absurd rfl (text s)
      | _ => exact ⟨false, rfl⟩

theorem evaluate_fails : FailsAs (Breaks op l r) (evaluate op l r) := by
  cases op with
  | equals => exact equal_fails
  | notEquals => exact equal_fails.map (!·)
  | contains => exact contains_fails
  | notContains => exact contains_fails.map (!·)
  | startsWith => exact startsWith_fails
  | endsWith => exact endsWith_fails
  | greaterThan | greaterThanOrEqual | lessThan | lessThanOrEqual => exact ordered_fails _
  | isEmpty | isNotEmpty => exact .ok _

theorem breaks_of_order? {holds : Double → Double → Bool} (order : op.order? = some holds)
    (large : l.Oversized ∨ r.Oversized) : Breaks op l r .integerTooLarge := by
  cases op <;> cases order <;> exact ⟨large, rfl⟩

end Condition

theorem Clause.holds_of_unresolved (h : inputs.resolve? c.field = none) :
    c.holds inputs = .ok false := by
  unfold Clause.holds
  rw [h]

theorem Clause.holds_of_resolved {v : Value} (h : inputs.resolve? c.field = some v) :
    c.holds inputs = Condition.evaluate c.operator v c.value := by
  unfold Clause.holds
  rw [h]

theorem Clause.holds_fails (inputs : Inputs) (c : Clause) :
    FailsAs (c.Breaks inputs) (c.holds inputs) := by
  cases resolved : inputs.resolve? c.field with
  | none =>
      rw [holds_of_unresolved resolved]
      refine (FailsAs.ok false).congr fun f => iff_of_false not_false ?_
      rintro ⟨v, found, -⟩
      rw [resolved] at found
      cases found
  | some v =>
      rw [holds_of_resolved resolved]
      refine evaluate_fails.congr fun f => ⟨fun breaks => ⟨v, resolved, breaks⟩, ?_⟩
      rintro ⟨w, found, breaks⟩
      rw [resolved] at found
      exact Option.some.inj found ▸ breaks

theorem Branch.settles_eq_false_iff :
    b.settles inputs c = .ok false ↔ c.holds inputs = .ok (b.joiner == .all) := by
  unfold settles
  cases c.holds inputs with
  | error f => exact ⟨fun h => (nomatch h), fun h => (nomatch h)⟩
  | ok t => cases t <;> cases b.joiner <;> simp [Except.map]

theorem Branch.isTaken_fails (inputs : Inputs) (b : Branch) :
    FailsAs (b.Breaks inputs) (b.isTaken inputs) := by
  by_cases none' : b.clauses = []
  · rw [isTaken_nil none']
    refine (FailsAs.ok false).congr fun f => iff_of_false not_false ?_
    rintro ⟨n, c, reaches, -⟩
    have mem := reaches.mem
    rw [none'] at mem
    cases mem
  · rw [isTaken_eq none']
    have search := FailsAs.first? b.clauses fun c =>
      (Clause.holds_fails inputs c).map (· == (b.joiner == .any))
    refine (search.map _).congr fun f => ?_
    unfold Breaks
    have same : (fun c => b.settles inputs c = .ok false) =
        fun c : Clause => c.holds inputs = .ok (b.joiner == .all) :=
      funext fun c => propext settles_eq_false_iff
    rw [← same]
    rfl

theorem ConditionConfig.select_fails (config : ConditionConfig) (inputs : Inputs) :
    FailsAs (config.Breaks inputs) (config.select inputs) :=
  .search (Branch.isTaken_fails inputs)
    (fun i b reaches stops =>
      ⟨fun _ => config.decisionFor b.port (some i), select_of_reaches reaches stops⟩)
    fun all => ⟨_, select_of_forall all⟩

theorem Clause.holds_of_incomparable (nothing : c.Incomparable inputs)
    (whole : ∀ f, ¬c.Breaks inputs f) : c.holds inputs = .ok false := by
  cases resolved : inputs.resolve? c.field with
  | none => exact holds_of_unresolved resolved
  | some v =>
      obtain ⟨order, other⟩ := nothing v resolved
      obtain ⟨holds, order⟩ := Option.isSome_iff_exists.mp order
      have fit : ¬(v.Oversized ∨ c.value.Oversized) := by
        intro large
        exact whole _ ⟨v, resolved, breaks_of_order? order large⟩
      rw [holds_of_resolved resolved, evaluate_of_order? order]
      exact ordered_of_not_numeric order other fit

/-- A condition node succeeds with the decision of its condition, or fails as that does. -/
theorem Node.execute_condition (h : n.config = .condition config) :
    n.execute inputs caps =
      .immediate (match config.select inputs with
        | .ok d => .decision d
        | .error f => .fault f) := by
  unfold execute rendered
  rw [h]
  dsimp only
  cases config.select inputs <;> rfl

/-- Clauses come to truth values, conditions to decisions and their nodes to success, unless on the
way an integer past the range of floating-point numbers is compared as a number, or the text of a
value with an integer too long for one is looked for in a text. A clause that has nothing to compare
is false. -/
theorem fails_iff_integer_unfit (inputs : Inputs) :
    (∀ c : Clause, FailsAs (c.Breaks inputs) (c.holds inputs) ∧
      (c.Incomparable inputs → (∀ f, ¬c.Breaks inputs f) → c.holds inputs = .ok false)) ∧
    ∀ config : ConditionConfig, FailsAs (config.Breaks inputs) (config.select inputs) ∧
      ∀ (n : Node) (caps : Capabilities), n.config = .condition config →
        (∃ f, config.Breaks inputs f ∧ n.execute inputs caps = .immediate (.fault f)) ∨
        ((∀ f, ¬config.Breaks inputs f) ∧ ∃ d, config.select inputs = .ok d ∧
          n.execute inputs caps = .immediate (.decision d)) := by
  refine ⟨fun c => ⟨c.holds_fails inputs, Clause.holds_of_incomparable⟩, fun config =>
    ⟨config.select_fails inputs, fun n caps condition => ?_⟩⟩
  rw [Node.execute_condition condition]
  rcases (config.select_fails inputs).cases with ⟨f, breaks, fault⟩ | ⟨whole, d, selected⟩
  · rw [fault]
    exact .inl ⟨f, breaks, rfl⟩
  · rw [selected]
    exact .inr ⟨whole, d, rfl, rfl⟩

/-- A node sees a count past the range of floating-point numbers, and a name. -/
def uncounted : Inputs :=
  ⟨.null, [("in", .object [("count", .int Double.ceiling), ("name", .text "abc")])], [], []⟩

/-- The count is compared as a number, after a clause that comes to no comparison. -/
def countless : ConditionConfig where
  ifBranch :=
    ⟨"true", [⟨"name", .greaterThan, .int 10⟩, ⟨"count", .greaterThan, .text "abc"⟩], .any⟩
  elseIf := []
  elsePort := "false"

theorem fails_iff_integer_unfit_countless :
    (⟨"name", .greaterThan, .int 10⟩ : Clause).holds uncounted = .ok false ∧
      (⟨"count", .greaterThan, .text "abc"⟩ : Clause).holds uncounted = .error .integerTooLarge ∧
      (⟨"name", .contains, .int Text.firstLong⟩ : Clause).holds uncounted =
        .error (.unwritable .longInteger) ∧
      (⟨"node", none, [], .condition countless⟩ : Node).execute uncounted Capabilities.none =
        .immediate (.fault .integerTooLarge) := by
  obtain ⟨clauses, conditions⟩ := fails_iff_integer_unfit uncounted
  have name : uncounted.resolve? "name" = some (.text "abc") := by rfl
  have count : uncounted.resolve? "count" = some (.int Double.ceiling) := by rfl
  have large : (Value.int Double.ceiling).Oversized := by
    show Double.overflow ≤ Int.natAbs Double.ceiling
    decide +kernel
  have false' : (⟨"name", .greaterThan, .int 10⟩ : Clause).holds uncounted = .ok false := by
    refine (clauses ⟨"name", .greaterThan, .int 10⟩).2 ?_ ?_
    · intro v found
      cases name.symm.trans found
      refine ⟨rfl, fun numeric => ?_⟩
      obtain ⟨x, read, -⟩ := numeric.1
      have unread : Double.read? (Text.strip "abc") = none := by decide +kernel
      rw [unread] at read
      cases read
    · rintro f ⟨v, found, breaks, -⟩
      cases name.symm.trans found
      rcases breaks with none' | small
      · exact none'
      · have fits : ¬Double.overflow ≤ Int.natAbs 10 := by decide +kernel
        exact fits small
  have breaks : (⟨"count", .greaterThan, .text "abc"⟩ : Clause).Breaks uncounted .integerTooLarge :=
    ⟨_, count, .inl large, rfl⟩
  have reached : countless.Breaks uncounted .integerTooLarge :=
    ⟨0, countless.ifBranch, reaches_zero, 1, _, Reaches.cons reaches_zero false', breaks⟩
  have long : (Value.int Text.firstLong).hasLong = true := by
    rw [Value.hasLong, Value.hasInteger, Text.isLong_firstLong]
  refine ⟨false', ((clauses _).1 _).mpr breaks, ((clauses _).1 _).mpr ?_, ?_⟩
  · exact ⟨_, name, .inr ⟨⟨"abc", rfl⟩, long, rfl⟩⟩
  · rw [Node.execute_condition rfl, ((conditions countless).1 _).mpr reached]

end Workflow
