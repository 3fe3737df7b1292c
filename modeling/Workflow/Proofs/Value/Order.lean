import Workflow.Proofs.Table
import Workflow.Value.Equality
import Workflow.Value.Reshape

/-! Values with the members of their objects in the order of their keys. What a JSON document can
hold is, as a mapping, the same in order, and an object without repeated keys stays one. -/

namespace Workflow.Value

/-- What holds of lists and objects whose parts it holds of, and of all else, holds of every
value. -/
theorem induction {motive : Value → Prop} (plain : ∀ v, v.isContainer = false → motive v)
    (list : ∀ vs, (∀ v ∈ vs, motive v) → motive (.list vs))
    (object : ∀ ms, (∀ m ∈ ms, motive m.2) → motive (.object ms))
    (cyclic : ∀ ms self, (∀ m ∈ ms, motive m.2) → motive (.cyclic ms self)) (v : Value) :
    motive v := by
  refine @Value.rec motive (fun vs => ∀ v ∈ vs, motive v) (fun ms => ∀ m ∈ ms, motive m.2)
    (fun m => motive m.2) (plain _ rfl) (fun _ => plain _ rfl) (fun _ => plain _ rfl)
    (fun _ => plain _ rfl) (fun _ => plain _ rfl) list object (fun _ => plain _ rfl) cyclic
    ?_ ?_ ?_ ?_ (fun _ _ part => part) v
  · exact fun _ mem => absurd mem List.not_mem_nil
  · exact fun _ _ first others => List.forall_mem_cons.mpr ⟨first, others⟩
  · exact fun _ mem => absurd mem List.not_mem_nil
  · exact fun _ _ first others => List.forall_mem_cons.mpr ⟨first, others⟩

/-- What a JSON document can hold: numbers are finite, there is no live object and no object that
contains itself. -/
inductive IsJson : Value → Prop where
  | null : IsJson .null
  | bool (b : Bool) : IsJson (.bool b)
  | int (i : Int) : IsJson (.int i)
  | double {x : Double} (finite : x.isFinite = true) : IsJson (.double x)
  | text (s : String) : IsJson (.text s)
  | list {vs : List Value} (items : ∀ v ∈ vs, IsJson v) : IsJson (.list vs)
  | object {ms : List (String × Value)} (members : ∀ m ∈ ms, IsJson m.2) : IsJson (.object ms)

mutual

/-- The same value with the members of every object in the order of their keys. -/
def ordered : Value → Value
  | .list vs => .list (orderedItems vs)
  | .object ms => .object (Table.sorted (orderedMembers ms))
  | v => v

def orderedItems : List Value → List Value
  | [] => []
  | v :: rest => ordered v :: orderedItems rest

def orderedMembers : List (String × Value) → List (String × Value)
  | [] => []
  | (k, v) :: rest => (k, ordered v) :: orderedMembers rest

end

def orderedTable (t : Table Value) : Table Value := Table.sorted (t.mapValues ordered)

variable {v w : Value} {vs : List Value} {ms : Table Value}

theorem orderedItems_eq (vs : List Value) : orderedItems vs = vs.map ordered := by
  induction vs with
  | nil => rfl
  | cons v vs ih => rw [orderedItems, ih, List.map_cons]

theorem orderedMembers_eq (ms : Table Value) : orderedMembers ms = ms.mapValues ordered := by
  induction ms with
  | nil => rfl
  | cons m ms ih =>
      rw [orderedMembers, ih]
      rfl

theorem ordered_list (vs : List Value) : ordered (.list vs) = .list (vs.map ordered) := by
  rw [ordered, orderedItems_eq]

theorem ordered_object (ms : Table Value) : ordered (.object ms) = .object (orderedTable ms) := by
  rw [ordered, orderedMembers_eq, orderedTable]

theorem mem_orderedTable {m : String × Value} (h : m ∈ orderedTable ms) :
    ∃ m' ∈ ms, m = (m'.1, m'.2.ordered) := by
  obtain ⟨m', mem, same⟩ := List.mem_map.mp (Table.mem_sorted.mp h)
  exact ⟨m', mem, same.symm⟩

theorem forall_mem_orderedTable {motive : Value → Prop} :
    (∀ m ∈ orderedTable ms, motive m.2) ↔ ∀ m ∈ ms, motive m.2.ordered := by
  simp only [orderedTable, Table.mem_sorted, Table.mapValues, List.forall_mem_map]

theorem distinct_orderedTable (h : ms.Distinct) : Table.Distinct (orderedTable ms) :=
  Table.distinct_sorted (Table.distinct_mapValues.mpr h)

theorem IsJson.ordered (h : v.IsJson) : v.ordered.IsJson := by
  induction h with
  | null => exact .null
  | bool b => exact .bool b
  | int i => exact .int i
  | double finite => exact .double finite
  | text s => exact .text s
  | list _ ih =>
      rw [ordered_list]
      exact .list (List.forall_mem_map.mpr ih)
  | object _ ih =>
      rw [ordered_object]
      refine .object fun m mem => ?_
      obtain ⟨m', mem', rfl⟩ := mem_orderedTable mem
      exact ih m' mem'

theorem isJson_of_ordered (h : v.ordered.IsJson) : v.IsJson := by
  induction v using induction with
  | plain v atom => cases v <;> first | exact h | cases atom
  | list vs ih =>
      rw [ordered_list] at h
      cases h with
      | list items => exact .list fun v mem => ih v mem (items _ (List.mem_map_of_mem mem))
  | object ms ih =>
      rw [ordered_object] at h
      cases h with
      | object members =>
          refine .object fun m mem => ih m mem ?_
          exact members (m.1, m.2.ordered) (Table.mem_sorted.mpr (List.mem_map_of_mem mem))
  | cyclic ms self _ => cases h

theorem ordered_ordered (v : Value) : v.ordered.ordered = v.ordered := by
  induction v using induction with
  | plain v atom => cases v <;> first | rfl | cases atom
  | list vs ih => simpa [ordered_list] using ih
  | object ms ih =>
      have same : Table.mapValues Value.ordered (Table.mapValues Value.ordered ms) =
          Table.mapValues Value.ordered ms := by
        simpa [Table.mapValues] using fun k v mem => ih (k, v) mem
      rw [ordered_object, ordered_object, orderedTable, orderedTable, ← Table.sorted_mapValues,
        same, Table.sorted_sorted]
  | cyclic ms self _ => rfl

/-- Two tables that are the same in order have the same entries, each in order. -/
theorem orderedTable_perm {ms ns : Table Value} (h : orderedTable ms = orderedTable ns) :
    (ms.mapValues Value.ordered).Perm (ns.mapValues Value.ordered) := by
  have left := Table.sorted_perm (ms.mapValues Value.ordered)
  rw [show (ms.mapValues Value.ordered).sorted = _ from h] at left
  exact left.symm.trans (Table.sorted_perm _)

theorem map_eq_self_iff {α : Type} {f : α → α} {l : List α} :
    l.map f = l ↔ ∀ a ∈ l, f a = a := by
  have agree := List.map_inj_left (f := f) (g := id) (l := l)
  rwa [List.map_id] at agree

/-- What changes lists and objects part by part, and nothing else that a document can hold, leaves a
document as it is. -/
theorem IsJson.unchanged {f : Value → Value}
    (atom : ∀ v, v.isContainer = false → v.IsJson → f v = v)
    (list : ∀ vs, f (.list vs) = .list (vs.map f))
    (object : ∀ ms, f (.object ms) = .object (Table.mapValues f ms)) (h : v.IsJson) : f v = v := by
  induction h with
  | list _ ih => rw [list, map_eq_self_iff.mpr ih]
  | object _ ih =>
      rw [object, Table.mapValues, map_eq_self_iff.mpr]
      exact fun m mem => Prod.ext rfl (ih m mem)
  | null => exact atom _ rfl .null
  | bool b => exact atom _ rfl (.bool b)
  | int i => exact atom _ rfl (.int i)
  | double finite => exact atom _ rfl (.double finite)
  | text s => exact atom _ rfl (.text s)

/-- No object in the value repeats a key. -/
def Settled (v : Value) : Prop := v.merged = v

theorem mergedItems_eq (vs : List Value) : mergedItems vs = vs.map merged := by
  induction vs with
  | nil => rfl
  | cons v vs ih => rw [mergedItems, ih, List.map_cons]

theorem mergedMembers_eq (ms : Table Value) : mergedMembers ms = ms.mapValues merged := by
  induction ms with
  | nil => rfl
  | cons m ms ih =>
      rw [mergedMembers, ih]
      rfl

theorem settled_list_iff : Settled (.list vs) ↔ ∀ v ∈ vs, v.Settled := by
  rw [Settled, merged, mergedItems_eq, Value.list.injEq, map_eq_self_iff]
  rfl

theorem settled_object_iff : Settled (.object ms) ↔ ms.Distinct ∧ ∀ m ∈ ms, m.2.Settled := by
  have entries : ms.mapValues merged = ms ↔ ∀ m ∈ ms, m.2.Settled := by
    rw [Table.mapValues, map_eq_self_iff]
    simp [Settled]
  rw [Settled, merged, mergedMembers_eq, Value.object.injEq, ← entries]
  constructor
  · intro whole
    have distinct : ms.Distinct := whole ▸ Table.distinct_ofList _
    rw [Table.ofList_of_distinct (Table.distinct_mapValues.mpr distinct)] at whole
    exact ⟨distinct, whole⟩
  · rintro ⟨distinct, same⟩
    rw [same, Table.ofList_of_distinct distinct]

theorem settled_merged (v : Value) : v.merged.Settled := by
  induction v using induction with
  | plain v atom => cases v <;> first | rfl | cases atom
  | list vs ih =>
      rw [merged, mergedItems_eq, settled_list_iff]
      exact List.forall_mem_map.mpr ih
  | object ms ih =>
      rw [merged, mergedMembers_eq, settled_object_iff]
      refine ⟨Table.distinct_ofList _, fun m mem => ?_⟩
      obtain ⟨m', mem', rfl⟩ := List.mem_map.mp (Table.mem_of_mem_ofList mem)
      exact ih m' mem'
  | cyclic ms self _ => rfl

theorem Settled.ordered (h : v.Settled) : v.ordered.Settled := by
  induction v using induction with
  | plain v atom => cases v <;> first | exact h | cases atom
  | list vs ih =>
      rw [ordered_list, settled_list_iff]
      exact List.forall_mem_map.mpr fun v mem => ih v mem (settled_list_iff.mp h v mem)
  | object ms ih =>
      obtain ⟨distinct, members⟩ := settled_object_iff.mp h
      rw [ordered_object, settled_object_iff]
      refine ⟨distinct_orderedTable distinct, fun m mem => ?_⟩
      obtain ⟨m', mem', rfl⟩ := mem_orderedTable mem
      exact ih m' mem' (members m' mem')
  | cyclic ms self _ => exact h

/-! Values that are the same in order are equal. -/

theorem ordered_eq_plain (atom : v.isContainer = false) (same : v = w.ordered) : w = v := by
  cases w with
  | list ws => rw [same, ordered_list] at atom; cases atom
  | object ns => rw [same, ordered_object] at atom; cases atom
  | _ => exact same.symm

theorem equalItems_of_ordered {vs ws : List Value} (settled : ∀ w ∈ ws, w.Settled)
    (equal : ∀ v ∈ vs, ∀ w : Value, w.Settled → v.ordered = w.ordered → v.equals w = true)
    (same : vs.map Value.ordered = ws.map Value.ordered) : equalItems vs ws = true := by
  induction vs generalizing ws with
  | nil =>
      rw [List.map_nil, eq_comm, List.map_eq_nil_iff] at same
      subst same
      rfl
  | cons v vs ih =>
      obtain ⟨w, ws, rfl, first, others⟩ := List.map_eq_cons_iff.mp same.symm
      rw [equalItems, Bool.and_eq_true]
      constructor
      · exact equal v List.mem_cons_self w (settled w List.mem_cons_self) first.symm
      · exact ih (fun w mem => settled w (List.mem_cons_of_mem _ mem))
          (fun v mem => equal v (List.mem_cons_of_mem _ mem)) others.symm

theorem equalMembers_of_found {ms ns : Table Value}
    (found : ∀ m ∈ ms, ∃ w, ns.get? m.1 = some w ∧ m.2.equals w = true) :
    equalMembers ms ns = true := by
  induction ms with
  | nil => rfl
  | cons m ms ih =>
      obtain ⟨w, there, equal⟩ := found m List.mem_cons_self
      rw [equalMembers, there, Bool.and_eq_true]
      exact ⟨equal, ih fun m mem => found m (List.mem_cons_of_mem _ mem)⟩

/-- Two objects that are the same in order have the same keys, with values that are equal. -/
theorem equalMembers_of_ordered {ms ns : Table Value} (distinct : ns.Distinct)
    (settled : ∀ n ∈ ns, n.2.Settled)
    (equal : ∀ m ∈ ms, ∀ w : Value, w.Settled → m.2.ordered = w.ordered → m.2.equals w = true)
    (perm : (Table.mapValues Value.ordered ms).Perm (Table.mapValues Value.ordered ns)) :
    equalMembers ms ns = true := by
  refine equalMembers_of_found fun m mem => ?_
  have there : (m.1, m.2.ordered) ∈ Table.mapValues Value.ordered ns :=
    perm.mem_iff.mp (List.mem_map_of_mem mem)
  obtain ⟨n, mem', agree⟩ := List.mem_map.mp there
  obtain ⟨key, value⟩ := Prod.mk.inj agree
  refine ⟨n.2, ?_, equal m mem n.2 (settled n mem') value.symm⟩
  exact key ▸ Table.get?_of_mem distinct mem'

theorem equals_of_ordered (json : v.IsJson) (settled : w.Settled) (same : v.ordered = w.ordered) :
    v.equals w = true := by
  induction json generalizing w with
  | null => rw [ordered_eq_plain (v := .null) rfl same, equals]
  | bool b =>
      rw [ordered_eq_plain (v := .bool b) rfl same, equals]
      exact beq_self_eq_true _
  | int i =>
      rw [ordered_eq_plain (v := .int i) rfl same, equals]
      exact beq_self_eq_true i
  | @double x finite =>
      rw [ordered_eq_plain (v := .double x) rfl same, equals]
      cases x with
      | finite negative units fits => exact beq_self_eq_true (Double.signed negative units)
      | nan => cases finite
      | infinite negative => cases finite
  | text s =>
      rw [ordered_eq_plain (v := .text s) rfl same, equals]
      exact beq_self_eq_true s
  | @list vs items ih =>
      rw [ordered_list] at same
      cases w with
      | list ws =>
          rw [ordered_list, Value.list.injEq] at same
          rw [equals]
          exact equalItems_of_ordered (settled_list_iff.mp settled) (fun v mem _ => ih v mem) same
      | object ns => rw [ordered_object] at same; cases same
      | _ => cases same
  | @object ms members ih =>
      rw [ordered_object] at same
      cases w with
      | object ns =>
          rw [ordered_object, Value.object.injEq] at same
          obtain ⟨distinct, settled⟩ := settled_object_iff.mp settled
          have perm := orderedTable_perm same
          have length : ms.length = ns.length := by simpa [Table.mapValues] using perm.length_eq
          rw [equals, length, beq_self_eq_true, Bool.true_and]
          exact equalMembers_of_ordered distinct settled (fun m mem _ => ih m mem) perm
      | list ws => rw [ordered_list] at same; cases same
      | _ => cases same

/-! How deep a value is nested does not depend on the order of the members of its objects. -/

section

variable {p : Int → Bool}

theorem anyHasInteger_eq_false_iff :
    anyHasInteger p vs = false ↔ ∀ v ∈ vs, v.hasInteger p = false := by
  induction vs with
  | nil => simp [anyHasInteger]
  | cons v vs ih => rw [anyHasInteger, Bool.or_eq_false_iff, ih, List.forall_mem_cons]

theorem anyMemberHasInteger_eq_false_iff :
    anyMemberHasInteger p ms = false ↔ ∀ m ∈ ms, m.2.hasInteger p = false := by
  induction ms with
  | nil => simp [anyMemberHasInteger]
  | cons m ms ih => rw [anyMemberHasInteger, Bool.or_eq_false_iff, ih, List.forall_mem_cons]

theorem hasInteger_eq_false_of_imp {q : Int → Bool} (wider : ∀ i, p i = true → q i = true)
    (free : v.hasInteger q = false) : v.hasInteger p = false := by
  have ofMembers : ∀ ms : Table Value,
      (∀ m ∈ ms, m.2.hasInteger q = false → m.2.hasInteger p = false) →
        anyMemberHasInteger q ms = false → anyMemberHasInteger p ms = false := by
    intro ms ih free
    rw [anyMemberHasInteger_eq_false_iff] at free ⊢
    exact fun m mem => ih m mem (free m mem)
  induction v using induction with
  | plain v atom =>
      cases v with
      | int i =>
          rw [hasInteger, ← Bool.not_eq_true] at free ⊢
          exact fun long => free (wider i long)
      | list vs => cases atom
      | object ms => cases atom
      | cyclic ms self => cases atom
      | _ => rfl
  | list vs ih =>
      rw [hasInteger, anyHasInteger_eq_false_iff] at free ⊢
      exact fun v mem => ih v mem (free v mem)
  | object ms ih => exact ofMembers ms ih free
  | cyclic ms self ih => exact ofMembers ms ih free

theorem hasInteger_ordered (v : Value) : v.ordered.hasInteger p = v.hasInteger p := by
  rw [Bool.eq_iff_iff, ← not_iff_not, Bool.not_eq_true, Bool.not_eq_true]
  induction v using induction with
  | plain v atom => cases v <;> first | rfl | cases atom
  | list vs ih =>
      rw [ordered_list, hasInteger, hasInteger, anyHasInteger_eq_false_iff,
        anyHasInteger_eq_false_iff, List.forall_mem_map]
      exact forall₂_congr ih
  | object ms ih =>
      rw [ordered_object, hasInteger, hasInteger, anyMemberHasInteger_eq_false_iff,
        anyMemberHasInteger_eq_false_iff]
      exact (forall_mem_orderedTable (motive := fun w => w.hasInteger p = false)).trans
        (forall₂_congr ih)
  | cyclic ms self _ => rfl

end

theorem depthOfItems_le_iff {vs : List Value} {n : Nat} :
    depthOfItems vs ≤ n ↔ ∀ v ∈ vs, v.depth ≤ n := by
  induction vs with
  | nil => simp [depthOfItems]
  | cons v vs ih => rw [depthOfItems, Nat.max_le, ih, List.forall_mem_cons]

theorem depthOfMembers_le_iff {ms : List (String × Value)} {n : Nat} :
    depthOfMembers ms ≤ n ↔ ∀ m ∈ ms, m.2.depth ≤ n := by
  induction ms with
  | nil => simp [depthOfMembers]
  | cons m ms ih => rw [depthOfMembers, Nat.max_le, ih, List.forall_mem_cons]

theorem depth_list_le_iff {vs : List Value} {n : Nat} :
    depth (.list vs) ≤ n ↔ ∀ v ∈ vs, v.depth < n := by
  cases vs with
  | nil => simp [depth]
  | cons v vs =>
      rw [depth, List.isEmpty_cons, if_neg Bool.false_ne_true]
      cases n with
      | zero =>
          refine iff_of_false (Nat.not_succ_le_zero _) fun all => ?_
          exact Nat.not_lt_zero _ (all v List.mem_cons_self)
      | succ n => simp only [Nat.add_le_add_iff_right, depthOfItems_le_iff, Nat.lt_succ_iff]

theorem depth_object_le_iff {ms : List (String × Value)} {n : Nat} :
    depth (.object ms) ≤ n ↔ ∀ m ∈ ms, m.2.depth < n := by
  cases ms with
  | nil => simp [depth]
  | cons m ms =>
      rw [depth, List.isEmpty_cons, if_neg Bool.false_ne_true]
      cases n with
      | zero =>
          refine iff_of_false (Nat.not_succ_le_zero _) fun all => ?_
          exact Nat.not_lt_zero _ (all m List.mem_cons_self)
      | succ n => simp only [Nat.add_le_add_iff_right, depthOfMembers_le_iff, Nat.lt_succ_iff]

theorem depth_ordered_le_iff {v : Value} (n : Nat) : v.ordered.depth ≤ n ↔ v.depth ≤ n := by
  induction v using induction generalizing n with
  | plain v atom => cases v <;> first | rfl | cases atom
  | list vs ih =>
      rw [ordered_list, depth_list_le_iff, depth_list_le_iff, List.forall_mem_map]
      cases n with
      | zero => simp
      | succ n =>
          simp only [Nat.lt_succ_iff]
          exact forall₂_congr fun v mem => ih v mem n
  | object ms ih =>
      rw [ordered_object, depth_object_le_iff, depth_object_le_iff,
        forall_mem_orderedTable (motive := fun w => w.depth < n)]
      cases n with
      | zero => simp
      | succ n =>
          simp only [Nat.lt_succ_iff]
          exact forall₂_congr fun m mem => ih m mem n
  | cyclic ms self _ => rfl

end Workflow.Value
