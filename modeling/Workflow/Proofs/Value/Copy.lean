import Workflow.Proofs.Json.Document
import Workflow.Value.Copy

/-! Which values can be copied: those in which no live object raises an exception that is not
tolerated before another one raises one that is. The copy has the texts of all live objects in their
places, if there are some, and nothing else is changed. Where texts have to stand in for live
objects no integer may be too long. -/

namespace Workflow.Value

theorem retold_of_long {v : Value} (long : v.hasLong = true) :
    v.retold = .error (.unwritable .longInteger) := by
  have refused : (Json.write .line v).toOption = none := by
    rw [Json.write]
    cases refusal : Json.refusal? .line v with
    | some r => rfl
    | none => exact nomatch long.symm.trans (Json.short_of_refusal?_eq_none rfl refusal)
  rw [retold, refused, Option.bind_none, written_of_long long]
  rfl

theorem retold_of_short {v : Value} (short : v.hasLong = false) : ∃ w, v.retold = .ok w := by
  unfold retold
  split
  · exact ⟨_, rfl⟩
  · rw [written_of_short short]
    exact ⟨_, rfl⟩

/-- A value of which a snapshot can be taken. -/
def Copyable (v : Value) : Prop := ∃ copy, v.snapshot = .ok copy

theorem copyable_of_free {v : Value} (free : v.copyFault? = none) : v.Copyable := by
  rw [Copyable, snapshot, free]
  exact ⟨v, rfl⟩

theorem copyable_iff {v : Value} : v.Copyable ↔
    ∀ fault, v.copyFault? = some fault → fault.isTolerated = true ∧ v.hasLong = false := by
  cases met : v.copyFault? with
  | none => exact iff_of_true (copyable_of_free met) nofun
  | some fault =>
      have unique : (∀ f, some fault = some f → f.isTolerated = true ∧ v.hasLong = false) ↔
          fault.isTolerated = true ∧ v.hasLong = false :=
        ⟨fun h => h fault rfl, fun h f same => Option.some.inj same ▸ h⟩
      rw [unique, Copyable, snapshot, met]
      dsimp only
      cases tolerated : fault.isTolerated with
      | false => simp
      | true =>
          rw [if_pos rfl]
          cases long : v.hasLong with
          | false => simpa using retold_of_short long
          | true => simp [retold_of_long long]

theorem copyFaultOfMembers?_eq {ms : List (String × Value)} {fault : CopyFault}
    (h : copyFaultOfMembers? ms = some fault) : ∃ x ∈ ms, x.2.copyFault? = some fault := by
  induction ms with
  | nil => cases h
  | cons x rest ih =>
      obtain ⟨key, v⟩ := x
      rw [copyFaultOfMembers?] at h
      cases found : v.copyFault? with
      | none =>
          rw [found, Option.none_or] at h
          obtain ⟨x, mem, fault⟩ := ih h
          exact ⟨x, List.mem_cons_of_mem _ mem, fault⟩
      | some f =>
          rw [found, Option.some_or] at h
          exact ⟨(key, v), List.mem_cons_self, by rw [found, h]⟩

/-- Members that can be copied one by one can be copied together, unless an integer in one of them
is too long for the text that another one needs. -/
theorem snapshot_object_error {ms : List (String × Value)} {f : Fault}
    (each : ∀ x ∈ ms, x.2.Copyable) (failed : snapshot (.object ms) = .error f) :
    f = .unwritable .longInteger ∧ hasLong (.object ms) = true := by
  rw [snapshot] at failed
  cases met : copyFault? (.object ms) with
  | none =>
      rw [met] at failed
      cases failed
  | some fault =>
      rw [copyFault?] at met
      obtain ⟨x, mem, raised⟩ := copyFaultOfMembers?_eq met
      have tolerated := (copyable_iff.mp (each x mem) fault raised).1
      rw [copyFault?, met] at failed
      dsimp only at failed
      rw [if_pos tolerated] at failed
      cases long : hasLong (.object ms) with
      | true => exact ⟨Except.error.inj (failed.symm.trans (retold_of_long long)), rfl⟩
      | false =>
          obtain ⟨w, told⟩ := retold_of_short long
          cases told.symm.trans failed

mutual

/-- The live objects in a value, in the order in which a copy meets them. -/
def handles : Value → List Handle
  | .handle h => [h]
  | .list vs => handlesOfItems vs
  | .object ms | .cyclic ms _ => handlesOfMembers ms
  | _ => []

def handlesOfItems : List Value → List Handle
  | [] => []
  | v :: rest => handles v ++ handlesOfItems rest

def handlesOfMembers : List (String × Value) → List Handle
  | [] => []
  | (_, v) :: rest => handles v ++ handlesOfMembers rest

end

mutual

def handlesAsText : Value → Value
  | .handle h => .text h.text
  | .list vs => .list (handlesAsTextItems vs)
  | .object ms => .object (handlesAsTextMembers ms)
  | .cyclic ms self => .cyclic (handlesAsTextMembers ms) self
  | v => v

def handlesAsTextItems : List Value → List Value
  | [] => []
  | v :: rest => handlesAsText v :: handlesAsTextItems rest

def handlesAsTextMembers : List (String × Value) → List (String × Value)
  | [] => []
  | (k, v) :: rest => (k, handlesAsText v) :: handlesAsTextMembers rest

end

/-- What a JSON document can hold, with live objects among it. -/
inductive IsLaden : Value → Prop where
  | json {v : Value} (json : v.IsJson) : IsLaden v
  | handle (h : Handle) : IsLaden (.handle h)
  | list {vs : List Value} (items : ∀ v ∈ vs, IsLaden v) : IsLaden (.list vs)
  | object {ms : List (String × Value)} (members : ∀ m ∈ ms, IsLaden m.2) : IsLaden (.object ms)

variable {v w : Value} {vs : List Value} {ms : Table Value} {h : Handle}

theorem handlesOfItems_eq (vs : List Value) : handlesOfItems vs = vs.flatMap handles := by
  induction vs with
  | nil => rfl
  | cons v vs ih => rw [handlesOfItems, ih, List.flatMap_cons]

theorem handlesOfMembers_eq (ms : Table Value) :
    handlesOfMembers ms = ms.flatMap fun m => m.2.handles := by
  induction ms with
  | nil => rfl
  | cons m ms ih => rw [handlesOfMembers, ih, List.flatMap_cons]

theorem handlesAsTextItems_eq (vs : List Value) :
    handlesAsTextItems vs = vs.map handlesAsText := by
  induction vs with
  | nil => rfl
  | cons v vs ih => rw [handlesAsTextItems, ih, List.map_cons]

theorem handlesAsTextMembers_eq (ms : Table Value) :
    handlesAsTextMembers ms = ms.mapValues handlesAsText := by
  induction ms with
  | nil => rfl
  | cons m ms ih =>
      rw [handlesAsTextMembers, ih]
      rfl

theorem handlesAsText_list (vs : List Value) :
    handlesAsText (.list vs) = .list (vs.map handlesAsText) := by
  rw [handlesAsText, handlesAsTextItems_eq]

theorem handlesAsText_object (ms : Table Value) :
    handlesAsText (.object ms) = .object (ms.mapValues handlesAsText) := by
  rw [handlesAsText, handlesAsTextMembers_eq]

theorem copyFault?_eq (v : Value) : v.copyFault? = v.handles.head?.map Handle.fault := by
  have either : ∀ as bs : List Handle, ((as ++ bs).head?).map Handle.fault =
      (as.head?.map Handle.fault).or (bs.head?.map Handle.fault) := by
    intro as bs
    cases as <;> rfl
  have ofMembers : ∀ ms : Table Value,
      (∀ m ∈ ms, m.2.copyFault? = m.2.handles.head?.map Handle.fault) →
        copyFaultOfMembers? ms = (handlesOfMembers ms).head?.map Handle.fault := by
    intro ms ih
    induction ms with
    | nil => rfl
    | cons m ms others =>
        obtain ⟨first, rest⟩ := List.forall_mem_cons.mp ih
        rw [copyFaultOfMembers?, handlesOfMembers, first, others rest, either]
  induction v using induction with
  | plain v atom =>
      cases v with
      | list vs => cases atom
      | object ms => cases atom
      | cyclic ms self => cases atom
      | _ => rfl
  | list vs ih =>
      rw [copyFault?, handles]
      induction vs with
      | nil => rfl
      | cons v vs others =>
          obtain ⟨first, rest⟩ := List.forall_mem_cons.mp ih
          rw [copyFaultOfItems?, handlesOfItems, first, others rest, either]
  | object ms ih => rw [copyFault?, handles, ofMembers ms ih]
  | cyclic ms self ih => rw [copyFault?, handles, ofMembers ms ih]

theorem IsJson.handles_eq_nil (json : v.IsJson) : v.handles = [] := by
  induction json with
  | list _ ih => rw [handles, handlesOfItems_eq, List.flatMap_eq_nil_iff.mpr ih]
  | object _ ih => rw [handles, handlesOfMembers_eq, List.flatMap_eq_nil_iff.mpr ih]
  | _ => rfl

theorem IsJson.snapshot_eq (json : v.IsJson) : v.snapshot = .ok v := by
  rw [snapshot, copyFault?_eq, json.handles_eq_nil]
  rfl

theorem IsJson.handlesAsText_eq (json : v.IsJson) : v.handlesAsText = v := by
  apply json.unchanged
  · intro v atom json
    cases json <;> first | rfl | cases atom
  · exact handlesAsText_list
  · exact handlesAsText_object

theorem IsLaden.handlesAsText (laden : v.IsLaden) : v.handlesAsText.IsJson := by
  induction laden with
  | json json => rwa [json.handlesAsText_eq]
  | handle h => exact .text h.text
  | list _ ih =>
      rw [handlesAsText_list]
      exact .list (List.forall_mem_map.mpr ih)
  | object _ ih =>
      rw [handlesAsText_object]
      exact .object (List.forall_mem_map.mpr ih)

theorem Settled.handlesAsText (settled : v.Settled) : v.handlesAsText.Settled := by
  induction v using induction with
  | plain v atom => cases v <;> first | exact settled | rfl | cases atom
  | list vs ih =>
      rw [handlesAsText_list, settled_list_iff, List.forall_mem_map]
      exact fun v mem => ih v mem (settled_list_iff.mp settled v mem)
  | object ms ih =>
      obtain ⟨distinct, members⟩ := settled_object_iff.mp settled
      rw [handlesAsText_object, settled_object_iff]
      refine ⟨Table.distinct_mapValues.mpr distinct, List.forall_mem_map.mpr fun m mem => ?_⟩
      exact ih m mem (members m mem)
  | cyclic ms self _ => rfl

theorem hasInteger_handlesAsText (p : Int → Bool) (v : Value) :
    v.handlesAsText.hasInteger p = v.hasInteger p := by
  rw [Bool.eq_iff_iff, ← not_iff_not, Bool.not_eq_true, Bool.not_eq_true]
  have ofMembers : ∀ ms : Table Value,
      (∀ m ∈ ms, m.2.handlesAsText.hasInteger p = false ↔ m.2.hasInteger p = false) →
        (anyMemberHasInteger p (ms.mapValues Value.handlesAsText) = false ↔
          anyMemberHasInteger p ms = false) := by
    intro ms ih
    rw [anyMemberHasInteger_eq_false_iff, anyMemberHasInteger_eq_false_iff, Table.mapValues,
      List.forall_mem_map]
    exact forall₂_congr ih
  induction v using induction with
  | plain v atom => cases v <;> first | rfl | cases atom
  | list vs ih =>
      rw [handlesAsText_list, hasInteger, hasInteger, anyHasInteger_eq_false_iff,
        anyHasInteger_eq_false_iff, List.forall_mem_map]
      exact forall₂_congr ih
  | object ms ih =>
      rw [handlesAsText_object, hasInteger, hasInteger]
      exact ofMembers ms ih
  | cyclic ms self ih =>
      rw [Value.handlesAsText, handlesAsTextMembers_eq, hasInteger, hasInteger]
      exact ofMembers ms ih

theorem IsLaden.isTree (laden : v.IsLaden) : v.isTree = true := by
  induction laden with
  | json json =>
      exact Json.refusal?_lenient_line_eq_none_iff.mp (Json.refusal?_lenient_eq_none json)
  | handle h => rfl
  | list _ ih => rw [Value.isTree, allTrees_iff.mpr ih]
  | object _ ih => rw [Value.isTree, allTreeMembers_iff.mpr ih]

theorem render_handlesAsText (style : Json.Style) (v : Value) (level : Nat) :
    Json.render style level v.handlesAsText = Json.render style level v := by
  have ofMembers : ∀ (ms : Table Value) (level : Nat),
      (∀ m ∈ ms, ∀ level, Json.render style level m.2.handlesAsText =
        Json.render style level m.2) →
        Json.renderMembers style level (ms.mapValues Value.handlesAsText) =
          Json.renderMembers style level ms := by
    intro ms level ih
    rw [Json.renderMembers_eq, Json.renderMembers_eq, Table.mapValues, Table.mapValues,
      List.map_map]
    exact List.map_congr_left fun m mem => Prod.ext rfl (ih m mem level)
  induction v using induction generalizing level with
  | plain v atom =>
      cases v with
      | list vs => cases atom
      | object ms => cases atom
      | cyclic ms self => cases atom
      | _ => rfl
  | list vs ih =>
      rw [handlesAsText_list, Json.render, Json.render, Json.renderItems_eq, Json.renderItems_eq,
        List.map_map]
      rw [← List.map_congr_left fun v mem => ih v mem (level + 1)]
      rfl
  | object ms ih =>
      rw [handlesAsText_object, Json.render, Json.render, ofMembers ms (level + 1) ih]
  | cyclic ms self ih =>
      rw [Value.handlesAsText, handlesAsTextMembers_eq, Json.render, Json.render,
        ofMembers ms (level + 1) ih]

/-- What is told again is the value with texts in place of its live objects. -/
theorem retold_eq (laden : v.IsLaden) (settled : v.Settled) (short : v.hasLong = false) :
    v.retold = .ok v.handlesAsText := by
  have written : Json.write .line v = .ok (String.ofList (Json.render .line 0 v)) := by
    rw [Json.write, Json.refusal?_line laden.isTree, short]
    rfl
  have again := Json.read_line laden.handlesAsText settled.handlesAsText
    ((hasInteger_handlesAsText _ v).trans short)
  rw [render_handlesAsText] at again
  rw [retold, written]
  simp only [Except.toOption, Option.bind_some, again]

/-- A value without live objects is what a JSON document can hold. -/
theorem IsLaden.isJson (laden : v.IsLaden) (free : v.handles = []) : v.IsJson := by
  induction laden with
  | json json => exact json
  | handle h => cases free
  | list _ ih =>
      rw [handles, handlesOfItems_eq, List.flatMap_eq_nil_iff] at free
      exact .list fun v mem => ih v mem (free v mem)
  | object _ ih =>
      rw [handles, handlesOfMembers_eq, List.flatMap_eq_nil_iff] at free
      exact .object fun m mem => ih m mem (free m mem)

end Workflow.Value
