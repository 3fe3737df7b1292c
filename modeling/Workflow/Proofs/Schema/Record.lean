import Mathlib.Data.List.Pairwise
import Workflow.Graph.Document
import Workflow.Proofs.Value.Order

/-! Records in documents, and what a good outcome of a check says of them. -/

namespace Workflow.Schema

/-! Each part of a good outcome is good, and was read from some part of the data. -/

namespace Checked

variable {α β : Type} {f : α → β} {fs : Checked (α → β)} {x : Checked α} {a : α} {b : β}

@[simp] theorem map_good (f : α → β) (a : α) : f <$> good a = good (f a) := rfl

@[simp] theorem seq_good (f : α → β) (a : α) : good f <*> good a = good (f a) := rfl

theorem map_eq_good : f <$> x = good b ↔ ∃ a, x = good a ∧ f a = b := by
  change Checked.seq (good f) x = _ ↔ _
  cases x <;> simp [Checked.seq]

theorem seq_eq_good : fs <*> x = good b ↔ ∃ f a, fs = good f ∧ x = good a ∧ f a = b := by
  change Checked.seq fs x = _ ↔ _
  cases fs <;> cases x <;> simp [Checked.seq]

theorem seqLeft_eq_good {y : Checked β} : x <* y = good a ↔ x = good a ∧ ∃ b, y = good b := by
  change (Function.const β <$> x) <*> y = _ ↔ _
  cases x <;> cases y <;> simp [seq_eq_good, map_eq_good]

theorem within_eq_good {step : Step} : x.within step = good a ↔ x = good a := by
  cases x <;> simp [within, mapIssues]

theorem andThen_eq_good {next : α → Checked β} :
    x.andThen next = good b ↔ ∃ a, x = good a ∧ next a = good b := by
  cases x <;> simp [andThen]

section

variable {read : α → Checked β}

theorem each_good {as : List α} {bs : List β} (h : List.Forall₂ (fun a b => read a = good b) as bs)
    (i : Nat) : each read i as = good bs := by
  induction h generalizing i with
  | nil => rfl
  | cons first _ ih =>
      rw [each, first, ih]
      rfl

theorem eachEntry_good {t : Table α} {s : Table β}
    (h : List.Forall₂ (fun e e' => e.1 = e'.1 ∧ read e.2 = good e'.2) t s) :
    eachEntry read t = good s := by
  induction h with
  | nil => rfl
  | @cons e e' t s first _ ih =>
      obtain ⟨k, v⟩ := e
      obtain ⟨rfl, good⟩ : k = e'.1 ∧ read v = .good e'.2 := first
      rw [eachEntry, good, ih]
      rfl

theorem good_of_each {as : List α} {bs : List β} {i : Nat} (h : each read i as = good bs) :
    ∀ b ∈ bs, ∃ a, read a = good b := by
  induction as generalizing i bs with
  | nil =>
      obtain rfl := good.inj h
      exact fun b mem => absurd mem List.not_mem_nil
  | cons a as ih =>
      obtain ⟨f, bs, front, others, rfl⟩ := seq_eq_good.mp h
      obtain ⟨b, first, rfl⟩ := map_eq_good.mp front
      exact List.forall_mem_cons.mpr ⟨⟨a, within_eq_good.mp first⟩, ih others⟩

theorem good_of_eachEntry {t : Table α} {s : Table β} (h : eachEntry read t = good s) :
    ∀ e ∈ s, ∃ a, read a = good e.2 := by
  induction t generalizing s with
  | nil =>
      obtain rfl := good.inj h
      exact fun e mem => absurd mem List.not_mem_nil
  | cons e t ih =>
      obtain ⟨f, s, front, others, rfl⟩ := seq_eq_good.mp h
      obtain ⟨b, first, rfl⟩ := map_eq_good.mp front
      exact List.forall_mem_cons.mpr ⟨⟨e.2, within_eq_good.mp first⟩, ih others⟩

end

end Checked

section

variable {α : Type} {f : Field} {ms : Table Value} {read : Value → Checked α} {v : Value} {a b : α}

theorem good_of_required (h : f.required ms read = .good a) : ∃ v, read v = .good a := by
  unfold Field.required at h
  split at h
  · exact ⟨_, Checked.within_eq_good.mp h⟩
  · cases h

theorem good_of_withDefault (h : f.withDefault ms b read = .good a) :
    a = b ∨ ∃ v, read v = .good a := by
  unfold Field.withDefault at h
  split at h
  · exact .inr ⟨_, Checked.within_eq_good.mp h⟩
  · exact .inl (Checked.good.inj h).symm

theorem good_of_strictRecord {fields : List Field} {build : Table Value → Checked α}
    (h : strictRecord fields build v = .good a) : ∃ ms, build ms = .good a := by
  unfold strictRecord at h
  split at h
  · exact ⟨_, (Checked.seqLeft_eq_good.mp h).1⟩
  · cases h

theorem good_of_orNull {o : Option α} (h : orNull read v = .good o) :
    ∀ a ∈ o, ∃ v, read v = .good a := by
  rintro a rfl
  unfold orNull at h
  split at h
  · cases h
  · obtain ⟨_, good, same⟩ := Checked.map_eq_good.mp h
    cases same
    exact ⟨_, good⟩

theorem good_of_readList {as : List α} (h : readList read v = .good as) :
    ∀ a ∈ as, ∃ v, read v = .good a := by
  unfold readList at h
  split at h
  · exact Checked.good_of_each h
  · cases h

theorem good_of_readTable {t : Table α} (h : readTable read v = .good t) :
    t.Distinct ∧ ∀ e ∈ t, ∃ v, read v = .good e.2 := by
  unfold readTable at h
  split at h
  · cases entries : Checked.eachEntry read _ with
    | faulty issues =>
        rw [entries] at h
        cases h
    | good s =>
        rw [entries] at h
        obtain rfl := Checked.good.inj h
        refine ⟨Table.distinct_ofList s, fun e mem => ?_⟩
        exact Checked.good_of_eachEntry entries e (Table.mem_of_mem_ofList mem)
  · cases h

theorem settled_of_readAny {w : Value} (h : readAny v = .good w) : w.Settled := by
  obtain rfl := Checked.good.inj h
  exact Value.settled_merged v

theorem settled_of_readTable {t : Table Value} (h : readTable readAny v = .good t) :
    Value.Settled (.object t) := by
  obtain ⟨distinct, entries⟩ := good_of_readTable h
  refine Value.settled_object_iff.mpr ⟨distinct, fun e mem => ?_⟩
  obtain ⟨v, good⟩ := entries e mem
  exact settled_of_readAny good

end

/-! The fields of a record are laid out under their names in documents, those that are null left
out, and all of them put in order; reading the record finds each field again, or finds that it was
null, and no key besides. -/

/-- Two fields share no name in documents, and none has for its own name the name of the other
there. -/
def Field.Apart (f g : Field) : Prop :=
  f.documentName ≠ g.documentName ∧ f.documentName ≠ g.name ∧ f.name ≠ g.documentName

instance : DecidableRel Field.Apart := fun _ _ => inferInstanceAs (Decidable (_ ∧ _))

theorem Field.Apart.symm {f g : Field} (h : f.Apart g) : g.Apart f :=
  ⟨h.1.symm, h.2.2.symm, h.2.1.symm⟩

def Separate (fields : List Field) : Prop := fields.Pairwise Field.Apart

instance (fields : List Field) : Decidable (Separate fields) :=
  inferInstanceAs (Decidable (List.Pairwise _ _))

def kept (entries : List (Field × Value)) : Table Value :=
  entries.flatMap fun (f, v) => f.entry .document v

variable {entries : List (Field × Value)} {e : Field × Value} {m : String × Value}

theorem kept_cons (e : Field × Value) (entries : List (Field × Value)) :
    kept (e :: entries) =
      if e.2.isNull then kept entries else (e.1.documentName, e.2) :: kept entries := by
  obtain ⟨f, v⟩ := e
  rw [kept, List.flatMap_cons]
  cases null : v.isNull <;> simp [Field.entry, Form.document, null, kept]

theorem mem_kept :
    m ∈ kept entries ↔ ∃ e ∈ entries, e.2.isNull = false ∧ m = (e.1.documentName, e.2) := by
  induction entries with
  | nil => simp [kept]
  | cons e entries ih =>
      rw [kept_cons]
      cases null : e.2.isNull <;> simp [ih, null]

theorem keys_kept_sublist :
    (kept entries).keys.Sublist (entries.map fun e => e.1.documentName) := by
  induction entries with
  | nil => exact .slnil
  | cons e entries ih =>
      rw [kept_cons, List.map_cons]
      split
      · exact ih.cons _
      · exact ih.cons_cons _

theorem Separate.apart (h : Separate (entries.map Prod.fst)) {e' : Field × Value}
    (mem : e ∈ entries) (mem' : e' ∈ entries) (other : e ≠ e') : e.1.Apart e'.1 := by
  have : Std.Symm fun e e' : Field × Value => e.1.Apart e'.1 := ⟨fun _ _ => Field.Apart.symm⟩
  exact (List.pairwise_map.mp h).forall mem mem' other

theorem Separate.distinct (h : Separate (entries.map Prod.fst)) : (kept entries).Distinct := by
  refine keys_kept_sublist.nodup ?_
  exact List.pairwise_map.mpr ((List.pairwise_map.mp h).imp fun names => names.1)

def written (entries : List (Field × Value)) : Table Value := Value.orderedTable (kept entries)

theorem ordered_record (entries : List (Field × Value)) :
    (record .document entries).ordered = .object (written entries) :=
  Value.ordered_object (kept entries)

def inOrder (entries : List (Field × Value)) : List (Field × Value) :=
  entries.map fun (f, v) => (f, v.ordered)

theorem kept_inOrder (entries : List (Field × Value)) :
    kept (inOrder entries) = (kept entries).mapValues Value.ordered := by
  induction entries with
  | nil => rfl
  | cons e entries ih =>
      have null : e.2.ordered.isNull = e.2.isNull := by cases e.2 <;> rfl
      change kept ((e.1, e.2.ordered) :: inOrder entries) = _
      rw [kept_cons, kept_cons, null, ih]
      split <;> rfl

theorem written_congr {entries' : List (Field × Value)} (h : inOrder entries = inOrder entries') :
    written entries = written entries' := by
  rw [written, Value.orderedTable, ← kept_inOrder, h, kept_inOrder]
  rfl

theorem Separate.last? (h : Separate (entries.map Prod.fst)) (key : String) :
    (written entries).last? key = ((kept entries).get? key).map Value.ordered := by
  rw [written, Table.last?_eq_get? (Value.distinct_orderedTable h.distinct),
    Value.orderedTable, Table.get?_of_perm (Table.sorted_perm _)
      (Table.distinct_mapValues.mpr h.distinct), Table.get?_mapValues]

theorem Separate.last?_of_mem (h : Separate (entries.map Prod.fst)) (mem : e ∈ entries)
    (full : e.2.isNull = false) :
    (written entries).last? e.1.documentName = some e.2.ordered := by
  have there := Table.get?_of_mem h.distinct (mem_kept.mpr ⟨e, mem, full, rfl⟩)
  rw [h.last?, there]
  rfl

/-- A table gives the fields of a record as they were written. -/
def Gives (ms : Table Value) (entries : List (Field × Value)) : Prop :=
  ∀ e ∈ entries, e.1.find? ms =
    if e.2.isNull then none else some (e.1.documentName, e.2.ordered)

/-- Every field is found again under its name in documents, unless it was null. -/
theorem Separate.gives (h : Separate (entries.map Prod.fst)) : Gives (written entries) entries := by
  intro e mem
  cases null : e.2.isNull with
  | false =>
      rw [Field.find?, h.last?_of_mem mem null]
      rfl
  | true =>
      have absent : ∀ key, key = e.1.documentName ∨ key = e.1.name →
          (kept entries).get? key = none := by
        intro key name
        rw [Table.get?_eq_none_iff]
        intro taken
        obtain ⟨m, member, rfl⟩ := List.mem_map.mp taken
        obtain ⟨e', mem', full, rfl⟩ := mem_kept.mp member
        have other : e' ≠ e := by
          rintro rfl
          rw [null] at full
          cases full
        obtain ⟨apart, apart', -⟩ := h.apart mem' mem other
        exact name.elim apart apart'
      rw [Field.find?, h.last?, h.last?, absent _ (.inl rfl), absent _ (.inr rfl)]
      rfl

theorem Separate.noExtras (h : Separate (entries.map Prod.fst)) :
    noExtras (entries.map Prod.fst) (written entries) = .good () := by
  have none' : unclaimed (entries.map Prod.fst) (written entries) = [] := by
    rw [unclaimed, List.filter_eq_nil_iff]
    intro key there
    obtain ⟨m, member, rfl⟩ := List.mem_map.mp there
    obtain ⟨m, kept', rfl⟩ := Value.mem_orderedTable member
    obtain ⟨e, mem, full, rfl⟩ := mem_kept.mp kept'
    have found := h.gives e mem
    rw [full] at found
    have claimed : e.1.documentName ∈ (entries.map Prod.fst).filterMap fun f =>
        (f.find? (written entries)).map Prod.fst :=
      List.mem_filterMap.mpr ⟨e.1, List.mem_map_of_mem mem, by rw [found]; rfl⟩
    simpa using claimed
  rw [Schema.noExtras, none']

/-- A value is read back as `b`, which is written as a value that is the same in order. -/
structure Saves {α : Type} (read : Value → Checked α) (v w : Value) (b : α) : Prop where
  json : v.IsJson
  reads : read v.ordered = .good b
  again : w.ordered = v.ordered

/-- A part of a record is read back as `b` from what it wrote, and `b` writes the same in order. -/
structure Builds {α : Type} (get : Table Value → Checked α) (wrote writes : List (Field × Value))
    (b : α) : Prop where
  json : ∀ e ∈ wrote, e.2.IsJson
  built : ∀ ms, Gives ms wrote → get ms = .good b
  again : inOrder writes = inOrder wrote

section

variable {α β : Type} {read : Value → Checked α} {v w : Value} {b d : α} {f : Field}
  {get : Table Value → Checked α} {wrote writes wrote' writes' : List (Field × Value)}

/-! A field that holds something is read back. One that is null has to be null by itself. -/

theorem find?_of_gives {ms : Table Value} (gives : Gives ms [(f, v)]) (full : v.isNull = false) :
    f.find? ms = some (f.documentName, v.ordered) := by
  have found := gives (f, v) (List.mem_singleton_self _)
  rwa [full] at found

theorem Saves.field (h : Saves read v w b) (built : ∀ ms, Gives ms [(f, v)] → get ms = .good b) :
    Builds get [(f, v)] [(f, w)] b where
  json := List.forall_mem_singleton.mpr h.json
  built := built
  again := congrArg (fun u => [(f, u)]) h.again

theorem Saves.required (h : Saves read v w b) (full : v.isNull = false) :
    Builds (fun ms => f.required ms read) [(f, v)] [(f, w)] b := by
  refine h.field fun ms gives => ?_
  rw [Field.required, find?_of_gives gives full]
  exact Checked.within_eq_good.mpr h.reads

theorem Saves.withDefault (h : Saves read v w b) (full : v.isNull = false) :
    Builds (fun ms => f.withDefault ms d read) [(f, v)] [(f, w)] b := by
  refine h.field fun ms gives => ?_
  rw [Field.withDefault, find?_of_gives gives full]
  exact Checked.within_eq_good.mpr h.reads

theorem Builds.null : Builds (fun ms => f.withDefault ms d read) [(f, .null)] [(f, .null)] d where
  json := List.forall_mem_singleton.mpr .null
  built ms gives := by
    rw [Field.withDefault, gives _ (List.mem_singleton_self _)]
    rfl
  again := rfl

/-! The parts of a record are put together as they are read. -/

theorem Builds.map (h : Builds get wrote writes b) (g : α → β) :
    Builds (fun ms => g <$> get ms) wrote writes (g b) where
  json := h.json
  built ms gives := by rw [h.built ms gives, Checked.map_good]
  again := h.again

theorem Builds.seq {get : Table Value → Checked (α → β)} {get' : Table Value → Checked α}
    {g : α → β} (h : Builds get wrote writes g) (h' : Builds get' wrote' writes' b) :
    Builds (fun ms => get ms <*> get' ms) (wrote ++ wrote') (writes ++ writes') (g b) where
  json := List.forall_mem_append.mpr ⟨h.json, h'.json⟩
  built ms gives := by
    obtain ⟨front, back⟩ := List.forall_mem_append.mp gives
    rw [h.built ms front, h'.built ms back, Checked.seq_good]
  again := by
    rw [inOrder, inOrder, List.map_append, List.map_append]
    exact congrArg₂ _ h.again h'.again

theorem Builds.record (h : Builds get wrote writes b) {fields : List Field}
    (declared : wrote.map Prod.fst = fields) (separate : Separate fields) :
    Saves (strictRecord fields get) (record .document wrote) (record .document writes) b where
  json := by
    refine .object fun m member => ?_
    obtain ⟨e, mem, -, rfl⟩ := mem_kept.mp member
    exact h.json e mem
  reads := by
    subst declared
    rw [ordered_record, strictRecord]
    change get (written wrote) <* _ = _
    rw [h.built _ separate.gives, separate.noExtras]
    rfl
  again := by rw [ordered_record, ordered_record, written_congr h.again]

/-! What the fields of records hold. -/

theorem Saves.text (s : String) : Saves readString (.text s) (.text s) s := ⟨.text s, rfl, rfl⟩

theorem Saves.bool (b : Bool) : Saves readBool (.bool b) (.bool b) b := ⟨.bool b, rfl, rfl⟩

theorem Saves.word {kind : IssueKind} {ofWord? : String → Option α} {s : String}
    (h : ofWord? s = some b) : Saves (readWord kind ofWord?) (.text s) (.text s) b where
  json := .text s
  reads := by simp only [Value.ordered, readWord, h]
  again := rfl

theorem Saves.orNull (h : Saves read v w b) (full : v.isNull = false) :
    Saves (orNull read) v w (some b) where
  json := h.json
  reads := by
    have other : Schema.orNull read v.ordered = some <$> read v.ordered := by
      cases v <;> first | rfl | cases full
    rw [other, h.reads, Checked.map_good]
  again := h.again

theorem Builds.option {write : α → Value} {o : Option α}
    (h : ∀ a ∈ o, Saves read (write a) (write a) a ∧ (write a).isNull = false) :
    Builds (fun ms => f.withDefault ms none (orNull read)) [(f, (o.map write).getD .null)]
      [(f, (o.map write).getD .null)] o := by
  cases o with
  | none => exact .null
  | some a =>
      obtain ⟨saves, full⟩ := h a rfl
      exact (saves.orNull full).withDefault full

theorem Builds.text? (o : Option String) :
    Builds (fun ms => f.withDefault ms none (orNull readString)) [(f, .ofText? o)]
      [(f, .ofText? o)] o := by
  have option : Builds (fun ms => f.withDefault ms none (orNull readString))
      [(f, (o.map .text).getD .null)] [(f, (o.map .text).getD .null)] o :=
    .option fun s _ => ⟨.text s, rfl⟩
  cases o <;> exact option

theorem Saves.list {write : α → Value} {g : α → α} {as : List α}
    (h : ∀ a ∈ as, Saves read (write a) (write (g a)) (g a)) :
    Saves (readList read) (.list (as.map write)) (.list ((as.map g).map write)) (as.map g) where
  json := .list (List.forall_mem_map.mpr fun a mem => (h a mem).json)
  reads := by
    rw [Value.ordered_list, readList]
    refine Checked.each_good ?_ 0
    rw [List.map_map, List.forall₂_map_left_iff, List.forall₂_map_right_iff, List.forall₂_same]
    exact fun a mem => (h a mem).reads
  again := by
    rw [Value.ordered_list, Value.ordered_list, List.map_map, List.map_map, List.map_map]
    exact congrArg _ (List.map_congr_left fun a mem => (h a mem).again)

theorem Saves.items {write : α → Value} {as : List α}
    (h : ∀ a ∈ as, Saves read (write a) (write a) a) :
    Saves (readList read) (.list (as.map write)) (.list (as.map write)) as := by
  have all : ∀ a ∈ as, Saves read (write a) (write (id a)) (id a) := h
  simpa using Saves.list all

theorem Saves.any (json : v.IsJson) (settled : v.Settled) :
    Saves readAny v v.ordered v.ordered where
  json := json
  reads := congrArg _ settled.ordered
  again := Value.ordered_ordered v

theorem Builds.any (json : v.IsJson) (settled : v.Settled) :
    Builds (fun ms => f.withDefault ms .null readAny) [(f, v)] [(f, v.ordered)] v.ordered := by
  cases null : v.isNull with
  | false => exact (Saves.any json settled).withDefault null
  | true =>
      obtain rfl : v = .null := by cases v <;> first | rfl | cases null
      exact .null

theorem readTable_good {t : Table α} {ms : Table Value} (distinct : t.Distinct)
    (h : List.Forall₂ (fun e e' => e.1 = e'.1 ∧ read e.2 = .good e'.2) ms t) :
    readTable read (.object ms) = .good t := by
  change (Checked.eachEntry read ms).map Table.ofList = _
  rw [Checked.eachEntry_good h, Checked.map, Table.ofList_of_distinct distinct]

theorem Saves.table {t : Table Value} (json : Value.IsJson (.object t))
    (settled : Value.Settled (.object t)) :
    Saves (readTable readAny) (.object t) (.object (Value.orderedTable t))
      (Value.orderedTable t) where
  json := json
  reads := by
    have whole := settled.ordered
    rw [Value.ordered_object] at whole ⊢
    obtain ⟨distinct, entries⟩ := Value.settled_object_iff.mp whole
    refine readTable_good distinct (List.forall₂_same.mpr fun e mem => ⟨rfl, ?_⟩)
    exact congrArg _ (entries e mem)
  again := by rw [← Value.ordered_object, Value.ordered_ordered]

theorem Saves.texts {t : Table String} (distinct : t.Distinct) :
    Saves (readTable readString) (.object (t.mapValues .text)) (.object (t.sorted.mapValues .text))
      t.sorted := by
  have same : ∀ t : Table String, Value.ordered (.object (t.mapValues .text)) =
      .object (t.sorted.mapValues .text) := by
    intro t
    rw [Value.ordered_object, Value.orderedTable, Table.sorted_mapValues, Table.sorted_mapValues]
    simp [Table.mapValues, Value.ordered]
  refine ⟨.object fun m mem => ?_, ?_, ?_⟩
  · obtain ⟨e, -, rfl⟩ := List.mem_map.mp mem
    exact .text e.2
  · rw [same]
    refine readTable_good (Table.distinct_sorted distinct) ?_
    rw [Table.mapValues, List.forall₂_map_left_iff, List.forall₂_same]
    exact fun e _ => ⟨rfl, rfl⟩
  · rw [same, same, Table.sorted_sorted]

end

end Workflow.Schema
