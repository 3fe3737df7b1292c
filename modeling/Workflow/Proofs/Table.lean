import Mathlib.Data.List.Nodup
import Workflow.Proofs.Ranked
import Workflow.Table

/-! Look-up in tables: what an entry tells of the keys, and tables that repeat no key. Sorting moves
entries and changes none, so such a table is looked up as before. -/

namespace Workflow.Table

variable {α β : Type}

theorem get?_eq_none_iff {t : Table α} {key : String} : t.get? key = none ↔ key ∉ t.keys := by
  induction t with
  | nil => simp [get?, keys]
  | cons e rest ih =>
      by_cases h : e.1 = key
      · simp [get?, keys, h]
      · simpa [get?, keys, h, Ne.symm h] using ih

theorem mem_keys_iff {t : Table α} {key : String} : key ∈ t.keys ↔ ∃ v, t.get? key = some v := by
  rw [← Option.isSome_iff_exists, ← Option.not_isNone, Bool.not_eq_true', ← Bool.not_eq_true,
    Option.isNone_iff_eq_none, get?_eq_none_iff, not_not]

theorem contains_iff_mem_keys {t : Table α} {key : String} :
    t.contains key = true ↔ key ∈ t.keys := by
  rw [mem_keys_iff, contains, Option.isSome_iff_exists]

theorem mem_of_get? {t : Table α} {key : String} {v : α} (h : t.get? key = some v) :
    (key, v) ∈ t := by
  induction t with
  | nil => cases h
  | cons e rest ih =>
      obtain ⟨k, w⟩ := e
      by_cases same : k = key
      · subst same
        have : w = v := by simpa [get?] using h
        simp [this]
      · exact List.mem_cons_of_mem _ (ih (by simpa [get?, same] using h))

theorem get?_of_mem {t : Table α} {key : String} {v : α} (distinct : t.Distinct)
    (h : (key, v) ∈ t) : t.get? key = some v := by
  induction t with
  | nil => cases h
  | cons e rest ih =>
      obtain ⟨fresh, others⟩ := List.nodup_cons.mp distinct
      rcases List.mem_cons.mp h with rfl | later
      · simp [get?]
      · have ne : e.1 ≠ key := by
          intro same
          exact fresh (same ▸ List.mem_map_of_mem (f := Prod.fst) later)
        simpa [get?, ne] using ih others later

theorem get?_map (f : String → α) (ids : List String) (key : String) :
    get? (ids.map fun id => (id, f id)) key = if key ∈ ids then some (f key) else none := by
  induction ids with
  | nil => simp [get?]
  | cons id rest ih =>
      by_cases h : id = key
      · simp [get?, h]
      · simp [get?, h, Ne.symm h, ih]

theorem contains_map (f : String → α) (ids : List String) (key : String) :
    contains (ids.map fun id => (id, f id)) key = true ↔ key ∈ ids := by
  rw [contains, get?_map]
  by_cases here : key ∈ ids <;> simp [here]

theorem update_map {ids : List String} (nodup : ids.Nodup) (f : String → α) (key : String)
    (change : α → α) :
    update (ids.map fun id => (id, f id)) key change =
      ids.map fun id => (id, if key = id then change (f id) else f id) := by
  induction ids with
  | nil => rfl
  | cons id rest ih =>
      obtain ⟨fresh, nodup⟩ := List.nodup_cons.mp nodup
      by_cases same : id = key
      · subst same
        have others : (rest.map fun i => (i, if id = i then change (f i) else f i)) =
            rest.map fun i => (i, f i) := by
          refine List.map_congr_left fun i mem => ?_
          rw [if_neg (ne_of_mem_of_not_mem mem fresh).symm]
        rw [List.map_cons, List.map_cons, others, if_pos rfl, update, if_pos rfl]
      · rw [List.map_cons, List.map_cons, update, if_neg same, ih nodup, if_neg (Ne.symm same)]

theorem get?_mapEntries (f : String → α → β) (t : Table α) (key : String) :
    get? (t.map fun x => (x.1, f x.1 x.2)) key = (t.get? key).map (f key) := by
  induction t with
  | nil => rfl
  | cons e rest ih =>
      by_cases same : e.1 = key
      · subst same
        simp [get?]
      · simpa [get?, same] using ih

theorem mem_put {t : Table α} {key k : String} {v w : α} (h : (k, w) ∈ t.put key v) :
    (k = key ∧ w = v) ∨ (k, w) ∈ t := by
  induction t with
  | nil => simpa [put] using h
  | cons e rest ih =>
      by_cases same : e.1 = key
      · simp only [put, same, if_true, List.mem_cons] at h
        rcases h with h | h
        · exact .inl (by simpa using h)
        · exact .inr (List.mem_cons_of_mem _ h)
      · simp only [put, same, if_false, List.mem_cons] at h
        rcases h with h | h
        · exact .inr (by rw [h]; exact List.mem_cons_self)
        · exact (ih h).imp_right (List.mem_cons_of_mem _)

theorem put_of_not_mem {t : Table α} {key : String} (v : α) (h : key ∉ t.keys) :
    t.put key v = t ++ [(key, v)] := by
  induction t with
  | nil => rfl
  | cons e rest ih =>
      obtain ⟨ne, fresh⟩ : ¬ key = e.1 ∧ key ∉ keys rest := by simpa [keys] using h
      simp [put, Ne.symm ne, ih fresh]

theorem get?_putNew (t : Table α) (key : String) (v : α) (other : String) :
    (t.putNew key v).get? other =
      (t.get? other).or (if other = key then some v else none) := by
  unfold putNew
  by_cases same : other = key
  · subst same
    rw [if_pos rfl]
    cases found : t.get? other with
    | none =>
        have free : t.contains other = false := by rw [contains, found]; rfl
        rw [free, if_neg Bool.false_ne_true, get?_put_self]
        rfl
    | some w =>
        have taken : t.contains other = true := by rw [contains, found]; rfl
        rw [if_pos taken, found]
        rfl
  · rw [if_neg same, Option.or_none]
    split
    · rfl
    · exact get?_put_of_ne t v same

theorem distinct_put {t : Table α} (key : String) (v : α) (h : t.Distinct) :
    (t.put key v).Distinct := by
  by_cases present : key ∈ t.keys
  · rw [Distinct, keys_put_of_contains t key v (contains_iff_mem_keys.mpr present)]
    exact h
  · rw [Distinct, put_of_not_mem v present, keys, List.map_append]
    refine List.nodup_append.mpr ⟨h, List.nodup_singleton key, ?_⟩
    intro a ha b hb same
    obtain rfl : b = key := List.mem_singleton.mp hb
    exact present (same ▸ ha)

theorem distinct_putNew {t : Table α} (key : String) (v : α) (h : t.Distinct) :
    (t.putNew key v).Distinct := by
  unfold putNew
  split
  · exact h
  · exact distinct_put key v h

theorem mem_keys_put {t : Table α} {key k : String} {v : α} :
    k ∈ (t.put key v).keys ↔ k = key ∨ k ∈ t.keys := by
  by_cases same : k = key
  · subst same
    simp [mem_keys_iff, get?_put_self]
  · rw [mem_keys_iff, get?_put_of_ne t v same, ← mem_keys_iff]
    exact (or_iff_right same).symm

theorem of_get?_put {t : Table α} {key k : String} {v w : α} (h : (t.put key v).get? k = some w) :
    (k = key ∧ v = w) ∨ t.get? k = some w := by
  by_cases same : k = key
  · subst same
    exact .inl ⟨rfl, Option.some.inj ((get?_put_self t k v).symm.trans h)⟩
  · exact .inr ((get?_put_of_ne t v same).symm.trans h)

theorem get?_put_of_some {t : Table α} (key : String) (v : α) {k : String}
    (h : ∃ w, t.get? k = some w) : ∃ w, (t.put key v).get? k = some w :=
  mem_keys_iff.mp (mem_keys_put.mpr (.inr (mem_keys_iff.mpr h)))

/-- What a table of entries is built from by `ofList`, with a table to start from. -/
theorem foldl_put_facts (entries : List (String × α)) :
    ∀ t : Table α, t.Distinct →
      (entries.foldl (fun t (k, v) => t.put k v) t).Distinct ∧
      (∀ e ∈ entries.foldl (fun t (k, v) => t.put k v) t, e ∈ t ∨ e ∈ entries) ∧
      ∀ k, k ∈ keys (entries.foldl (fun t (k, v) => t.put k v) t) ↔
        k ∈ t.keys ∨ k ∈ entries.map Prod.fst := by
  induction entries with
  | nil => intro t h; exact ⟨h, fun e he => .inl he, by simp⟩
  | cons e rest ih =>
      intro t h
      obtain ⟨distinct, entry, key⟩ := ih (t.put e.1 e.2) (distinct_put e.1 e.2 h)
      refine ⟨distinct, ?_, ?_⟩
      · intro x hx
        rcases entry x hx with old | new
        · rcases mem_put old with ⟨k, v⟩ | old
          · exact .inr (List.mem_cons.mpr (.inl (Prod.ext k v)))
          · exact .inl old
        · exact .inr (List.mem_cons_of_mem _ new)
      · intro k
        rw [List.foldl_cons, key k, mem_keys_put, List.map_cons, List.mem_cons]
        exact ⟨by rintro ((h | h) | h) <;> simp [h], by rintro (h | h | h) <;> simp [h]⟩

theorem distinct_ofList (entries : List (String × α)) : (ofList entries).Distinct :=
  (foldl_put_facts entries [] List.nodup_nil).1

theorem mem_of_mem_ofList {entries : List (String × α)} {e : String × α}
    (h : e ∈ ofList entries) : e ∈ entries :=
  ((foldl_put_facts entries [] List.nodup_nil).2.1 e h).resolve_left List.not_mem_nil

theorem mem_keys_ofList {entries : List (String × α)} {key : String} :
    key ∈ (ofList entries).keys ↔ key ∈ entries.map Prod.fst := by
  rw [ofList, (foldl_put_facts entries [] List.nodup_nil).2.2 key]
  simp [keys]

/-- Entries with keys of their own make up their table as they stand. -/
theorem ofList_of_distinct {entries : List (String × α)} (h : Distinct entries) :
    ofList entries = entries := by
  have grown : ∀ (later : List (String × α)) (t : Table α), Distinct (t ++ later) →
      later.foldl (fun t (k, v) => t.put k v) t = t ++ later := by
    intro later
    induction later with
    | nil => intro t _; simp
    | cons e rest ih =>
        obtain ⟨k, v⟩ := e
        intro t distinct
        have parts : (t.keys ++ k :: keys rest).Nodup := by
          simpa [Distinct, keys] using distinct
        have fresh : k ∉ t.keys := fun old =>
          (List.nodup_append.mp parts).2.2 k old k List.mem_cons_self rfl
        have next : Distinct (t ++ [(k, v)] ++ rest) := by simpa using distinct
        rw [List.foldl_cons]
        change rest.foldl _ (t.put k v) = _
        rw [put_of_not_mem v fresh, ih _ next, List.append_assoc]
        rfl
  simpa [ofList] using grown entries [] (by simpa using h)

theorem sorted_perm (t : Table α) : t.sorted.Perm t := ranked_perm _ t

theorem mem_sorted {t : Table α} {e : String × α} : e ∈ t.sorted ↔ e ∈ t := (sorted_perm t).mem_iff

theorem sorted_mapValues (f : α → β) (t : Table α) :
    (t.mapValues f).sorted = t.sorted.mapValues f :=
  ranked_map (fun e : String × α => (e.1, f e.2)) (fun _ _ => rfl) t

theorem sorted_sorted (t : Table α) : t.sorted.sorted = t.sorted := by
  have order : t.sorted.Pairwise fun a b => a.1 ≤ b.1 := by
    refine ranked_pairwise ?_ ?_ ?_ t
    · exact fun _ _ _ => String.le_trans
    · exact fun _ _ first => String.not_lt.mp (String.lt_asymm (of_decide_eq_true first))
    · exact fun _ _ later => String.not_lt.mp (of_decide_eq_false later)
  exact ranked_of_pairwise (order.imp fun le => decide_eq_false (String.not_lt.mpr le))

theorem distinct_of_perm {t s : Table α} (perm : t.Perm s) (h : s.Distinct) : t.Distinct :=
  (perm.map Prod.fst).nodup_iff.mpr h

theorem distinct_sorted {t : Table α} (h : t.Distinct) : t.sorted.Distinct :=
  distinct_of_perm (sorted_perm t) h

theorem keys_mapValues (f : α → β) (t : Table α) : (t.mapValues f).keys = t.keys := by
  simp [keys, mapValues]

theorem distinct_mapValues {f : α → β} {t : Table α} : (t.mapValues f).Distinct ↔ t.Distinct := by
  rw [Distinct, keys_mapValues, Distinct]

theorem get?_mapValues (f : α → β) (t : Table α) (key : String) :
    (t.mapValues f).get? key = (t.get? key).map f := get?_mapEntries (fun _ => f) t key

theorem get?_of_perm {t s : Table α} (perm : t.Perm s) (h : s.Distinct) (key : String) :
    t.get? key = s.get? key := by
  cases found : s.get? key with
  | some v => exact get?_of_mem (distinct_of_perm perm h) (perm.mem_iff.mpr (mem_of_get? found))
  | none =>
      rw [get?_eq_none_iff] at found ⊢
      exact fun mem => found ((perm.map Prod.fst).mem_iff.mp mem)

/-- Without repeated keys the last entry under a key is the first one. -/
theorem last?_eq_get? {t : Table α} (h : t.Distinct) (key : String) : t.last? key = t.get? key :=
  get?_of_perm (List.reverse_perm t) h key

end Workflow.Table
