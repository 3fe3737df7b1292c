import Workflow.Proofs.Schema.Record

/-! Spellings: a field may be given under either of its names. When no object gives a field under
both, other names for fields change nothing about what is read. -/

namespace Workflow

namespace Table

variable {α β : Type} {t : Table α} {s : Table β} {key key' : String} {R : α → β → Prop}

theorem get?_rel
    (h : List.Forall₂ (fun e e' => (e.1 = key ↔ e'.1 = key') ∧ (e.1 = key → R e.2 e'.2)) t s) :
    Option.Rel R (t.get? key) (s.get? key') := by
  induction h with
  | nil => exact .none
  | @cons e e' t s first _ ih =>
      obtain ⟨keys, values⟩ := first
      rw [get?, get?]
      by_cases here : e.1 = key
      · rw [if_pos here, if_pos (keys.mp here)]
        exact .some (values here)
      · rw [if_neg here, if_neg fun here' => here (keys.mpr here')]
        exact ih

theorem last?_rel
    (h : List.Forall₂ (fun e e' => (e.1 = key ↔ e'.1 = key') ∧ (e.1 = key → R e.2 e'.2)) t s) :
    Option.Rel R (t.last? key) (s.last? key') :=
  get?_rel (List.rel_reverse h)

theorem last?_eq_none_iff : t.last? key = none ↔ key ∉ t.keys := by
  rw [last?, get?_eq_none_iff, keys, keys, List.map_reverse, List.mem_reverse]

end Table

namespace Schema

/-- The field has the key for its name, here or in documents. -/
def Field.Names (f : Field) (key : String) : Prop := key = f.name ∨ key = f.documentName

instance (f : Field) : DecidablePred f.Names := fun _ => inferInstanceAs (Decidable (_ ∨ _))

/-- The fields have no name in common. -/
def Field.Stranger (f g : Field) : Prop := f.name ≠ g.name ∧ f.Apart g

instance : DecidableRel Field.Stranger := fun _ _ => inferInstanceAs (Decidable (_ ∧ _))

/-- How data of a sort is spelled: whether each object in it gives a field under one name only, and
what becomes of it when names of fields are switched. -/
structure Spelling where
  once : Value → Prop
  switched : Value → Value → Prop

namespace Spelling

def free : Spelling where
  once _ := True
  switched v w := w = v

def list (s : Spelling) : Spelling where
  once v := ∀ vs, v = .list vs → ∀ v ∈ vs, s.once v
  switched v w := w = v ∨ ∃ vs ws, v = .list vs ∧ w = .list ws ∧ List.Forall₂ s.switched vs ws

/-- What stands under a key is spelled as the field asks that the key names. What no field takes
holds no names of fields. -/
def under (parts : List (Field × Spelling)) (key : String) : Spelling :=
  ((parts.find? fun p => p.1.Names key).map Prod.snd).getD free

end Spelling

def Switches (fields : List Field) (names : Table String) : Prop :=
  ∀ p ∈ names, ∃ f ∈ fields, p = (f.name, f.documentName) ∨ p = (f.documentName, f.name)

def switchedKey (names : Table String) (key : String) : String := (names.get? key).getD key

/-- The table gives no field under both its names, nor does anything that a field holds. -/
structure Once (parts : List (Field × Spelling)) (ms : Table Value) : Prop where
  one : ∀ p ∈ parts, p.1.name ∈ ms.keys → p.1.documentName ∈ ms.keys →
    p.1.name = p.1.documentName
  inside : ∀ m ∈ ms, (Spelling.under parts m.1).once m.2

/-- A member with its key switched, and with names switched in what it holds. -/
structure Respelled (parts : List (Field × Spelling)) (names : Table String)
    (m n : String × Value) : Prop where
  key : n.1 = switchedKey names m.1
  held : (Spelling.under parts m.1).switched m.2 n.2

namespace Spelling

def ofParts (parts : List (Field × Spelling)) : Spelling where
  once v := ∀ ms : Table Value, v = .object ms → Once parts ms
  switched v w := w = v ∨ ∃ ms ns names : Table _, v = .object ms ∧ w = .object ns ∧
    Switches (parts.map Prod.fst) names ∧ List.Forall₂ (Respelled parts names) ms ns

def told (sort : Value → Spelling) : Spelling where
  once v := (sort v).once v
  switched v := (sort v).switched v

/-- Reading gives the same from data when names in it are switched, or fails both times. -/
def Indifferent {α : Type} (s : Spelling) (read : Value → Checked α) : Prop :=
  ∀ v w, s.once v → s.switched v w → ∀ a, read v = .good a ↔ read w = .good a

/-- As `Indifferent`, for reading parts of a record from its members; no two fields of the record
have a name in common. -/
def Follows {α : Type} (parts : List (Field × Spelling)) (get : Table Value → Checked α) : Prop :=
  (parts.map Prod.fst).Pairwise Field.Stranger →
    ∀ ms ns names, Once parts ms → Switches (parts.map Prod.fst) names →
      List.Forall₂ (Respelled parts names) ms ns → ∀ a, get ms = .good a ↔ get ns = .good a

end Spelling

instance (fields : List Field) (names : Table String) : Decidable (Switches fields names) :=
  inferInstanceAs (Decidable (∀ p ∈ names, ∃ f ∈ fields, _ ∨ _))

namespace Spelling

variable {s : Spelling} {parts : List (Field × Spelling)} {ms ns : Table Value}
  {vs ws : List Value}

theorem once_list (h : ∀ v ∈ vs, s.once v) : (list s).once (.list vs) := by
  intro us same
  cases same
  exact h

theorem once_ofParts (h : Once parts ms) : (ofParts parts).once (.object ms) := by
  intro ns same
  cases same
  exact h

theorem switched_list (h : List.Forall₂ s.switched vs ws) :
    (list s).switched (.list vs) (.list ws) :=
  .inr ⟨vs, ws, rfl, rfl, h⟩

theorem switched_ofParts (names : Table String) (switches : Switches (parts.map Prod.fst) names)
    (h : List.Forall₂ (Respelled parts names) ms ns) :
    (ofParts parts).switched (.object ms) (.object ns) :=
  .inr ⟨ms, ns, names, rfl, rfl, switches, h⟩

end Spelling

section

variable {f : Field} {fields : List Field} {ms ns : Table Value} {key : String}
  {names : Table String} {s : Spelling} {parts : List (Field × Spelling)}

theorem Field.Stranger.not_names {g : Field} (h : f.Stranger g) (named : f.Names key) :
    ¬g.Names key := by
  obtain ⟨own, document, own', document'⟩ := h
  rintro (rfl | rfl) <;> rcases named with same | same
  · exact own same.symm
  · exact own' same.symm
  · exact document' same.symm
  · exact document same.symm

instance : Std.Symm Field.Stranger := ⟨fun _ _ h => ⟨h.1.symm, h.2.symm⟩⟩

theorem eq_of_names {g : Field} (strange : fields.Pairwise Field.Stranger) (mem : f ∈ fields)
    (mem' : g ∈ fields) (named : f.Names key) (named' : g.Names key) : f = g := by
  by_contra other
  exact (strange.forall mem mem' other).not_names named named'

theorem Spelling.under_eq (strange : (parts.map Prod.fst).Pairwise Field.Stranger)
    (mem : (f, s) ∈ parts) (named : f.Names key) : Spelling.under parts key = s := by
  have : Std.Symm fun p q : Field × Spelling => p.1.Stranger q.1 := ⟨fun _ _ h => symm h⟩
  rw [Spelling.under]
  cases found : parts.find? fun p => p.1.Names key with
  | none =>
      have unnamed := List.find?_eq_none.mp found _ mem
      exact absurd (decide_eq_true named) unnamed
  | some p =>
      have named' : p.1.Names key := by simpa using List.find?_some found
      have same : p = (f, s) := by
        by_contra other
        have strangers := (List.pairwise_map.mp strange).forall (List.mem_of_find?_eq_some found)
          mem other
        exact strangers.not_names named' named
      rw [same]
      rfl

theorem Switches.names_iff (h : Switches fields names) (strange : fields.Pairwise Field.Stranger)
    (mem : f ∈ fields) : f.Names (switchedKey names key) ↔ f.Names key := by
  rw [switchedKey]
  cases found : names.get? key with
  | none => exact Iff.rfl
  | some other =>
      obtain ⟨g, mem', pair⟩ := h _ (Table.mem_of_get? found)
      have both : g.Names key ∧ g.Names other := by
        rcases pair with pair | pair <;> cases pair
        · exact ⟨.inl rfl, .inr rfl⟩
        · exact ⟨.inr rfl, .inl rfl⟩
      constructor
      · intro named
        rw [eq_of_names strange mem mem' named both.2]
        exact both.1
      · intro named
        rw [eq_of_names strange mem mem' named both.1]
        exact both.2

theorem keys_respelled (h : List.Forall₂ (Respelled parts names) ms ns) :
    ns.keys = ms.keys.map (switchedKey names) := by
  induction h with
  | nil => rfl
  | cons first _ ih => exact congrArg₂ List.cons first.key ih

/-- A table gives a field under this name, if it gives it at all. -/
structure Under (f : Field) (ms : Table Value) (key : String) : Prop where
  named : f.Names key
  only : ∀ k ∈ ms.keys, f.Names k → k = key

theorem Under.find?_eq (h : Under f ms key) : f.find? ms = (ms.last? key).map (key, ·) := by
  have absent : ∀ k, f.Names k → k ≠ key → ms.last? k = none := by
    intro k named other
    exact Table.last?_eq_none_iff.mpr fun there => other (h.only k there named)
  rw [Field.find?]
  by_cases document : f.documentName = key
  · rw [document]
    cases found : ms.last? key with
    | some v => rfl
    | none =>
        have missing : ms.last? f.name = none := by
          by_cases same : f.name = key
          · rw [same, found]
          · exact absent f.name (.inl rfl) same
        rw [missing]
        rfl
  · have own := h.named.resolve_right (Ne.symm document)
    rw [absent f.documentName (.inr rfl) document, own]

theorem Once.under (h : Once parts ms) (mem : (f, s) ∈ parts) : ∃ key, Under f ms key := by
  by_cases document : f.documentName ∈ ms.keys
  · refine ⟨f.documentName, .inr rfl, ?_⟩
    rintro k there (rfl | rfl)
    · exact h.one _ mem there document
    · rfl
  · refine ⟨f.name, .inl rfl, ?_⟩
    rintro k there (rfl | rfl)
    · rfl
    · exact absurd there document

theorem Under.respelled (h : Under f ms key) (switches : Switches (parts.map Prod.fst) names)
    (strange : (parts.map Prod.fst).Pairwise Field.Stranger) (mem : (f, s) ∈ parts)
    (respelled : List.Forall₂ (Respelled parts names) ms ns) :
    Under f ns (switchedKey names key) := by
  have named : ∀ k, f.Names (switchedKey names k) ↔ f.Names k := fun k =>
    switches.names_iff strange (List.mem_map_of_mem mem)
  refine ⟨(named key).mpr h.named, fun k there named' => ?_⟩
  rw [keys_respelled respelled] at there
  obtain ⟨k, given, rfl⟩ := List.mem_map.mp there
  exact congrArg (switchedKey names) (h.only k given ((named k).mp named'))

/-- A field is given in both spellings or in none, and what it holds is spelled in two ways. -/
theorem find?_respelled (once : Once parts ms) (switches : Switches (parts.map Prod.fst) names)
    (strange : (parts.map Prod.fst).Pairwise Field.Stranger) (mem : (f, s) ∈ parts)
    (respelled : List.Forall₂ (Respelled parts names) ms ns) :
    f.find? ms = none ∧ f.find? ns = none ∨ ∃ k v k' w, f.find? ms = some (k, v) ∧
      f.find? ns = some (k', w) ∧ s.once v ∧ s.switched v w := by
  obtain ⟨key, given⟩ := once.under mem
  have given' := given.respelled switches strange mem respelled
  have spelling := Spelling.under_eq strange mem given.named
  have alike : Option.Rel (fun v w => s.once v ∧ s.switched v w) (ms.last? key)
      (ns.last? (switchedKey names key)) := by
    refine Table.last?_rel (List.Forall₂.imp ?_
      ((List.forall₂_and_left ms ns).mpr ⟨fun m mem => mem, respelled⟩))
    rintro m n ⟨member, again⟩
    rw [again.key]
    refine ⟨⟨congrArg _, fun same => given.only m.1 (List.mem_map_of_mem member) ?_⟩, ?_⟩
    · rw [← switches.names_iff strange (List.mem_map_of_mem mem), same]
      exact given'.named
    · rintro rfl
      rw [← spelling]
      exact ⟨once.inside m member, again.held⟩
  rw [given.find?_eq, given'.find?_eq]
  generalize ms.last? key = found at alike
  generalize ns.last? (switchedKey names key) = found' at alike
  cases alike with
  | none => exact .inl ⟨rfl, rfl⟩
  | some both => exact .inr ⟨key, _, switchedKey names key, _, rfl, rfl, both⟩

theorem noExtras_eq_good_iff (under : ∀ f ∈ fields, ∃ key, Under f ms key) :
    noExtras fields ms = .good () ↔ ∀ key ∈ ms.keys, ∃ f ∈ fields, f.Names key := by
  have claimed : ∀ key ∈ ms.keys,
      (key ∈ fields.filterMap fun f => (f.find? ms).map Prod.fst) ↔ ∃ f ∈ fields, f.Names key := by
    intro key there
    rw [List.mem_filterMap]
    refine exists_congr fun f => and_congr_right fun mem => ?_
    obtain ⟨k, given⟩ := under f mem
    rw [given.find?_eq, Option.map_map]
    constructor
    · intro found
      obtain ⟨v, -, rfl⟩ := Option.map_eq_some_iff.mp found
      exact given.named
    · intro named
      obtain rfl := given.only key there named
      cases found : ms.last? key with
      | none => exact absurd there (Table.last?_eq_none_iff.mp found)
      | some v => rfl
  rw [← forall₂_congr claimed, noExtras]
  have left : unclaimed fields ms = [] ↔ ∀ key ∈ ms.keys,
      key ∈ fields.filterMap fun f => (f.find? ms).map Prod.fst := by
    rw [unclaimed, List.filter_eq_nil_iff]
    simp
  rw [← left]
  cases unclaimed fields ms <;> simp

end

namespace Spelling

variable {α β : Type} {s : Spelling} {f : Field} {parts : List (Field × Spelling)}
  {read : Value → Checked α} {get : Table Value → Checked α}

theorem Indifferent.free : free.Indifferent read := by
  rintro v w - rfl a
  exact Iff.rfl

theorem Indifferent.list (h : s.Indifferent read) : (list s).Indifferent (readList read) := by
  rintro v w once (rfl | ⟨vs, ws, rfl, rfl, switched⟩) as
  · exact Iff.rfl
  change Checked.each read 0 vs = _ ↔ Checked.each read 0 ws = _
  generalize 0 = i
  have items := once vs rfl
  clear once
  induction switched generalizing i as with
  | nil => exact Iff.rfl
  | cons first _ ih =>
      obtain ⟨one, others⟩ := List.forall_mem_cons.mp items
      have rest := fun as i => ih as i others
      simp only [Checked.each, Checked.seq_eq_good, Checked.map_eq_good, Checked.within_eq_good,
        h _ _ one first, rest]

theorem Follows.map {get : Table Value → Checked α} (h : Follows parts get) (g : α → β) :
    Follows parts fun ms => g <$> get ms := by
  intro strange ms ns names once switches respelled b
  simp only [Checked.map_eq_good, h strange ms ns names once switches respelled]

theorem Follows.seq {get : Table Value → Checked (α → β)} {get' : Table Value → Checked α}
    (h : Follows parts get) (h' : Follows parts get') :
    Follows parts fun ms => get ms <*> get' ms := by
  intro strange ms ns names once switches respelled b
  simp only [Checked.seq_eq_good, h strange ms ns names once switches respelled,
    h' strange ms ns names once switches respelled]

theorem Follows.withDefault {default : α} (mem : (f, s) ∈ parts) (h : s.Indifferent read) :
    Follows parts fun ms => f.withDefault ms default read := by
  intro strange ms ns names once switches respelled a
  rcases find?_respelled once switches strange mem respelled with
    ⟨none', none''⟩ | ⟨k, v, k', w, found, found', one, switched⟩
  · simp only [Field.withDefault, none', none'']
  · simp only [Field.withDefault, found, found', Checked.within_eq_good, h v w one switched]

theorem Follows.required (mem : (f, s) ∈ parts) (h : s.Indifferent read) :
    Follows parts fun ms => f.required ms read := by
  intro strange ms ns names once switches respelled a
  rcases find?_respelled once switches strange mem respelled with
    ⟨none', none''⟩ | ⟨k, v, k', w, found, found', one, switched⟩
  · simp only [Field.required, none', none'']
  · simp only [Field.required, found, found', Checked.within_eq_good, h v w one switched]

theorem Indifferent.ofParts {fields : List Field} (declared : parts.map Prod.fst = fields)
    (strange : fields.Pairwise Field.Stranger) (h : Follows parts get) :
    (ofParts parts).Indifferent (strictRecord fields get) := by
  subst declared
  rintro v w once (rfl | ⟨ms, ns, names, rfl, rfl, switches, respelled⟩) a
  · exact Iff.rfl
  have one := once ms rfl
  have given : ∀ f ∈ parts.map Prod.fst, ∃ key, Under f ms key := by
    intro f mem
    obtain ⟨p, part, rfl⟩ := List.mem_map.mp mem
    exact one.under part
  have given' : ∀ f ∈ parts.map Prod.fst, ∃ key, Under f ns key := by
    intro f mem
    obtain ⟨key, given⟩ := given f mem
    obtain ⟨p, part, rfl⟩ := List.mem_map.mp mem
    exact ⟨switchedKey names key, given.respelled switches strange part respelled⟩
  have extras : noExtras (parts.map Prod.fst) ms = .good () ↔
      noExtras (parts.map Prod.fst) ns = .good () := by
    rw [noExtras_eq_good_iff given, noExtras_eq_good_iff given', keys_respelled respelled,
      List.forall_mem_map]
    refine forall₂_congr fun key there => exists_congr fun f => and_congr_right fun mem => ?_
    exact (switches.names_iff strange mem).symm
  change get ms <* _ = _ ↔ get ns <* _ = _
  rw [Checked.seqLeft_eq_good, Checked.seqLeft_eq_good,
    h strange ms ns names one switches respelled]
  exact and_congr_right fun _ => exists_congr fun u => extras

end Spelling

end Schema

end Workflow
