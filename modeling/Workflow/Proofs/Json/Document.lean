import Workflow.Proofs.Json.Number
import Workflow.Proofs.Json.Text
import Workflow.Proofs.Json.Writer

/-! Documents are read back: the text of a value, laid out with gaps where gaps may stand, is read
as the value, unless its lists and objects are nested deeper or its integers are longer than the
rules allow. -/

namespace Workflow.Json

open Text

/-! Sorting the keys of a text is sorting those of the value. -/

def Style.asTheyCome (style : Style) : Style := { style with sortKeys := false }

theorem render_sorted {style : Style} (sorted : style.sortKeys = true) {v : Value} (json : v.IsJson)
    (level : Nat) : render style level v = render style.asTheyCome level v.ordered := by
  induction json generalizing level with
  | list _ ih =>
      rw [Value.ordered_list, render, render, renderItems_eq, renderItems_eq, List.map_map]
      rw [List.map_congr_left fun v mem => ih v mem (level + 1)]
      rfl
  | @object ms _ ih =>
      have texts : Table.mapValues (render style (level + 1)) ms =
          Table.mapValues (render style.asTheyCome (level + 1))
            (Table.mapValues Value.ordered ms) := by
        simpa [Table.mapValues] using fun k v mem => ih (k, v) mem (level + 1)
      rw [Value.ordered_object, render, render, renderMembers_eq, renderMembers_eq, texts,
        memberParts, memberParts, sorted, if_pos rfl, Value.orderedTable, Table.sorted_mapValues]
      rfl
  | _ => rfl

/-! Gaps, and what ends them. -/

/-- Blanks, tabs and line ends. -/
def Gap (cs : List Char) : Prop := ∀ c ∈ cs, isGap c = true

/-- The text starts with what is neither a gap nor the end of a list. -/
def Solid (cs : List Char) : Prop := ∃ c, cs.head? = some c ∧ isGap c = false ∧ c ≠ ']'

variable {cs rest : List Char}

theorem skipGap_append (gap : Gap cs) : skipGap (cs ++ rest) = skipGap rest :=
  List.dropWhile_append_of_pos gap

theorem skipGap_cons {c : Char} (h : isGap c = false) : skipGap (c :: rest) = c :: rest :=
  List.dropWhile_cons_of_neg (Bool.eq_false_iff.mp h)

theorem Solid.skipGap (h : Solid cs) : skipGap (cs ++ rest) = cs ++ rest := by
  obtain ⟨c, head, other, -⟩ := h
  obtain ⟨others, rfl⟩ := List.head?_eq_some_iff.mp head
  exact skipGap_cons other

theorem Solid.append (h : Solid cs) : Solid (cs ++ rest) := by
  obtain ⟨c, head, start⟩ := h
  exact ⟨c, by rw [List.head?_append, head, Option.some_or], start⟩

theorem gap_newline (style : Style) (level : Nat) : Gap (style.newline level) := by
  intro c mem
  unfold Style.newline at mem
  split at mem
  · cases mem
  · rcases List.mem_cons.mp mem with rfl | blank
    · rfl
    · rw [List.eq_of_mem_replicate blank]
      rfl

theorem gap_iff {c : Char} : isGap c = true ↔ c = ' ' ∨ c = '\t' ∨ c = '\n' ∨ c = '\r' := by
  simp [isGap, or_assoc]

theorem endsNumber_cons {c : Char} (other : asciiDigit? c = none)
    (h : c ≠ '.' ∧ c ≠ 'e' ∧ c ≠ 'E') : EndsNumber (c :: rest) where
  digit := endsDigits_cons other
  point := by simpa using h.1
  exponent := by simpa using h.2

theorem endsNumber_gap (gap : Gap cs) (ends : EndsNumber rest) : EndsNumber (cs ++ rest) := by
  cases cs with
  | nil => exact ends
  | cons c cs =>
      rcases gap_iff.mp (gap c List.mem_cons_self) with rfl | rfl | rfl | rfl <;>
        exact endsNumber_cons (by decide) (by decide)

/-- What a file that is read by the stricter rules is read by. -/
def Rules.strict : Rules := ⟨false, some 200, true, true⟩

theorem StartsNumber.solid (h : StartsNumber cs) : Solid cs := by
  have expected := h .strict
  cases cs with
  | nil => exact absurd rfl expected
  | cons c cs =>
      refine ⟨c, rfl, ?_, ?_⟩
      · by_contra gap
        rcases gap_iff.mp (Bool.not_eq_false _ ▸ gap) with rfl | rfl | rfl | rfl <;>
          exact expected rfl
      · rintro rfl
        exact expected rfl

theorem endsNumber_nil : EndsNumber [] where
  digit _ first := by cases first
  point := by simp
  exponent := by simp

theorem solid_render {v : Value} (json : v.IsJson) (style : Style) (level : Nat) :
    Solid (render style level v) := by
  have start : ∀ {c : Char} {others : List Char}, isGap c = false → c ≠ ']' →
      Solid (c :: others) := fun other ne => ⟨_, rfl, other, ne⟩
  cases json with
  | null => exact start rfl (by decide)
  | bool b => cases b <;> exact start rfl (by decide)
  | int i =>
      have number := startsNumber_integer i endsNumber_nil
      rw [List.append_nil] at number
      exact number.solid
  | double finite =>
      have number := startsNumber_render finite endsNumber_nil
      rw [List.append_nil] at number
      exact number.solid
  | text s => exact start rfl (by decide)
  | list _ =>
      rw [render, enclosed]
      split <;> exact start rfl (by decide)
  | object _ =>
      rw [render, enclosed]
      split <;> exact start rfl (by decide)

theorem StartsNumber.unmarked (h : StartsNumber cs) : cs.head? ≠ some '\ufeff' := by
  intro mark
  obtain ⟨others, rfl⟩ := List.head?_eq_some_iff.mp mark
  exact h .strict rfl

theorem unmarked_render {v : Value} (json : v.IsJson) (style : Style) (level : Nat) :
    (render style level v).head? ≠ some '\ufeff' := by
  cases json with
  | null => exact (by decide : "null".toList.head? ≠ some '\ufeff')
  | bool b => cases b <;> exact nofun
  | int i =>
      have number := startsNumber_integer i endsNumber_nil
      rw [List.append_nil] at number
      exact number.unmarked
  | double finite =>
      have number := startsNumber_render finite endsNumber_nil
      rw [List.append_nil] at number
      exact number.unmarked
  | text s => exact (by decide : some '"' ≠ some '\ufeff')
  | list _ =>
      rw [render, enclosed]
      split <;> exact (by decide : some '[' ≠ some '\ufeff')
  | object _ =>
      rw [render, enclosed]
      split <;> exact (by decide : some '\x7b' ≠ some '\ufeff')

/-! A reading comes to what was written, or to a fault where the rules do not let that pass. -/

/-- The outcome where something was written: it is read if it is admitted, and refused if not. -/
structure Outcome {α : Type} (admitted : Prop) (result : Except Fault α) (found : α) : Prop where
  ok : admitted → result = .ok found
  fault : ¬ admitted → ∃ fault, result = .error fault

section

variable {α β : Type} {admitted other : Prop} {result : Except Fault α} {found : α}

theorem Outcome.map (h : Outcome admitted result found) (f : α → β) :
    Outcome admitted (result.map f) (f found) where
  ok admits := by rw [h.ok admits]; rfl
  fault refused := by
    obtain ⟨fault, error⟩ := h.fault refused
    exact ⟨fault, by rw [error]; rfl⟩

theorem Outcome.congr (h : Outcome admitted result found) (same : admitted ↔ other) :
    Outcome other result found := propext same ▸ h

theorem outcome_of_ok (h : result = .ok found) (always : admitted) :
    Outcome admitted result found := ⟨fun _ => h, fun refused => absurd always refused⟩

theorem outcome_of_fault {fault : Fault} (h : result = .error fault) (never : ¬ admitted) :
    Outcome admitted result found := ⟨fun admits => absurd admits never, fun _ => ⟨fault, h⟩⟩

end

def Rules.AdmitsDepth (rules : Rules) (depth : Nat) : Prop :=
  ∀ limit, rules.depth = some limit → depth ≤ limit

/-- The rules let a value pass: it is not nested too deep, and none of its integers is too long. -/
def Rules.Admits (rules : Rules) (v : Value) : Prop :=
  rules.AdmitsDepth v.depth ∧ v.hasInteger rules.isLong = false

structure Rules.Alike (inner rules : Rules) : Prop where
  repeated : inner.keepsRepeated = rules.keepsRepeated
  sign : inner.countsSign = rules.countsSign

namespace Rules

variable {α : Type} {rules inner : Rules} {depth : Nat} {others : Prop} {found : α}
  {text : List Char} {read : Rules → Except Fault α} {vs : List Value} {ms : Table Value}

theorem admitsDepth_zero (rules : Rules) : rules.AdmitsDepth 0 := fun _ _ => Nat.zero_le _

theorem Alike.isLong_eq (h : inner.Alike rules) : inner.isLong = rules.isLong := by
  funext i
  rw [isLong, isLong, h.sign]

theorem outcome_inner (h : ∀ inner : Rules, inner.Alike rules →
      Outcome (inner.AdmitsDepth depth ∧ others) (read inner) found) :
    Outcome (rules.AdmitsDepth (depth + 1) ∧ others) (rules.inner text >>= read) found := by
  obtain ⟨lone, limit, repeated, sign⟩ := rules
  cases limit with
  | none =>
      have free : ∀ n, AdmitsDepth ⟨lone, none, repeated, sign⟩ n :=
        fun _ _ limited => nomatch limited
      exact (h ⟨lone, none, repeated, sign⟩ ⟨rfl, rfl⟩).congr
        (and_congr_left' (iff_of_true (free _) (free _)))
  | some limit =>
      cases limit with
      | zero => exact outcome_of_fault rfl fun admits => Nat.not_succ_le_zero _ (admits.1 0 rfl)
      | succ limit =>
          have one : AdmitsDepth ⟨lone, some limit, repeated, sign⟩ depth ↔
              AdmitsDepth ⟨lone, some (limit + 1), repeated, sign⟩ (depth + 1) := by
            simp [AdmitsDepth]
          exact (h ⟨lone, some limit, repeated, sign⟩ ⟨rfl, rfl⟩).congr (and_congr_left' one)

theorem admits_items (alike : inner.Alike rules) :
    (∀ v ∈ vs, inner.Admits v) ↔ inner.AdmitsDepth (Value.depthOfItems vs) ∧
      Value.anyHasInteger rules.isLong vs = false := by
  simp only [Admits, AdmitsDepth, Value.depthOfItems_le_iff, Value.anyHasInteger_eq_false_iff,
    alike.isLong_eq]
  exact ⟨fun h => ⟨fun l e v mem => (h v mem).1 l e, fun v mem => (h v mem).2⟩,
    fun h v mem => ⟨fun l e => h.1 l e v mem, h.2 v mem⟩⟩

theorem admits_members (alike : inner.Alike rules) :
    (∀ m ∈ ms, inner.Admits m.2) ↔ inner.AdmitsDepth (Value.depthOfMembers ms) ∧
      Value.anyMemberHasInteger rules.isLong ms = false := by
  simp only [Admits, AdmitsDepth, Value.depthOfMembers_le_iff,
    Value.anyMemberHasInteger_eq_false_iff, alike.isLong_eq]
  exact ⟨fun h => ⟨fun l e m mem => (h m mem).1 l e, fun m mem => (h m mem).2⟩,
    fun h m mem => ⟨fun l e => h.1 l e m mem, h.2 m mem⟩⟩

end Rules

/-- The rules keep the members of every object in the value: they keep all members, or there is
nothing that could be dropped, since no object repeats a key. -/
def Rules.Keeps (rules : Rules) (v : Value) : Prop := rules.keepsRepeated = true ∨ v.Settled

namespace Rules.Keeps

variable {rules inner : Rules} {v : Value} {vs : List Value} {ms : Table Value}

theorem members (h : rules.Keeps (.object ms)) : rules.members ms = ms := by
  rw [Rules.members]
  split
  · rfl
  · rename_i drops
    have settled := h.resolve_left drops
    exact Table.ofList_of_distinct (Value.settled_object_iff.mp settled).1

theorem inside (h : rules.Keeps v) (alike : inner.Alike rules) : inner.Keeps v := by
  rwa [Keeps, alike.repeated]

theorem item (h : rules.Keeps (.list vs)) (mem : v ∈ vs) : rules.Keeps v :=
  h.imp_right fun settled => Value.settled_list_iff.mp settled v mem

theorem member {m : String × Value} (h : rules.Keeps (.object ms)) (mem : m ∈ ms) :
    rules.Keeps m.2 :=
  h.imp_right fun settled => (Value.settled_object_iff.mp settled).2 m mem

end Rules.Keeps

/-! Elements of a list and members of an object are read alike: one after the other with commas
between them, up to the closing bracket. -/

theorem head_intercalate {a : List Char} {c : Char} (h : a.head? = some c) (sep : List Char)
    (l : List (List Char)) : (List.intercalate sep (a :: l)).head? = some c := by
  cases l with
  | nil => simpa [List.intercalate] using h
  | cons b l =>
      rw [List.intercalate_cons_cons, List.append_assoc, List.head?_append, h, Option.some_or]

theorem solid_intercalate {a : List Char} (solid : Solid a) (sep : List Char)
    (l : List (List Char)) : Solid (List.intercalate sep (a :: l)) := by
  obtain ⟨c, head, start⟩ := solid
  exact ⟨c, head_intercalate head sep l, start⟩

section

variable {α : Type} {seq : Nat → List Char → Except Fault (List α × List Char)} {close : Char}
  {admits : α → Prop} {text : α → List Char}

/-- Where a part is written, a reader of parts reads it, and then goes by what follows. -/
structure ReadsPart (seq : Nat → List Char → Except Fault (List α × List Char)) (close : Char)
    (admitted : Prop) (a : α) (text : List Char) : Prop where
  solid : Solid text
  fault : ∀ fuel rest, EndsNumber rest → 2 * text.length + 1 ≤ fuel → ¬ admitted →
    ∃ fault, seq (fuel + 1) (text ++ rest) = .error fault
  last : ∀ fuel rest after, EndsNumber rest → 2 * text.length + 1 ≤ fuel → admitted →
    skipGap rest = close :: after → seq (fuel + 1) (text ++ rest) = .ok ([a], after)
  next : ∀ fuel rest after, EndsNumber rest → 2 * text.length + 1 ≤ fuel → admitted →
    skipGap rest = ',' :: after → seq (fuel + 1) (text ++ rest) =
      (seq fuel (skipGap after)).map fun found => (a :: found.1, found.2)

theorem ReadsPart.outcome_last {admitted : Prop} {a : α} {part outer : List Char}
    (h : ReadsPart seq close admitted a part) (back : Gap outer) (gap' : isGap close = false)
    (closed : EndsNumber (close :: rest)) {fuel : Nat} (enough : 2 * part.length + 1 ≤ fuel) :
    Outcome admitted (seq (fuel + 1) (part ++ (outer ++ close :: rest))) ([a], rest) := by
  have ends := endsNumber_gap back closed
  have follows : skipGap (outer ++ close :: rest) = close :: rest := by
    rw [skipGap_append back, skipGap_cons gap']
  exact ⟨fun ok => h.last fuel _ _ ends enough ok follows, h.fault fuel _ ends enough⟩

/-- Any other part is read up to its comma, and then those behind it. -/
theorem ReadsPart.outcome_next {admitted others : Prop} {a : α} {as : List α}
    {part between tail after : List Char} (h : ReadsPart seq close admitted a part)
    (gap : Gap between) (solid : Solid tail) {fuel : Nat} (enough : 2 * part.length + 1 ≤ fuel)
    (more : Outcome others (seq fuel (tail ++ after)) (as, rest)) :
    Outcome (admitted ∧ others) (seq (fuel + 1) (part ++ ',' :: (between ++ (tail ++ after))))
      (a :: as, rest) := by
  have ends : EndsNumber (',' :: (between ++ (tail ++ after))) :=
    endsNumber_cons (by decide) (by decide)
  by_cases ok : admitted
  · rw [h.next fuel _ _ ends enough ok (skipGap_cons rfl), skipGap_append gap, solid.skipGap]
    exact (more.map _).congr (and_iff_right ok).symm
  · obtain ⟨fault, error⟩ := h.fault fuel _ ends enough ok
    exact outcome_of_fault error fun both => ok both.1

theorem outcome_parts {as : List α} {between outer : List Char} (gap : Gap between)
    (back : Gap outer) (gap' : isGap close = false) (closed : EndsNumber (close :: rest))
    (some' : as ≠ []) (each : ∀ a ∈ as, ReadsPart seq close (admits a) a (text a)) (fuel : Nat)
    (enough : 2 * (List.intercalate (',' :: between) (as.map text)).length + 2 ≤ fuel) :
    Outcome (∀ a ∈ as, admits a) (seq fuel (List.intercalate (',' :: between) (as.map text) ++
      (outer ++ close :: rest))) (as, rest) := by
  induction as generalizing fuel with
  | nil => exact absurd rfl some'
  | cons a as ih =>
      obtain ⟨fuel, rfl⟩ := Nat.exists_eq_succ_of_ne_zero (Nat.ne_zero_of_lt enough)
      obtain ⟨part, others⟩ := List.forall_mem_cons.mp each
      cases as with
      | nil =>
          rw [List.map_singleton, List.intercalate_singleton] at enough ⊢
          rw [List.forall_mem_singleton]
          exact part.outcome_last back gap' closed (by omega)
      | cons b as =>
          have more := ih (List.cons_ne_nil b as) others fuel
          have solid := solid_intercalate (others b List.mem_cons_self).solid (',' :: between)
            (as.map text)
          rw [List.map_cons, List.map_cons, List.intercalate_cons_cons] at enough ⊢
          rw [List.map_cons] at more
          generalize List.intercalate (',' :: between) (text b :: as.map text) = tail
            at enough more solid ⊢
          simp only [List.length_append, List.length_cons] at enough
          rw [List.append_assoc, List.append_assoc, List.cons_append]
          refine (part.outcome_next gap solid (by omega) (more (by omega))).congr ?_
          exact List.forall_mem_cons.symm

end

section

variable {fuel : Nat} {rules : Rules} {v : Value} {vs : List Value} {ms : Table Value}
  {text r body : List Char} {style : Style} {level : Nat}

/-- Where a value is written, it is read if it is admitted. -/
def Readable (style : Style) (rules : Rules) (level : Nat) (v : Value) : Prop :=
  ∀ fuel rest, EndsNumber rest → 2 * (render style level v).length + 1 ≤ fuel →
    Outcome (rules.Admits v) (readValue fuel rules (render style level v ++ rest)) (v, rest)

theorem readsPart_item (json : v.IsJson) (readable : Readable style rules level v) :
    ReadsPart (fun fuel => readItems fuel rules) ']' (rules.Admits v) v
      (render style level v) where
  solid := solid_render json style level
  fault fuel rest ends enough refused := by
    obtain ⟨fault, error⟩ := (readable fuel rest ends enough).fault refused
    refine ⟨fault, ?_⟩
    rw [readItems, error]
    rfl
  last fuel rest after ends enough admitted follows := by
    rw [readItems, (readable fuel rest ends enough).ok admitted]
    simp only [bind, Except.bind, follows]
    rfl
  next fuel rest after ends enough admitted follows := by
    rw [readItems, (readable fuel rest ends enough).ok admitted]
    simp only [bind, Except.bind, follows]
    cases readItems fuel rules (skipGap after) <;> rfl

def memberText (style : Style) (level : Nat) (m : String × Value) : List Char :=
  writtenText style.asciiOnly m.1 ++ style.colon.toList ++ render style level m.2

theorem readMembers_memberText {m : String × Value} {space : List Char}
    (colon : style.colon.toList = ':' :: space) (gap : Gap space) (json : m.2.IsJson) :
    ∃ body, memberText style level m ++ rest = '"' :: body ∧
      ∃ after, readText rules body = .ok (m.1, ':' :: after) ∧
        skipGap after = render style level m.2 ++ rest := by
  obtain ⟨body, shape, read⟩ := readText_writtenText rules style.asciiOnly m.1
    (':' :: (space ++ (render style level m.2 ++ rest)))
  refine ⟨body, ?_, _, read, ?_⟩
  · rw [← shape, memberText, colon]
    simp
  · rw [skipGap_append gap, (solid_render json style level).skipGap]

theorem readsPart_member {m : String × Value} {space : List Char}
    (colon : style.colon.toList = ':' :: space) (gap : Gap space) (json : m.2.IsJson)
    (readable : Readable style rules level m.2) :
    ReadsPart (fun fuel => readMembers fuel rules) '\x7d' (rules.Admits m.2) m
      (memberText style level m) := by
  have shorter : (render style level m.2).length ≤ (memberText style level m).length := by
    rw [memberText, List.length_append]
    exact Nat.le_add_left _ _
  refine ⟨⟨'"', rfl, rfl, by decide⟩, ?_, ?_, ?_⟩
  · intro fuel rest ends enough refused
    obtain ⟨body, shape, after, key, value⟩ := readMembers_memberText colon gap json
    obtain ⟨fault, error⟩ := (readable fuel rest ends (by omega)).fault refused
    refine ⟨fault, ?_⟩
    rw [shape, readMembers, key]
    simp only [bind, Except.bind, skipGap_cons (show isGap ':' = false from rfl), value, error]
  · intro fuel rest after ends enough admitted follows
    obtain ⟨body, shape, after, key, value⟩ := readMembers_memberText colon gap json
    rw [shape, readMembers, key]
    simp only [bind, Except.bind, skipGap_cons (show isGap ':' = false from rfl), value,
      (readable fuel rest ends (by omega)).ok admitted, follows]
    rfl
  · intro fuel rest after ends enough admitted follows
    obtain ⟨body, shape, after', key, value⟩ := readMembers_memberText colon gap json
    rw [shape, readMembers, key]
    simp only [bind, Except.bind, skipGap_cons (show isGap ':' = false from rfl), value,
      (readable fuel rest ends (by omega)).ok admitted, follows]
    cases readMembers fuel rules (skipGap after) <;> rfl

end

structure Style.Legible (style : Style) : Prop where
  comma : ∃ gap, style.comma.toList = ',' :: gap ∧ Gap gap
  colon : ∃ gap, style.colon.toList = ':' :: gap ∧ Gap gap

section

variable {fuel : Nat} {rules : Rules} {v : Value} {vs : List Value} {ms : Table Value}
  {text r body : List Char} {style : Style} {level : Nat}

theorem enclosed_append (level : Nat) (first last : Char) {parts : List (List Char)}
    {gap : List Char} (comma : style.comma.toList = ',' :: gap) (some' : parts ≠ [])
    (rest : List Char) :
    enclosed style level first last parts ++ rest =
      first :: (style.newline (level + 1) ++
        (List.intercalate (',' :: (gap ++ style.newline (level + 1))) parts ++
          (style.newline level ++ last :: rest))) := by
  have full : parts.isEmpty = false := by simpa using some'
  simp [enclosed, full, comma]

theorem length_enclosed (level : Nat) (first last : Char) {parts : List (List Char)}
    {gap : List Char} (comma : style.comma.toList = ',' :: gap) (some' : parts ≠ []) :
    (List.intercalate (',' :: (gap ++ style.newline (level + 1))) parts).length + 2 ≤
      (enclosed style level first last parts).length := by
  have whole := enclosed_append level first last comma some' []
  rw [List.append_nil] at whole
  rw [whole]
  simp only [List.length_cons, List.length_append]
  omega

theorem readValue_list (start : skipGap body = text) (solid : Solid text) :
    readValue (fuel + 1) rules ('[' :: body) =
      rules.inner text >>= fun inner =>
        (readItems fuel inner text).map fun found => (Value.list found.1, found.2) := by
  obtain ⟨c, head, -, ne⟩ := solid
  rw [readValue, start]
  split
  · exact absurd (Option.some.inj head).symm ne
  · cases rules.inner text with
    | error fault => rfl
    | ok inner =>
        simp only [bind, Except.bind]
        cases readItems fuel inner text <;> rfl

theorem readValue_object (start : skipGap body = text) (key : text.head? = some '"') :
    readValue (fuel + 1) rules ('\x7b' :: body) =
      rules.inner text >>= fun inner =>
        (readMembers fuel inner text).map fun found =>
          (Value.object (inner.members found.1), found.2) := by
  rw [readValue, start]
  split
  · cases key
  · cases rules.inner text with
    | error fault => rfl
    | ok inner =>
        simp only [bind, Except.bind]
        cases readMembers fuel inner text <;> rfl

theorem readable_list (legible : style.Legible) (json : ∀ v ∈ vs, v.IsJson)
    (each : ∀ v ∈ vs, ∀ inner : Rules, inner.Alike rules → Readable style inner (level + 1) v) :
    Readable style rules level (.list vs) := by
  intro fuel rest ends enough
  obtain ⟨fuel, rfl⟩ := Nat.exists_eq_succ_of_ne_zero (Nat.ne_zero_of_lt enough)
  obtain ⟨gap, comma, gaps⟩ := legible.comma
  rw [render, renderItems_eq] at enough ⊢
  by_cases none' : vs = []
  · subst none'
    exact outcome_of_ok rfl ⟨Rules.admitsDepth_zero rules, rfl⟩
  · have parts : vs.map (render style (level + 1)) ≠ [] := by simpa using none'
    have long := length_enclosed level '[' ']' comma parts
    have front := gap_newline style (level + 1)
    have between : Gap (gap ++ style.newline (level + 1)) :=
      List.forall_mem_append.mpr ⟨gaps, front⟩
    have depth : Value.depth (.list vs) = Value.depthOfItems vs + 1 := by
      simp [Value.depth, none']
    have solid : Solid (List.intercalate (',' :: (gap ++ style.newline (level + 1)))
        (vs.map (render style (level + 1)))) := by
      obtain ⟨v, others, rfl⟩ := List.exists_cons_of_ne_nil none'
      exact solid_intercalate (solid_render (json v List.mem_cons_self) style _) _ _
    have room : 2 * (List.intercalate (',' :: (gap ++ style.newline (level + 1)))
        (vs.map (render style (level + 1)))).length + 2 ≤ fuel := by omega
    rw [enclosed_append level _ _ comma parts, Rules.Admits, depth, Value.hasInteger, readValue_list
      ((skipGap_append front).trans solid.skipGap) solid.append]
    refine Rules.outcome_inner fun inner alike => ?_
    have closed : EndsNumber (']' :: rest) := endsNumber_cons (by decide) (by decide)
    have items := outcome_parts between (gap_newline style level) rfl closed none'
      (fun v mem => readsPart_item (json v mem) (each v mem inner alike)) fuel room
    exact (items.congr (Rules.admits_items alike)).map fun found => (Value.list found.1, found.2)

theorem readable_object (legible : style.Legible) (unsorted : style.sortKeys = false)
    (keeps : rules.Keeps (.object ms)) (json : ∀ m ∈ ms, m.2.IsJson)
    (each : ∀ m ∈ ms, ∀ inner : Rules, inner.Alike rules → Readable style inner (level + 1) m.2) :
    Readable style rules level (.object ms) := by
  intro fuel rest ends enough
  obtain ⟨fuel, rfl⟩ := Nat.exists_eq_succ_of_ne_zero (Nat.ne_zero_of_lt enough)
  obtain ⟨gap, comma, gaps⟩ := legible.comma
  obtain ⟨space, colon, spaces⟩ := legible.colon
  have texts : memberParts style (renderMembers style (level + 1) ms) =
      ms.map (memberText style (level + 1)) := by
    rw [renderMembers_eq, memberParts, unsorted]
    simp [Table.mapValues, memberText]
  rw [render, texts] at enough ⊢
  by_cases none' : ms = []
  · subst none'
    exact outcome_of_ok rfl ⟨Rules.admitsDepth_zero rules, rfl⟩
  · have parts : ms.map (memberText style (level + 1)) ≠ [] := by simpa using none'
    have long := length_enclosed level '\x7b' '\x7d' comma parts
    have front := gap_newline style (level + 1)
    have between : Gap (gap ++ style.newline (level + 1)) :=
      List.forall_mem_append.mpr ⟨gaps, front⟩
    have depth : Value.depth (.object ms) = Value.depthOfMembers ms + 1 := by
      simp [Value.depth, none']
    have key : (List.intercalate (',' :: (gap ++ style.newline (level + 1)))
        (ms.map (memberText style (level + 1)))).head? = some '"' := by
      obtain ⟨m, others, rfl⟩ := List.exists_cons_of_ne_nil none'
      exact head_intercalate rfl _ _
    have solid : Solid _ := ⟨'"', key, rfl, by decide⟩
    have room : 2 * (List.intercalate (',' :: (gap ++ style.newline (level + 1)))
        (ms.map (memberText style (level + 1)))).length + 2 ≤ fuel := by omega
    rw [enclosed_append level _ _ comma parts, Rules.Admits, depth, Value.hasInteger, readValue_object
      ((skipGap_append front).trans solid.skipGap) (by simp [key])]
    refine Rules.outcome_inner fun inner alike => ?_
    have closed : EndsNumber ('\x7d' :: rest) := endsNumber_cons (by decide) (by decide)
    have members := outcome_parts between (gap_newline style level) rfl closed none'
      (fun m mem => readsPart_member colon spaces (json m mem) (each m mem inner alike)) fuel room
    have all : inner.members ms = ms := (keeps.inside alike).members
    have read := (members.congr (Rules.admits_members alike)).map fun found =>
      (Value.object (inner.members found.1), found.2)
    rwa [all] at read

end

section

variable {style : Style} {rules : Rules} {level : Nat} {v : Value}

/-- What holds nothing and is no integer is read wherever it may stand. -/
theorem readable_atom (flat : v.depth = 0) (other : v.hasInteger rules.isLong = false)
    (read : ∀ fuel rest, EndsNumber rest →
      readValue (fuel + 1) rules (render style level v ++ rest) = .ok (v, rest)) :
    Readable style rules level v := by
  intro fuel rest ends enough
  obtain ⟨fuel, rfl⟩ := Nat.exists_eq_succ_of_ne_zero (Nat.ne_zero_of_lt enough)
  exact outcome_of_ok (read fuel rest ends) ⟨flat ▸ Rules.admitsDepth_zero rules, other⟩

theorem StartsNumber.readValue_eq {fuel : Nat} (h : StartsNumber cs) :
    readValue (fuel + 1) rules cs = readNumber rules cs := by
  rw [readValue]
  · exact h.readAtom_eq rules
  all_goals
    rintro body rfl
    exact h .strict rfl

theorem readable_int (i : Int) : Readable style rules level (.int i) := by
  intro fuel rest ends enough
  obtain ⟨fuel, rfl⟩ := Nat.exists_eq_succ_of_ne_zero (Nat.ne_zero_of_lt enough)
  have admits : rules.Admits (.int i) ↔ ¬ rules.isLong i = true := by
    rw [Rules.Admits, Value.hasInteger, Bool.not_eq_true]
    exact and_iff_right (Rules.admitsDepth_zero rules)
  rw [render, (startsNumber_integer i ends).readValue_eq, readNumber_integer rules i ends, admits]
  exact ⟨fun short => if_neg short, fun long => ⟨_, if_pos (not_not.mp long)⟩⟩

theorem readable_double {x : Double} (finite : x.isFinite = true) :
    Readable style rules level (.double x) := by
  refine readable_atom rfl rfl fun fuel rest ends => ?_
  rw [render, (startsNumber_render finite ends).readValue_eq, readNumber_render rules finite ends]

theorem readable_text (s : String) : Readable style rules level (.text s) := by
  refine readable_atom rfl rfl fun fuel rest _ => ?_
  obtain ⟨body, shape, read⟩ := readText_writtenText rules style.asciiOnly s rest
  rw [render, shape, readValue, read]
  rfl

/-- Every value that a document can hold is read where it is written. -/
theorem readable (legible : style.Legible) (unsorted : style.sortKeys = false) (json : v.IsJson)
    (keeps : rules.Keeps v) (level : Nat) : Readable style rules level v := by
  induction json generalizing level rules with
  | null => exact readable_atom rfl rfl fun _ _ _ => rfl
  | bool b => cases b <;> exact readable_atom rfl rfl fun _ _ _ => rfl
  | int i => exact readable_int i
  | double finite => exact readable_double finite
  | text s => exact readable_text s
  | list json ih =>
      exact readable_list legible json fun v mem inner alike =>
        ih v mem ((keeps.item mem).inside alike) (level + 1)
  | object json ih =>
      exact readable_object legible unsorted keeps json fun m mem inner alike =>
        ih m mem ((keeps.member mem).inside alike) (level + 1)

end

/-! A whole document. -/

section

variable {style : Style} {rules : Rules} {v : Value} {ms : Table Value}

theorem head_render_object (style : Style) (level : Nat) (ms : Table Value) :
    (render style level (.object ms)).head? = some '\x7b' := by
  rw [render, enclosed]
  split <;> rfl

/-- The text of a list or an object stands between brackets of its kind. -/
theorem render_container (container : v.isContainer = true) (style : Style) (level : Nat) :
    ∃ body, render style level v = '[' :: (body ++ [']']) ∨
      render style level v = '\x7b' :: (body ++ ['\x7d']) := by
  have between : ∀ first last parts, ∃ body,
      enclosed style level first last parts = first :: (body ++ [last]) := by
    intro first last parts
    rw [enclosed]
    split
    · exact ⟨[], rfl⟩
    · exact ⟨_, rfl⟩
  cases v with
  | list vs =>
      rw [render]
      exact (between '[' ']' _).imp fun _ => .inl
  | object ms =>
      rw [render]
      exact (between '\x7b' '\x7d' _).imp fun _ => .inr
  | cyclic ms self =>
      rw [render]
      exact (between '\x7b' '\x7d' _).imp fun _ => .inr
  | _ => cases container

theorem readDocument_render (legible : style.Legible) (unsorted : style.sortKeys = false)
    (json : v.IsJson) (keeps : rules.Keeps v) :
    Outcome (rules.Admits v) (readDocument rules (render style 0 v)) v := by
  have read := readable legible unsorted json keeps 0
    (2 * (render style 0 v).length + 2) [] endsNumber_nil (Nat.le_succ _)
  have front : skipGap (render style 0 v ++ []) = _ := (solid_render json style 0).skipGap
  rw [List.append_nil] at read front
  have start : ¬(render style 0 v).head? = some '\ufeff' := unmarked_render json style 0
  constructor
  · intro admitted
    simp only [readDocument, if_neg start, front, read.ok admitted]
    rfl
  · intro refused
    obtain ⟨fault, error⟩ := read.fault refused
    refine ⟨fault, ?_⟩
    simp only [readDocument, if_neg start, front, error]
    rfl

theorem legible_line : Style.line.Legible where
  comma := ⟨[' '], rfl, List.forall_mem_singleton.mpr rfl⟩
  colon := ⟨[' '], rfl, List.forall_mem_singleton.mpr rfl⟩

theorem read_line (json : v.IsJson) (settled : v.Settled) (short : v.hasLong = false) :
    read (String.ofList (render .line 0 v)) = .ok v := by
  have admitted : Rules.Admits ⟨true, none, false, false⟩ v :=
    And.intro (fun _ limited => nomatch limited) short
  have keeps : Rules.Keeps ⟨true, none, false, false⟩ v := .inr settled
  have document := readDocument_render legible_line rfl json keeps
  rw [read, String.toList_ofList, document.ok admitted]
  rfl

/-- By the rules for files a document is read back if they admit it. -/
theorem readStrict?_render (legible : style.Legible) (sorted : style.sortKeys = true)
    (json : Value.IsJson (.object ms)) :
    readStrict? (String.ofList (render style 0 (.object ms))) =
      if Value.depth (.object ms) ≤ 200 ∧
          Value.hasInteger Rules.strict.isLong (.object ms) = false then
        some (Value.ordered (.object ms))
      else none := by
  have plain : style.asTheyCome.Legible := ⟨legible.comma, legible.colon⟩
  have read : Outcome (Rules.strict.Admits (Value.ordered (.object ms)))
      (readDocument .strict (render style.asTheyCome 0 (Value.ordered (.object ms))))
      (Value.ordered (.object ms)) := by
    have json := json.ordered
    rw [Value.ordered_object] at json ⊢
    exact readDocument_render plain rfl json (.inl rfl)
  have admits : Rules.strict.Admits (Value.ordered (.object ms)) ↔
      Value.depth (.object ms) ≤ 200 ∧
        Value.hasInteger Rules.strict.isLong (.object ms) = false := by
    rw [Rules.Admits, Value.hasInteger_ordered, ← Value.depth_ordered_le_iff 200]
    exact and_congr_left' ⟨fun shallow => shallow 200 rfl, fun shallow _ same => by
      cases same
      exact shallow⟩
  rw [← render_sorted sorted json, admits] at read
  rw [readStrict?, String.toList_ofList]
  split
  · rename_i admitted
    exact congrArg Except.toOption (read.ok admitted)
  · rename_i refused
    obtain ⟨fault, error⟩ := read.fault refused
    exact congrArg Except.toOption error

end

end Workflow.Json
