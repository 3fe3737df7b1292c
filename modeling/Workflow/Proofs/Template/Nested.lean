import Mathlib
import Workflow.Proofs.Template
import Workflow.Proofs.Value.Order

/-! Rendering inside nested values. A value keeps its shape: what is rendered are the texts in it. A
text that is one placeholder with blanks around it becomes the value that it refers to, whose text
is what the placeholder alone is rendered as; any other text is rendered as a template. An object
that contains itself is refused. -/

namespace Workflow

/-- What a value can be refused for: a text in it, or an object that contains itself, after its
members. -/
inductive Leaf where
  | text (s : String)
  | endless
  deriving DecidableEq

namespace Value

mutual

/-- The leaves of a value, in the order in which they stand. Keys are not among them. -/
def leaves : Value → List Leaf
  | .text s => [.text s]
  | .list vs => leavesOfItems vs
  | .object ms => leavesOfMembers ms
  | .cyclic ms _ => leavesOfMembers ms ++ [.endless]
  | _ => []

def leavesOfItems : List Value → List Leaf
  | [] => []
  | v :: rest => leaves v ++ leavesOfItems rest

def leavesOfMembers : List (String × Value) → List Leaf
  | [] => []
  | (_, v) :: rest => leaves v ++ leavesOfMembers rest

end

theorem endless_mem_leavesOfItems {vs : List Value} :
    .endless ∈ leavesOfItems vs ↔ ∃ v ∈ vs, .endless ∈ v.leaves := by
  induction vs with
  | nil => simp [leavesOfItems]
  | cons v vs ih => rw [leavesOfItems, List.mem_append, ih, List.exists_mem_cons_iff]

theorem endless_mem_leavesOfMembers {ms : List (String × Value)} :
    .endless ∈ leavesOfMembers ms ↔ ∃ m ∈ ms, .endless ∈ m.2.leaves := by
  induction ms with
  | nil => simp [leavesOfMembers]
  | cons m ms ih => rw [leavesOfMembers, List.mem_append, ih, List.exists_mem_cons_iff]

theorem endless_mem_leaves {v : Value} : .endless ∈ v.leaves ↔ v.isTree = false := by
  induction v using induction with
  | plain v atom =>
      cases v with
      | list vs => cases atom
      | object ms => cases atom
      | cyclic ms self => cases atom
      | _ => simp [leaves, isTree]
  | list vs ih =>
      rw [leaves, endless_mem_leavesOfItems, isTree, ← Bool.not_eq_true, allTrees_iff]
      simp only [not_forall, exists_prop, Bool.not_eq_true]
      exact exists_congr fun v => and_congr_right fun mem => ih v mem
  | object ms ih =>
      rw [leaves, endless_mem_leavesOfMembers, isTree, ← Bool.not_eq_true, allTreeMembers_iff]
      simp only [not_forall, exists_prop, Bool.not_eq_true]
      exact exists_congr fun m => and_congr_right fun mem => ih m mem
  | cyclic ms self _ => simp [leaves, isTree]

end Value

namespace Template

open Text

/-- A text that is the placeholder of a reference with blanks around it. -/
def Alone (text body : List Char) : Prop :=
  IsReference body ∧ Padded (marked body) text

inductive LeafRendered (inputs : Inputs) (s : String) : Value → Prop where
  | reference {body : List Char} (alone : Alone s.toList body) :
      LeafRendered inputs s ((inputs.resolve? (String.ofList body)).getD .null)
  | template {t : String} (mixed : ∀ body, ¬Alone s.toList body)
      (rendered : render inputs s = .ok t) : LeafRendered inputs s (.text t)

/-- A value and what it becomes: of the same shape, with the same keys in the same order, and with
each text in it rendered. -/
inductive Rendered (inputs : Inputs) : Value → Value → Prop where
  | text {s : String} {v : Value} (leaf : LeafRendered inputs s v) : Rendered inputs (.text s) v
  | list {vs ws : List Value} (length : ws.length = vs.length)
      (items : ∀ x ∈ vs.zip ws, Rendered inputs x.1 x.2) : Rendered inputs (.list vs) (.list ws)
  | object {ms ns : List (String × Value)} (keys : ns.map Prod.fst = ms.map Prod.fst)
      (members : ∀ x ∈ ms.zip ns, Rendered inputs x.1.2 x.2.2) :
      Rendered inputs (.object ms) (.object ns)
  | other {v : Value} (text : ∀ s, v ≠ .text s) (list : ∀ vs, v ≠ .list vs)
      (object : ∀ ms, v ≠ .object ms) (ends : ∀ ms self, v ≠ .cyclic ms self) : Rendered inputs v v

/-- Why a leaf is refused: a text that is not one placeholder is refused as a template, and an
object that contains itself is gone through without end. -/
inductive LeafRefused (inputs : Inputs) : Leaf → Json.Refusal → Prop where
  | template {s : String} {r : Json.Refusal} (mixed : ∀ body, ¬Alone s.toList body)
      (refused : render inputs s = .error r) : LeafRefused inputs (.text s) r
  | endless : LeafRefused inputs .endless .endless

/-- Of some leaves, the first that is not rendered is refused. -/
def FirstRefused (inputs : Inputs) (leaves : List Leaf) (r : Json.Refusal) : Prop :=
  ∃ before leaf after, leaves = before ++ leaf :: after ∧ LeafRefused inputs leaf r ∧
    ∀ other ∈ before, ∃ s v, other = .text s ∧ LeafRendered inputs s v

variable {inputs : Inputs} {s : String} {v w : Value} {r : Json.Refusal}
  {before after body rest text : List Char} {c : Cut}

theorem trimmed_marked (body : List Char) : Trimmed (marked body) := by
  have shape : marked body = '{' :: '{' :: body ++ ['}', '}'] := rfl
  rw [shape]
  constructor
  · rintro c ⟨⟩
    decide
  · intro c last
    rw [List.getLast?_append] at last
    cases last
    decide

theorem piecesAfter_eq_nil_iff : piecesAfter 0 text = [] ↔ text = [] := by
  constructor
  · intro none'
    cases text with
    | nil => rfl
    | cons c rest =>
        rw [piecesAfter] at none'
        split at none' <;> cases none'
  · rintro rfl
    rfl

theorem pieces_eq_placeholder_iff :
    piecesAfter 0 text = [.placeholder body] ↔ IsReference body ∧ text = marked body := by
  constructor
  · intro only
    induction text using text_induction with
    | nil => cases only
    | char ch rest none' _ =>
        rw [pieces_char none'] at only
        cases only
    | placeholder other rest reference _ =>
        rw [pieces_marked reference] at only
        obtain ⟨same, none'⟩ := List.cons.inj only
        cases same
        rw [piecesAfter_eq_nil_iff.mp none', List.append_nil]
        exact ⟨reference, rfl⟩
  · rintro ⟨reference, rfl⟩
    have pieces := pieces_marked reference []
    rwa [List.append_nil] at pieces

theorem pieces_strip_iff : pieces (strip s) = [.placeholder body] ↔ Alone s.toList body := by
  rw [pieces, strip, String.toList_ofList, pieces_eq_placeholder_iff, trimBlank_eq_iff, Alone]
  exact and_congr_right fun _ => and_iff_right (trimmed_marked body)

theorem sole?_eq_some_iff {reference : String} :
    sole? s = some reference ↔ Alone s.toList reference.toList := by
  rw [← pieces_strip_iff]
  unfold sole?
  constructor
  · intro found
    split at found
    · rename_i body only
      cases found
      rw [only, String.toList_ofList]
    · cases found
  · intro only
    rw [only]
    simp

/-- A placeholder alone is rendered as the text of the value that it refers to. -/
theorem render_alone (alone : Alone s.toList body) :
    render inputs (strip s) = stringify ((inputs.resolve? (String.ofList body)).getD .null) := by
  rw [render, pieces_strip_iff.mpr alone, piecesText, pieceText, piecesText]
  show _ = referenceText inputs body
  cases referenceText inputs body with
  | error r => rfl
  | ok t => simp [bind, Except.bind, pure, Except.pure, Except.map]

theorem not_brace_of_blank {ch : Char} (blank : isBlank ch = true) : ch ≠ '{' := by
  rintro rfl
  revert blank
  decide

theorem Cut.Decomposes.behind_blanks {front : List Char}
    {fields : List (List Char × List Char)} (h : Decomposes ⟨front, fields⟩ rest)
    (blank : AllBlank before) : Decomposes ⟨before ++ front, fields⟩ (before ++ rest) := by
  induction before with
  | nil => exact h
  | cons ch before ih =>
      obtain ⟨first, others⟩ := List.forall_mem_cons.mp blank
      refine (ih others).char ?_
      unfold placeholder?
      split
      · rename_i same
        exact absurd (List.cons.inj same).1 (not_brace_of_blank first)
      · rfl

/-- A text is one placeholder just if it is taken apart into that placeholder and blanks: two
placeholders, or one and any text that is not blank, are not one. -/
theorem alone_iff (decomposes : c.Decomposes text) :
    Alone text body ↔
      AllBlank c.front ∧ ∃ after, AllBlank after ∧ c.fields = [(body, after)] := by
  constructor
  · rintro ⟨reference, before, after, front, back, rfl⟩
    have nothing : Cut.Decomposes ⟨[], []⟩ [] := Cut.decomposes_nil.mpr rfl
    have tail := (nothing.behind_blanks back).placeholder reference
    have whole := tail.behind_blanks front
    simp only [List.append_nil] at whole
    rw [← List.append_assoc] at whole
    rw [Cut.decomposes_iff.mp decomposes, ← Cut.decomposes_iff.mp whole]
    exact ⟨front, after, back, rfl⟩
  · rintro ⟨front, after, back, fields⟩
    obtain ⟨start, others⟩ := c
    dsimp only at front fields
    subst fields
    refine ⟨decomposes.references _ List.mem_cons_self, start, after, front, back, ?_⟩
    rw [← decomposes.whole]
    simp [Cut.filled]

theorem renderLeaf_of_alone (alone : Alone s.toList body) :
    renderLeaf inputs s = .ok ((inputs.resolve? (String.ofList body)).getD .null) := by
  have sole : sole? s = some (String.ofList body) := by
    rw [sole?_eq_some_iff, String.toList_ofList]
    exact alone
  rw [renderLeaf, sole]

theorem renderLeaf_of_mixed (mixed : ∀ body, ¬Alone s.toList body) :
    renderLeaf inputs s = (render inputs s).map .text := by
  have none' : sole? s = none := by
    rw [Option.eq_none_iff_forall_ne_some]
    exact fun reference sole => mixed _ (sole?_eq_some_iff.mp sole)
  rw [renderLeaf, none']

theorem renderLeaf_eq_ok_iff : renderLeaf inputs s = .ok v ↔ LeafRendered inputs s v := by
  constructor
  · intro rendered
    by_cases alone : ∃ body, Alone s.toList body
    · obtain ⟨body, alone⟩ := alone
      rw [renderLeaf_of_alone alone] at rendered
      cases rendered
      exact .reference alone
    · have mixed := not_exists.mp alone
      rw [renderLeaf_of_mixed mixed] at rendered
      cases text : render inputs s with
      | error r =>
          rw [text] at rendered
          cases rendered
      | ok t =>
          rw [text] at rendered
          cases rendered
          exact .template mixed text
  · intro leaf
    cases leaf with
    | reference alone => exact renderLeaf_of_alone alone
    | template mixed rendered =>
        rw [renderLeaf_of_mixed mixed, rendered]
        rfl

theorem renderLeaf_eq_error_iff :
    renderLeaf inputs s = .error r ↔
      (∀ body, ¬Alone s.toList body) ∧ render inputs s = .error r := by
  constructor
  · intro refused
    have mixed : ∀ body, ¬Alone s.toList body := by
      intro body alone
      rw [renderLeaf_of_alone alone] at refused
      cases refused
    rw [renderLeaf_of_mixed mixed] at refused
    refine ⟨mixed, ?_⟩
    cases text : render inputs s <;> rw [text] at refused <;> cases refused
    rfl
  · rintro ⟨mixed, refused⟩
    rw [renderLeaf_of_mixed mixed, refused]
    rfl

theorem renderItems_eq_ok_iff {vs ws : List Value} :
    renderItems inputs vs = .ok ws ↔
      List.Forall₂ (fun v w => renderValue inputs v = .ok w) vs ws := by
  induction vs generalizing ws with
  | nil => rw [renderItems, List.forall₂_nil_left_iff, Except.ok.injEq, eq_comm]
  | cons v vs ih =>
      rw [renderItems, List.forall₂_cons_left_iff]
      simp only [← ih]
      cases renderValue inputs v with
      | error r => simp [bind, Except.bind]
      | ok w =>
          cases renderItems inputs vs <;> simp [bind, Except.bind, pure, Except.pure, eq_comm]

theorem renderMembers_eq_ok_iff {ms ns : List (String × Value)} :
    renderMembers inputs ms = .ok ns ↔
      List.Forall₂ (fun m n => n.1 = m.1 ∧ renderValue inputs m.2 = .ok n.2) ms ns := by
  induction ms generalizing ns with
  | nil => rw [renderMembers, List.forall₂_nil_left_iff, Except.ok.injEq, eq_comm]
  | cons m ms ih =>
      rw [renderMembers, List.forall₂_cons_left_iff]
      simp only [← ih, Prod.exists]
      cases renderValue inputs m.2 with
      | error r => simp [bind, Except.bind]
      | ok w =>
          cases renderMembers inputs ms <;> simp [bind, Except.bind, pure, Except.pure, eq_comm]

/-- Members are matched one by one just if the keys are the same and the values are matched. -/
theorem forall₂_members_iff {R : Value → Value → Prop} {ms ns : List (String × Value)} :
    List.Forall₂ (fun m n => n.1 = m.1 ∧ R m.2 n.2) ms ns ↔
      ns.map Prod.fst = ms.map Prod.fst ∧ ∀ x ∈ ms.zip ns, R x.1.2 x.2.2 := by
  induction ms generalizing ns with
  | nil => simp
  | cons m ms ih =>
      cases ns with
      | nil => simp
      | cons n ns =>
          rw [List.forall₂_cons, ih, List.map_cons, List.map_cons, List.cons.injEq,
            List.zip_cons_cons, List.forall_mem_cons]
          exact and_and_and_comm

theorem renderValue_other (text : ∀ s, v ≠ .text s) (list : ∀ vs, v ≠ .list vs)
    (object : ∀ ms, v ≠ .object ms) (ends : ∀ ms self, v ≠ .cyclic ms self) :
    renderValue inputs v = .ok w ↔ Rendered inputs v w := by
  have same : renderValue inputs v = .ok v := by
    cases v with
    | text s => exact absurd rfl (text s)
    | list vs => exact absurd rfl (list vs)
    | object ms => exact absurd rfl (object ms)
    | cyclic ms self => exact absurd rfl (ends ms self)
    | _ => rfl
  rw [same]
  constructor
  · rintro ⟨⟩
    exact .other text list object ends
  · intro rendered
    cases rendered with
    | text _ => exact absurd rfl (text _)
    | list _ _ => exact absurd rfl (list _)
    | object _ _ => exact absurd rfl (object _)
    | other _ _ _ _ => rfl

theorem renderValue_text : renderValue inputs (.text s) = .ok w ↔ Rendered inputs (.text s) w := by
  rw [renderValue, renderLeaf_eq_ok_iff]
  constructor
  · exact .text
  · intro rendered
    cases rendered with
    | text leaf => exact leaf
    | other text _ _ _ => exact absurd rfl (text s)

theorem renderValue_list {vs : List Value}
    (items : ∀ v ∈ vs, ∀ w, renderValue inputs v = .ok w ↔ Rendered inputs v w) :
    renderValue inputs (.list vs) = .ok w ↔ Rendered inputs (.list vs) w := by
  have all : ∀ ws, renderItems inputs vs = .ok ws ↔
      vs.length = ws.length ∧ ∀ x ∈ vs.zip ws, Rendered inputs x.1 x.2 := by
    intro ws
    rw [renderItems_eq_ok_iff, List.forall₂_iff_zip, Prod.forall]
    refine and_congr_right fun _ => forall₂_congr fun v w => imp_congr_right fun mem => ?_
    exact items v (List.of_mem_zip mem).1 w
  rw [renderValue]
  constructor
  · intro rendered
    cases parts : renderItems inputs vs with
    | error r =>
        rw [parts] at rendered
        cases rendered
    | ok ws =>
        rw [parts] at rendered
        cases rendered
        obtain ⟨length, each⟩ := (all ws).mp parts
        exact .list length.symm each
  · intro rendered
    cases rendered with
    | list length each =>
        rw [(all _).mpr ⟨length.symm, each⟩]
        rfl
    | other _ list _ _ => exact absurd rfl (list vs)

theorem renderValue_object {ms : List (String × Value)}
    (members : ∀ m ∈ ms, ∀ w, renderValue inputs m.2 = .ok w ↔ Rendered inputs m.2 w) :
    renderValue inputs (.object ms) = .ok w ↔ Rendered inputs (.object ms) w := by
  have all : ∀ ns, renderMembers inputs ms = .ok ns ↔
      ns.map Prod.fst = ms.map Prod.fst ∧ ∀ x ∈ ms.zip ns, Rendered inputs x.1.2 x.2.2 := by
    intro ns
    rw [renderMembers_eq_ok_iff,
      forall₂_members_iff (R := fun v w => renderValue inputs v = .ok w)]
    refine and_congr_right fun _ => forall₂_congr fun x mem => ?_
    exact members x.1 (List.of_mem_zip mem).1 x.2.2
  rw [renderValue]
  constructor
  · intro rendered
    cases parts : renderMembers inputs ms with
    | error r =>
        rw [parts] at rendered
        cases rendered
    | ok ns =>
        rw [parts] at rendered
        cases rendered
        obtain ⟨keys, each⟩ := (all ns).mp parts
        exact .object keys each
  · intro rendered
    cases rendered with
    | object keys each =>
        rw [(all _).mpr ⟨keys, each⟩]
        rfl
    | other _ _ object _ => exact absurd rfl (object ms)

theorem renderValue_cyclic {ms : List (String × Value)} {self : String} :
    renderValue inputs (.cyclic ms self) = .ok w ↔ Rendered inputs (.cyclic ms self) w := by
  have never : renderValue inputs (.cyclic ms self) ≠ .ok w := by
    rw [renderValue]
    cases renderMembers inputs ms <;> rintro ⟨⟩
  refine iff_of_false never fun rendered => ?_
  cases rendered with
  | other _ _ _ ends => exact ends ms self rfl

theorem renderValue_eq_ok_iff : renderValue inputs v = .ok w ↔ Rendered inputs v w := by
  induction v using Value.induction generalizing w with
  | plain v atom =>
      by_cases text : ∃ s, v = .text s
      · obtain ⟨s, rfl⟩ := text
        exact renderValue_text
      · refine renderValue_other (not_exists.mp text) ?_ ?_ ?_
        · rintro vs rfl
          cases atom
        · rintro ms rfl
          cases atom
        · rintro ms self rfl
          cases atom
  | list vs ih => exact renderValue_list fun v mem w => ih v mem
  | object ms ih => exact renderValue_object fun m mem w => ih m mem
  | cyclic ms self _ => exact renderValue_cyclic

def leafRefusal? (inputs : Inputs) : Leaf → Option Json.Refusal
  | .text s => refusalOf? (renderLeaf inputs s)
  | .endless => some .endless

theorem leafRefusal?_eq_some_iff {leaf : Leaf} :
    leafRefusal? inputs leaf = some r ↔ LeafRefused inputs leaf r := by
  cases leaf with
  | text s =>
      rw [leafRefusal?, refusalOf?_eq_some_iff, renderLeaf_eq_error_iff]
      exact ⟨fun ⟨mixed, refused⟩ => .template mixed refused,
        fun | .template mixed refused => ⟨mixed, refused⟩⟩
  | endless => exact ⟨fun | rfl => .endless, fun | .endless => rfl⟩

theorem leafRefusal?_eq_none_iff {leaf : Leaf} :
    leafRefusal? inputs leaf = none ↔ ∃ s v, leaf = .text s ∧ LeafRendered inputs s v := by
  cases leaf with
  | text s =>
      rw [leafRefusal?, refusalOf?_eq_none_iff]
      simp [renderLeaf_eq_ok_iff]
  | endless => simp [leafRefusal?]

theorem refusalOf?_renderMembers {ms : List (String × Value)}
    (each : ∀ m ∈ ms, refusalOf? (renderValue inputs m.2) =
      m.2.leaves.findSome? (leafRefusal? inputs)) :
    refusalOf? (renderMembers inputs ms) =
      (Value.leavesOfMembers ms).findSome? (leafRefusal? inputs) := by
  induction ms with
  | nil => rfl
  | cons m ms ih =>
      obtain ⟨first, others⟩ := List.forall_mem_cons.mp each
      rw [renderMembers, refusalOf?_both, Value.leavesOfMembers, List.findSome?_append, first,
        ih others]

/-- A value is refused for the first leaf in it that cannot be rendered. -/
theorem refusalOf?_renderValue (inputs : Inputs) (v : Value) :
    refusalOf? (renderValue inputs v) = v.leaves.findSome? (leafRefusal? inputs) := by
  induction v using Value.induction with
  | plain v atom =>
      cases v with
      | text s => rw [renderValue, Value.leaves, List.findSome?_singleton, leafRefusal?]
      | list vs => cases atom
      | object ms => cases atom
      | cyclic ms self => cases atom
      | _ => rfl
  | list vs ih =>
      rw [renderValue, refusalOf?_map, Value.leaves]
      induction vs with
      | nil => rfl
      | cons v vs ih' =>
          obtain ⟨first, others⟩ := List.forall_mem_cons.mp ih
          rw [renderItems, refusalOf?_both, Value.leavesOfItems, List.findSome?_append, first,
            ih' others]
  | object ms ih => rw [renderValue, refusalOf?_map, Value.leaves, refusalOf?_renderMembers ih]
  | cyclic ms self ih =>
      rw [renderValue, Value.leaves, List.findSome?_append, ← refusalOf?_renderMembers ih]
      cases renderMembers inputs ms <;> rfl

theorem renderValue_eq_error_iff :
    renderValue inputs v = .error r ↔ FirstRefused inputs v.leaves r := by
  rw [← refusalOf?_eq_some_iff, refusalOf?_renderValue, List.findSome?_eq_some_iff]
  simp only [leafRefusal?_eq_some_iff, leafRefusal?_eq_none_iff]
  rfl

/-- An object that contains itself is never rendered, wherever it stands. -/
theorem renderValue_endless (endless : v.isTree = false) :
    ∃ r, renderValue inputs v = .error r := by
  have met := Value.endless_mem_leaves.mpr endless
  cases rendered : renderValue inputs v with
  | error r => exact ⟨r, rfl⟩
  | ok w =>
      have none' := (refusalOf?_renderValue inputs v).symm.trans (congrArg refusalOf? rendered)
      cases List.findSome?_eq_none_iff.mp none' _ met

/-- In a value just the texts are rendered. One that is a placeholder with blanks around it becomes
the value that it refers to, which has the text that the placeholder is rendered as; any other is
rendered as a template, and the first that cannot be is the reason why the value is refused. A text
with two placeholders, or with one and anything but blanks, is rendered as a template. A value is
also refused for an object in it that contains itself, unless a text before that is refused. -/
theorem rendered_by_leaves (inputs : Inputs) :
    (∀ v w, renderValue inputs v = .ok w ↔ Rendered inputs v w) ∧
      (∀ v r, renderValue inputs v = .error r ↔ FirstRefused inputs v.leaves r) ∧
      (∀ v : Value, .endless ∈ v.leaves ↔ v.isTree = false) ∧
      (∀ v : Value, v.isTree = false → ∃ r, renderValue inputs v = .error r) ∧
      (∀ s body, Alone s.toList body →
        render inputs (strip s) = stringify ((inputs.resolve? (String.ofList body)).getD .null)) ∧
      ∀ (text : List Char) (c : Cut), c.Decomposes text → ∀ body, Alone text body ↔
        AllBlank c.front ∧ ∃ after, AllBlank after ∧ c.fields = [(body, after)] :=
  ⟨fun _ _ => renderValue_eq_ok_iff, fun _ _ => renderValue_eq_error_iff,
    fun _ => Value.endless_mem_leaves, fun _ => renderValue_endless,
    fun _ _ => render_alone, fun _ _ decomposes _ => alone_iff decomposes⟩

def counted : Inputs := ⟨.null, [("n", .int 7)], [], []⟩

/-- A key like a placeholder, and texts with one placeholder, two, and one among others. -/
def assorted : Value :=
  .object
    [("\x7b\x7bn\x7d\x7d", .text " \x7b\x7b n \x7d\x7d\n"),
     ("list", .list [.text "\x7b\x7bn\x7d\x7d\x7b\x7bn\x7d\x7d", .text "\x7b\x7bm\x7d\x7d",
       .text "no. \x7b\x7bn\x7d\x7d", .bool true])]

theorem rendered_by_leaves_assorted :
    Rendered counted assorted (.object [("\x7b\x7bn\x7d\x7d", .int 7),
      ("list", .list [.text "77", .null, .text "no. 7", .bool true])]) ∧
      Alone " \x7b\x7b n \x7d\x7d\n".toList " n ".toList ∧
      render counted (strip " \x7b\x7b n \x7d\x7d\n") = stringify (.int 7) ∧
      ¬Alone "\x7b\x7bn\x7d\x7d\x7b\x7bn\x7d\x7d".toList ['n'] := by
  obtain ⟨rendered, -, -, -, same, single⟩ := rendered_by_leaves counted
  have alone : Alone " \x7b\x7b n \x7d\x7d\n".toList " n ".toList :=
    ⟨by decide, [' '], ['\n'], by decide, by decide, by decide⟩
  have twice : Cut.Decomposes ⟨[], [(['n'], []), (['n'], [])]⟩
      "\x7b\x7bn\x7d\x7d\x7b\x7bn\x7d\x7d".toList := by
    rw [Cut.decomposes_iff]
    decide +kernel
  refine ⟨(rendered _ _).mp (by cbv), alone, same _ _ alone, ?_⟩
  intro only
  obtain ⟨-, after, -, fields⟩ := (single _ _ twice _).mp only
  cases fields

end Template

end Workflow
