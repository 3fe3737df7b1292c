import Mathlib.Data.List.TakeWhile
import Workflow.Proofs.Json.Writer
import Workflow.Proofs.Text.Blank
import Workflow.Template

/-! Templates taken apart. A template is literal text around placeholders in one way only, once no
placeholder is left in the literal text, and it is rendered by putting the texts of the references
between the literal parts, as they are. -/

namespace Workflow.Template

/-- What may stand between double braces: some characters, none of them a brace. -/
def IsReference (body : List Char) : Prop := body ≠ [] ∧ ∀ c ∈ body, isBrace c = false

instance (body : List Char) : Decidable (IsReference body) :=
  decidable_of_iff (body ≠ [] ∧ body.all (!isBrace ·) = true) (by simp [IsReference])

def marked (body : List Char) : List Char := (Piece.placeholder body).source

/-- A template taken apart: the literal text in front, and references, each with the literal text
behind its placeholder. -/
structure Cut where
  front : List Char
  fields : List (List Char × List Char)
  deriving DecidableEq

namespace Cut

/-- The literal parts in place, with texts for the references between them. -/
def filled (text : List Char → List Char) (c : Cut) : List Char :=
  c.front ++ c.fields.flatMap fun field => text field.1 ++ field.2

def upTo (c : Cut) (i : Nat) : List Char := filled marked ⟨c.front, c.fields.take i⟩

/-- A text with all its placeholders: wherever one occurs in the text, it is that of a field. -/
structure Decomposes (c : Cut) (text : List Char) : Prop where
  whole : c.filled marked = text
  references : ∀ field ∈ c.fields, IsReference field.1
  complete : ∀ before body after, IsReference body → text = before ++ marked body ++ after →
    ∃ i, (c.fields[i]?).map Prod.fst = some body ∧ before = c.upTo i

def ofPieces : List Piece → Cut
  | [] => ⟨[], []⟩
  | .char ch :: rest => ⟨ch :: (ofPieces rest).front, (ofPieces rest).fields⟩
  | .placeholder body :: rest => ⟨[], (body, (ofPieces rest).front) :: (ofPieces rest).fields⟩

end Cut

variable {c : Cut} {ch : Char} {i : Nat} {after before body other rest text : List Char}
  {fields : List (List Char × List Char)} {fill : List Char → List Char}

theorem marked_append (body rest : List Char) :
    marked body ++ rest = '{' :: '{' :: (body ++ '}' :: '}' :: rest) := by
  simp [marked, Piece.source]

theorem isReference_span (reference : IsReference body) (rest : List Char) :
    (body ++ '}' :: rest).takeWhile (fun c => !isBrace c) = body ∧
      (body ++ '}' :: rest).dropWhile (fun c => !isBrace c) = '}' :: rest := by
  have pass : ∀ c ∈ body, (!isBrace c) = true := fun c mem => by rw [reference.2 c mem]; rfl
  have stop : ¬(!isBrace '}') = true := by decide
  rw [List.takeWhile_append_of_pos pass, List.dropWhile_append_of_pos pass,
    List.takeWhile_cons_of_neg (p := fun c => !isBrace c) stop,
    List.dropWhile_cons_of_neg (p := fun c => !isBrace c) stop, List.append_nil]
  exact ⟨rfl, rfl⟩

theorem placeholder?_marked (reference : IsReference body) (rest : List Char) :
    placeholder? (marked body ++ rest) = some body := by
  obtain ⟨taken, dropped⟩ := isReference_span reference ('}' :: rest)
  rw [marked_append]
  simp only [placeholder?, dropped, taken]
  split
  · exact absurd rfl reference.1
  · rfl

theorem eq_marked_of_placeholder? (h : placeholder? text = some body) :
    IsReference body ∧ ∃ rest, text = marked body ++ rest := by
  unfold placeholder? at h
  split at h
  · rename_i inner
    split at h
    · rename_i rest dropped
      split at h
      · cases h
      · rename_i taken
        cases h
        have parts := List.takeWhile_append_dropWhile (p := fun c => !isBrace c) (l := inner)
        exact ⟨⟨taken, fun c mem => by simpa using List.mem_takeWhile_imp mem⟩, rest,
          by rw [marked_append, ← dropped, parts]⟩
    · cases h
  · cases h

theorem marked_apart (reference : IsReference body)
    (h : marked body ++ rest = before ++ marked other ++ after) :
    before = [] ∨ ∃ between, before = marked body ++ between ∧
      rest = between ++ marked other ++ after := by
  have plain : ∀ c ∈ body, c ≠ '{' := by
    rintro c mem rfl
    exact absurd (reference.2 _ mem) (by decide)
  rw [List.append_assoc, marked_append, marked_append] at h
  match before with
  | [] => exact .inl rfl
  | [_] =>
      -- The second brace cannot be the first one of another placeholder.
      obtain ⟨first, tail, rfl⟩ := List.exists_cons_of_ne_nil reference.1
      simp only [List.cons_append, List.nil_append, List.cons.injEq] at h
      exact absurd h.2.2.1 (plain first List.mem_cons_self)
  | x :: y :: before =>
      simp only [List.cons_append, List.cons.injEq] at h
      obtain ⟨rfl, rfl, h⟩ := h
      rcases List.append_eq_append_iff.mp h with ⟨between, rfl, tail⟩ | ⟨inside, rfl, tail⟩
      · clear h
        match between with
        | [] => cases tail
        | [_] => cases tail
        | x :: y :: between =>
            simp only [List.cons_append, List.cons.injEq] at tail
            obtain ⟨rfl, rfl, tail⟩ := tail
            refine .inr ⟨between, ?_, ?_⟩
            · rw [marked_append]
            · rw [tail, List.append_assoc, marked_append]
      · clear h
        match inside with
        | [] => cases tail
        | x :: inside =>
            cases (List.cons.inj tail).1
            exact absurd rfl (plain '{' (List.mem_append_right _ List.mem_cons_self))

theorem piecesAfter_eq_drop (k : Nat) (text : List Char) :
    piecesAfter k text = piecesAfter 0 (text.drop k) := by
  induction text generalizing k with
  | nil => cases k <;> rfl
  | cons c rest ih =>
      cases k with
      | zero => rfl
      | succ k => exact ih k

theorem pieces_char (h : placeholder? (ch :: rest) = none) :
    piecesAfter 0 (ch :: rest) = .char ch :: piecesAfter 0 rest := by
  rw [piecesAfter, h]

theorem pieces_marked (reference : IsReference body) (rest : List Char) :
    piecesAfter 0 (marked body ++ rest) = .placeholder body :: piecesAfter 0 rest := by
  have found := placeholder?_marked reference rest
  rw [marked_append] at found ⊢
  rw [piecesAfter, found]
  dsimp only
  rw [piecesAfter_eq_drop]
  simp

/-- A text is passed over character by character and placeholder by placeholder. -/
@[elab_as_elim]
theorem text_induction {motive : List Char → Prop} (nil : motive [])
    (char : ∀ ch rest, placeholder? (ch :: rest) = none → motive rest → motive (ch :: rest))
    (placeholder : ∀ body rest, IsReference body → motive rest → motive (marked body ++ rest))
    (text : List Char) : motive text := by
  induction size : text.length using Nat.strongRecOn generalizing text with
  | ind n ih =>
      subst size
      cases text with
      | nil => exact nil
      | cons ch rest =>
          cases found : placeholder? (ch :: rest) with
          | none => exact char ch rest found (ih _ (Nat.lt_succ_self _) rest rfl)
          | some body =>
              obtain ⟨reference, rest', split⟩ := eq_marked_of_placeholder? found
              rw [split]
              refine placeholder body rest' reference (ih _ ?_ rest' rfl)
              rw [split, marked_append]
              simp only [List.length_cons, List.length_append]
              omega

namespace Cut

theorem filled_char (ch : Char) (front : List Char) :
    filled fill ⟨ch :: front, fields⟩ = ch :: filled fill ⟨front, fields⟩ := rfl

theorem filled_field (body front : List Char) :
    filled fill ⟨[], (body, front) :: fields⟩ = fill body ++ filled fill ⟨front, fields⟩ := by
  simp [filled]

theorem upTo_char (ch : Char) (front : List Char) (i : Nat) :
    upTo ⟨ch :: front, fields⟩ i = ch :: upTo ⟨front, fields⟩ i := rfl

theorem upTo_field (body front : List Char) (i : Nat) :
    upTo ⟨[], (body, front) :: fields⟩ (i + 1) = marked body ++ upTo ⟨front, fields⟩ i := by
  rw [upTo, List.take_succ_cons, filled_field]
  rfl

theorem upTo_zero (c : Cut) : c.upTo 0 = c.front := by
  simp [upTo, filled]

theorem marked_append_ne_nil (body rest : List Char) : marked body ++ rest ≠ [] := by
  rw [marked_append]
  exact List.cons_ne_nil _ _

theorem decomposes_nil : c.Decomposes [] ↔ c = ⟨[], []⟩ := by
  constructor
  · intro h
    obtain ⟨front, fields⟩ := c
    have whole := h.whole
    match front, fields with
    | _ :: _, _ => cases whole
    | [], (body, front) :: fields =>
        rw [filled_field] at whole
        exact absurd whole (marked_append_ne_nil _ _)
    | [], [] => rfl
  · rintro rfl
    refine ⟨rfl, fun _ mem => (List.not_mem_nil mem).elim, ?_⟩
    intro before body after _ occurs
    rw [List.append_assoc] at occurs
    exact absurd (List.append_eq_nil_iff.mp occurs.symm).2 (marked_append_ne_nil _ _)

theorem Decomposes.char {front : List Char} (h : Decomposes ⟨front, fields⟩ rest)
    (none' : placeholder? (ch :: rest) = none) : Decomposes ⟨ch :: front, fields⟩ (ch :: rest) := by
  refine ⟨by rw [filled_char, h.whole], h.references, ?_⟩
  intro before body after reference occurs
  cases before with
  | nil =>
      rw [occurs, List.nil_append, placeholder?_marked reference] at none'
      cases none'
  | cons x before =>
      obtain ⟨rfl, same⟩ := List.cons.inj occurs
      obtain ⟨i, found, place⟩ := h.complete before body after reference same
      exact ⟨i, found, by rw [upTo_char, place]⟩

theorem Decomposes.of_char {front : List Char}
    (h : Decomposes ⟨ch :: front, fields⟩ (ch :: rest)) : Decomposes ⟨front, fields⟩ rest := by
  have whole := h.whole
  rw [filled_char] at whole
  refine ⟨(List.cons.inj whole).2, h.references, ?_⟩
  intro before body after reference occurs
  obtain ⟨i, found, place⟩ :=
    h.complete (ch :: before) body after reference (by rw [occurs]; rfl)
  rw [upTo_char] at place
  exact ⟨i, found, (List.cons.inj place).2⟩

theorem decomposes_char (none' : placeholder? (ch :: rest) = none) :
    c.Decomposes (ch :: rest) ↔
      ∃ c', Decomposes c' rest ∧ c = ⟨ch :: c'.front, c'.fields⟩ := by
  constructor
  · intro h
    obtain ⟨front, fields⟩ := c
    have whole := h.whole
    match front, fields with
    | [], [] => cases whole
    | [], (body, front) :: fields =>
        rw [filled_field] at whole
        have reference : IsReference body := h.references _ List.mem_cons_self
        rw [← whole, placeholder?_marked reference] at none'
        cases none'
    | x :: front, fields =>
        cases (List.cons.inj whole).1
        exact ⟨⟨front, fields⟩, h.of_char, rfl⟩
  · rintro ⟨⟨front, fields⟩, h, rfl⟩
    exact h.char none'

theorem Decomposes.placeholder {front : List Char} (h : Decomposes ⟨front, fields⟩ rest)
    (reference : IsReference body) :
    Decomposes ⟨[], (body, front) :: fields⟩ (marked body ++ rest) := by
  refine ⟨by rw [filled_field, h.whole], List.forall_mem_cons.mpr ⟨reference, h.references⟩, ?_⟩
  intro before other after reference' occurs
  rcases marked_apart reference occurs with rfl | ⟨between, rfl, behind⟩
  · have first := placeholder?_marked reference rest
    rw [occurs, List.nil_append, placeholder?_marked reference'] at first
    exact ⟨0, first.symm, rfl⟩
  · obtain ⟨i, found, place⟩ := h.complete between other after reference' behind
    exact ⟨i + 1, found, by rw [upTo_field, place]⟩

theorem Decomposes.of_placeholder {front : List Char}
    (h : Decomposes ⟨[], (body, front) :: fields⟩ (marked body ++ rest)) :
    Decomposes ⟨front, fields⟩ rest := by
  have whole := h.whole
  rw [filled_field] at whole
  refine ⟨List.append_cancel_left whole, (List.forall_mem_cons.mp h.references).2, ?_⟩
  intro before other after reference occurs
  have shifted : marked body ++ rest =
      marked body ++ before ++ marked other ++ after := by
    rw [occurs, List.append_assoc, List.append_assoc, List.append_assoc]
  obtain ⟨i, found, place⟩ := h.complete _ other after reference shifted
  cases i with
  | zero =>
      rw [upTo_zero] at place
      exact absurd place (marked_append_ne_nil _ _)
  | succ i =>
      rw [upTo_field] at place
      exact ⟨i, found, List.append_cancel_left place⟩

theorem decomposes_marked (reference : IsReference body) :
    c.Decomposes (marked body ++ rest) ↔
      ∃ c', Decomposes c' rest ∧ c = ⟨[], (body, c'.front) :: c'.fields⟩ := by
  constructor
  · intro h
    obtain ⟨front, fields⟩ := c
    -- The placeholder in front is that of a field, and nothing stands before that field.
    obtain ⟨i, found, place⟩ := h.complete [] body rest reference rfl
    match front, fields, i with
    | _ :: _, _, _ => cases place
    | [], [], _ => cases found
    | [], (other, front) :: fields, i + 1 =>
        rw [upTo_field] at place
        exact absurd place.symm (marked_append_ne_nil _ _)
    | [], (other, front) :: fields, 0 =>
        obtain rfl : other = body := Option.some.inj found
        exact ⟨⟨front, fields⟩, h.of_placeholder, rfl⟩
  · rintro ⟨⟨front, fields⟩, h, rfl⟩
    exact h.placeholder reference

/-- A text is taken apart in one way only, into its pieces. -/
theorem decomposes_iff : c.Decomposes text ↔ c = ofPieces (piecesAfter 0 text) := by
  induction text using text_induction generalizing c with
  | nil => exact decomposes_nil
  | char ch rest none' ih =>
      rw [decomposes_char none', pieces_char none', ofPieces]
      simp only [ih, exists_eq_left]
  | placeholder body rest reference ih =>
      rw [decomposes_marked reference, pieces_marked reference, ofPieces]
      simp only [ih, exists_eq_left]

end Cut

variable {inputs : Inputs} {value : List Char → String}

/-- Literal parts are rendered as they are, and texts of references are not looked into. -/
theorem piecesText_eq {ps : List Piece}
    (texts : ∀ field ∈ (Cut.ofPieces ps).fields,
      referenceText inputs field.1 = .ok (value field.1)) :
    piecesText inputs ps =
      .ok ((Cut.ofPieces ps).filled fun body => (value body).toList) := by
  induction ps with
  | nil => rfl
  | cons piece ps ih =>
      cases piece with
      | char ch =>
          rw [piecesText, ih texts]
          rfl
      | placeholder body =>
          obtain ⟨first, others⟩ := List.forall_mem_cons.mp texts
          rw [piecesText, pieceText, first, ih others, Cut.ofPieces, Cut.filled_field]
          rfl

/-- Why there is no result, if there is none. -/
def refusalOf? {α : Type} : Except Json.Refusal α → Option Json.Refusal
  | .ok _ => none
  | .error r => some r

theorem refusalOf?_eq_some_iff {α : Type} {r : Json.Refusal} {x : Except Json.Refusal α} :
    refusalOf? x = some r ↔ x = .error r := by
  cases x <;> simp [refusalOf?]

theorem refusalOf?_eq_none_iff {α : Type} {x : Except Json.Refusal α} :
    refusalOf? x = none ↔ ∃ a, x = .ok a := by
  cases x <;> simp [refusalOf?]

theorem refusalOf?_map {α β : Type} (f : α → β) (x : Except Json.Refusal α) :
    refusalOf? (x.map f) = refusalOf? x := by
  cases x <;> rfl

theorem refusalOf?_both {α β γ : Type} (f : α → β → γ) (x : Except Json.Refusal α)
    (y : Except Json.Refusal β) :
    refusalOf? (x >>= fun a => y >>= fun b => pure (f a b)) =
      (refusalOf? x).or (refusalOf? y) := by
  cases x <;> cases y <;> rfl

theorem refusalOf?_piecesText (inputs : Inputs) (ps : List Piece) :
    refusalOf? (piecesText inputs ps) =
      (Cut.ofPieces ps).fields.findSome? fun field => refusalOf? (referenceText inputs field.1) := by
  induction ps with
  | nil => rfl
  | cons piece ps ih =>
      cases piece with
      | char ch => rw [piecesText, refusalOf?_both, ih, pieceText, refusalOf?, Option.none_or,
          Cut.ofPieces]
      | placeholder body =>
          rw [piecesText, refusalOf?_both, ih, pieceText, refusalOf?_map, Cut.ofPieces,
            List.findSome?_cons]
          cases refusalOf? (referenceText inputs body) <;> rfl

theorem refusalOf?_render {template : String} (decomposes : c.Decomposes template.toList) :
    refusalOf? (render inputs template) =
      c.fields.findSome? fun field => refusalOf? (referenceText inputs field.1) := by
  rw [render, refusalOf?_map, pieces, refusalOf?_piecesText, ← Cut.decomposes_iff.mp decomposes]

theorem render_eq_error_iff {template : String} {r : Json.Refusal}
    (decomposes : c.Decomposes template.toList) : render inputs template = .error r ↔
      ∃ before field after, c.fields = before ++ field :: after ∧
        referenceText inputs field.1 = .error r ∧
        ∀ other ∈ before, ∃ s, referenceText inputs other.1 = .ok s := by
  rw [← refusalOf?_eq_some_iff, refusalOf?_render decomposes, List.findSome?_eq_some_iff]
  simp only [refusalOf?_eq_some_iff, refusalOf?_eq_none_iff]

theorem stringify_of_short {v : Value} (tree : v.isTree = true) (short : v.hasLong = false) :
    ∃ s, stringify v = .ok s := by
  have written : ∃ s, Json.write .line v = .ok s := by
    rw [Json.write, Json.refusal?_line tree, short]
    exact ⟨_, rfl⟩
  cases v with
  | list _ | object _ | cyclic _ _ => exact written
  | null => exact ⟨_, rfl⟩
  | _ => exact Value.shown_of_short short

theorem stringify_of_long {v : Value} (tree : v.isTree = true) (long : v.hasLong = true) :
    stringify v = .error .longInteger := by
  have refused : Json.write .line v = .error .longInteger := by
    rw [Json.write, Json.refusal?_line tree, long]
    rfl
  cases v with
  | list _ | object _ | cyclic _ _ => exact refused
  | null | text _ => cases long
  | _ => exact Value.shown_of_long long

theorem referenceText_ok (short : ∀ v, inputs.resolve? (String.ofList body) = some v →
    v.isTree = true ∧ v.hasLong = false) : ∃ s, referenceText inputs body = .ok s := by
  unfold referenceText
  cases found : inputs.resolve? (String.ofList body) with
  | none => exact ⟨"", rfl⟩
  | some v => exact stringify_of_short (short v found).1 (short v found).2

theorem referenceText_error {r : Json.Refusal}
    (trees : ∀ v, inputs.resolve? (String.ofList body) = some v → v.isTree = true)
    (refused : referenceText inputs body = .error r) : r = .longInteger := by
  unfold referenceText at refused
  cases found : inputs.resolve? (String.ofList body) with
  | none =>
      rw [found] at refused
      cases refused
  | some v =>
      rw [found, Option.getD_some] at refused
      cases long : v.hasLong with
      | true => exact Except.error.inj (refused.symm.trans (stringify_of_long (trees v found) long))
      | false =>
          obtain ⟨s, text⟩ := stringify_of_short (trees v found) long
          cases text.symm.trans refused

theorem referenceText_blank (blank : ∀ c ∈ body, Text.isBlank c = true) :
    referenceText inputs body = .ok "" := by
  have none' : Text.trimBlank body = [] := Text.trimBlank_eq_nil_iff.mpr blank
  have nowhere : inputs.resolve? (String.ofList body) = none := by
    unfold Inputs.resolve? Reference.segments
    rw [String.toList_ofList, none']
    rfl
  rw [referenceText, nowhere]
  rfl

theorem render_of_texts {template : String} (decomposes : c.Decomposes template.toList)
    (texts : ∀ field ∈ c.fields, referenceText inputs field.1 = .ok (value field.1)) :
    render inputs template = .ok (String.ofList (c.filled fun body => (value body).toList)) := by
  rw [Cut.decomposes_iff.mp decomposes] at texts ⊢
  rw [render, pieces, piecesText_eq texts]
  rfl

/-- Of acyclic values only a long integer is refused, so it does not matter which is the first. -/
theorem render_of_long {template : String} (decomposes : c.Decomposes template.toList)
    (trees : ∀ field ∈ c.fields, ∀ v, inputs.resolve? (String.ofList field.1) = some v →
      v.isTree = true) {field : List Char × List Char} {v : Value} (mem : field ∈ c.fields)
    (found : inputs.resolve? (String.ofList field.1) = some v) (long : v.hasLong = true) :
    render inputs template = .error .longInteger := by
  have refused : referenceText inputs field.1 = .error .longInteger := by
    rw [referenceText, found]
    exact stringify_of_long (trees field mem v found) long
  cases rendered : render inputs template with
  | ok s =>
      have none' := (refusalOf?_render decomposes).symm.trans (congrArg refusalOf? rendered)
      have told := List.findSome?_eq_none_iff.mp none' field mem
      rw [refused] at told
      cases told
  | error r =>
      obtain ⟨before, other, after, fields, told, -⟩ := (render_eq_error_iff decomposes).mp rendered
      have here : other ∈ c.fields := fields ▸ List.mem_append_right _ List.mem_cons_self
      rw [referenceText_error (trees other here) told]

/-- One value is a placeholder, and the other is a brace that makes one with what follows it. -/
def spliced : Inputs :=
  ⟨.null,
   [("in", .object [("a", .text "\x7b\x7bb\x7d\x7d"), ("b", .text "\x7b")])],
   [], []⟩

/-- Placeholders between braces of the literal text, and a blank one. -/
def braced : Cut :=
  ⟨['\x7b'], [(['a'], ['\x7d']), (['b'], ['\x7b', 'a', '\x7d', '\x7d']), ([' '], [])]⟩

end Workflow.Template
