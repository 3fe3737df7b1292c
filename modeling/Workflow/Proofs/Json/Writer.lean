import Workflow.Json.Writer
import Workflow.Proofs.Text.Decimal
import Workflow.Proofs.Value.Order
import Workflow.Text.Split

/-! Values that have a JSON text, and the characters of such a text. If no integer in it is too
long, what a JSON document can hold has one in every style, and on one line all that does not
contain itself has one. Where other scripts are escaped, the text on one line is printable ASCII:
whatever stands in the value, no line ends there. -/

namespace Workflow

variable {style : Json.Style} {v : Value} {vs : List Value} {ms : Table Value}

namespace Value

theorem allTrees_iff : allTrees vs = true ↔ ∀ v ∈ vs, v.isTree = true := by
  induction vs with
  | nil => exact ⟨fun _ _ mem => (List.not_mem_nil mem).elim, fun _ => rfl⟩
  | cons v vs ih => rw [allTrees, Bool.and_eq_true, ih, List.forall_mem_cons]

theorem allTreeMembers_iff : allTreeMembers ms = true ↔ ∀ m ∈ ms, m.2.isTree = true := by
  induction ms with
  | nil => exact ⟨fun _ _ mem => (List.not_mem_nil mem).elim, fun _ => rfl⟩
  | cons m ms ih => rw [allTreeMembers, Bool.and_eq_true, ih, List.forall_mem_cons]

end Value

namespace Json

open Text

theorem refusalOfItems?_eq_none_iff :
    refusalOfItems? style vs = none ↔ ∀ v ∈ vs, refusal? style v = none := by
  induction vs with
  | nil => exact ⟨fun _ _ mem => (List.not_mem_nil mem).elim, fun _ => rfl⟩
  | cons v vs ih => rw [refusalOfItems?, Option.or_eq_none_iff, ih, List.forall_mem_cons]

theorem refusalOfMembers?_eq_none_iff :
    refusalOfMembers? style ms = none ↔ ∀ m ∈ ms, refusal? style m.2 = none := by
  induction ms with
  | nil => exact ⟨fun _ _ mem => (List.not_mem_nil mem).elim, fun _ => rfl⟩
  | cons m ms ih => rw [refusalOfMembers?, Option.or_eq_none_iff, ih, List.forall_mem_cons]

/-- The style that takes integers of any length. -/
def Style.lenient (style : Style) : Style := { style with acceptsLong := true }

theorem refusal?_lenient_eq_none (json : v.IsJson) : refusal? style.lenient v = none := by
  induction json with
  | double finite => rw [refusal?, finite, Bool.or_true, if_pos rfl]
  | list _ ih => rw [refusal?, refusalOfItems?_eq_none_iff.mpr ih]
  | object _ ih => rw [refusal?, refusalOfMembers?_eq_none_iff.mpr ih]
  | _ => rfl

/-- On one line live objects and numbers that are not finite are written too. -/
theorem refusal?_lenient_line_eq_none_iff :
    refusal? Style.line.lenient v = none ↔ v.isTree = true := by
  induction v using Value.induction with
  | plain v atom =>
      cases v with
      | list vs => cases atom
      | object ms => cases atom
      | cyclic ms self => cases atom
      | _ => exact ⟨fun _ => rfl, fun _ => rfl⟩
  | list vs ih =>
      rw [refusal?, refusalOfItems?_eq_none_iff, Value.isTree, Value.allTrees_iff]
      exact forall₂_congr ih
  | object ms ih =>
      rw [refusal?, refusalOfMembers?_eq_none_iff, Value.isTree, Value.allTreeMembers_iff]
      exact forall₂_congr ih
  | cyclic ms self _ =>
      rw [refusal?, Option.or_eq_none_iff, Value.isTree]
      exact ⟨fun h => (nomatch h.2), fun h => (nomatch h)⟩

def Style.longRefusal? (style : Style) (long : Bool) : Option Refusal :=
  if !style.acceptsLong && long then some .longInteger else none

theorem Style.longRefusal?_false (style : Style) : style.longRefusal? false = none := by
  rw [longRefusal?, Bool.and_false, if_neg Bool.false_ne_true]

theorem Style.longRefusal?_or (style : Style) (a b : Bool) :
    (style.longRefusal? a).or (style.longRefusal? b) = style.longRefusal? (a || b) := by
  unfold longRefusal?
  cases style.acceptsLong <;> cases a <;> cases b <;> rfl

theorem refusalOfItems?_eq (h : ∀ v ∈ vs, refusal? style v = style.longRefusal? v.hasLong) :
    refusalOfItems? style vs = style.longRefusal? (Value.anyHasInteger isLong vs) := by
  induction vs with
  | nil => exact style.longRefusal?_false.symm
  | cons v vs ih =>
      obtain ⟨first, others⟩ := List.forall_mem_cons.mp h
      rw [refusalOfItems?, first, ih others, Style.longRefusal?_or, Value.hasLong,
        Value.anyHasInteger]

theorem refusalOfMembers?_eq (h : ∀ m ∈ ms, refusal? style m.2 = style.longRefusal? m.2.hasLong) :
    refusalOfMembers? style ms = style.longRefusal? (Value.anyMemberHasInteger isLong ms) := by
  induction ms with
  | nil => exact style.longRefusal?_false.symm
  | cons m ms ih =>
      obtain ⟨first, others⟩ := List.forall_mem_cons.mp h
      rw [refusalOfMembers?, first, ih others, Style.longRefusal?_or, Value.hasLong,
        Value.anyMemberHasInteger]

/-- What is refused for nothing else is refused if an integer in it is too long. -/
theorem refusal?_eq (h : refusal? style.lenient v = none) :
    refusal? style v = style.longRefusal? v.hasLong := by
  induction v using Value.induction with
  | plain v atom =>
      cases v with
      | int i =>
          rw [refusal?, Value.hasLong, Value.hasInteger, Style.longRefusal?]
          cases style.acceptsLong <;> cases isLong i <;> rfl
      | list vs => cases atom
      | object ms => cases atom
      | cyclic ms self => cases atom
      | _ => exact Eq.trans h (Style.longRefusal?_false style).symm
  | list vs ih =>
      rw [refusal?, refusalOfItems?_eq_none_iff] at h
      rw [refusal?, Value.hasLong, Value.hasInteger]
      exact refusalOfItems?_eq fun v mem => ih v mem (h v mem)
  | object ms ih =>
      rw [refusal?, refusalOfMembers?_eq_none_iff] at h
      rw [refusal?, Value.hasLong, Value.hasInteger]
      exact refusalOfMembers?_eq fun m mem => ih m mem (h m mem)
  | cyclic ms self _ =>
      rw [refusal?, Option.or_eq_none_iff] at h
      cases h.2

theorem refusal?_eq_none (json : v.IsJson) (short : v.hasLong = false) :
    refusal? style v = none := by
  rw [refusal?_eq (refusal?_lenient_eq_none json), short, Style.longRefusal?_false]

theorem refusal?_line (tree : v.isTree = true) :
    refusal? .line v = if v.hasLong then some .longInteger else none :=
  refusal?_eq (refusal?_lenient_line_eq_none_iff.mpr tree)

theorem short_of_refusal?_eq_none (bounded : style.acceptsLong = false)
    (h : refusal? style v = none) : v.hasLong = false := by
  induction v using Value.induction with
  | plain v atom =>
      cases v with
      | int i => simpa [refusal?, bounded, Value.hasLong, Value.hasInteger] using h
      | list vs => cases atom
      | object ms => cases atom
      | cyclic ms self => cases atom
      | _ => rfl
  | list vs ih =>
      rw [refusal?, refusalOfItems?_eq_none_iff] at h
      exact Value.anyHasInteger_eq_false_iff.mpr fun v mem => ih v mem (h v mem)
  | object ms ih =>
      rw [refusal?, refusalOfMembers?_eq_none_iff] at h
      exact Value.anyMemberHasInteger_eq_false_iff.mpr fun m mem => ih m mem (h m mem)
  | cyclic ms self _ =>
      rw [refusal?, Option.or_eq_none_iff] at h
      cases h.2

def Printable (cs : List Char) : Prop := ∀ c ∈ cs, 0x20 ≤ c.toNat ∧ c.toNat < 0x7f

namespace Printable

variable {c : Char} {cs ds : List Char} {parts : List (List Char)}

instance (cs : List Char) : Decidable (Printable cs) :=
  List.decidableBAll (fun c : Char => 0x20 ≤ c.toNat ∧ c.toNat < 0x7f) cs

theorem cons (first : 0x20 ≤ c.toNat ∧ c.toNat < 0x7f) (others : Printable cs) :
    Printable (c :: cs) := List.forall_mem_cons.mpr ⟨first, others⟩

theorem append (first : Printable cs) (second : Printable ds) : Printable (cs ++ ds) :=
  List.forall_mem_append.mpr ⟨first, second⟩

theorem subset (h : Printable cs) (sub : ds ⊆ cs) : Printable ds := fun c mem => h c (sub mem)

theorem flatten (h : ∀ part ∈ parts, Printable part) : Printable parts.flatten := by
  intro c mem
  obtain ⟨part, there, mem⟩ := List.mem_flatten.mp mem
  exact h part there c mem

theorem intercalate (sep : Printable cs) (h : ∀ part ∈ parts, Printable part) :
    Printable (List.intercalate cs parts) := by
  induction parts with
  | nil => exact nofun
  | cons part parts ih =>
      obtain ⟨first, others⟩ := List.forall_mem_cons.mp h
      cases parts with
      | nil => rwa [List.intercalate_singleton]
      | cons next parts =>
          rw [List.intercalate_cons_cons]
          exact (first.append sep).append (ih others)

theorem not_lineEnd (h : Printable cs) : ∀ c ∈ cs, isLineEnd c = false := by
  intro c mem
  have inside := h c mem
  by_contra ends
  rw [Bool.not_eq_false, isLineEnd, List.contains_iff_mem] at ends
  simp only [List.mem_cons, List.not_mem_nil, or_false] at ends
  rcases ends with rfl | rfl | rfl | rfl | rfl | rfl | rfl | rfl | rfl | rfl <;>
    exact absurd inside (by decide)

end Printable

/-! Numbers. -/

theorem printable_digits (ds : List Nat) : Printable (ds.map digitChar) := by
  have all : ∀ d : Fin 10, 0x20 ≤ (digitChar d.val).toNat ∧ (digitChar d.val).toNat < 0x7f := by
    decide
  refine List.forall_mem_map.mpr fun d _ => ?_
  have last : digitChar (d % 10) = digitChar d := by rw [digitChar, Nat.mod_mod, digitChar]
  rw [← last]
  exact all ⟨d % 10, Nat.mod_lt d (by decide)⟩

theorem printable_decimal (n : Nat) : Printable (decimal n) := by
  obtain ⟨ds, text, -⟩ := decimal_numeral n
  rw [text]
  exact printable_digits ds

theorem printable_zeros (n : Nat) : Printable (List.replicate n '0') := by
  intro c mem
  rw [List.eq_of_mem_replicate mem]
  decide

theorem printable_signed {negative : Prop} [Decidable negative] {cs : List Char}
    (h : Printable cs) : Printable (if negative then '-' :: cs else cs) := by
  split
  · exact h.cons (by decide)
  · exact h

theorem printable_integer (i : Int) : Printable (integer i) :=
  printable_signed (printable_decimal i.natAbs)

theorem printable_positional {ds : List Char} (h : Printable ds) (leading : Int) :
    Printable (Double.positional ds leading) := by
  unfold Double.positional
  dsimp only
  split
  · exact (((printable_zeros _).cons (by decide)).cons (by decide)).append h
  · split
    · exact (h.append (printable_zeros _)).append (by decide)
    · exact (h.subset (List.take_subset _ ds)).append
        ((h.subset (List.drop_subset _ ds)).cons (by decide))

theorem printable_scientific {ds : List Char} (h : Printable ds) (leading : Int) :
    Printable (Double.scientific ds leading) := by
  have fraction : Printable (if ds.length ≤ 1 then [] else '.' :: ds.drop 1) := by
    split
    · exact nofun
    · exact (h.subset (List.drop_subset 1 ds)).cons (by decide)
  have sign : Printable ['e', if leading < 0 then '-' else '+'] := by
    split <;> decide
  have exponent := (printable_zeros (2 - (decimal leading.natAbs).length)).append
    (printable_decimal leading.natAbs)
  have whole := ((h.subset (List.take_subset 1 ds)).append fraction).append (sign.append exponent)
  simpa [Double.scientific] using whole

theorem printable_double (x : Double) : Printable (Double.render nonFinite x) := by
  have magnitude : ∀ units, Printable (Double.magnitude units) := by
    intro units
    unfold Double.magnitude Double.laidOut
    dsimp only
    split
    · exact printable_positional (printable_decimal _) _
    · exact printable_scientific (printable_decimal _) _
  cases x with
  | nan => decide
  | infinite negative => exact printable_signed (by decide)
  | finite negative units fits =>
      apply printable_signed
      split
      · decide
      · exact magnitude units

/-! Texts in quotes. -/

theorem printable_unitEscape (u : Nat) : Printable (unitEscape u) := by
  have all : ∀ d : Fin 16, 0x20 ≤ (hexDigit d.val).toNat ∧ (hexDigit d.val).toNat < 0x7f := by
    decide
  have digits : ∀ width n, Printable (hexDigits width n) := by
    intro width
    induction width with
    | zero => exact fun _ => nofun
    | succ width ih =>
        intro n
        refine (ih (n / 16)).append (List.forall_mem_singleton.mpr ?_)
        exact all ⟨n % 16, Nat.mod_lt n (by decide)⟩
  exact ((digits 4 u).cons (by decide)).cons (by decide)

/-- What is neither printed as it is nor by a letter of its own is printed by numbers. -/
theorem printable_writtenChar (c : Char) : Printable (writtenChar true c) := by
  unfold writtenChar
  by_cases quoted : (c == '"' || c == '\\') = true
  · rw [if_pos quoted]
    rcases Bool.or_eq_true_iff.mp quoted with quote | slash
    · rw [eq_of_beq quote]
      decide
    · rw [eq_of_beq slash]
      decide
  rw [if_neg quoted]
  iterate 5
    split
    · decide
  split
  · exact printable_unitEscape c.toNat
  split
  · rename_i control visible
    have below : c.toNat < 0x7f := by simpa using visible
    exact List.forall_mem_singleton.mpr ⟨by omega, below⟩
  split
  · exact printable_unitEscape c.toNat
  · exact (printable_unitEscape _).append (printable_unitEscape _)

theorem printable_writtenText (s : String) : Printable (writtenText true s) := by
  refine Printable.cons (by decide) (Printable.append ?_ (by decide))
  exact Printable.flatten (List.forall_mem_map.mpr fun c _ => printable_writtenChar c)

/-! Values. -/

/-- A style without line ends and without characters of other scripts. -/
structure Style.OneLine (style : Style) : Prop where
  indent : style.indent = none
  ascii : style.asciiOnly = true
  comma : Printable style.comma.toList
  colon : Printable style.colon.toList

theorem printable_enclosed (line : style.OneLine) (level : Nat) {first last : Char}
    {parts : List (List Char)} (brackets : Printable [first, last])
    (h : ∀ part ∈ parts, Printable part) : Printable (enclosed style level first last parts) := by
  have flat : ∀ level, style.newline level = [] := fun level => by
    rw [Style.newline, line.indent]
  unfold enclosed
  split
  · exact brackets
  · obtain ⟨opening, closing⟩ := List.forall_mem_cons.mp brackets
    simp only [flat, List.append_nil]
    exact ((Printable.intercalate line.comma h).cons opening).append closing

theorem renderItems_eq (style : Style) (level : Nat) (vs : List Value) :
    renderItems style level vs = vs.map (render style level) := by
  induction vs with
  | nil => rfl
  | cons v vs ih => rw [renderItems, ih, List.map_cons]

theorem renderMembers_eq (style : Style) (level : Nat) (ms : Table Value) :
    renderMembers style level ms = ms.mapValues (render style level) := by
  induction ms with
  | nil => rfl
  | cons m ms ih =>
      rw [renderMembers, ih]
      rfl

theorem printable_members (line : style.OneLine) {texts : Table (List Char)}
    (h : ∀ m ∈ texts, Printable m.2) : ∀ part ∈ memberParts style texts, Printable part := by
  have each : ∀ m ∈ texts,
      Printable (writtenText style.asciiOnly m.1 ++ style.colon.toList ++ m.2) := by
    intro m mem
    rw [line.ascii]
    exact ((printable_writtenText m.1).append line.colon).append (h m mem)
  unfold memberParts
  dsimp only
  split
  · exact List.forall_mem_map.mpr fun m mem => each m (Table.mem_sorted.mp mem)
  · exact List.forall_mem_map.mpr each

theorem printable_render (line : style.OneLine) (v : Value) (level : Nat) :
    Printable (render style level v) := by
  have ofMembers : ∀ (ms : Table Value) (level : Nat),
      (∀ m ∈ ms, ∀ level, Printable (render style level m.2)) →
        ∀ m ∈ renderMembers style level ms, Printable m.2 := by
    intro ms level ih
    rw [renderMembers_eq]
    exact List.forall_mem_map.mpr fun m mem => ih m mem level
  induction v using Value.induction generalizing level with
  | plain v atom =>
      cases v with
      | null => exact (by decide : Printable "null".toList)
      | bool b =>
          rw [render]
          split <;> decide
      | int i => exact printable_integer i
      | double x => exact printable_double x
      | text s =>
          rw [render, line.ascii]
          exact printable_writtenText s
      | handle h =>
          rw [render, line.ascii]
          exact printable_writtenText h.text
      | list vs => cases atom
      | object ms => cases atom
      | cyclic ms self => cases atom
  | list vs ih =>
      rw [render, renderItems_eq]
      exact printable_enclosed line level (by decide)
        (List.forall_mem_map.mpr fun v mem => ih v mem (level + 1))
  | object ms ih =>
      rw [render]
      exact printable_enclosed line level (by decide)
        (printable_members line (ofMembers ms (level + 1) ih))
  | cyclic ms self ih =>
      rw [render]
      exact printable_enclosed line level (by decide)
        (printable_members line (ofMembers ms (level + 1) ih))

theorem oneLine_sortedLine : Style.sortedLine.OneLine := ⟨rfl, rfl, by decide, by decide⟩

end Json

end Workflow
