import Mathlib.Data.List.TakeWhile
import Workflow.Text.Split

/-! Texts taken apart at a mark: parts without the mark come back from the text that is made of them
with the mark in between, and lines from the text that is made of them with a line end after
each. -/

namespace Workflow.Text

variable {mark : Char} {cs rest line : List Char}

theorem splitAtEach_of_not_mem (h : mark ∉ cs) : splitAtEach mark cs = [cs] := by
  induction cs with
  | nil => rfl
  | cons c rest ih =>
      have apart : c ≠ mark := fun same => h (same ▸ List.mem_cons_self)
      have others : mark ∉ rest := fun mem => h (List.mem_cons_of_mem c mem)
      simp [splitAtEach, ih others, apart]

theorem splitAtEach_append (h : mark ∉ cs) (rest : List Char) :
    splitAtEach mark (cs ++ mark :: rest) = cs :: splitAtEach mark rest := by
  induction cs with
  | nil =>
      obtain ⟨part, parts, split⟩ := List.exists_cons_of_ne_nil (splitAtEach_ne_nil mark rest)
      simp [splitAtEach, split]
  | cons c cs ih =>
      have apart : c ≠ mark := fun same => h (same ▸ List.mem_cons_self)
      have others : mark ∉ cs := fun mem => h (List.mem_cons_of_mem c mem)
      simp [splitAtEach, ih others, apart]

theorem splitAtEach_intercalate {parts : List (List Char)} (some' : parts ≠ [])
    (plain : ∀ part ∈ parts, mark ∉ part) :
    splitAtEach mark (List.intercalate [mark] parts) = parts := by
  induction parts with
  | nil => exact absurd rfl some'
  | cons part parts ih =>
      obtain ⟨first, others⟩ := List.forall_mem_cons.mp plain
      cases parts with
      | nil => rw [List.intercalate_singleton, splitAtEach_of_not_mem first]
      | cons next parts =>
          rw [List.intercalate_cons_cons, List.append_assoc, List.singleton_append,
            splitAtEach_append first, ih (List.cons_ne_nil next parts) others]

/-! The first occurrence of a mark. -/

theorem cutAt_append (h : mark ∉ cs) (rest : List Char) :
    cutAt mark (cs ++ mark :: rest) = (cs, rest) := by
  have other : ∀ c ∈ cs, decide (c ≠ mark) = true := fun c mem =>
    decide_eq_true fun same => h (same ▸ mem)
  rw [cutAt, List.takeWhile_append_of_pos other, List.dropWhile_append_of_pos other]
  simp

theorem cutAt_of_not_mem (h : mark ∉ cs) : cutAt mark cs = (cs, []) := by
  have other : ∀ c ∈ cs, decide (c ≠ mark) = true := fun c mem =>
    decide_eq_true fun same => h (same ▸ mem)
  rw [cutAt, List.takeWhile_eq_self_iff.mpr other, List.dropWhile_eq_nil_iff.mpr other]
  rfl

theorem not_mem_cutAt_fst (mark : Char) (cs : List Char) : mark ∉ (cutAt mark cs).1 := by
  intro mem
  exact of_decide_eq_true (List.mem_takeWhile_imp (p := fun c => decide (c ≠ mark)) mem) rfl

theorem prefix_cutAt_fst (mark : Char) (cs : List Char) : (cutAt mark cs).1 <+: cs :=
  List.takeWhile_prefix _

theorem suffix_cutAt_snd (mark : Char) (cs : List Char) : (cutAt mark cs).2 <:+ cs :=
  (List.drop_suffix _ _).trans (List.dropWhile_suffix _)

/-! Lines. -/

theorem linesFrom_append (plain : ∀ c ∈ cs, isLineEnd c = false) (line rest : List Char) :
    linesFrom line (cs ++ '\n' :: rest) =
      String.ofList (line.reverse ++ cs) :: linesFrom [] rest := by
  induction cs generalizing line with
  | nil => simp [linesFrom, isLineEnd]
  | cons c cs ih =>
      obtain ⟨first, others⟩ := List.forall_mem_cons.mp plain
      have feed : c ≠ '\r' := by
        rintro rfl
        cases first
      have step : linesFrom line (c :: (cs ++ '\n' :: rest)) =
          linesFrom (c :: line) (cs ++ '\n' :: rest) := by
        rw [linesFrom]
        · rw [first, if_neg Bool.false_ne_true]
        · rintro others same -
          exact feed same
      rw [List.cons_append, step, ih others, List.reverse_cons, List.append_assoc]
      rfl

theorem lines_flatMap {ls : List (List Char)} (plain : ∀ l ∈ ls, ∀ c ∈ l, isLineEnd c = false) :
    lines (String.ofList (ls.flatMap fun l => l ++ ['\n'])) = ls.map String.ofList := by
  rw [lines, String.toList_ofList]
  induction ls with
  | nil => rfl
  | cons l ls ih =>
      obtain ⟨first, others⟩ := List.forall_mem_cons.mp plain
      rw [List.flatMap_cons, List.append_assoc, List.singleton_append, linesFrom_append first,
        ih others]
      rfl

/-- A text is found just where it stands inside another. -/
theorem occursIn_iff {part : List Char} : occursIn part cs = true ↔ part <:+: cs := by
  induction cs with
  | nil => simp [occursIn, List.isEmpty_iff]
  | cons c rest ih =>
      rw [occursIn, Bool.or_eq_true, List.isPrefixOf_iff_prefix, ih, List.infix_cons_iff]

end Workflow.Text
