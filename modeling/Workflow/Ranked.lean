import Workflow.Table

/-! Lists put in order by a key. Texts are ordered by their code points. -/

namespace Workflow

/-- Places an element before the first one that is ranked after it. -/
def insertRanked {α : Type} (before : α → α → Bool) (x : α) : List α → List α
  | [] => [x]
  | y :: rest => if before x y then x :: y :: rest else y :: insertRanked before x rest

/-- The elements in order; those of equal rank keep the order they came in. -/
def ranked {α : Type} (before : α → α → Bool) : List α → List α
  | [] => []
  | x :: rest => insertRanked (fun a b => !before b a) x (ranked before rest)

/-- Texts in code point order. -/
def sortedTexts (xs : List String) : List String := ranked (fun a b => decide (a < b)) xs

/-- A table with its keys in code point order. -/
def Table.sorted {α : Type} (t : Table α) : Table α :=
  ranked (fun a b => decide (a.1 < b.1)) t

theorem mem_insertRanked {α : Type} {before : α → α → Bool} {x y : α} {l : List α} :
    y ∈ insertRanked before x l ↔ y = x ∨ y ∈ l := by
  induction l with
  | nil => simp [insertRanked]
  | cons z rest ih =>
      by_cases h : before x z = true
      · simp [insertRanked, h]
      · simp [insertRanked, h, ih, or_left_comm]

theorem mem_ranked {α : Type} {before : α → α → Bool} {y : α} {l : List α} :
    y ∈ ranked before l ↔ y ∈ l := by
  induction l with
  | nil => simp [ranked]
  | cons x rest ih => simp [ranked, mem_insertRanked, ih]

end Workflow
