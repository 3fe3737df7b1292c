import Mathlib.Data.List.Forall2
import Workflow.Ranked

/-! Ranking keeps the elements of a list, and texts with the same elements are ranked alike. Lists
that agree in rank stay side by side, and some of the elements are ranked as they are among all. -/

namespace Workflow

variable {α : Type}

theorem insertRanked_perm (before : α → α → Bool) (x : α) (l : List α) :
    (insertRanked before x l).Perm (x :: l) := by
  induction l with
  | nil => exact List.Perm.refl _
  | cons y rest ih =>
      unfold insertRanked
      split
      · exact List.Perm.refl _
      · exact (ih.cons y).trans (List.Perm.swap x y rest)

theorem ranked_perm (before : α → α → Bool) (l : List α) : (ranked before l).Perm l := by
  induction l with
  | nil => exact List.Perm.refl _
  | cons x rest ih => exact (insertRanked_perm _ x _).trans (ih.cons x)

theorem sortedTexts_perm (l : List String) : (sortedTexts l).Perm l := ranked_perm _ l

theorem mem_sortedTexts {x : String} {l : List String} : x ∈ sortedTexts l ↔ x ∈ l :=
  (sortedTexts_perm l).mem_iff

section

variable {before : α → α → Bool} {le : α → α → Prop}

theorem insertRanked_pairwise (trans : ∀ a b c, le a b → le b c → le a c) {x : α} {l : List α}
    (ahead : ∀ y, before x y = true → le x y) (behind : ∀ y, before x y = false → le y x)
    (h : l.Pairwise le) : (insertRanked before x l).Pairwise le := by
  induction l with
  | nil => exact List.pairwise_singleton _ x
  | cons y rest ih =>
      obtain ⟨below, sorted⟩ := List.pairwise_cons.mp h
      unfold insertRanked
      split
      · rename_i first
        refine List.pairwise_cons.mpr ⟨fun z mem => ?_, h⟩
        rcases List.mem_cons.mp mem with rfl | later
        · exact ahead _ first
        · exact trans _ _ _ (ahead _ first) (below z later)
      · rename_i later
        refine List.pairwise_cons.mpr ⟨fun z mem => ?_, ih sorted⟩
        rcases mem_insertRanked.mp mem with rfl | old
        · exact behind _ (Bool.eq_false_iff.mpr later)
        · exact below z old

/-- A ranked list is in order, if what is before another is not after it in that order. -/
theorem ranked_pairwise (trans : ∀ a b c, le a b → le b c → le a c)
    (strict : ∀ a b, before a b = true → le a b) (total : ∀ a b, before a b = false → le b a)
    (l : List α) : (ranked before l).Pairwise le := by
  induction l with
  | nil => exact List.Pairwise.nil
  | cons x rest ih =>
      refine insertRanked_pairwise trans (fun y first => ?_) (fun y later => ?_) ih
      · rw [Bool.not_eq_true'] at first
        exact total y x first
      · rw [Bool.not_eq_false'] at later
        exact strict y x later

end

theorem sortedTexts_ordered (l : List String) : (sortedTexts l).Pairwise (· ≤ ·) := by
  refine ranked_pairwise ?_ ?_ ?_ l
  · exact fun _ _ _ => String.le_trans
  · exact fun _ _ first => String.not_lt.mp (String.lt_asymm (of_decide_eq_true first))
  · exact fun _ _ later => String.not_lt.mp (of_decide_eq_false later)

/-- The order of texts does not depend on the order in which they came. -/
theorem sortedTexts_congr {l k : List String} (h : l.Perm k) : sortedTexts l = sortedTexts k := by
  have same : (sortedTexts l).Perm (sortedTexts k) :=
    (sortedTexts_perm l).trans (h.trans (sortedTexts_perm k).symm)
  exact same.eq_of_pairwise (fun _ _ _ _ => String.le_antisymm) (sortedTexts_ordered l)
    (sortedTexts_ordered k)

section

variable {β : Type} {related : α → β → Prop} {before : α → α → Bool} {before' : β → β → Bool}

theorem insertRanked_forall₂
    (agree : ∀ {a b c d}, related a b → related c d → before a c = before' b d) {x : α} {y : β}
    (first : related x y) {l : List α} {k : List β} (h : List.Forall₂ related l k) :
    List.Forall₂ related (insertRanked before x l) (insertRanked before' y k) := by
  induction h with
  | nil => exact .cons first .nil
  | @cons a b l k now later ih =>
      unfold insertRanked
      rw [agree first now]
      split
      · exact .cons first (.cons now later)
      · exact .cons now ih

/-- Lists whose elements are related stay so when both are ranked, if related elements agree in
rank. -/
theorem ranked_forall₂
    (agree : ∀ {a b c d}, related a b → related c d → before a c = before' b d) {l : List α}
    {k : List β} (h : List.Forall₂ related l k) :
    List.Forall₂ related (ranked before l) (ranked before' k) := by
  induction h with
  | nil => exact .nil
  | cons now _ ih =>
      refine insertRanked_forall₂ (fun first second => ?_) now ih
      rw [agree second first]

end

section

variable {key : α → Nat} {x : α} {l : List α}

theorem insertRanked_of_first (h : ∀ y ∈ l, key x ≤ key y) :
    insertRanked (fun a b => !decide (key b < key a)) x l = x :: l := by
  cases l with
  | nil => rfl
  | cons y rest =>
      have le := h y List.mem_cons_self
      rw [insertRanked, if_pos (by simpa using le)]

theorem ranked_sorted (key : α → Nat) (l : List α) :
    (ranked (fun a b => decide (key a < key b)) l).Pairwise fun a b => key a ≤ key b := by
  refine ranked_pairwise ?_ ?_ ?_ l
  · exact fun _ _ _ => Nat.le_trans
  · exact fun _ _ first => Nat.le_of_lt (of_decide_eq_true first)
  · exact fun _ _ later => Nat.not_lt.mp (of_decide_eq_false later)

theorem insertRanked_filter (h : l.Pairwise fun a b => key a ≤ key b) (f : α → Bool) :
    (insertRanked (fun a b => !decide (key b < key a)) x l).filter f =
      if f x then insertRanked (fun a b => !decide (key b < key a)) x (l.filter f)
      else l.filter f := by
  induction l with
  | nil => cases kept : f x <;> simp [insertRanked, kept]
  | cons y rest ih =>
      obtain ⟨below, sorted⟩ := List.pairwise_cons.mp h
      by_cases first : key x ≤ key y
      · have front : ∀ z ∈ (y :: rest).filter f, key x ≤ key z := by
          intro z mem
          rcases List.mem_cons.mp (List.mem_of_mem_filter mem) with rfl | later
          · exact first
          · exact Nat.le_trans first (below z later)
        rw [insertRanked, if_pos (by simpa using first), insertRanked_of_first front,
          List.filter_cons]
      · have later : ∀ k, insertRanked (fun a b => !decide (key b < key a)) x (y :: k) =
            y :: insertRanked (fun a b => !decide (key b < key a)) x k := by
          intro k
          rw [insertRanked, if_neg (by simpa using first)]
        rw [later, List.filter_cons, ih sorted, List.filter_cons]
        by_cases passed : f y = true
        · rw [if_pos passed, if_pos passed, later]
          split <;> rfl
        · rw [if_neg passed, if_neg passed]

/-- Some of the elements come in the order that they have among all. -/
theorem ranked_filter (key : α → Nat) (f : α → Bool) (l : List α) :
    (ranked (fun a b => decide (key a < key b)) l).filter f =
      ranked (fun a b => decide (key a < key b)) (l.filter f) := by
  induction l with
  | nil => rfl
  | cons x rest ih =>
      rw [ranked, insertRanked_filter (ranked_sorted key rest), ih, List.filter_cons]
      split <;> rfl

end

theorem ranked_of_pairwise {α : Type} {before : α → α → Bool} {l : List α}
    (h : l.Pairwise fun a b => before b a = false) : ranked before l = l := by
  induction h with
  | nil => rfl
  | @cons x rest below _ ih =>
      rw [ranked, ih]
      cases rest with
      | nil => rfl
      | cons y rest => rw [insertRanked, below y List.mem_cons_self, Bool.not_false, if_pos rfl]

theorem ranked_map {α β : Type} {before : α → α → Bool} {before' : β → β → Bool} (f : α → β)
    (agree : ∀ a b, before a b = before' (f a) (f b)) (l : List α) :
    ranked before' (l.map f) = (ranked before l).map f := by
  have related : List.Forall₂ (fun a b => f a = b) l (l.map f) := by
    rw [List.forall₂_map_right_iff, List.forall₂_same]
    exact fun _ _ => rfl
  have sorted : List.Forall₂ (fun a b => f a = b) (ranked before l) (ranked before' (l.map f)) :=
    ranked_forall₂ (fun first second => by rw [agree, first, second]) related
  rw [← List.forall₂_map_left_iff (f := f), List.forall₂_eq_eq_eq] at sorted
  exact sorted.symm

end Workflow
