import Mathlib.Data.List.DropRight
import Workflow.Text.Blank

/-! Trimming: a text is its trimmed text with blanks around it, and blanks that are put around a
text make no difference to what is trimmed of it. -/

namespace Workflow.Text

def AllBlank (cs : List Char) : Prop := ∀ c ∈ cs, isBlank c = true

instance (cs : List Char) : Decidable (AllBlank cs) :=
  decidable_of_iff (cs.all isBlank = true) List.all_eq_true

structure Trimmed (cs : List Char) : Prop where
  first : ∀ c, cs.head? = some c → isBlank c = false
  last : ∀ c, cs.getLast? = some c → isBlank c = false

def Padded (core cs : List Char) : Prop :=
  ∃ before after, AllBlank before ∧ AllBlank after ∧ cs = before ++ core ++ after

variable {after before cs core : List Char} {p : Char → Bool}

/-- Dropping from the back is the library's `rdropWhile`. -/
theorem dropBack_eq (p : Char → Bool) (cs : List Char) : dropBack p cs = cs.rdropWhile p := rfl

theorem dropBack_append (h : ∀ c ∈ after, p c = true) :
    dropBack p (cs ++ after) = dropBack p cs := by
  have passed : ∀ c ∈ after.reverse, p c = true := fun c mem => h c (List.mem_reverse.mp mem)
  rw [dropBack, dropBack, List.reverse_append, List.dropWhile_append_of_pos passed]

theorem trimBlank_append (blank : AllBlank after) : trimBlank (cs ++ after) = trimBlank cs := by
  rw [trimBlank, trimBlank, dropFront, dropFront, List.dropWhile_append]
  split
  · rename_i none'
    have nothing : after.dropWhile isBlank = [] := List.dropWhile_eq_nil_iff.mpr blank
    rw [nothing, List.isEmpty_iff.mp none']
  · exact dropBack_append blank

theorem trimBlank_prepend (blank : AllBlank before) : trimBlank (before ++ cs) = trimBlank cs := by
  rw [trimBlank, trimBlank, dropFront, dropFront, List.dropWhile_append_of_pos blank]

theorem Padded.trimBlank_eq (h : Padded core cs) : trimBlank cs = trimBlank core := by
  obtain ⟨before, after, front, back, rfl⟩ := h
  rw [trimBlank_append back, trimBlank_prepend front]

theorem dropFront_of_first (h : ∀ c, cs.head? = some c → p c = false) : dropFront p cs = cs := by
  cases cs with
  | nil => rfl
  | cons c rest =>
      have first : ¬p c = true := by simp [h c rfl]
      exact List.dropWhile_cons_of_neg first

theorem dropBack_of_last (h : ∀ c, cs.getLast? = some c → p c = false) : dropBack p cs = cs := by
  rw [dropBack_eq, List.rdropWhile_eq_self_iff]
  intro some'
  have last := h _ (List.getLast?_eq_some_getLast some')
  simp [last]

theorem trimBlank_of_trimmed (h : Trimmed cs) : trimBlank cs = cs := by
  rw [trimBlank, dropFront_of_first h.first, dropBack_of_last h.last]

theorem trimmed_trimBlank (cs : List Char) : Trimmed (trimBlank cs) := by
  constructor
  · intro c head
    have front : (dropFront isBlank cs).head? = some c := by
      obtain ⟨rest, split⟩ : trimBlank cs <+: dropFront isBlank cs :=
        List.rdropWhile_prefix isBlank _
      rw [← split, List.head?_append, head, Option.some_or]
    have stop := List.head?_dropWhile_not isBlank cs
    rwa [← dropFront, front] at stop
  · intro c last
    have some' : (dropFront isBlank cs).rdropWhile isBlank ≠ [] := by
      intro none'
      rw [trimBlank, dropBack_eq, none'] at last
      cases last
    have stop := List.rdropWhile_last_not isBlank _ some'
    rw [trimBlank, dropBack_eq, List.getLast?_eq_some_getLast some', Option.some.injEq] at last
    rw [← last]
    simpa using stop

theorem padded_trimBlank (cs : List Char) : Padded (trimBlank cs) cs := by
  refine ⟨cs.takeWhile isBlank, (dropFront isBlank cs).rtakeWhile isBlank, ?_, ?_, ?_⟩
  · exact fun c mem => List.mem_takeWhile_imp mem
  · exact fun c mem => List.mem_rtakeWhile_imp mem
  · rw [trimBlank, dropBack_eq, List.append_assoc, List.rdropWhile_append_rtakeWhile, dropFront,
      List.takeWhile_append_dropWhile]

/-- A text is trimmed to another just if it is that one, which has no blank at its ends, with blanks
around it. -/
theorem trimBlank_eq_iff : trimBlank cs = core ↔ Trimmed core ∧ Padded core cs := by
  constructor
  · rintro rfl
    exact ⟨trimmed_trimBlank cs, padded_trimBlank cs⟩
  · rintro ⟨trimmed, padded⟩
    rw [padded.trimBlank_eq, trimBlank_of_trimmed trimmed]

/-- Nothing is left of a text just if there is nothing but blanks in it. -/
theorem trimBlank_eq_nil_iff : trimBlank cs = [] ↔ AllBlank cs := by
  constructor
  · intro none'
    obtain ⟨before, after, front, back, split⟩ := padded_trimBlank cs
    rw [none', List.append_nil] at split
    rw [split]
    exact List.forall_mem_append.mpr ⟨front, back⟩
  · intro blank
    have padded : Padded [] cs := ⟨cs, [], blank, List.forall_mem_nil _, by simp⟩
    exact padded.trimBlank_eq

end Workflow.Text
