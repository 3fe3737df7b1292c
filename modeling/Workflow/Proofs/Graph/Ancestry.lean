import Mathlib.Data.List.Perm.Subperm
import Workflow.Plan
import Workflow.Proofs.Graph.Way

/-! Ancestors. The search for all that is linked to a node goes on until nothing new is found, and
the number of rounds that it is given suffices for that; so the ancestors of a node are the nodes
from which some way leads to it. -/

namespace Workflow

section

variable {next : String → List String} {rounds : Nat} {seen frontier ids : List String}
  {x y : String}

theorem mem_fresh :
    x ∈ distinct ((frontier.flatMap next).filter fun x => !seen.contains x) ↔
      (∃ y ∈ frontier, x ∈ next y) ∧ x ∉ seen := by
  simp [mem_distinct]

/-- What is seen stays so, and all that is found has a link from something found before. -/
theorem mem_of_mem_spread {P : String → Prop} (start : ∀ x ∈ seen, P x)
    (front : ∀ x ∈ frontier, P x) (step : ∀ x y, P x → y ∈ next x → P y)
    (h : y ∈ spread next rounds seen frontier) : P y := by
  induction rounds generalizing seen frontier with
  | zero => exact start y h
  | succ rounds ih =>
      unfold spread at h
      have grown : ∀ x ∈ distinct ((frontier.flatMap next).filter fun x => !seen.contains x),
          P x := by
        intro x fresh
        obtain ⟨⟨y, mem, link⟩, -⟩ := mem_fresh.mp fresh
        exact step y x (front y mem) link
      split at h
      · exact start y h
      · refine ih ?_ grown h
        intro x mem
        exact (List.mem_append.mp mem).elim (start x) (grown x)

theorem seen_subset_spread : seen ⊆ spread next rounds seen frontier := by
  induction rounds generalizing seen frontier with
  | zero => exact fun _ mem => mem
  | succ rounds ih =>
      unfold spread
      split
      · exact fun _ mem => mem
      · exact fun _ mem => ih (List.mem_append_left _ mem)

/-- What is known while a search goes on within some ids: what is seen is distinct, and every link
from it that does not lead to what is seen comes from the frontier. -/
structure Searching (next : String → List String) (ids seen frontier : List String) : Prop where
  nodup : seen.Nodup
  within : seen ⊆ ids
  front : frontier ⊆ seen
  closed : ∀ x ∈ seen, x ∉ frontier → ∀ y ∈ next x, y ∈ seen

theorem Searching.advance (inside : ∀ x ∈ ids, ∀ y ∈ next x, y ∈ ids)
    (h : Searching next ids seen frontier) :
    Searching next ids
      (seen ++ distinct ((frontier.flatMap next).filter fun x => !seen.contains x))
      (distinct ((frontier.flatMap next).filter fun x => !seen.contains x)) where
  nodup := by
    refine List.nodup_append.mpr ⟨h.nodup, nodup_distinct _, ?_⟩
    rintro a old b fresh rfl
    exact (mem_fresh.mp fresh).2 old
  within a mem := by
    rcases List.mem_append.mp mem with old | fresh
    · exact h.within old
    · obtain ⟨⟨b, here, link⟩, -⟩ := mem_fresh.mp fresh
      exact inside b (h.within (h.front here)) a link
  front _ mem := List.mem_append_right _ mem
  closed a mem later b link := by
    have old := (List.mem_append.mp mem).resolve_right later
    by_cases now : a ∈ frontier
    · by_cases known : b ∈ seen
      · exact List.mem_append_left _ known
      · exact List.mem_append_right _ (mem_fresh.mpr ⟨⟨a, now, link⟩, known⟩)
    · exact List.mem_append_left _ (h.closed a old now b link)

/-- Where nothing new is behind the frontier, every link leads to what is seen. -/
theorem Searching.closed_of_stale (h : Searching next ids seen frontier)
    (stale : distinct ((frontier.flatMap next).filter fun x => !seen.contains x) = []) :
    ∀ x ∈ seen, ∀ y ∈ next x, y ∈ seen := by
  intro x found y link
  by_cases now : x ∈ frontier
  · by_contra new
    have fresh := mem_fresh.mpr ⟨⟨x, now, link⟩, new⟩
    rw [stale] at fresh
    exact List.not_mem_nil fresh
  · exact h.closed x found now y link

/-- A search within some ids that is given as many rounds as there are ids still to be found goes on
to its end: every link from what is found leads to what is found. -/
theorem Searching.spread_closed (inside : ∀ x ∈ ids, ∀ y ∈ next x, y ∈ ids)
    (h : Searching next ids seen frontier) (room : ids.length ≤ rounds + seen.length) :
    ∀ x ∈ spread next rounds seen frontier, ∀ y ∈ next x,
      y ∈ spread next rounds seen frontier := by
  induction rounds generalizing seen frontier with
  | zero =>
      intro x found y link
      have all := (h.nodup.subperm h.within).perm_of_length_le (by omega)
      exact all.mem_iff.mpr (inside x (h.within found) y link)
  | succ rounds ih =>
      unfold spread
      split
      · rename_i stale
        exact h.closed_of_stale stale
      · rename_i some'
        -- Something new is seen, so one round less will do.
        have grows := List.length_pos_iff.mpr some'
        refine ih (h.advance inside) ?_
        rw [List.length_append]
        omega

end

namespace Graph

variable {g : Graph} {a id : String}

/-- The sources of the edges into a node are among its ancestors, and so are those of the edges into
its ancestors. -/
theorem sourcesOf_subset_ancestors (h : a = id ∨ a ∈ g.ancestors id) :
    sourcesOf g.functionalEdges a ⊆ g.ancestors id := by
  have inside : ∀ x ∈ g.functionalIds, ∀ y ∈ sourcesOf g.functionalEdges x,
      y ∈ g.functionalIds := by
    intro x _ y link
    obtain ⟨e, edge, -, rfl⟩ := mem_sourcesOf.mp link
    exact source_mem_functionalIds edge
  have first : distinct (sourcesOf g.functionalEdges id) ⊆ g.functionalIds := by
    intro x mem
    obtain ⟨e, edge, -, rfl⟩ := mem_sourcesOf.mp (mem_distinct.mp mem)
    exact source_mem_functionalIds edge
  intro b link
  rcases h with rfl | mem
  · exact seen_subset_spread (mem_distinct.mpr link)
  · have search : Searching (sourcesOf g.functionalEdges) g.functionalIds
        (distinct (sourcesOf g.functionalEdges id)) (distinct (sourcesOf g.functionalEdges id)) :=
      ⟨nodup_distinct _, first, fun _ mem => mem, fun _ seen new => absurd seen new⟩
    exact search.spread_closed inside (Nat.le_add_right _ _) a mem b link

/-- The ancestors of a node are the nodes from which a way leads to it. -/
theorem mem_ancestors_iff : a ∈ g.ancestors id ↔ g.Precedes a id := by
  constructor
  · intro mem
    have first : ∀ x ∈ distinct (sourcesOf g.functionalEdges id), g.Precedes x id := by
      intro x mem
      obtain ⟨e, edge, rfl, rfl⟩ := mem_sourcesOf.mp (mem_distinct.mp mem)
      exact ⟨[e], List.cons_ne_nil _ _, edge, rfl, rfl⟩
    refine mem_of_mem_spread (P := fun a => g.Precedes a id) first first ?_ mem
    rintro x y ⟨way, -, leads⟩ link
    obtain ⟨e, edge, rfl, rfl⟩ := mem_sourcesOf.mp link
    exact ⟨e :: way, List.cons_ne_nil _ _, edge, rfl, leads⟩
  · rintro ⟨way, some', leads⟩
    induction way generalizing a with
    | nil => exact absurd rfl some'
    | cons e rest ih =>
        obtain ⟨edge, rfl, leads⟩ := leads
        refine sourcesOf_subset_ancestors ?_ (mem_sourcesOf.mpr ⟨e, edge, rfl, rfl⟩)
        cases rest with
        | nil => exact .inl leads
        | cons d rest => exact .inr (ih (List.cons_ne_nil _ _) leads)

end Graph

theorem Plan.isAncestor_iff {g : Graph} {a id : String} (known : id ∈ g.functionalIds) :
    (Plan.ofGraph g).isAncestor a id = true ↔ g.Precedes a id := by
  have found : (Plan.ofGraph g).ancestors.get? id = some (g.ancestors id) := by
    change Table.get? (g.functionalIds.map fun id => (id, g.ancestors id)) id = _
    rw [Table.get?_map, if_pos known]
  rw [isAncestor, found, Option.getD_some, List.contains_iff_mem, Graph.mem_ancestors_iff]

end Workflow
