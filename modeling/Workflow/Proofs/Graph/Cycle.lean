import Mathlib.Data.List.Nodup
import Mathlib.Data.List.Perm.Subperm
import Workflow.Graph.Links
import Workflow.Graph.Stages
import Workflow.Proofs.Ranked
import Workflow.Proofs.Table

/-! Who is linked with whom: membership in the lists of targets, sources and functional edges, and
lists without repetitions. A depth-first search along the links that meets no cycle leaves its nodes
finished in an order in which every node stands in front of its successors. -/

namespace Workflow

theorem distinct_perm {l k : List String} (h : ∀ x, x ∈ l ↔ x ∈ k) :
    (distinct l).Perm (distinct k) := by
  refine (List.perm_ext_iff_of_nodup (nodup_distinct l) (nodup_distinct k)).mpr ?_
  intro x
  rw [mem_distinct, mem_distinct, h]

theorem distinct_concat (l : List String) (x : String) :
    distinct (l ++ [x]) = if x ∈ l then distinct l else distinct l ++ [x] := by
  induction l with
  | nil => rfl
  | cons y rest ih =>
      rw [List.cons_append, distinct, ih]
      by_cases same : x = y
      · subst same
        by_cases later : x ∈ rest <;> simp [distinct, later]
      · by_cases later : x ∈ rest <;> simp [distinct, later, same]

/-- What some elements pass is passed by the same ones of them first. -/
theorem distinct_filter (f : String → Bool) (l : List String) :
    (distinct l).filter f = distinct (l.filter f) := by
  induction l with
  | nil => rfl
  | cons x rest ih =>
      rw [distinct, List.filter_cons, List.filter_cons, List.filter_filter]
      have swap : ((distinct rest).filter fun a => f a && decide (a ≠ x)) =
          (distinct (rest.filter f)).filter (· ≠ x) := by
        rw [← ih, List.filter_filter]
        exact List.filter_congr fun a _ => Bool.and_comm _ _
      rw [swap]
      by_cases passed : f x = true
      · rw [if_pos passed, if_pos passed, distinct]
      · rw [if_neg passed, if_neg passed, List.filter_eq_self]
        intro a mem
        have kept := (List.mem_filter.mp (mem_distinct.mp mem)).2
        refine decide_eq_true fun same => passed (same ▸ kept)

theorem mem_targetsOf {edges : List Edge} {id target : String} :
    target ∈ targetsOf edges id ↔ ∃ e ∈ edges, e.source = id ∧ e.target = target := by
  simp [targetsOf, mem_distinct, and_assoc]

theorem mem_sourcesOf {edges : List Edge} {id source : String} :
    source ∈ sourcesOf edges id ↔ ∃ e ∈ edges, e.target = id ∧ e.source = source := by
  simp [sourcesOf, mem_distinct, and_assoc]

namespace Graph

variable {g : Graph}

theorem mem_functionalIds {id : String} :
    id ∈ g.functionalIds ↔ ∃ n ∈ g.functionalNodes, n.id = id := by
  simp [functionalIds, mem_distinct]

theorem mem_functionalEdges {e : Edge} :
    e ∈ g.functionalEdges ↔
      e ∈ g.edges ∧ e.source ∈ g.functionalIds ∧ e.target ∈ g.functionalIds := by
  simp [functionalEdges, mem_functionalIds]

theorem source_mem_functionalIds {e : Edge} (h : e ∈ g.functionalEdges) :
    e.source ∈ g.functionalIds := (mem_functionalEdges.mp h).2.1

theorem target_mem_functionalIds {e : Edge} (h : e ∈ g.functionalEdges) :
    e.target ∈ g.functionalIds := (mem_functionalEdges.mp h).2.2

end Graph

end Workflow

namespace Workflow

/-- Every node stands in front of all its successors. -/
def Finished (next : String → List String) : List String → Prop
  | [] => True
  | x :: rest => (∀ child ∈ next x, child ∈ rest) ∧ Finished next rest

theorem except_bind_ok {ε α β : Type} {x : Except ε α} {f : α → Except ε β} {b : β}
    (h : x >>= f = .ok b) : ∃ a, x = .ok a ∧ f a = .ok b := by
  cases x with
  | error e => cases h
  | ok a => exact ⟨a, rfl, h⟩

theorem Finished.closed {next : String → List String} {done : List String}
    (h : Finished next done) {x child : String} (hx : x ∈ done) (hc : child ∈ next x) :
    child ∈ done := by
  induction done with
  | nil => cases hx
  | cons y rest ih =>
      rcases List.mem_cons.mp hx with rfl | later
      · exact List.mem_cons_of_mem _ (h.1 child hc)
      · exact List.mem_cons_of_mem _ (ih h.2 later)

/-- Finished nodes that all wait for one another do not exist: where each of some nodes is a
successor of one of them, there are none. -/
theorem Finished.eq_nil_of_waiting {next : String → List String} {done : List String}
    (h : Finished next done) {held : List String} (within : ∀ x ∈ held, x ∈ done)
    (waits : ∀ x ∈ held, ∃ y ∈ held, x ∈ next y) : held = [] := by
  induction done with
  | nil => exact List.eq_nil_iff_forall_not_mem.mpr fun x hx => List.not_mem_nil (within x hx)
  | cons y rest ih =>
      refine ih h.2 ?_
      intro x hx
      rcases List.mem_cons.mp (within x hx) with rfl | later
      · obtain ⟨z, hz, link⟩ := waits x hx
        rcases List.mem_cons.mp (within z hz) with rfl | later
        · exact h.1 z link
        · exact h.2.closed later link
      · exact later

/-- A search of successors keeps what is finished and finishes every child, if each search of a
single child does. -/
theorem finished_children {next : String → List String}
    {visit : List String → String → Except (List String) (List String)} {children : List String}
    (each : ∀ child ∈ children, ∀ done done', Finished next done → visit done child = .ok done' →
      Finished next done' ∧ child ∈ done' ∧ done ⊆ done') :
    ∀ done done', Finished next done → children.foldlM visit done = .ok done' →
      Finished next done' ∧ (∀ child ∈ children, child ∈ done') ∧ done ⊆ done' := by
  induction children with
  | nil =>
      intro done done' h ok
      cases ok
      exact ⟨h, fun _ hc => absurd hc List.not_mem_nil, fun _ hx => hx⟩
  | cons child rest ih =>
      intro done done' h ok
      rw [List.foldlM_cons] at ok
      obtain ⟨mid, first, later⟩ := except_bind_ok ok
      obtain ⟨hmid, found, kept⟩ := each child List.mem_cons_self done mid h first
      obtain ⟨hdone, all, kept'⟩ :=
        ih (fun c hc => each c (List.mem_cons_of_mem _ hc)) mid done' hmid later
      refine ⟨hdone, ?_, fun x hx => kept' (kept hx)⟩
      intro c hc
      rcases List.mem_cons.mp hc with rfl | hc
      · exact kept' found
      · exact all c hc

/-- The path of a search repeats no node, so the depth that is given suffices. -/
theorem searchFrom_finished {next : String → List String} {ids : List String}
    (inside : ∀ x ∈ ids, ∀ child ∈ next x, child ∈ ids) :
    ∀ (depth : Nat) (path done : List String) (node : String) (done' : List String),
      Finished next done → path.Nodup → path ⊆ ids → node ∈ ids →
      ids.length + 2 ≤ depth + path.length →
      searchFrom next depth path done node = .ok done' →
      Finished next done' ∧ node ∈ done' ∧ done ⊆ done' := by
  intro depth
  induction depth with
  | zero =>
      intro path done node done' _ unique within _ room _
      have := (unique.subperm within).length_le
      omega
  | succ depth ih =>
      intro path done node done' h unique within hnode room ok
      unfold searchFrom at ok
      obtain ⟨mid, fold, rest⟩ := except_bind_ok ok
      cases rest
      have each : ∀ child ∈ next node, ∀ d d', Finished next d →
          (if path.contains child then Except.error (closedPath path child)
            else if d.contains child then .ok d
            else searchFrom next depth (child :: path) d child) = .ok d' →
          Finished next d' ∧ child ∈ d' ∧ d ⊆ d' := by
        intro child hc d d' hd visit
        have hchild := inside node hnode child hc
        split at visit
        · cases visit
        · rename_i off
          split at visit
          · rename_i seen
            cases visit
            exact ⟨hd, by simpa using seen, fun _ hx => hx⟩
          · have apart : (child :: path).Nodup :=
              List.nodup_cons.mpr ⟨by simpa using off, unique⟩
            have within' : child :: path ⊆ ids := List.cons_subset.mpr ⟨hchild, within⟩
            refine ih (child :: path) d child d' hd apart within' hchild ?_ visit
            rw [List.length_cons]
            omega
      obtain ⟨hmid, all, kept⟩ := finished_children each done mid h fold
      exact ⟨⟨all, hmid⟩, List.mem_cons_self, fun x hx => List.mem_cons_of_mem _ (kept hx)⟩

theorem searchAll_finished {next : String → List String} {ids done : List String}
    (inside : ∀ x ∈ ids, ∀ child ∈ next x, child ∈ ids)
    (ok : searchAll next (ids.length + 1) ids = .ok done) :
    Finished next done ∧ ∀ id ∈ ids, id ∈ done := by
  have each : ∀ root ∈ ids, ∀ d d', Finished next d →
      (if d.contains root then Except.ok d
        else searchFrom next (ids.length + 1) [root] d root) = .ok d' →
      Finished next d' ∧ root ∈ d' ∧ d ⊆ d' := by
    intro root hr d d' hd visit
    split at visit
    · rename_i seen
      cases visit
      exact ⟨hd, by simpa using seen, fun _ hx => hx⟩
    · exact searchFrom_finished inside _ [root] d root d' hd (List.nodup_singleton root)
        (List.cons_subset.mpr ⟨hr, List.nil_subset _⟩) hr (by simp) visit
  obtain ⟨h, all, _⟩ := finished_children each [] done trivial ok
  exact ⟨h, all⟩

/-- A graph without a cycle has all its functional nodes in an order of finishing. -/
theorem Graph.finished_of_findCycle {g : Graph} (h : g.findCycle = none) :
    ∃ done, Finished (targetsOf g.functionalEdges) done ∧ ∀ id ∈ g.functionalIds, id ∈ done := by
  simp only [Graph.findCycle] at h
  split at h
  · cases h
  · rename_i done ok
    have inside : ∀ x ∈ sortedTexts g.functionalIds,
        ∀ child ∈ sortedTexts (targetsOf g.functionalEdges x),
          child ∈ sortedTexts g.functionalIds := by
      intro x _ child hc
      obtain ⟨e, he, -, rfl⟩ := mem_targetsOf.mp (mem_sortedTexts.mp hc)
      exact mem_sortedTexts.mpr (target_mem_functionalIds he)
    obtain ⟨finished, all⟩ := searchAll_finished inside ok
    refine ⟨done, ?_, fun id hid => all id (mem_sortedTexts.mpr hid)⟩
    clear ok all
    induction done with
    | nil => trivial
    | cons x rest ih =>
        exact ⟨fun c hc => finished.1 c (mem_sortedTexts.mpr hc), ih finished.2⟩

end Workflow
