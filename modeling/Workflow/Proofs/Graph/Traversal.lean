import Mathlib.Logic.Relation
import Workflow.Proofs.Graph.Levels

/-! The search for a cycle, step by step: a path is followed down to a node without further
successors and then taken back. The steps come to an end on every graph, and their answer is the
cycle that is reported, or that there is none. -/

namespace Workflow

/-- A search on its way: the nodes on the path, the last one in front, each with the successors that
it still has to look at; the nodes that are finished; the roots that are still to come. -/
structure Traversal where
  trail : List (String × List String)
  done : List String
  roots : List String

namespace Traversal

def step (next : String → List String) (t : Traversal) : Traversal ⊕ Option (List String) :=
  match t.trail with
  | [] =>
    match t.roots with
    | [] => .inr none
    | root :: roots =>
      if t.done.contains root then .inl { t with roots }
      else .inl { t with trail := [(root, next root)], roots }
  | (node, []) :: trail => .inl { t with trail, done := node :: t.done }
  | (node, child :: more) :: trail =>
    let path := node :: trail.map Prod.fst
    if path.contains child then .inr (some (closedPath path child))
    else if t.done.contains child then .inl { t with trail := (node, more) :: trail }
    else .inl { t with trail := (child, next child) :: (node, more) :: trail }

def Leads (next : String → List String) : Traversal → Traversal → Prop :=
  Relation.ReflTransGen fun s t => s.step next = .inl t

/-- A search comes to an answer in the end. -/
def Answers (next : String → List String) (t : Traversal) (answer : Option (List String)) : Prop :=
  ∃ last, Leads next t last ∧ last.step next = .inr answer

/-- A search comes to a result: to another search, or to a cycle as its answer. -/
def ComesTo (next : String → List String) (t : Traversal) :
    Except (List String) Traversal → Prop
  | .ok later => Leads next t later
  | .error cycle => Answers next t (some cycle)

variable {next : String → List String} {t u : Traversal} {answer answer' : Option (List String)}
  {result : Except (List String) Traversal} {ids done roots below : List String}

theorem ComesTo.after (leads : Leads next t u) (h : ComesTo next u result) :
    ComesTo next t result := by
  cases result with
  | ok later => exact leads.trans h
  | error cycle =>
      obtain ⟨last, leads', answers⟩ := h
      exact ⟨last, leads.trans leads', answers⟩

theorem ComesTo.step (step : t.step next = .inl u) (h : ComesTo next u result) :
    ComesTo next t result := h.after (.single step)

/-- A search has one answer at most. -/
theorem Answers.unique (h : Answers next t answer) (h' : Answers next t answer') :
    answer = answer' := by
  obtain ⟨last, leads, ends⟩ := h
  obtain ⟨last', leads', ends'⟩ := h'
  induction leads using Relation.ReflTransGen.head_induction_on with
  | refl =>
      rcases leads'.cases_head with rfl | ⟨u, first, -⟩
      · exact Sum.inr.inj (ends.symm.trans ends')
      · cases ends.symm.trans first
  | head first _ ih =>
      rcases leads'.cases_head with rfl | ⟨u, first', later⟩
      · cases first.symm.trans ends'
      · obtain rfl := Sum.inl.inj (first.symm.trans first')
        exact ih later

/-- If the steps from each child come to what the search from it comes to, then so do those of a
node that has some children left to look at. -/
theorem comesTo_children {depth : Nat} {node : String} {trail : List (String × List String)}
    (visited : ∀ child ∈ ids, ∀ more done, child ∉ node :: trail.map Prod.fst →
      ComesTo next ⟨(child, next child) :: (node, more) :: trail, done, roots⟩
        ((searchFrom next depth (child :: node :: trail.map Prod.fst) done child).map
          fun done => ⟨(node, more) :: trail, done, roots⟩))
    {children : List String} (inside : ∀ child ∈ children, child ∈ ids) (done : List String) :
    ComesTo next ⟨(node, children) :: trail, done, roots⟩
      ((children.foldlM (fun done child =>
        if (node :: trail.map Prod.fst).contains child then
          Except.error (closedPath (node :: trail.map Prod.fst) child)
        else if done.contains child then .ok done
        else searchFrom next depth (child :: node :: trail.map Prod.fst) done child) done).map
          fun done => ⟨(node, []) :: trail, done, roots⟩) := by
  induction children generalizing done with
  | nil => exact .refl
  | cons child more ih =>
      obtain ⟨here, inside⟩ := List.forall_mem_cons.mp inside
      rw [List.foldlM_cons]
      by_cases on : (node :: trail.map Prod.fst).contains child = true
      · rw [if_pos on]
        refine ⟨_, .refl, ?_⟩
        simp only [Traversal.step, if_pos on]
      · rw [if_neg on]
        by_cases seen : done.contains child = true
        · rw [if_pos seen]
          refine ComesTo.step ?_ (ih inside done)
          simp only [Traversal.step, if_neg on, if_pos seen]
        · rw [if_neg seen]
          have first : ComesTo next ⟨(node, child :: more) :: trail, done, roots⟩ _ :=
            ComesTo.step (by simp only [Traversal.step, if_neg on, if_neg seen])
              (visited child here more done (by simpa using on))
          cases searched :
              searchFrom next depth (child :: node :: trail.map Prod.fst) done child with
          | error cycle =>
              rw [searched] at first
              exact first
          | ok done' =>
              rw [searched] at first
              exact (ih inside done').after first

/-- The steps from a node come to what the search from it comes to. The path repeats no node, so
that the depth of the search suffices. -/
theorem comesTo_searchFrom (inside : ∀ x ∈ ids, ∀ child ∈ next x, child ∈ ids) (depth : Nat)
    (trail : List (String × List String)) {node : String}
    (unique : (node :: trail.map Prod.fst).Nodup) (within : node :: trail.map Prod.fst ⊆ ids)
    (room : ids.length + 1 ≤ depth + trail.length) (done : List String) :
    ComesTo next ⟨(node, next node) :: trail, done, roots⟩
      ((searchFrom next depth (node :: trail.map Prod.fst) done node).map
        fun done => ⟨trail, done, roots⟩) := by
  induction depth generalizing node trail done with
  | zero =>
      have short := (unique.subperm within).length_le
      rw [List.length_cons, List.length_map] at short
      omega
  | succ depth ih =>
      obtain ⟨here, -⟩ := List.cons_subset.mp within
      have visited : ∀ child ∈ ids, ∀ more done, child ∉ node :: trail.map Prod.fst →
          ComesTo next ⟨(child, next child) :: (node, more) :: trail, done, roots⟩
            ((searchFrom next depth (child :: node :: trail.map Prod.fst) done child).map
              fun done => ⟨(node, more) :: trail, done, roots⟩) := by
        intro child known more done off
        refine ih ((node, more) :: trail) (List.nodup_cons.mpr ⟨off, unique⟩)
          (List.cons_subset.mpr ⟨known, within⟩) ?_ done
        rw [List.length_cons]
        omega
      have children := comesTo_children visited (inside node here) done
      unfold searchFrom
      generalize List.foldlM (m := Except (List String)) _ done (next node) = searched at children ⊢
      cases searched with
      | error cycle => exact children
      | ok done' => exact .after children (.step rfl .refl)

theorem comesTo_roots (inside : ∀ x ∈ ids, ∀ child ∈ next x, child ∈ ids)
    {roots : List String} (within : roots ⊆ ids) (done : List String) :
    ComesTo next ⟨[], done, roots⟩
      ((roots.foldlM (fun (done : List String) root =>
        if done.contains root then Except.ok done
        else searchFrom next (ids.length + 1) [root] done root) done).map
          fun done => ⟨[], done, []⟩) := by
  induction roots generalizing done with
  | nil => exact .refl
  | cons root rest ih =>
      obtain ⟨known, within⟩ := List.cons_subset.mp within
      rw [List.foldlM_cons]
      by_cases seen : done.contains root = true
      · rw [if_pos seen]
        refine ComesTo.step ?_ (ih within done)
        simp only [Traversal.step, if_pos seen]
      · rw [if_neg seen]
        have entered : Traversal.step next ⟨[], done, root :: rest⟩ =
            .inl ⟨[(root, next root)], done, rest⟩ := by
          simp only [Traversal.step, if_neg seen]
        have first := ComesTo.step entered
          (comesTo_searchFrom inside (ids.length + 1) [] (List.nodup_singleton root)
            (List.cons_subset.mpr ⟨known, List.nil_subset _⟩) (Nat.le_refl _) done)
        cases searched : searchFrom next (ids.length + 1) [root] done root with
        | error cycle =>
            rw [List.map_nil, searched] at first
            exact first
        | ok done' =>
            rw [List.map_nil, searched] at first
            exact (ih within done').after first

theorem comesTo_searchAll (inside : ∀ x ∈ ids, ∀ child ∈ next x, child ∈ ids) :
    ComesTo next ⟨[], [], ids⟩
      ((searchAll next (ids.length + 1) ids).map fun done => ⟨[], done, []⟩) :=
  comesTo_roots inside (List.Subset.refl ids) []

end Traversal

namespace Graph

variable {g : Graph}

def traversal (g : Graph) : Traversal := ⟨[], [], sortedTexts g.functionalIds⟩

theorem traversal_answers (g : Graph) :
    g.traversal.Answers (fun id => sortedTexts (g.successors id)) g.findCycle := by
  have inside : ∀ x ∈ sortedTexts g.functionalIds,
      ∀ child ∈ sortedTexts (g.successors x), child ∈ sortedTexts g.functionalIds := by
    intro x _ child link
    obtain ⟨e, edge, -, rfl⟩ := mem_targetsOf.mp (mem_sortedTexts.mp link)
    exact mem_sortedTexts.mpr (target_mem_functionalIds edge)
  have comes := Traversal.comesTo_searchAll inside
  unfold successors at comes ⊢
  unfold findCycle
  dsimp only
  generalize searchAll _ _ (sortedTexts g.functionalIds) = searched at comes ⊢
  cases searched with
  | error cycle => exact comes
  | ok done => exact ⟨_, comes, rfl⟩

theorem nodup_dropLast_of_circuit {next : String → List String} {path : List String}
    (circuit : Circuit next path) : path.dropLast.Nodup := by
  obtain ⟨-, closed, simple, long⟩ := circuit
  match path with
  | x :: y :: rest =>
      have last : (y :: rest).getLast (List.cons_ne_nil y rest) = x := by
        rw [List.getLast?_cons_cons,
          List.getLast?_eq_some_getLast (List.cons_ne_nil y rest)] at closed
        exact (Option.some.inj closed).symm
      have shape := List.dropLast_concat_getLast (List.cons_ne_nil y rest)
      rw [last] at shape
      rw [List.tail_cons, ← shape] at simple
      rw [List.dropLast_cons_of_ne_nil (List.cons_ne_nil y rest)]
      exact (List.perm_append_singleton x _).nodup_iff.mp simple

/-- On every graph the search for a cycle comes to an end, and it answers with nothing just when
there is no cycle, that is, when staging ends without an error. Otherwise it answers with a closed
path along functional edges that repeats no node but its first. -/
theorem findCycle_decides (g : Graph) :
    (∀ answer, g.traversal.Answers (fun id => sortedTexts (g.successors id)) answer ↔
      answer = g.findCycle) ∧
    (g.findCycle = none ↔ ∀ id, ¬ g.Precedes id id) ∧
    (g.findCycle = none ↔ g.stagingError? = none) ∧
    ∀ path, g.findCycle = some path →
      2 ≤ path.length ∧ path.head? = path.getLast? ∧ path.dropLast.Nodup ∧
        path.IsChain fun a b => ∃ e ∈ g.functionalEdges, e.source = a ∧ e.target = b := by
  refine ⟨fun answer => ⟨fun answers => answers.unique g.traversal_answers, ?_⟩,
    findCycle_eq_none_iff, stagingError?_eq_none_iff.symm, fun path found => ?_⟩
  · rintro rfl
    exact g.traversal_answers
  · obtain ⟨linked, closed, simple, long⟩ := circuit_of_findCycle found
    exact ⟨long, closed, nodup_dropLast_of_circuit ⟨linked, closed, simple, long⟩,
      linked.imp fun _ _ => mem_targetsOf.mp⟩

end Graph

end Workflow
