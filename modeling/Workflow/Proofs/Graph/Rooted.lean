import Workflow.Proofs.Graph.Defects

/-! What the check accepts is a layered graph with one root. It is local what the check asks for:
one input that no edge leads to, an edge into every other node, no cycle. That the input comes
before everything is a descent: a node that it does not come before would have a predecessor of this
kind, and so on without end. -/

namespace Workflow

variable {g : Graph}

/-- Where ids stand for one node each, each node is the one that its id stands for. -/
theorem Graph.resolves_of_mem (nodup : g.nodeIds.Nodup) {n : Node} (mem : n ∈ g.nodes) :
    g.Resolves n.id n := by
  have here : n ∈ g.nodes.filter fun m => m.id = n.id := List.mem_filter.mpr ⟨mem, by simp⟩
  have last := List.getLast?_eq_some_getLast (List.ne_nil_of_mem here)
  obtain ⟨known, same⟩ := List.mem_filter.mp (List.mem_of_getLast? last)
  rw [Graph.Resolves, last, List.inj_on_of_nodup_map nodup known mem (of_decide_eq_true same)]

namespace Graph

/-- One node comes before all others, and the stages go on from it: each functional node has its
place once, each edge leads to a later stage, and each stage is fed by the one before. -/
structure Rooted (g : Graph) (stages : List (List String)) (input : Node) : Prop where
  only : g.nodesOfKind .input = [input]
  complete : stages.flatten.Perm (g.functionalNodes.map Node.id)
  once : stages.flatten.Nodup
  notes : ∀ n ∈ g.nodes, n.kind = .note → n.id ∉ stages.flatten
  first : stages.head? = some [input.id]
  onward : ∀ e ∈ g.functionalEdges,
    ∃ m n, m < n ∧ InStage stages m e.source ∧ InStage stages n e.target
  root : ∀ n ∈ g.functionalNodes, n ≠ input → n.id ≠ input.id ∧ g.Precedes input.id n.id
  leaves : ∀ n ∈ g.nodesOfKind .output, ∀ id, ¬ g.Precedes n.id id
  close : ∀ k id, InStage stages (k + 1) id →
    ∃ e ∈ g.functionalEdges, e.target = id ∧ InStage stages k e.source

section

variable {input : Node}

theorem mem_nodesOfKind {kind : NodeKind} {n : Node} :
    n ∈ g.nodesOfKind kind ↔ n ∈ g.nodes ∧ n.kind = kind := by
  simp [nodesOfKind]

theorem mem_functionalNodes {n : Node} :
    n ∈ g.functionalNodes ↔ n ∈ g.nodes ∧ n.kind ≠ .note := by
  simp [functionalNodes]

theorem check_stages_of_valid (valid : g.check.valid = true) :
    g.check.stages = g.staging.stages := by
  have shared : g.duplicateIds = [] := by
    refine List.eq_nil_iff_forall_not_mem.mpr ?_
    intro id mem
    exact check_valid_iff.mp valid .duplicateNode ⟨id, mem_repeated.mp (mem_sortedTexts.mp mem)⟩
  simp [check, findCycle_of_valid valid, shared]

theorem acyclic_of_valid (valid : g.check.valid = true) : g.Acyclic :=
  acyclic_of_findCycle (findCycle_of_valid valid)

theorem unfed_input (valid : g.check.valid = true) (only : g.nodesOfKind .input = [input]) :
    ∀ e ∈ g.functionalEdges, e.target ≠ input.id := by
  intro e edge into
  obtain ⟨mem, kind⟩ := mem_nodesOfKind.mp (only ▸ List.mem_singleton_self input)
  have resolves := resolves_of_mem (nodeIds_nodup_of_valid valid) mem
  exact check_valid_iff.mp valid .edgeIntoInput
    ⟨e, (mem_functionalEdges.mp edge).1, input, into ▸ resolves, kind⟩

theorem leaf_of_output (valid : g.check.valid = true) {n : Node} (mem : n ∈ g.nodesOfKind .output)
    (id : String) : ¬ g.Precedes n.id id := by
  rintro ⟨way, some', leads⟩
  cases way with
  | nil => exact some' rfl
  | cons e rest =>
      obtain ⟨edge, source, -⟩ := leads
      obtain ⟨mem, kind⟩ := mem_nodesOfKind.mp mem
      have resolves := resolves_of_mem (nodeIds_nodup_of_valid valid) mem
      exact check_valid_iff.mp valid .edgeFromOutput
        ⟨e, (mem_functionalEdges.mp edge).1, n, source ▸ resolves, kind⟩

/-- Every other functional node is fed, as the one input is the only one that need not be. -/
theorem fed_of_ne (valid : g.check.valid = true) (only : g.nodesOfKind .input = [input])
    {id : String} (known : id ∈ g.functionalIds) (other : id ≠ input.id) :
    ∃ e ∈ g.functionalEdges, e.target = id := by
  obtain ⟨n, functional, rfl⟩ := mem_functionalIds.mp known
  refine fed_of_valid valid functional ?_
  intro kind
  have one : n ∈ g.nodesOfKind .input :=
    mem_nodesOfKind.mpr ⟨(mem_functionalNodes.mp functional).1, kind⟩
  rw [only, List.mem_singleton] at one
  exact other (congrArg Node.id one)

/-- The input comes before every other node: of those that it does not come before, one would wait
for none of them, though it is fed. -/
theorem precedes_of_ne (valid : g.check.valid = true) (only : g.nodesOfKind .input = [input])
    {id : String} (known : id ∈ g.functionalIds) (other : id ≠ input.id) :
    g.Precedes input.id id := by
  classical
  by_contra apart
  -- The nodes that the input is cut off from. By acyclicity one of them has no source among them.
  let cut := g.functionalIds.filter fun id => id ≠ input.id ∧ ¬ g.Precedes input.id id
  have mem_cut : ∀ id, id ∈ cut ↔
      id ∈ g.functionalIds ∧ id ≠ input.id ∧ ¬ g.Precedes input.id id := by
    simp [cut]
  have some' : cut ≠ [] := List.ne_nil_of_mem ((mem_cut id).mpr ⟨known, other, apart⟩)
  obtain ⟨first, mem, free⟩ := (acyclic_of_valid valid).exists_first some'
  obtain ⟨known, other, apart⟩ := (mem_cut first).mp mem
  obtain ⟨e, edge, rfl⟩ := fed_of_ne valid only known other
  have outside := free e edge rfl
  rw [mem_cut] at outside
  push Not at outside
  refine apart ?_
  by_cases direct : e.source = input.id
  · exact ⟨[e], List.cons_ne_nil _ _, edge, direct, rfl⟩
  · obtain ⟨way, -, leads⟩ := outside (source_mem_functionalIds edge) direct
    exact ⟨way ++ [e], by simp, leads.concat edge⟩

theorem first_stage (valid : g.check.valid = true) (only : g.nodesOfKind .input = [input]) :
    g.staging.stages.head? = some [input.id] := by
  have known : input.id ∈ g.functionalIds := by
    obtain ⟨mem, kind⟩ := mem_nodesOfKind.mp (only ▸ List.mem_singleton_self input)
    exact mem_functionalIds.mpr ⟨input, mem_functionalNodes.mpr ⟨mem, by rw [kind]; decide⟩, rfl⟩
  have alone : unblocked (sourcesOf g.functionalEdges) (sortedTexts g.functionalIds) =
      [input.id] := by
    rw [← List.perm_singleton]
    have nodup : (unblocked (sourcesOf g.functionalEdges) (sortedTexts g.functionalIds)).Nodup :=
      ((sortedTexts_perm _).nodup_iff.mpr (nodup_distinct _)).filter _
    refine (List.perm_ext_iff_of_nodup nodup (List.nodup_singleton _)).mpr ?_
    intro id
    rw [mem_unblocked, List.mem_singleton, mem_sortedTexts]
    constructor
    · rintro ⟨mem, free⟩
      by_contra other
      obtain ⟨e, edge, into⟩ := fed_of_ne valid only mem other
      exact free e.source (mem_sourcesOf.mpr ⟨e, edge, into, rfl⟩)
        (mem_sortedTexts.mpr (source_mem_functionalIds edge))
    · rintro rfl
      refine ⟨known, ?_⟩
      intro p source
      obtain ⟨e, edge, into, -⟩ := mem_sourcesOf.mp source
      exact absurd into (unfed_input valid only e edge)
  obtain ⟨rounds, long⟩ : ∃ rounds, g.functionalIds.length = rounds + 1 :=
    Nat.exists_eq_succ_of_ne_zero (List.length_pos_iff.mpr (List.ne_nil_of_mem known)).ne'
  rw [staging, long, stagesFrom_stage rounds (alone ▸ List.cons_ne_nil _ _), alone]
  rfl

end

/-- A graph that is accepted has one root and its stages, as reported, go on from it. -/
theorem rooted_of_valid (valid : g.check.valid = true) :
    ∃ input, g.Rooted g.check.stages input := by
  obtain ⟨input, only⟩ : ∃ input, g.nodesOfKind .input = [input] :=
    List.length_eq_one_iff.mp (not_not.mp (check_valid_iff.mp valid .inputCount))
  have nodup := nodeIds_nodup_of_valid valid
  have runnable := runnable_of_valid valid
  have ids : g.functionalIds.Perm (g.functionalNodes.map Node.id) :=
    (List.perm_ext_iff_of_nodup (nodup_distinct _) runnable.nodup).mpr fun _ => mem_distinct
  have complete := runnable.stages_perm.trans ids
  rw [check_stages_of_valid valid]
  refine ⟨input, only, complete, complete.nodup_iff.mpr runnable.nodup, ?_,
    first_stage valid only, ?_, ?_, fun _ mem => leaf_of_output valid mem, ?_⟩
  · intro n mem note found
    obtain ⟨m, functional, same⟩ := List.mem_map.mp (complete.mem_iff.mp found)
    obtain ⟨known, other⟩ := mem_functionalNodes.mp functional
    exact other (List.inj_on_of_nodup_map nodup known mem same ▸ note)
  · intro e edge
    obtain ⟨n, here⟩ := mem_stages_iff.mp
      (runnable.stages_perm.mem_iff.mpr (target_mem_functionalIds edge))
    have before := (staging_layers g).earlier here (mem_sourcesOf.mpr ⟨e, edge, rfl, rfl⟩)
    obtain ⟨m, earlier, there⟩ := mem_take_iff.mp before
    exact ⟨m, n, earlier, there, here⟩
  · intro n functional other
    have known : input ∈ g.nodes := (mem_nodesOfKind.mp (only ▸ List.mem_singleton_self input)).1
    have apart : n.id ≠ input.id := fun same =>
      other (List.inj_on_of_nodup_map nodup (mem_functionalNodes.mp functional).1 known same)
    exact ⟨apart, precedes_of_ne valid only (mem_functionalIds.mpr ⟨n, functional, rfl⟩) apart⟩
  · intro k id here
    obtain ⟨p, source, before⟩ := stagesFrom_close here
    obtain ⟨e, edge, into, rfl⟩ := mem_sourcesOf.mp source
    exact ⟨e, edge, into, before⟩

/-- A text goes through a template to the output, with a note beside it. -/
def annotated : Graph where
  id := none
  name := none
  nodes :=
    [⟨"out", none, [], .output ⟨[]⟩⟩, ⟨"remark", none, [], .note ⟨"as it comes"⟩⟩,
     ⟨"draft", none, [], .template ⟨""⟩⟩, ⟨"in", none, [], .input ⟨none, []⟩⟩]
  edges :=
    [⟨"draft", "out", none, none, none⟩, ⟨"remark", "draft", none, none, none⟩,
     ⟨"in", "draft", none, none, none⟩, ⟨"in", "out", none, none, none⟩]
  metadata := []

theorem rooted_annotated :
    annotated.check.valid = true ∧ ∃ input, annotated.Rooted annotated.check.stages input := by
  have valid : annotated.check.valid = true := by decide +kernel
  exact ⟨valid, rooted_of_valid valid⟩

end Graph

end Workflow
