import Workflow.Proofs.Graph.Rooted
import Workflow.Proofs.Plan
import Workflow.Proofs.Run.Retiming
import Workflow.Run.Engine

/-! Notes are invisible. Without them and the edges that touch them a graph passes its check as
before, has the same plan, and runs in the same way. -/

namespace Workflow

namespace Graph

def noteIds (g : Graph) : List String := (g.nodesOfKind .note).map Node.id

def unannotated (g : Graph) : Graph :=
  { g with
    nodes := g.functionalNodes
    edges := g.edges.filter fun e => !g.noteIds.contains e.source && !g.noteIds.contains e.target }

variable {g : Graph}

@[simp] theorem unannotated_functionalNodes : g.unannotated.functionalNodes = g.functionalNodes :=
  List.filter_filter.trans (List.filter_congr fun _ _ => Bool.and_self _)

@[simp] theorem unannotated_functionalIds : g.unannotated.functionalIds = g.functionalIds := by
  rw [functionalIds, unannotated_functionalNodes, functionalIds]

theorem mem_nodeIds_iff {id : String} :
    id ∈ g.nodeIds ↔ id ∈ g.functionalIds ∨ id ∈ g.noteIds := by
  simp only [nodeIds, noteIds, mem_functionalIds, mem_functionalNodes, List.mem_map,
    mem_nodesOfKind]
  constructor
  · rintro ⟨n, mem, rfl⟩
    by_cases note : n.kind = .note
    · exact .inr ⟨n, ⟨mem, note⟩, rfl⟩
    · exact .inl ⟨n, ⟨mem, note⟩, rfl⟩
  · rintro (⟨n, ⟨mem, -⟩, rfl⟩ | ⟨n, ⟨mem, -⟩, rfl⟩)
    · exact ⟨n, mem, rfl⟩
    · exact ⟨n, mem, rfl⟩

/-- Where ids stand for one node each, no note shares its id with a functional node. -/
theorem not_mem_noteIds (nodup : g.nodeIds.Nodup) {id : String} (known : id ∈ g.functionalIds) :
    id ∉ g.noteIds := by
  intro note
  obtain ⟨m, functional, rfl⟩ := mem_functionalIds.mp known
  obtain ⟨n, mem, same⟩ := List.mem_map.mp note
  obtain ⟨here, kind⟩ := mem_nodesOfKind.mp mem
  obtain ⟨there, other⟩ := mem_functionalNodes.mp functional
  exact other (List.inj_on_of_nodup_map nodup here there same ▸ kind)

theorem unannotated_edges (valid : g.check.valid = true) :
    g.unannotated.edges = g.functionalEdges := by
  have nodup := nodeIds_nodup_of_valid valid
  have end' : ∀ id ∈ g.nodeIds, (!g.noteIds.contains id) =
      (g.functionalNodes.map Node.id).contains id := by
    intro id mem
    have apart : id ∈ g.functionalIds ↔ id ∉ g.noteIds :=
      ⟨not_mem_noteIds nodup, (mem_nodeIds_iff.mp mem).resolve_right⟩
    rw [Bool.eq_iff_iff, Bool.not_eq_true', ← Bool.not_eq_true, List.contains_iff_mem,
      List.contains_iff_mem, ← apart, mem_functionalIds, List.mem_map]
  refine List.filter_congr fun e edge => ?_
  have known : e.source ∈ g.nodeIds ∧ e.target ∈ g.nodeIds := by
    by_contra dangling
    exact check_valid_iff.mp valid .danglingEdge ⟨e, edge, not_and_or.mp dangling⟩
  rw [end' _ known.1, end' _ known.2]

theorem unannotated_functionalEdges (valid : g.check.valid = true) :
    g.unannotated.functionalEdges = g.functionalEdges := by
  rw [functionalEdges, unannotated_functionalNodes, unannotated_edges valid, functionalEdges,
    List.filter_filter]
  exact List.filter_congr fun _ _ => Bool.and_self _

theorem unannotated_staging (valid : g.check.valid = true) :
    g.unannotated.staging = g.staging := by
  rw [staging, unannotated_functionalEdges valid, unannotated_functionalIds, staging]

theorem unannotated_findCycle (valid : g.check.valid = true) :
    g.unannotated.findCycle = g.findCycle := by
  rw [findCycle, unannotated_functionalEdges valid, unannotated_functionalIds, findCycle]

theorem unannotated_nodesOfKind {kind : NodeKind} (other : kind ≠ .note) :
    g.unannotated.nodesOfKind kind = g.nodesOfKind kind := by
  refine List.filter_filter.trans (List.filter_congr fun n _ => ?_)
  by_cases same : n.kind = kind <;> simp [same, other]

/-- An id that still stands for a node stands for the same one as before. -/
theorem resolves_of_unannotated (nodup : g.nodeIds.Nodup) {id : String} {n : Node}
    (h : g.unannotated.Resolves id n) : g.Resolves id n := by
  obtain ⟨mem, named⟩ := List.mem_filter.mp (List.mem_of_getLast? h)
  obtain rfl := of_decide_eq_true named
  exact resolves_of_mem nodup (mem_functionalNodes.mp mem).1

theorem unannotated_not_dangling (valid : g.check.valid = true) :
    ¬g.unannotated.Has .danglingEdge := by
  rintro ⟨e, edge, loose⟩
  have ids : ∀ id ∈ g.functionalIds, id ∈ g.unannotated.nodeIds := fun id known =>
    mem_nodeIds_iff.mpr (.inl (by rwa [unannotated_functionalIds]))
  rw [unannotated_edges valid] at edge
  rcases loose with source | target
  · exact source (ids _ (source_mem_functionalIds edge))
  · exact target (ids _ (target_mem_functionalIds edge))

theorem unannotated_not_cyclic (valid : g.check.valid = true) : ¬g.unannotated.Has .cycle := by
  have clear := unannotated_findCycle valid ▸ findCycle_of_valid valid
  rintro ⟨id, round⟩
  exact findCycle_eq_none_iff.mp clear id round

theorem has_of_unannotated (valid : g.check.valid = true) {d : Defect}
    (h : g.unannotated.Has d) : g.Has d := by
  have nodup := nodeIds_nodup_of_valid valid
  have within : ∀ n ∈ g.unannotated.nodes, n ∈ g.nodes := fun n mem =>
    (mem_functionalNodes.mp mem).1
  have kept : ∀ e ∈ g.unannotated.edges, e ∈ g.edges := fun e mem => List.mem_of_mem_filter mem
  cases d with
  | duplicateNode =>
      obtain ⟨id, twice⟩ := h
      have ids : g.unannotated.nodeIds.Sublist g.nodeIds := List.filter_sublist.map Node.id
      exact ⟨id, twice.mono_sublist ids⟩
  | emptyNodeId =>
      obtain ⟨n, mem, blank⟩ := h
      exact ⟨n, within n mem, blank⟩
  | inputCount =>
      have inputs : g.unannotated.nodesOfKind .input = g.nodesOfKind .input :=
        unannotated_nodesOfKind (by decide)
      rwa [Has, inputs] at h
  | outputMissing =>
      intro n mem output
      refine h n (mem_functionalNodes.mpr ⟨mem, ?_⟩) output
      rw [output]
      decide
  | danglingEdge => exact absurd h (unannotated_not_dangling valid)
  | edgeIntoInput =>
      obtain ⟨e, edge, n, resolves, kind⟩ := h
      exact ⟨e, kept e edge, n, resolves_of_unannotated nodup resolves, kind⟩
  | edgeFromOutput =>
      obtain ⟨e, edge, n, resolves, kind⟩ := h
      exact ⟨e, kept e edge, n, resolves_of_unannotated nodup resolves, kind⟩
  | unreachableNode =>
      obtain ⟨n, functional, other, unfed⟩ := h
      rw [unannotated_functionalNodes] at functional
      rw [unannotated_functionalEdges valid] at unfed
      exact ⟨n, functional, other, unfed⟩
  | duplicatePort =>
      obtain ⟨n, mem, c, config, repeats⟩ := h
      exact ⟨n, within n mem, c, config, repeats⟩
  | unknownPort =>
      obtain ⟨n, mem, c, config, e, edge, source, off⟩ := h
      rw [unannotated_functionalEdges valid] at edge
      exact ⟨n, within n mem, c, config, e, edge, source, off⟩
  | cycle => exact absurd h (unannotated_not_cyclic valid)

theorem unannotated_valid (valid : g.check.valid = true) : g.unannotated.check.valid = true :=
  check_valid_iff.mpr fun d has => check_valid_iff.mp valid d (has_of_unannotated valid has)

end Graph

variable {g : Graph}

theorem Plan.ofGraph_unannotated (valid : g.check.valid = true) :
    Plan.ofGraph g.unannotated = (Plan.ofGraph g).onto g.unannotated := by
  unfold ofGraph onto Graph.ancestors
  simp only [Graph.unannotated_functionalNodes, Graph.unannotated_functionalIds,
    Graph.unannotated_functionalEdges valid]

theorem stands_unannotated (valid : g.check.valid = true) :
    Scheduler.Stands (.ofGraph g) g.unannotated where
  id := rfl
  stages := congrArg Staging.stages (Graph.unannotated_staging valid)
  ending := by
    have staging := Graph.unannotated_staging valid
    have found := Graph.unannotated_findCycle valid
    change g.unannotated.stagingError? = g.stagingError?
    rw [Graph.stagingError?, Graph.heldPath, staging, found]
    rfl

/-- Two plans are one to a run: the same nodes, with the same edges and ancestors. -/
structure Plan.Same (plan plan' : Plan) : Prop where
  nodes : plan'.nodes = plan.nodes
  incoming : plan'.incoming = plan.incoming
  outgoing : plan'.outgoing = plan.outgoing
  ancestors : plan'.ancestors = plan.ancestors
  outputIds : plan'.outputIds = plan.outputIds

/-- A graph that is accepted is accepted without its notes, with the same stages and the same plan.
Whatever executes its nodes, and whenever its tasks complete or it is cancelled, it runs as before:
the result, the trace, the calls and the state that is left are the same up to the times that the
clock tells. -/
theorem notes_invisible (valid : g.check.valid = true) :
    g.unannotated.check.valid = true ∧ g.unannotated.check.stages = g.check.stages ∧
      (Plan.ofGraph g).Same (.ofGraph g.unannotated) ∧
        (∀ (exec : Executor) (setup : Setup) (clock : Nat → String),
          Scheduler.runFrom (.ofGraph g.unannotated) exec { setup with clock } =
            ((Scheduler.runFrom (.ofGraph g) exec setup).1.map (RunResult.retimed clock),
              (Scheduler.runFrom (.ofGraph g) exec setup).2.retimed clock)) ∧
        ∀ (caps : Capabilities) (setup : Setup) (clock : Nat → String),
          Engine.run caps g.unannotated { setup with clock } =
            ((Engine.run caps g setup).1.map (RunResult.retimed clock),
              (Engine.run caps g setup).2) := by
  have still := Graph.unannotated_valid valid
  have plan := Plan.ofGraph_unannotated valid
  have runs : ∀ (exec : Executor) (setup : Setup) (clock : Nat → String),
      Scheduler.runFrom (.ofGraph g.unannotated) exec { setup with clock } =
        ((Scheduler.runFrom (.ofGraph g) exec setup).1.map (RunResult.retimed clock),
          (Scheduler.runFrom (.ofGraph g) exec setup).2.retimed clock) := by
    intro exec setup clock
    rw [plan, Scheduler.runFrom_retimed (stands_unannotated valid)]
  refine ⟨still, ?_, ?_, runs, ?_⟩
  · rw [Graph.check_stages_of_valid still, Graph.check_stages_of_valid valid,
      Graph.unannotated_staging valid]
  · rw [plan]
    exact ⟨rfl, rfl, rfl, rfl, rfl⟩
  · intro caps setup clock
    have accepted : g.validate = .ok g.check := by rw [Graph.validate, if_pos valid]
    have accepted' : g.unannotated.validate = .ok g.unannotated.check := by
      rw [Graph.validate, if_pos still]
    unfold Engine.run
    rw [accepted, accepted']
    simp only [runs]
    rcases Scheduler.runFrom (.ofGraph g) _ setup with ⟨_ | _, q⟩ <;> rfl

theorem notes_invisible_annotated :
    Graph.annotated.check.valid = true ∧ Graph.annotated.noteIds = ["remark"] ∧
      Graph.annotated.unannotated.check.valid = true ∧
        (Plan.ofGraph Graph.annotated).Same (.ofGraph Graph.annotated.unannotated) := by
  have valid : Graph.annotated.check.valid = true := by decide +kernel
  obtain ⟨still, -, plan, -, -⟩ := notes_invisible valid
  exact ⟨valid, by decide, still, plan⟩

end Workflow
