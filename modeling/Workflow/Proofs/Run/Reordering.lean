import Workflow.Proofs.Run.Fate

/-! Graphs that differ in the order of their nodes and edges only. Their plans hold the same nodes
and edges, their stages are the same, and so is the end that their runs come to. -/

namespace Workflow

namespace Plan

structure Alike (plan plan' : Plan) : Prop where
  nodes : ∀ id, plan.nodes.get? id = plan'.nodes.get? id
  edges : ∀ e, e ∈ plan.edges ↔ e ∈ plan'.edges

namespace Alike

variable {plan plan' : Plan} {fate σ : String → Standing} {done : List String}
  {stages : List (List String)}

theorem symm (h : plan.Alike plan') : plan'.Alike plan :=
  ⟨fun id => (h.nodes id).symm, fun e => (h.edges e).symm⟩

theorem isCondition (h : plan.Alike plan') (id : String) :
    plan.isCondition id = plan'.isCondition id := by
  rw [Plan.isCondition, kindOf?, h.nodes, Plan.isCondition, kindOf?]

theorem isOutput (h : plan.Alike plan') (id : String) : plan.isOutput id = plan'.isOutput id := by
  rw [Plan.isOutput, kindOf?, h.nodes, Plan.isOutput, kindOf?]

theorem mem_keys (h : plan.Alike plan') {id : String} :
    id ∈ plan.nodes.keys ↔ id ∈ plan'.nodes.keys := by
  rw [Table.mem_keys_iff, Table.mem_keys_iff, h.nodes]

theorem mem_incoming (h : plan.Alike plan') {e : Edge} {id : String} :
    e ∈ plan.incoming id ↔ e ∈ plan'.incoming id := by
  rw [Plan.mem_incoming, Plan.mem_incoming, h.edges]

theorem any_incoming (h : plan.Alike plan') {f f' : Edge → Bool} (id : String)
    (same : ∀ e, f e = f' e) : (plan.incoming id).any f = (plan'.incoming id).any f' := by
  rw [Bool.eq_iff_iff, List.any_eq_true, List.any_eq_true]
  exact exists_congr fun e => by rw [h.mem_incoming, same]

theorem isPruned (h : plan.Alike plan') (e : Edge) : plan.isPruned σ e = plan'.isPruned σ e := by
  unfold Plan.isPruned feeds
  cases σ e.source with
  | succeeded port => dsimp only; rw [h.isCondition, h.any_incoming _ fun _ => rfl]
  | _ => rfl

/-- The rule of admission does not depend on the order of the edges. -/
theorem admission (h : plan.Alike plan') (σ : String → Standing) (id : String) :
    plan.admission σ id = plan'.admission σ id := by
  have empty : (plan.incoming id).isEmpty = (plan'.incoming id).isEmpty := by
    rw [Bool.eq_iff_iff, List.isEmpty_iff, List.isEmpty_iff, List.eq_nil_iff_forall_not_mem,
      List.eq_nil_iff_forall_not_mem]
    exact forall_congr' fun e => not_congr h.mem_incoming
  have live : ∀ e, plan.isLive σ e = plan'.isLive σ e := by
    intro e
    unfold Plan.isLive
    cases σ e.source with
    | succeeded port => dsimp only; rw [h.isCondition]
    | _ => rfl
  have pruned := h.any_incoming (f := plan.isPruned σ) id h.isPruned
  have blocked := h.any_incoming (f := fun e => (σ e.source).isFault) id fun _ => rfl
  simp only [Plan.admission, empty, pruned, blocked, h.any_incoming id live]

theorem consistent (h : plan.Alike plan') (consistent : plan.Consistent fate σ) :
    plan'.Consistent fate σ := by
  intro id known
  rw [consistent id (h.mem_keys.mpr known), place, place, h.admission]

theorem failsAt (h : plan.Alike plan') (σ : String → Standing) :
    plan.failsAt σ = plan'.failsAt σ := by
  funext id
  rw [Plan.failsAt, Plan.failsAt, h.isOutput, h.admission]

theorem drags (h : plan.Alike plan') {failed id : String} (drags : plan.Drags σ failed id) :
    plan'.Drags σ failed id := by
  induction drags with
  | self => exact .self
  | next edge _ _ source sources =>
      refine .next ((h.edges _).mp edge) source fun d hd spares => ?_
      refine sources d (h.mem_incoming.mpr hd) ?_
      rw [Plan.spares, h.isCondition, h.isPruned]
      exact spares

theorem doomed (h : plan.Alike plan') {failed : String} :
    plan.Doomed σ failed ↔ plan'.Doomed σ failed := by
  constructor
  · rintro ⟨id, other, output, drags⟩
    exact ⟨id, other, h.isOutput id ▸ output, h.drags drags⟩
  · rintro ⟨id, other, output, drags⟩
    exact ⟨id, other, h.symm.isOutput id ▸ output, h.symm.drags drags⟩

/-- Where runs end does not depend on the order of nodes and edges. -/
theorem ends (h : plan.Alike plan') {ending : Ending} (ends : plan.Ends σ done stages ending) :
    plan'.Ends σ done stages ending := by
  induction ends with
  | completed => exact .completed
  | blocked blocked => exact .blocked (by simpa only [h.failsAt] using blocked)
  | doomed clear doom =>
      exact .doomed (by simpa only [h.failsAt] using clear) (by simpa only [h.doomed] using doom)
  | next clear free _ ih =>
      exact .next (by simpa only [h.failsAt] using clear) (by simpa only [h.doomed] using free) ih

end Alike

theorem Ends.unique {plan : Plan} {σ : String → Standing} {done : List String}
    {stages : List (List String)} {ending ending' : Ending}
    (h : plan.Ends σ done stages ending) (h' : plan.Ends σ done stages ending') :
    ending = ending' := by
  have contrary : ∀ {stage done : List String},
      (∃ id ∈ stage, plan.failsAt (revealed σ done) id = true) →
      (∀ id ∈ stage, plan.failsAt (revealed σ done) id = false) → False := by
    rintro stage done ⟨id, mem, fails⟩ clear
    rw [clear id mem] at fails
    cases fails
  induction h with
  | completed =>
      cases h'
      rfl
  | blocked blocked =>
      cases h' with
      | blocked _ => rfl
      | doomed clear _ => exact (contrary blocked clear).elim
      | next clear _ _ => exact (contrary blocked clear).elim
  | doomed clear doom =>
      cases h' with
      | blocked blocked => exact (contrary blocked clear).elim
      | doomed _ _ => rfl
      | next _ free _ =>
          obtain ⟨id, mem, failed, doomed⟩ := doom
          exact absurd doomed (free id mem failed)
  | next clear free _ ih =>
      cases h' with
      | blocked blocked => exact (contrary blocked clear).elim
      | doomed _ doom =>
          obtain ⟨id, mem, failed, doomed⟩ := doom
          exact absurd doomed (free id mem failed)
      | next _ _ later => exact ih later

end Plan

namespace Graph

structure Reordered (g g' : Graph) : Prop where
  nodes : g.nodes.Perm g'.nodes
  edges : g.edges.Perm g'.edges

namespace Reordered

variable {g g' : Graph}

theorem functionalNodes (h : g.Reordered g') : g.functionalNodes.Perm g'.functionalNodes :=
  h.nodes.filter _

theorem mem_functionalIds (h : g.Reordered g') {id : String} :
    id ∈ g.functionalIds ↔ id ∈ g'.functionalIds := by
  rw [Graph.mem_functionalIds, Graph.mem_functionalIds]
  exact exists_congr fun n => and_congr_left fun _ => h.functionalNodes.mem_iff

theorem functionalIds (h : g.Reordered g') : g.functionalIds.Perm g'.functionalIds :=
  distinct_perm fun _ => (h.functionalNodes.map Node.id).mem_iff

theorem mem_functionalEdges (h : g.Reordered g') {e : Edge} :
    e ∈ g.functionalEdges ↔ e ∈ g'.functionalEdges := by
  rw [Graph.mem_functionalEdges, Graph.mem_functionalEdges, h.edges.mem_iff, h.mem_functionalIds,
    h.mem_functionalIds]

/-- The stages of a graph do not depend on the order of its nodes and edges. -/
theorem staging (h : g.Reordered g') : g.staging = g'.staging := by
  unfold Graph.staging
  rw [sortedTexts_congr h.functionalIds, h.functionalIds.length_eq]
  refine stagesFrom_congr (fun id p => ?_) _ _
  rw [mem_sourcesOf, mem_sourcesOf]
  exact exists_congr fun e => and_congr_left fun _ => h.mem_functionalEdges

theorem runnable (h : g.Reordered g') (runnable : g.Runnable) : g'.Runnable where
  nodup := (h.functionalNodes.map Node.id).nodup_iff.mp runnable.nodup
  staged := h.staging ▸ runnable.staged

theorem alike (h : g.Reordered g') (runnable : g.Runnable) :
    (Plan.ofGraph g).Alike (.ofGraph g') where
  nodes id := by
    by_cases known : id ∈ g.functionalIds
    · obtain ⟨n, functional, rfl⟩ := Graph.mem_functionalIds.mp known
      rw [Plan.get?_ofGraph runnable functional,
        Plan.get?_ofGraph (h.runnable runnable) (h.functionalNodes.mem_iff.mp functional)]
    · rw [Table.get?_eq_none_iff.mpr fun mem => known (Plan.mem_keys_ofGraph.mp mem),
        Table.get?_eq_none_iff.mpr fun mem =>
          known (h.mem_functionalIds.mpr (Plan.mem_keys_ofGraph.mp mem))]
  edges _ := h.mem_functionalEdges

end Reordered

end Graph

end Workflow
