import Workflow.Graph.Check
import Workflow.Proofs.Graph.Stages

/-! What holds of a graph in which the check finds nothing: it can be run. -/

namespace Workflow.Graph

variable {g : Graph}

theorem findCycle_of_valid (h : g.check.valid = true) : g.findCycle = none := by
  have clear : g.cycleViolations = [] := by
    simp only [check, CheckReport.valid, List.isEmpty_iff, List.append_eq_nil_iff] at h
    exact h.2
  unfold cycleViolations at clear
  split at clear
  · cases clear
  · assumption

theorem nodeIds_nodup_of_valid (h : g.check.valid = true) : g.nodeIds.Nodup := by
  have clear : g.idViolations = [] := by
    simp only [check, CheckReport.valid, List.isEmpty_iff, List.append_eq_nil_iff] at h
    exact h.1.1.1.1.1
  have single : repeated g.nodeIds = [] := by
    simp only [idViolations, duplicateIds, List.append_eq_nil_iff, List.map_eq_nil_iff] at clear
    exact (clear.1 ▸ sortedTexts_perm (repeated g.nodeIds)).symm.eq_nil
  refine List.nodup_iff_count_le_one.mpr ?_
  intro id
  by_cases present : id ∈ g.nodeIds
  · have := List.filter_eq_nil_iff.mp single id (mem_distinct.mpr present)
    simpa using this
  · rw [List.count_eq_zero_of_not_mem present]
    exact Nat.zero_le 1

/-- Every functional node other than an input has a functional edge into it. -/
theorem fed_of_valid (h : g.check.valid = true) {n : Node} (functional : n ∈ g.functionalNodes)
    (other : n.kind ≠ .input) : ∃ e ∈ g.functionalEdges, e.target = n.id := by
  have clear : g.reachViolations = [] := by
    simp only [check, CheckReport.valid, List.isEmpty_iff, List.append_eq_nil_iff] at h
    exact h.1.1.2
  simp only [reachViolations, List.map_eq_nil_iff, List.filter_eq_nil_iff] at clear
  have reached := clear n functional
  simpa [other] using reached

/-- What a run needs of its graph: the ids of functional nodes stand for one node each, and every
one of these has a stage. -/
structure Runnable (g : Graph) : Prop where
  nodup : (g.functionalNodes.map Node.id).Nodup
  staged : g.staging.held = []

theorem runnable_of_valid (h : g.check.valid = true) : g.Runnable where
  nodup := (nodeIds_nodup_of_valid h).sublist (List.filter_sublist.map Node.id)
  staged := staging_held_eq_nil (findCycle_of_valid h)

theorem stagingError?_eq_none (h : g.staging.held = []) : g.stagingError? = none := by
  rw [stagingError?, h]
  rfl

theorem Runnable.stages_perm (h : g.Runnable) : g.staging.stages.flatten.Perm g.functionalIds := by
  have all := staging_perm g
  rwa [h.staged, List.append_nil] at all

end Workflow.Graph
