import Mathlib.Data.List.Duplicate
import Mathlib.Data.List.TakeWhile
import Workflow.Graph.Check
import Workflow.Proofs.Graph.Acceptance
import Workflow.Proofs.Graph.Circuit
import Workflow.Proofs.Text.Blank

/-! What can be wrong with a graph, said without the check, and that the check reports just that:
every defect under its code, none besides, and each node that shares its id or that no edge leads
to by its name. -/

namespace Workflow

/-- The last value that stands under a key is the one that a table of entries has for it. -/
theorem Table.get?_ofList {α : Type} (entries : List (String × α)) (key : String) :
    (Table.ofList entries).get? key =
      ((entries.filter fun e => e.1 = key).getLast?).map Prod.snd := by
  induction entries using List.reverseRecOn with
  | nil => rfl
  | append_singleton entries e ih =>
      have last : Table.ofList (entries ++ [e]) = (Table.ofList entries).put e.1 e.2 := by
        rw [Table.ofList, List.foldl_concat]
        rfl
      rw [last, List.filter_append]
      by_cases same : e.1 = key
      · subst same
        simp [Table.get?_put_self]
      · rw [Table.get?_put_of_ne _ _ (Ne.symm same), ih]
        simp [same]

theorem mem_repeated {x : String} {xs : List String} : x ∈ repeated xs ↔ List.Duplicate x xs := by
  rw [List.duplicate_iff_two_le_count]
  simp only [repeated, List.mem_filter, mem_distinct, decide_eq_true_eq]
  exact ⟨fun h => h.2, fun h => ⟨List.count_pos_iff.mp (by omega), h⟩⟩

/-- Nothing is left of a text without its blanks when it has nothing else. -/
theorem Text.strip_isEmpty_iff {s : String} :
    (Text.strip s).isEmpty = true ↔ ∀ c ∈ s.toList, Text.isBlank c = true := by
  rw [Text.strip, String.isEmpty_iff]
  refine Iff.trans ⟨?_, ?_⟩ Text.trimBlank_eq_nil_iff
  · intro empty
    exact String.ofList_injective empty
  · intro empty
    rw [empty]

theorem Defect.code_injective {d d' : Defect} (h : d.code = d'.code) : d = d' := by
  revert h
  cases d <;> cases d' <;> decide

namespace Graph

/-- Several nodes have the id. -/
def Shares (g : Graph) (id : String) : Prop := List.Duplicate id g.nodeIds

/-- The node that an id stands for is the last one that has it. -/
def Resolves (g : Graph) (id : String) (n : Node) : Prop :=
  (g.nodes.filter fun m => m.id = id).getLast? = some n

/-- No functional edge leads to the node, though it is no input. -/
def Unfed (g : Graph) (n : Node) : Prop :=
  n ∈ g.functionalNodes ∧ n.kind ≠ .input ∧ ∀ e ∈ g.functionalEdges, e.target ≠ n.id

/-- The graph has a defect. -/
def Has (g : Graph) : Defect → Prop
  | .duplicateNode => ∃ id, g.Shares id
  | .emptyNodeId => ∃ n ∈ g.nodes, ∀ c ∈ n.id.toList, Text.isBlank c = true
  | .inputCount => (g.nodesOfKind .input).length ≠ 1
  | .outputMissing => ∀ n ∈ g.nodes, n.kind ≠ .output
  | .danglingEdge => ∃ e ∈ g.edges, e.source ∉ g.nodeIds ∨ e.target ∉ g.nodeIds
  | .edgeIntoInput => ∃ e ∈ g.edges, ∃ n, g.Resolves e.target n ∧ n.kind = .input
  | .edgeFromOutput => ∃ e ∈ g.edges, ∃ n, g.Resolves e.source n ∧ n.kind = .output
  | .unreachableNode => ∃ n, g.Unfed n
  | .duplicatePort => ∃ n ∈ g.nodes, ∃ c, n.config = .condition c ∧ ¬ c.ports.Nodup
  | .unknownPort =>
    ∃ n ∈ g.nodes, ∃ c, n.config = .condition c ∧
      ∃ e ∈ g.functionalEdges, e.source = n.id ∧ ∀ port ∈ c.ports, e.sourcePort ≠ some port
  | .cycle => ∃ id, g.Precedes id id

end Graph

namespace Violation

theorem code_eq_iff {v : Violation} {d : Defect} : v.code = d.code ↔ v.defect = d := by
  rw [code]
  exact ⟨Defect.code_injective, fun same => same ▸ rfl⟩

/-- What a violation says of the graph that it is reported of. -/
def Holds (g : Graph) : Violation → Prop
  | duplicateNode id => g.Shares id
  | emptyNodeId => g.Has .emptyNodeId
  | inputCount found => g.Has .inputCount ∧ found = (g.nodesOfKind .input).length
  | outputMissing => g.Has .outputMissing
  | danglingEdge e id => e ∈ g.edges ∧ (id = e.source ∨ id = e.target) ∧ id ∉ g.nodeIds
  | edgeIntoInput e => e ∈ g.edges ∧ ∃ n, g.Resolves e.target n ∧ n.kind = .input
  | edgeFromOutput e => e ∈ g.edges ∧ ∃ n, g.Resolves e.source n ∧ n.kind = .output
  | unreachableNode id => ∃ n, g.Unfed n ∧ id = n.id
  | duplicatePort id port =>
    ∃ n ∈ g.nodes, ∃ c, n.config = .condition c ∧ List.Duplicate port c.ports ∧ id = n.id
  | unknownPort e ports =>
    ∃ n ∈ g.nodes, ∃ c, n.config = .condition c ∧ e ∈ g.functionalEdges ∧ e.source = n.id ∧
      (∀ port ∈ c.ports, e.sourcePort ≠ some port) ∧ ports = c.ports
  | cycle path => g.findCycle = some path

end Violation

namespace Graph

variable {g : Graph} {v : Violation}

theorem mem_nodeMap {id : String} : g.nodeMap.contains id = true ↔ id ∈ g.nodeIds := by
  rw [Table.contains_iff_mem_keys, nodeMap, indexNodes, Table.mem_keys_ofList, nodeIds,
    List.map_map]
  rfl

theorem kindOf?_eq_some_iff {id : String} {kind : NodeKind} :
    g.kindOf? id = some kind ↔ ∃ n, g.Resolves id n ∧ n.kind = kind := by
  have found : g.nodeMap.get? id = (g.nodes.filter fun m => m.id = id).getLast? := by
    rw [nodeMap, indexNodes, Table.get?_ofList, List.filter_map, List.getLast?_map,
      Option.map_map]
    exact Option.map_id'
  rw [kindOf?, found, Option.map_eq_some_iff]
  rfl

theorem mem_idViolations :
    v ∈ g.idViolations ↔
      (∃ id, g.Shares id ∧ v = .duplicateNode id) ∨ (g.Has .emptyNodeId ∧ v = .emptyNodeId) := by
  have shared : ∀ id, id ∈ g.duplicateIds ↔ g.Shares id := fun id =>
    mem_sortedTexts.trans mem_repeated
  have blank : (g.nodeIds.any fun id => (Text.strip id).isEmpty) = true ↔ g.Has .emptyNodeId := by
    simp only [List.any_eq_true, Text.strip_isEmpty_iff, nodeIds, Has, List.mem_map,
      exists_exists_and_eq_and]
  rw [idViolations, List.mem_append, List.mem_map]
  refine or_congr ?_ ?_
  · exact exists_congr fun id => and_congr (shared id) eq_comm
  · rw [← blank]
    split <;> simp_all

theorem mem_countViolations :
    v ∈ g.countViolations ↔
      (g.Has .inputCount ∧ v = .inputCount (g.nodesOfKind .input).length) ∨
        (g.Has .outputMissing ∧ v = .outputMissing) := by
  have missing : (g.nodesOfKind .output).isEmpty = true ↔ g.Has .outputMissing := by
    simp [nodesOfKind, Has]
  rw [countViolations, List.mem_append]
  refine or_congr ?_ ?_
  · split <;> simp_all [Has]
  · rw [← missing]
    split <;> simp_all

theorem mem_edgeViolations {e : Edge} :
    v ∈ g.edgeViolations e ↔
      (∃ id, (id = e.source ∨ id = e.target) ∧ id ∉ g.nodeIds ∧ v = .danglingEdge e id) ∨
        ((∃ n, g.Resolves e.target n ∧ n.kind = .input) ∧ v = .edgeIntoInput e) ∨
        ((∃ n, g.Resolves e.source n ∧ n.kind = .output) ∧ v = .edgeFromOutput e) := by
  rw [edgeViolations, List.mem_append, List.mem_append, or_assoc]
  refine or_congr ?_ (or_congr ?_ ?_)
  · have unknown : ∀ id, (!g.nodeMap.contains id) = true ↔ id ∉ g.nodeIds := by
      intro id
      rw [← mem_nodeMap, Bool.not_eq_true', Bool.not_eq_true]
    rw [List.mem_map]
    refine exists_congr fun id => ?_
    rw [List.mem_filter, unknown, and_assoc, eq_comm (b := v)]
    simp
  · rw [← kindOf?_eq_some_iff]
    split <;> simp_all
  · rw [← kindOf?_eq_some_iff]
    split <;> simp_all

theorem mem_reachViolations :
    v ∈ g.reachViolations ↔ ∃ n, g.Unfed n ∧ v = .unreachableNode n.id := by
  rw [reachViolations, List.mem_map]
  refine exists_congr fun n => and_congr ?_ eq_comm
  simp [Unfed]

theorem mem_portViolations {n : Node} :
    v ∈ g.portViolations n ↔
      ∃ c, n.config = .condition c ∧
        ((∃ port, List.Duplicate port c.ports ∧ v = .duplicatePort n.id port) ∨
          ∃ e ∈ g.functionalEdges, e.source = n.id ∧ (∀ port ∈ c.ports, e.sourcePort ≠ some port) ∧
            v = .unknownPort e c.ports) := by
  unfold portViolations
  split
  · rename_i c config
    have leaves : ∀ e : Edge,
        (e.source == n.id && !(c.ports.map some).contains e.sourcePort) = true ↔
          e.source = n.id ∧ ∀ port ∈ c.ports, e.sourcePort ≠ some port := by
      intro e
      simp only [Bool.and_eq_true, beq_iff_eq, Bool.not_eq_true', ← Bool.not_eq_true,
        List.contains_iff_mem, List.mem_map, not_exists, not_and, ne_comm, ne_eq]
    have one : ∀ c', n.config = .condition c' ↔ c' = c := fun c' => by rw [config]; simp [eq_comm]
    simp only [one, exists_eq_left, List.mem_append, List.mem_map, List.mem_filter, leaves,
      mem_repeated, and_assoc, eq_comm (b := v)]
  · rename_i other
    simp only [List.not_mem_nil, false_iff]
    rintro ⟨c, config, -⟩
    exact other c config

theorem mem_cycleViolations :
    v ∈ g.cycleViolations ↔ ∃ path, g.findCycle = some path ∧ v = .cycle path := by
  unfold cycleViolations
  split <;> simp_all

/-- The check reports the violations that hold of the graph, and no others. -/
theorem mem_violations_iff : v ∈ g.check.violations ↔ v.Holds g := by
  simp only [check, List.mem_append, List.mem_flatMap, mem_idViolations, mem_countViolations,
    mem_edgeViolations, mem_reachViolations, mem_portViolations, mem_cycleViolations]
  cases v with
  | danglingEdge e id =>
      simp only [Violation.danglingEdge.injEq, reduceCtorEq, and_false, exists_false, or_false,
        false_or, Violation.Holds]
      constructor
      · rintro ⟨_, edge, _, ends, unknown, rfl, rfl⟩
        exact ⟨edge, ends, unknown⟩
      · rintro ⟨edge, ends, unknown⟩
        exact ⟨e, edge, id, ends, unknown, rfl, rfl⟩
  | _ => simp [Violation.Holds]

theorem has_of_holds (h : v.Holds g) : g.Has v.defect := by
  cases v with
  | duplicateNode id => exact ⟨id, h⟩
  | emptyNodeId => exact h
  | inputCount found => exact h.1
  | outputMissing => exact h
  | danglingEdge e id =>
      obtain ⟨edge, rfl | rfl, unknown⟩ := h
      · exact ⟨e, edge, .inl unknown⟩
      · exact ⟨e, edge, .inr unknown⟩
  | edgeIntoInput e => exact ⟨e, h⟩
  | edgeFromOutput e => exact ⟨e, h⟩
  | unreachableNode id =>
      obtain ⟨n, unfed, -⟩ := h
      exact ⟨n, unfed⟩
  | duplicatePort id port =>
      obtain ⟨n, mem, c, config, twice, -⟩ := h
      exact ⟨n, mem, c, config, List.exists_duplicate_iff_not_nodup.mp ⟨port, twice⟩⟩
  | unknownPort e ports =>
      obtain ⟨n, mem, c, config, edge, source, off, -⟩ := h
      exact ⟨n, mem, c, config, e, edge, source, off⟩
  | cycle path =>
      obtain ⟨id, -, round⟩ := exists_precedes_of_circuit (circuit_of_findCycle h)
      exact ⟨id, round⟩

theorem exists_holds {d : Defect} (h : g.Has d) : ∃ v : Violation, v.Holds g ∧ v.defect = d := by
  cases d with
  | duplicateNode =>
      obtain ⟨id, shared⟩ := h
      exact ⟨.duplicateNode id, shared, rfl⟩
  | emptyNodeId => exact ⟨.emptyNodeId, h, rfl⟩
  | inputCount => exact ⟨.inputCount _, ⟨h, rfl⟩, rfl⟩
  | outputMissing => exact ⟨.outputMissing, h, rfl⟩
  | danglingEdge =>
      obtain ⟨e, edge, unknown | unknown⟩ := h
      · exact ⟨.danglingEdge e e.source, ⟨edge, .inl rfl, unknown⟩, rfl⟩
      · exact ⟨.danglingEdge e e.target, ⟨edge, .inr rfl, unknown⟩, rfl⟩
  | edgeIntoInput =>
      obtain ⟨e, into⟩ := h
      exact ⟨.edgeIntoInput e, into, rfl⟩
  | edgeFromOutput =>
      obtain ⟨e, out⟩ := h
      exact ⟨.edgeFromOutput e, out, rfl⟩
  | unreachableNode =>
      obtain ⟨n, unfed⟩ := h
      exact ⟨.unreachableNode n.id, ⟨n, unfed, rfl⟩, rfl⟩
  | duplicatePort =>
      obtain ⟨n, mem, c, config, repeats⟩ := h
      obtain ⟨port, twice⟩ := List.exists_duplicate_iff_not_nodup.mpr repeats
      exact ⟨.duplicatePort n.id port, ⟨n, mem, c, config, twice, rfl⟩, rfl⟩
  | unknownPort =>
      obtain ⟨n, mem, c, config, e, edge, source, off⟩ := h
      exact ⟨.unknownPort e c.ports, ⟨n, mem, c, config, edge, source, off, rfl⟩, rfl⟩
  | cycle =>
      obtain ⟨id, round⟩ := h
      cases found : g.findCycle with
      | none => exact absurd round (findCycle_eq_none_iff.mp found id)
      | some path => exact ⟨.cycle path, found, rfl⟩

theorem filter_duplicateNode :
    (g.check.violations.filter fun v => v.code = Defect.duplicateNode.code) =
      g.duplicateIds.map .duplicateNode := by
  have shared : ∀ v ∈ g.duplicateIds.map Violation.duplicateNode,
      decide (v.code = Defect.duplicateNode.code) = true := by
    intro v mem
    obtain ⟨id, -, rfl⟩ := List.mem_map.mp mem
    rfl
  rw [check, idViolations]
  simp only [List.append_assoc, List.filter_append (g.duplicateIds.map Violation.duplicateNode)]
  -- None of the other checks reports a violation of this kind.
  rw [List.filter_eq_self.mpr shared, List.append_right_eq_self, List.filter_eq_nil_iff]
  intro v mem
  rw [decide_eq_true_iff, Violation.code_eq_iff]
  simp only [List.mem_append, List.mem_flatMap, mem_countViolations, mem_edgeViolations,
    mem_reachViolations, mem_portViolations, mem_cycleViolations] at mem
  cases v with
  | duplicateNode id =>
      rcases mem with blank | later
      · split at blank <;> simp at blank
      · simp at later
  | _ => exact Defect.noConfusion

end Graph

/-- The nodes that violations of a defect are reported against, one for each violation. -/
def CheckReport.named (r : CheckReport) (d : Defect) : List (Option String) :=
  (r.violations.filter fun v => v.code = d.code).map Violation.nodeId?

/-- A report tells what is wrong with a graph, and nothing else. -/
structure CheckReport.Describes (r : CheckReport) (g : Graph) : Prop where
  found : ∀ d : Defect, (∃ v ∈ r.violations, v.code = d.code) ↔ g.Has d
  known : ∀ v ∈ r.violations, ∃ d : Defect, v.code = d.code
  shared : (r.named .duplicateNode).Nodup ∧
    ∀ x, x ∈ r.named .duplicateNode ↔ ∃ id, g.Shares id ∧ x = some id
  unfed : ∀ x, x ∈ r.named .unreachableNode ↔ ∃ n, g.Unfed n ∧ x = some n.id
  valid : r.valid = true ↔ ∀ d, ¬ g.Has d

namespace Graph

variable {g : Graph}

theorem check_found (d : Defect) : (∃ v ∈ g.check.violations, v.code = d.code) ↔ g.Has d := by
  constructor
  · rintro ⟨v, mem, code⟩
    obtain rfl := Violation.code_eq_iff.mp code
    exact has_of_holds (mem_violations_iff.mp mem)
  · intro has
    obtain ⟨v, holds, of⟩ := exists_holds has
    exact ⟨v, mem_violations_iff.mpr holds, Violation.code_eq_iff.mpr of⟩

theorem named_duplicateNode :
    g.check.named .duplicateNode = g.duplicateIds.map some := by
  rw [CheckReport.named, filter_duplicateNode, List.map_map]
  rfl

theorem mem_named_unreachableNode {x : Option String} :
    x ∈ g.check.named .unreachableNode ↔ ∃ n, g.Unfed n ∧ x = some n.id := by
  simp only [CheckReport.named, List.mem_map, List.mem_filter, decide_eq_true_iff,
    Violation.code_eq_iff, mem_violations_iff]
  constructor
  · rintro ⟨v, ⟨holds, of⟩, rfl⟩
    cases v with
    | unreachableNode id =>
        obtain ⟨n, unfed, rfl⟩ := holds
        exact ⟨n, unfed, rfl⟩
    | _ => cases of
  · rintro ⟨n, unfed, rfl⟩
    exact ⟨.unreachableNode n.id, ⟨⟨n, unfed, rfl⟩, rfl⟩, rfl⟩

theorem check_valid_iff : g.check.valid = true ↔ ∀ d, ¬ g.Has d := by
  rw [CheckReport.valid, List.isEmpty_iff, List.eq_nil_iff_forall_not_mem]
  constructor
  · intro none' d has
    obtain ⟨v, mem, -⟩ := (check_found d).mpr has
    exact none' v mem
  · intro sound v mem
    exact sound v.defect (has_of_holds (mem_violations_iff.mp mem))

/-- Whatever a graph is like, its check reports each of its defects under the code of that defect
and reports nothing else. It names every shared id once, and every node that no edge leads to. No
part of it can fail: each end of a functional edge is a functional node, and where no cycle is found
the stages take every node. -/
theorem check_describes (g : Graph) :
    g.check.Describes g ∧
      (∀ e ∈ g.functionalEdges, e.source ∈ g.functionalIds ∧ e.target ∈ g.functionalIds) ∧
        (g.findCycle = none → g.stagingError? = none) := by
  refine ⟨⟨check_found, ?_, ⟨?_, ?_⟩, fun _ => mem_named_unreachableNode, check_valid_iff⟩, ?_, ?_⟩
  · intro v _
    exact ⟨v.defect, rfl⟩
  · have nodup : g.duplicateIds.Nodup :=
      (sortedTexts_perm _).nodup_iff.mpr ((nodup_distinct _).filter _)
    rw [named_duplicateNode]
    exact nodup.map (Option.some_injective _)
  · intro x
    rw [named_duplicateNode, List.mem_map]
    exact exists_congr fun id =>
      and_congr (mem_sortedTexts.trans mem_repeated) eq_comm
  · exact fun e edge => ⟨source_mem_functionalIds edge, target_mem_functionalIds edge⟩
  · exact fun clear => stagingError?_eq_none (staging_held_eq_nil clear)

end Graph

end Workflow
