import Workflow.Plan
import Workflow.Proofs.Graph.Acceptance

/-! Plans of graphs: every id names its node, edges join nodes of the plan, and the stages of the
graph are stages of the plan. -/

namespace Workflow.Plan

/-- What every plan of a graph keeps to. -/
structure Sound (plan : Plan) : Prop where
  distinct : plan.nodes.Distinct
  named : ∀ {id n}, plan.nodes.get? id = some n → n.id = id
  joined : ∀ e ∈ plan.edges, e.source ∈ plan.nodes.keys ∧ e.target ∈ plan.nodes.keys

/-- A stage may follow what is done: its nodes are new nodes of the plan, each once, and the edges
into them come from what is done. -/
structure Follows (plan : Plan) (done stage : List String) : Prop where
  nodup : stage.Nodup
  fresh : ∀ id ∈ stage, id ∉ done
  known : ∀ id ∈ stage, id ∈ plan.nodes.keys
  fed : ∀ id ∈ stage, ∀ e ∈ plan.incoming id, e.source ∈ done

/-- Each stage may follow those in front of it. -/
def Layered (plan : Plan) : List String → List (List String) → Prop
  | _, [] => True
  | done, stage :: rest => plan.Follows done stage ∧ plan.Layered (done ++ stage) rest

variable {plan : Plan} {g : Graph}

theorem mem_incoming {e : Edge} {id : String} :
    e ∈ plan.incoming id ↔ e ∈ plan.edges ∧ e.target = id := by
  simp [incoming]

theorem mem_successors {id target : String} :
    target ∈ plan.successors id ↔ ∃ e ∈ plan.edges, e.source = id ∧ e.target = target :=
  mem_targetsOf

theorem mem_keys_ofGraph {id : String} :
    id ∈ (ofGraph g).nodes.keys ↔ id ∈ g.functionalIds := by
  simp [ofGraph, Graph.indexNodes, Table.mem_keys_ofList, Graph.mem_functionalIds]

theorem mem_functionalNodes_of_get? {id : String} {n : Node}
    (h : (ofGraph g).nodes.get? id = some n) : n ∈ g.functionalNodes ∧ n.id = id := by
  have entry := Table.mem_of_mem_ofList (Table.mem_of_get? h)
  obtain ⟨m, hm, same⟩ := List.mem_map.mp entry
  cases same
  exact ⟨hm, rfl⟩

theorem isCondition_iff {id : String} :
    plan.isCondition id = true ↔ ∃ n, plan.nodes.get? id = some n ∧ n.kind = .condition := by
  simp only [isCondition, kindOf?, beq_iff_eq, Option.map_eq_some_iff]

theorem isOutput_iff {id : String} :
    plan.isOutput id = true ↔ ∃ n, plan.nodes.get? id = some n ∧ n.kind = .output := by
  simp only [isOutput, kindOf?, beq_iff_eq, Option.map_eq_some_iff]

/-- Where ids stand for one node each, every functional node is found under its id. -/
theorem get?_ofGraph (runnable : g.Runnable) {n : Node} (h : n ∈ g.functionalNodes) :
    (ofGraph g).nodes.get? n.id = some n := by
  have distinct : Table.Distinct (g.functionalNodes.map fun n => (n.id, n)) := by
    have keys : Table.keys (g.functionalNodes.map fun n => (n.id, n)) =
        g.functionalNodes.map Node.id := by
      simp [Table.keys, Function.comp_def]
    rw [Table.Distinct, keys]
    exact runnable.nodup
  change Table.get? (Table.ofList _) n.id = some n
  rw [Table.ofList_of_distinct distinct]
  exact Table.get?_of_mem distinct (List.mem_map_of_mem h)

theorem sound_ofGraph (g : Graph) : (ofGraph g).Sound where
  distinct := Table.distinct_ofList _
  named h := (mem_functionalNodes_of_get? h).2
  joined _ he :=
    ⟨mem_keys_ofGraph.mpr (Graph.source_mem_functionalIds he),
      mem_keys_ofGraph.mpr (Graph.target_mem_functionalIds he)⟩

/-- Stages that hold nodes of the plan, each once, and after all their predecessors. -/
theorem layered_of_layers {stages : List (List String)} :
    ∀ {done : List String}, Layers (sourcesOf plan.edges) done stages →
      (done ++ stages.flatten).Nodup → (∀ id ∈ stages.flatten, id ∈ plan.nodes.keys) →
      plan.Layered done stages := by
  induction stages with
  | nil => intro done _ _ _; trivial
  | cons stage rest ih =>
      intro done layers nodup known
      rw [List.flatten_cons] at nodup known
      have split := List.nodup_append.mp nodup
      refine ⟨⟨?_, ?_, ?_, ?_⟩, ih layers.2 (by rwa [List.append_assoc]) ?_⟩
      · exact (List.nodup_append.mp split.2.1).1
      · intro id hid old
        exact split.2.2 id old id (List.mem_append_left _ hid) rfl
      · exact fun id hid => known id (List.mem_append_left _ hid)
      · intro id hid e he
        obtain ⟨edge, rfl⟩ := mem_incoming.mp he
        exact layers.1 e.target hid e.source (mem_sourcesOf.mpr ⟨e, edge, rfl, rfl⟩)
      · exact fun id hid => known id (List.mem_append_right _ hid)

theorem layered_ofGraph (g : Graph) : (ofGraph g).Layered [] g.staging.stages := by
  have all := Graph.staging_perm g
  have nodup : (g.staging.stages.flatten ++ g.staging.held).Nodup :=
    all.nodup_iff.mpr (nodup_distinct _)
  refine layered_of_layers (Graph.staging_layers g) (List.nodup_append.mp nodup).1 ?_
  intro id hid
  exact mem_keys_ofGraph.mpr (all.mem_iff.mp (List.mem_append_left _ hid))

theorem follows_nil (done : List String) : plan.Follows done [] where
  nodup := List.nodup_nil
  fresh _ mem := absurd mem List.not_mem_nil
  known _ mem := absurd mem List.not_mem_nil
  fed _ mem := absurd mem List.not_mem_nil

theorem Layered.append {first rest : List (List String)} {done : List String}
    (h : plan.Layered done (first ++ rest)) :
    plan.Layered done first ∧ plan.Layered (done ++ first.flatten) rest := by
  induction first generalizing done with
  | nil => exact ⟨trivial, by simpa using h⟩
  | cons stage first ih =>
      obtain ⟨layered, later⟩ := ih h.2
      exact ⟨⟨h.1, layered⟩, by simpa using later⟩

theorem Layered.known {stages : List (List String)} {done : List String}
    (h : plan.Layered done stages) : ∀ id ∈ stages.flatten, id ∈ plan.nodes.keys := by
  induction stages generalizing done with
  | nil => exact fun _ mem => absurd mem List.not_mem_nil
  | cons stage rest ih =>
      intro id mem
      rcases List.mem_append.mp (List.flatten_cons ▸ mem) with now | later
      · exact h.1.known id now
      · exact ih h.2 id later

theorem Layered.fresh {stages : List (List String)} {done : List String}
    (h : plan.Layered done stages) : ∀ id ∈ stages.flatten, id ∉ done := by
  induction stages generalizing done with
  | nil => exact fun _ mem => absurd mem List.not_mem_nil
  | cons stage rest ih =>
      intro id mem
      rcases List.mem_append.mp (List.flatten_cons ▸ mem) with now | later
      · exact h.1.fresh id now
      · exact fun old => ih h.2 id later (List.mem_append_left _ old)

/-- The first stages may be run by themselves, and then the one behind them. -/
theorem Layered.take {stages : List (List String)} {done : List String}
    (h : plan.Layered done stages) (k : Nat) :
    plan.Layered done (stages.take k) ∧
      plan.Follows (done ++ (stages.take k).flatten) (stages.getD k []) := by
  induction stages generalizing done k with
  | nil => exact ⟨by simpa using h, follows_nil _⟩
  | cons stage rest ih =>
      cases k with
      | zero => exact ⟨trivial, by simpa using h.1⟩
      | succ k =>
          obtain ⟨layered, follows⟩ := ih h.2 k
          exact ⟨⟨h.1, layered⟩, by simpa using follows⟩

end Workflow.Plan
