import Workflow.Proofs.Graph.Defects
import Workflow.Proofs.Run.Sight
import Workflow.Proofs.Text.Blank
import Workflow.Proofs.Text.Split

/-! Outputs are referred to by the ids of their nodes. A reference is a path, so an id names its
node if it is a path of one segment: if there is no point in it and no blank at its ends. -/

namespace Workflow

namespace Reference

structure Simple (id : String) : Prop where
  undivided : '.' ∉ id.toList
  trimmed : Text.strip id = id

theorem Simple.segments {id : String} (h : Simple id) (some' : id ≠ "") :
    segments id = [id] := by
  have whole : Text.trimBlank id.toList = id.toList := by
    have same := congrArg String.toList h.trimmed
    rwa [Text.strip, String.toList_ofList] at same
  have filled : id.toList ≠ [] := by simpa using some'
  rw [Reference.segments, whole, Text.splitAtEach_of_not_mem h.undivided]
  simp [filled]

end Reference

variable {g : Graph} {exec : Executor} {setup : Setup} {payload : Value} {q : Progress}
  {id a : String} {inputs : Inputs}

theorem Graph.id_ne_empty (valid : g.check.valid = true) (known : id ∈ g.functionalIds) :
    id ≠ "" := by
  rintro rfl
  obtain ⟨n, functional, empty⟩ := mem_functionalIds.mp known
  have node : n ∈ g.nodes := (List.mem_filter.mp functional).1
  refine check_valid_iff.mp valid .emptyNodeId ⟨n, node, ?_⟩
  simp [empty]

/-- What stands under a name among the predecessors, the ports or the ancestors is what the name
refers to. -/
theorem Inputs.resolve?_name {name : String} (whole : Reference.segments name = [name]) {v : Value}
    (predecessor : ∀ w, inputs.predecessors.get? name = some w → w = v)
    (port : inputs.ports.get? name = none) (ancestor : inputs.ancestors.get? name = some v) :
    inputs.resolve? name = some v := by
  rw [Inputs.resolve?_eq, whole, Inputs.places, List.filterMap_cons, List.filterMap_cons,
    List.filterMap_cons, port, ancestor]
  cases found : inputs.predecessors.get? name with
  | none => rfl
  | some w =>
      rw [predecessor w found]
      rfl

/-- A node that sees the output of an ancestor refers to it by the id of the ancestor. -/
theorem Inputs.Sight.named (h : inputs.Sight g payload q id)
    (supplied : q.supplies (.ofGraph g) a = true) (before : g.Precedes a id)
    (unported : ∀ e ∈ g.edges, e.target = id → e.targetPort ≠ some a)
    (whole : Reference.segments a = [a]) : inputs.resolve? a = some (q.state.output a) := by
  refine Inputs.resolve?_name whole ?_ ?_ ?_
  · intro w found
    rw [h.predecessors, Table.get?_map] at found
    split at found
    · exact (Option.some.inj found).symm
    · cases found
  · rw [h.ports.2]
    split
    · rfl
    · rw [Option.map_eq_none_iff, List.find?_eq_none]
      intro e mem carries
      obtain ⟨edge, target⟩ := List.mem_filter.mp mem
      have port := (Bool.and_eq_true_iff.mp carries).2
      exact unported e edge (eq_of_beq target) (eq_of_beq port)
  · obtain ⟨upstream, listed, -, -, members⟩ := h.ancestors
    rw [listed, Table.get?_map, if_pos ((members a).mpr ⟨supplied, before⟩)]

open Scheduler in
/-- In every run of a valid graph, each admitted node refers to the output of an ancestor that
succeeded, conditions apart, by the id of that ancestor, whatever the output is and whatever other
outputs hold. The id has to be a path of one segment, and no port of the node may be named like
it. -/
theorem output_named {k : Nat} {admitted : List (String × Inputs)} (valid : g.check.valid = true)
    (ran : (enterAt (.ofGraph g) exec setup.payload k).on (.start (.ofGraph g) setup) =
      (.ok admitted, q)) :
    ∀ x ∈ admitted, ∀ a, q.state.hasStatus a .succeeded = true →
      (Plan.ofGraph g).isCondition a = false → g.Precedes a x.1 →
      (∀ e ∈ g.edges, e.target = x.1 → e.targetPort ≠ some a) → Reference.Simple a →
      x.2.resolve? a = some (q.state.output a) := by
  intro x mem a succeeded plain before unported simple
  have sight : x.2.Sight g setup.payload q x.1 := by
    rcases enterAt_ok ran with rfl | ⟨done, stage, p, reached, follows, ordered, entered⟩
    · exact absurd mem List.not_mem_nil
    · exact (enter_sight reached follows ordered entered mem).1
  have supplied : q.supplies (.ofGraph g) a = true := by
    rw [Progress.supplies, succeeded, plain]
    rfl
  have named := simple.segments (Graph.id_ne_empty valid before.source_mem)
  exact sight.named supplied before unported named

/-- Conditions select a given port, one node comes to null, and all others come to an object with a
member of its name. -/
def overshadowing (port name : String) : Executor := fun n _ =>
  .immediate <|
    if n.kind = .condition then .decision ⟨port, none, []⟩
    else if n.id = name then .value .null
    else .value (.object [(name, .int 1)])

open Scheduler in
theorem output_named_detour :
    ∃ admitted q, (enterAt (.ofGraph detour) (overshadowing "true" "risk") .null 2).on
        (.start (.ofGraph detour) plainSetup) = (.ok admitted, q) ∧
      admitted.map Prod.fst = ["join"] ∧
      ∀ x ∈ admitted, x.2.resolve? "risk" = some .null := by
  have valid : detour.check.valid = true := by decide +kernel
  have entered : ((enterAt (.ofGraph detour) (overshadowing "true" "risk") .null 2).on
      (.start (.ofGraph detour) plainSetup)).1.toOption.map (·.map Prod.fst) = some ["join"] := by
    decide +kernel
  have reached : ((enterAt (.ofGraph detour) (overshadowing "true" "risk") .null 2).on
      (.start (.ofGraph detour) plainSetup)).2.state.hasStatus "risk" .succeeded = true := by
    decide +kernel
  have shown : (((enterAt (.ofGraph detour) (overshadowing "true" "risk") .null 2).on
      (.start (.ofGraph detour) plainSetup)).2.state.output "risk").isNull = true := by
    decide +kernel
  cases run : (enterAt (.ofGraph detour) (overshadowing "true" "risk") .null 2).on
      (.start (.ofGraph detour) plainSetup) with
  | mk result q =>
      rw [run] at entered reached shown
      cases result with
      | error stop => cases entered
      | ok admitted =>
          have ids : admitted.map Prod.fst = ["join"] := Option.some.inj entered
          refine ⟨admitted, q, rfl, ids, fun x mem => ?_⟩
          have here : x.1 = "join" := by
            have among := List.mem_map_of_mem (f := Prod.fst) mem
            rwa [ids, List.mem_singleton] at among
          have edge : detour.Precedes "risk" x.1 := by
            rw [here]
            exact ⟨[⟨"risk", "join", none, none, none⟩], by decide, by decide +kernel, rfl, rfl⟩
          have unported : ∀ e ∈ detour.edges, e.target = x.1 → e.targetPort ≠ some "risk" := by
            rw [here]
            decide +kernel
          have ran : (enterAt (.ofGraph detour) (overshadowing "true" "risk") plainSetup.payload
              2).on (.start (.ofGraph detour) plainSetup) = (.ok admitted, q) := run
          have named := output_named valid ran x mem "risk" reached (by decide +kernel) edge
            unported ⟨by decide, by decide +kernel⟩
          rw [named]
          cases output : q.state.output "risk" with
          | null => rfl
          | _ =>
              rw [output] at shown
              cases shown

/-- A node whose id has a point in it, and an output node that refers to it. -/
def dotted : Graph where
  id := none
  name := none
  nodes :=
    [⟨"in", none, [], .input ⟨none, []⟩⟩,
     ⟨"step.one", none, [], .template ⟨"hello"⟩⟩,
     ⟨"out", none, [], .output ⟨[⟨"said", "step.one"⟩]⟩⟩]
  edges := [⟨"in", "step.one", none, none, none⟩, ⟨"step.one", "out", none, none, none⟩]
  metadata := []

open Scheduler in
/-- An id with a point in it is accepted, but a reference takes it apart. -/
theorem dotted_id_unnamed :
    dotted.check.valid = true ∧
      ∃ admitted q, (enterAt (.ofGraph dotted) (fun n inputs => n.execute inputs .none) .null 2).on
          (.start (.ofGraph dotted) plainSetup) = (.ok admitted, q) ∧
        ∃ x ∈ admitted, q.state.hasStatus "step.one" .succeeded = true ∧
          (Plan.ofGraph dotted).isCondition "step.one" = false ∧
          dotted.Precedes "step.one" x.1 ∧
          (∀ e ∈ dotted.edges, e.target = x.1 → e.targetPort ≠ some "step.one") ∧
          x.2.resolve? "step.one" ≠ some (q.state.output "step.one") := by
  have entered : ((enterAt (.ofGraph dotted) (fun n inputs => n.execute inputs .none) .null 2).on
      (.start (.ofGraph dotted) plainSetup)).1.toOption.map (·.map fun x =>
        (x.1, (x.2.resolve? "step.one").isSome)) = some [("out", false)] := by
    decide +kernel
  have reached : ((enterAt (.ofGraph dotted) (fun n inputs => n.execute inputs .none) .null 2).on
      (.start (.ofGraph dotted) plainSetup)).2.state.hasStatus "step.one" .succeeded = true := by
    decide +kernel
  refine ⟨by decide +kernel, ?_⟩
  cases run : (enterAt (.ofGraph dotted) (fun n inputs => n.execute inputs .none) .null 2).on
      (.start (.ofGraph dotted) plainSetup) with
  | mk result q =>
      rw [run] at entered reached
      cases result with
      | error stop => cases entered
      | ok admitted =>
          have only := Option.some.inj entered
          obtain ⟨x, rfl, first⟩ := List.map_eq_singleton_iff.mp only
          obtain ⟨here, unresolved⟩ := Prod.mk.inj first
          refine ⟨[x], q, rfl, x, List.mem_cons_self, reached, by decide +kernel, ?_, ?_, ?_⟩
          · rw [here]
            exact ⟨[⟨"step.one", "out", none, none, none⟩], by decide, by decide +kernel, rfl, rfl⟩
          · rw [here]
            decide +kernel
          · rw [Option.not_isSome_iff_eq_none.mp (Bool.eq_false_iff.mp unresolved)]
            exact (Option.some_ne_none _).symm

end Workflow
