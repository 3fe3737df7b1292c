import Workflow.Proofs.Run.Fate

/-! The result of a run whose outcomes are settled beforehand. -/

namespace Workflow

namespace Plan

/-- The output nodes that the rule of admission has executed, in the order of the plan. -/
def executedOutputs (plan : Plan) (σ : String → Standing) : List String :=
  plan.outputIds.filter fun id => decide (plan.admission σ id = .executed)

end Plan

inductive Reports (g : Graph) (exec : Executor) (setup : Setup) (σ : String → Standing) :
    Ending → RunResult → Progress → Prop where
  | succeeded {done : List String} {q : Progress} {output copy : Value}
      (fated : Fated g exec setup σ done q) (all : ∀ id ∈ g.functionalIds, id ∈ done)
      (found : Plan.gather q.state.output ((Plan.ofGraph g).executedOutputs σ) = some output) :
      Reports g exec setup σ .completed (q.result .succeeded output copy none none) q
  | unreached {done : List String} {q : Progress} {cause : String}
      (fated : Fated g exec setup σ done q) (all : ∀ id ∈ g.functionalIds, id ∈ done)
      (none' : (Plan.ofGraph g).executedOutputs σ = []) :
      Reports g exec setup σ .completed (q.result .failed .null .null none (some cause)) q
  | failed {ending : Ending} {q : Progress} {id cause : String}
      (concludes : Concludes g exec setup σ ending (.error (.failed (some id) cause), q)) :
      Reports g exec setup σ ending (q.result .failed .null .null (some id) (some cause)) q

variable {g : Graph} {exec : Executor} {setup : Setup} {fate σ : String → Standing}
  {done : List String} {p q : Progress}

theorem mem_outputIds {plan : Plan} {id : String} :
    id ∈ plan.outputIds ↔ plan.isOutput id = true := by
  rw [Plan.outputIds, List.mem_filter]
  refine and_iff_right_of_imp fun output => ?_
  obtain ⟨n, found, -⟩ := Plan.isOutput_iff.mp output
  exact Table.mem_keys_iff.mpr ⟨n, found⟩

/-- An output node that is executed leaves the value of its execution behind. -/
theorem Fated.output_value (h : Fated g exec setup σ done p) (settles : exec.Settles g setup fate)
    {id : String} (mem : id ∈ done) (output : (Plan.ofGraph g).isOutput id = true)
    (fit : (Plan.ofGraph g).admission p.standing id = .executed) :
    p.standing id = .succeeded none ∧
      ∃ n ∈ g.functionalNodes, n.id = id ∧ n.kind = .output ∧ ∃ inputs : Inputs,
        inputs.Arises g exec setup.payload ∧
          (exec n inputs).outcome = .value (p.state.output id) := by
  obtain ⟨n, inputs, node, arises, shown⟩ := h.executed id mem fit
  obtain ⟨m, node', kind⟩ := Plan.isOutput_iff.mp output
  obtain rfl : n = m := Option.some.inj (node.symm.trans node')
  obtain ⟨functional, rfl⟩ := Plan.mem_functionalNodes_of_get? node
  have standing : (exec n inputs).outcome.standing = .succeeded none :=
    (settles.ends n functional inputs arises).trans (settles.outputs n functional kind)
  refine ⟨shown.standing.trans standing, n, functional, rfl, kind, inputs, arises, ?_⟩
  rw [shown.output]
  cases outcome : (exec n inputs).outcome <;> rw [outcome] at standing <;>
    first | rfl | cases standing

/-- An output node has succeeded just when the rule of admission has executed it. -/
theorem Fated.hasStatus_succeeded (h : Fated g exec setup σ done p)
    (settles : exec.Settles g setup fate) {id : String} (mem : id ∈ done)
    (output : (Plan.ofGraph g).isOutput id = true) :
    p.state.hasStatus id .succeeded = true ↔
      (Plan.ofGraph g).admission p.standing id = .executed := by
  constructor
  · intro succeeded
    obtain ⟨s, found, status⟩ := RunState.hasStatus_iff.mp succeeded
    have standing : p.standing id = .succeeded s.selectedPort? := by
      simp only [Progress.standing, found, status]
    have placed := h.reached.placed id mem
    unfold Progress.Placed at placed
    cases admission : (Plan.ofGraph g).admission p.standing id
    · rfl
    all_goals
      rw [admission] at placed
      dsimp only at placed
      rw [standing] at placed
      cases placed
  · intro fit
    obtain ⟨standing, -⟩ := h.output_value settles mem output fit
    obtain ⟨s, found, status, -⟩ := Progress.standing_eq_succeeded standing
    exact RunState.hasStatus_iff.mpr ⟨s, found, status⟩

theorem known_of_isOutput {id : String} (h : (Plan.ofGraph g).isOutput id = true) :
    id ∈ g.functionalIds := by
  obtain ⟨n, node, -⟩ := Plan.isOutput_iff.mp h
  exact Plan.mem_keys_ofGraph.mp (Table.mem_keys_iff.mpr ⟨n, node⟩)

/-- A run that has come through all nodes judges them as its reference does. -/
theorem Fated.admission_eq (h : Fated g exec setup σ done p) {id : String} (mem : id ∈ done) :
    (Plan.ofGraph g).admission p.standing id = (Plan.ofGraph g).admission σ id := by
  refine Plan.admission_congr fun e he => ?_
  rw [h.standing, revealed_of_mem (h.reached.closed id mem e he)]

/-- The output of a run is gathered from the output nodes that are executed. -/
theorem Fated.finishedOutput?_eq (h : Fated g exec setup σ done p)
    (settles : exec.Settles g setup fate) (all : ∀ id ∈ g.functionalIds, id ∈ done) :
    Scheduler.finishedOutput? (.ofGraph g) p =
      Plan.gather p.state.output ((Plan.ofGraph g).executedOutputs σ) := by
  have same : ((Plan.ofGraph g).outputIds.filter fun id => p.state.hasStatus id .succeeded) =
      (Plan.ofGraph g).executedOutputs σ := by
    refine List.filter_congr fun id mem => ?_
    have output := mem_outputIds.mp mem
    have done := all id (known_of_isOutput output)
    rw [Bool.eq_iff_iff, h.hasStatus_succeeded settles done output, h.admission_eq done,
      decide_eq_true_eq]
  rw [Scheduler.finishedOutput?_eq_gather, same]

theorem Fated.executed_value (h : Fated g exec setup σ done p) (settles : exec.Settles g setup fate)
    (all : ∀ id ∈ g.functionalIds, id ∈ done) {id : String}
    (mem : id ∈ (Plan.ofGraph g).executedOutputs σ) :
    ∃ n ∈ g.functionalNodes, n.id = id ∧ n.kind = .output ∧ ∃ inputs : Inputs,
      inputs.Arises g exec setup.payload ∧
        (exec n inputs).outcome = .value (p.state.output id) := by
  obtain ⟨output, fit⟩ := List.mem_filter.mp mem
  have output := mem_outputIds.mp output
  have done := all id (known_of_isOutput output)
  exact (h.output_value settles done output ((h.admission_eq done).trans (by simpa using fit))).2

theorem Fated.gather_copyable (h : Fated g exec setup σ done p)
    (settles : exec.Settles g setup fate) (all : ∀ id ∈ g.functionalIds, id ∈ done)
    {output : Value}
    (found : Plan.gather p.state.output ((Plan.ofGraph g).executedOutputs σ) = some output) :
    output.Copyable := by
  refine settles.deliverable _ _ output (fun id mem => ?_) found
  obtain ⟨n, functional, same, kind, inputs, arises, outcome⟩ := h.executed_value settles all mem
  exact ⟨n, functional, same, kind, inputs, arises, by rw [outcome]; rfl⟩

/-- A run whose outcomes are settled has a result, and it tells where the run ends. -/
theorem settled_run (runnable : g.Runnable) (settles : exec.Settles g setup fate)
    (consistent : (Plan.ofGraph g).Consistent fate σ) :
    ∃ ending r q, Scheduler.runFrom (.ofGraph g) exec setup = (.ok r, q.close r.trace) ∧
      (Plan.ofGraph g).Ends σ [] g.staging.stages ending ∧
      Reports g exec setup σ ending r q := by
  obtain ⟨p, reached, signal, copying, blank, course, end'⟩ :=
    Scheduler.runFrom_cases runnable exec setup
  have start : Fated g exec setup σ [] p := by
    refine ⟨reached, ?_, ?_, ?_, ?_, copying⟩
    · funext id
      exact reached.waiting List.not_mem_nil
    · intro id
      rw [blank]
      exact .null
    · exact fun _ h => absurd h List.not_mem_nil
    · rw [signal, settles.unasked]
  have all : ∀ id ∈ g.functionalIds, id ∈ [] ++ g.staging.stages.flatten := fun id mem =>
    runnable.stages_perm.mem_iff.mpr mem
  obtain ⟨ending, ends, concludes⟩ := start.concludes settles consistent all course
  generalize Scheduler.courseFrom (.ofGraph g) exec setup = ended at concludes end'
  generalize Scheduler.runFrom (.ofGraph g) exec setup = result at end'
  cases end' with
  | @succeeded q output copy found copied =>
      cases concludes with
      | completed fated all =>
          rw [fated.finishedOutput?_eq settles all] at found
          exact ⟨_, _, q, rfl, ends, .succeeded fated all found⟩
  | @uncopied q output f found copied =>
      cases concludes with
      | completed fated all =>
          rw [fated.finishedOutput?_eq settles all] at found
          obtain ⟨copy, copied'⟩ := fated.gather_copyable settles all found
          rw [copied'] at copied
          cases copied
  | @unreached q found =>
      cases concludes with
      | completed fated all =>
          rw [fated.finishedOutput?_eq settles all] at found
          exact ⟨_, _, q, rfl, ends, .unreached fated all (Plan.gather_eq_none_iff.mp found)⟩
  | cancelled => cases concludes
  | @failed q id cause => exact ⟨ending, _, q, rfl, ends, .failed concludes⟩
  | aborted => cases concludes

end Workflow
