import Workflow.Proofs.Node.Execution
import Workflow.Proofs.Run.Result
import Workflow.Run.Engine

/-! What the engine reports. A graph with violations is refused before any call; a run of another
one ends in a result, unless its output cannot be copied for the trace. -/

namespace Workflow

def Capabilities.executor (caps : Capabilities) : Executor := fun n inputs => n.execute inputs caps

theorem Capabilities.Ordinary.undisturbed {caps : Capabilities} (h : caps.Ordinary) (n : Node)
    (inputs : Inputs) (message : String) :
    (caps.executor n inputs).outcome ≠ .cancelled message := n.execute_ne_cancelled h inputs message

namespace Scheduler

/-- The stages of a run go by, but what its output nodes deliver cannot be copied for the trace. If
the run keeps copies that happens only to an integer among several outputs that is too long for the
text of another one. -/
def Uncopied (plan : Plan) (exec : Executor) (setup : Setup) (f : Fault) : Prop :=
  (setup.snapshotOutputs = false ∨ f = .unwritable .longInteger) ∧
    ∃ q output, courseFrom plan exec setup = (.ok none, q) ∧
      finishedOutput? plan q = some output ∧ output.snapshot = .error f

variable {g : Graph} {exec : Executor} {setup : Setup} {done : List String} {q : Progress}

/-- A run that keeps copies can copy what it delivers, for it has copied each part of it before,
unless an integer is too long. -/
theorem finishedOutput_fault {plan : Plan} {output : Value} {f : Fault}
    (h : Reached plan exec done q) (copying : q.trace.snapshotOutputs = true)
    (found : finishedOutput? plan q = some output) (failed : output.snapshot = .error f) :
    f = .unwritable .longInteger := by
  rw [finishedOutput?_eq_gather] at found
  refine (Plan.gather_fault found (fun id _ => ?_) failed).1
  have copied := h.copied id
  unfold Recorder.copied at copied
  rwa [if_pos copying] at copied

theorem RunEnd.sealed {plan : Plan} {ended : Except Stop (Option (Option String)) × Progress}
    {r : RunResult} (h : RunEnd plan ended (.ok r, q)) :
    q.trace.sealedTrace = some r.trace ∧ r.trace.status = r.status ∧
      r.status ∈ [.succeeded, .failed, .cancelled] := by
  cases h <;> exact ⟨rfl, rfl, by simp [Progress.result]⟩

/-- A run whose output cannot be copied raises the fault of the copy. -/
theorem RunEnd.raised {plan : Plan} {p : Progress} {output : Value} {f : Fault}
    {result : Except Stop RunResult × Progress} (h : RunEnd plan (.ok none, p) result)
    (found : finishedOutput? plan p = some output) (failed : output.snapshot = .error f) :
    result.1 = .error (.fault f) := by
  cases h with
  | succeeded found' copied =>
      cases found.symm.trans found'
      cases failed.symm.trans copied
  | uncopied found' copied =>
      cases found.symm.trans found'
      cases failed.symm.trans copied
      rfl
  | unreached found' => cases found.symm.trans found'

theorem runFrom_raised {f : Fault} (runnable : g.Runnable)
    (lost : Uncopied (.ofGraph g) exec setup f) :
    (runFrom (.ofGraph g) exec setup).1 = .error (.fault f) := by
  obtain ⟨p, -, -, -, -, -, end'⟩ := runFrom_cases runnable exec setup
  obtain ⟨-, q, output, ran, found, failed⟩ := lost
  rw [ran] at end'
  exact end'.raised found failed

/-- A run in which no task is cancelled has a result, unless its output cannot be copied. -/
theorem runFrom_reported (runnable : g.Runnable)
    (undisturbed : ∀ n inputs message, (exec n inputs).outcome ≠ .cancelled message)
    (kept : ∀ f, ¬Uncopied (.ofGraph g) exec setup f) :
    ∃ r q, runFrom (.ofGraph g) exec setup = (.ok r, q) ∧ q.trace.sealedTrace = some r.trace ∧
      r.trace.status = r.status ∧ r.status ∈ [.succeeded, .failed, .cancelled] := by
  obtain ⟨p, -, -, start, -, course, end'⟩ := runFrom_cases runnable exec setup
  generalize runFrom (.ofGraph g) exec setup = result at end' ⊢
  obtain ⟨result, t⟩ := result
  cases result with
  | ok r => exact ⟨r, t, rfl, end'.sealed⟩
  | error stop =>
      generalize ran : courseFrom (.ofGraph g) exec setup = ended at course end'
      cases end' with
      | @uncopied _ output f found copied =>
          refine absurd ⟨?_, t, output, ran, found, copied⟩ (kept f)
          rw [← start, ← course.copying, or_iff_not_imp_left, Bool.not_eq_false]
          exact fun copying => finishedOutput_fault course.reached copying found copied
      | aborted =>
          obtain ⟨n, inputs, outcome⟩ := course.cancelled_of_stop
          exact absurd outcome (undisturbed n inputs _)

end Scheduler

namespace Engine

variable {caps : Capabilities} {g : Graph}

theorem run_refused (violated : g.check.violations ≠ []) (setup : Setup) :
    run caps g setup = (.error (.invalidGraph g.check.violations), []) := by
  unfold run Graph.validate
  dsimp only
  rw [if_neg]
  rwa [CheckReport.valid, List.isEmpty_iff]

theorem run_accepted (valid : g.check.valid = true) (setup : Setup) :
    run caps g setup =
      ((Scheduler.runFrom (.ofGraph g) caps.executor setup).1.mapError .stopped,
        (Scheduler.runFrom (.ofGraph g) caps.executor setup).2.calls) := by
  unfold run Graph.validate
  dsimp only
  rw [if_pos valid]
  rfl

open Scheduler in
/-- A graph with violations is refused before any call. A run of another one, in which no task is
cancelled, raises the fault of the copy of its output if that cannot be copied; in all other cases
it reports a result with a sealed trace. -/
theorem run_reported (ordinary : caps.Ordinary) (g : Graph) (setup : Setup) :
    (g.check.violations ≠ [] → run caps g setup = (.error (.invalidGraph g.check.violations), [])) ∧
    (g.check.violations = [] → ∀ f, Uncopied (.ofGraph g) caps.executor setup f →
      (run caps g setup).1 = .error (.stopped (.fault f))) ∧
    (g.check.violations = [] → (∀ f, ¬Uncopied (.ofGraph g) caps.executor setup f) →
      ∃ r q, runFrom (.ofGraph g) caps.executor setup = (.ok r, q) ∧
        run caps g setup = (.ok r, q.calls) ∧ q.trace.sealedTrace = some r.trace ∧
        r.trace.status = r.status ∧ r.status ∈ [.succeeded, .failed, .cancelled]) := by
  have accepted : g.check.violations = [] → g.check.valid = true := List.isEmpty_iff.mpr
  refine ⟨fun violated => run_refused violated setup, fun clear f lost => ?_, fun clear kept => ?_⟩
  · rw [run_accepted (accepted clear),
      runFrom_raised (Graph.runnable_of_valid (accepted clear)) lost]
    rfl
  · obtain ⟨r, q, result, closed⟩ :=
      runFrom_reported (Graph.runnable_of_valid (accepted clear)) ordinary.undisturbed kept
    refine ⟨r, q, result, ?_, closed⟩
    rw [run_accepted (accepted clear), result]
    rfl

end Engine

def relay : Graph where
  id := none
  name := none
  nodes :=
    [⟨"in", none, [], .input ⟨none, []⟩⟩, ⟨"hold", none, [], .tool ⟨"server", "tool", []⟩⟩,
     ⟨"out", none, [], .output ⟨[]⟩⟩]
  edges := [⟨"in", "hold", none, none, none⟩, ⟨"hold", "out", none, none, none⟩]
  metadata := []

def poisoned : Value := .handle ⟨"poison", "p", "ValueError", ["ValueError"], "poisoned p"⟩

def poisonedTool : Capabilities :=
  { Capabilities.none with
    tools := some ⟨[⟨"server", "tool", fun _ _ => .now (.value poisoned), "", []⟩]⟩ }

theorem poisonedTool_ordinary : poisonedTool.Ordinary where
  completion _ given := by cases given
  tools registry given tool mem caller arguments message := by
    cases given
    obtain rfl := List.mem_singleton.mp mem
    intro cancelled
    cases cancelled
  http _ given := by cases given

/-- Without copies the object gets through to the end, where the trace wants a copy of it. -/
theorem run_reported_relay :
    poisonedTool.Ordinary ∧ relay.check.violations = [] ∧
      ∃ f, (Engine.run poisonedTool relay ⟨"run", .null, none, false, fun _ => ""⟩).1 =
        .error (.stopped (.fault f)) := by
  have valid : relay.check.violations = [] := by decide +kernel
  have none' : (Engine.run poisonedTool relay
      ⟨"run", .null, none, false, fun _ => ""⟩).1.toOption.isNone = true := by decide +kernel
  obtain ⟨-, raised, reported⟩ := Engine.run_reported poisonedTool_ordinary relay
    ⟨"run", .null, none, false, fun _ => ""⟩
  refine ⟨poisonedTool_ordinary, valid, ?_⟩
  by_contra kept
  obtain ⟨r, q, -, run, -⟩ := reported valid fun f lost => kept ⟨f, raised valid f lost⟩
  rw [run] at none'
  cases none'

end Workflow
