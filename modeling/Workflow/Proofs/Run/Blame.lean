import Mathlib.Data.List.Chain
import Workflow.Proofs.Run.Absorption
import Workflow.Proofs.Run.Fate
import Workflow.Proofs.Run.Passage

/-! The node that a failed run names has really failed, and an output node really needs it: there is
a way to that on which nothing was started and nothing was ruled out. -/

namespace Workflow

/-- Every outcome that may come up in a run can be recorded. -/
def Executor.Recordable (exec : Executor) (g : Graph) (setup : Setup) : Prop :=
  setup.snapshotOutputs = true → ∀ n ∈ g.functionalNodes, ∀ inputs : Inputs,
    inputs.Arises g exec setup.payload → (exec n inputs).outcome.shown.Copyable

/-- A node that was never started, though no condition has ruled it out. -/
def Progress.Stalled (q : Progress) (g : Graph) (id : String) : Prop :=
  (∀ e ∈ q.trace.events, e.nodeId = id → e.status = .pending ∨ e.status = .skipped) ∧
    ∀ condition, ¬g.RulesOut q.state condition id

def Progress.Stalls (q : Progress) (g : Graph) (source target : String) : Prop :=
  g.Leads source target ∧ q.Stalled g target

variable {g : Graph} {exec : Executor} {setup : Setup} {done stage : List String}
  {p q : Progress} {id origin failed : String}

/-- A condition that rules a node out prunes an edge into it. -/
theorem Graph.RulesOut.isPruned (runnable : g.Runnable) {condition : String}
    (h : g.RulesOut p.state condition id) :
    ∃ e ∈ (Plan.ofGraph g).incoming id, (Plan.ofGraph g).isPruned p.standing e = true := by
  obtain ⟨⟨n, functional, rfl, kind⟩, ⟨e, edge, source, rfl⟩, s, found, status, unfed⟩ := h
  refine ⟨e, Plan.mem_incoming.mpr ⟨edge, rfl⟩, Plan.isPruned_iff.mpr ⟨s.selectedPort?, ?_, ?_, ?_⟩⟩
  · simp only [Progress.standing, source, found, status]
  · exact source ▸ Plan.isCondition_iff.mpr ⟨n, Plan.get?_ofGraph runnable functional, kind⟩
  · rw [← Bool.not_eq_true, Plan.feeds_iff]
    rintro ⟨d, hd, from', to', port⟩
    exact unfed d hd (from'.trans source) to' port

namespace Reached

theorem failed_once {plan : Plan} (h : Reached plan exec done p)
    (failure : p.standing failed = .failed) :
    p.state.hasStatus failed .failed = true ∧ (p.trace.history failed).count .failed = 1 := by
  have known := h.within failed (h.mem_done (by simp [failure]))
  refine ⟨RunState.hasStatus_iff.mpr (Progress.standing_eq_failed_iff.mp failure), ?_⟩
  rw [h.history, if_pos known, failure]
  rfl

/-- A node that waits or is blocked is stalled, unless an edge into it is pruned. -/
theorem stalled (h : Reached (.ofGraph g) exec done p) (runnable : g.Runnable)
    (stands : p.standing id = .waiting ∨ p.standing id = .blocked)
    (free : ∀ e ∈ (Plan.ofGraph g).incoming id, (Plan.ofGraph g).isPruned p.standing e = false) :
    p.Stalled g id := by
  constructor
  · rintro e mem rfl
    have told : e.status ∈ p.trace.history e.nodeId := Recorder.mem_history.mpr ⟨e, mem, rfl, rfl⟩
    rw [h.history] at told
    split at told
    · rcases stands with waiting | blocked
      · rw [waiting] at told
        exact .inl (by simpa [Standing.status, NodeStatus.life] using told)
      · rw [blocked] at told
        simpa [Standing.status, NodeStatus.life] using told
    · exact absurd told List.not_mem_nil
  · intro condition ruled
    obtain ⟨e, mem, pruned⟩ := ruled.isPruned runnable
    rw [free e mem] at pruned
    cases pruned

theorem stalled_of_blocked (h : Reached (.ofGraph g) exec done p) (runnable : g.Runnable)
    (stands : p.standing id = .waiting ∨ p.standing id = .blocked)
    (blocked : (Plan.ofGraph g).admission p.standing id = .blocked) : p.Stalled g id :=
  h.stalled runnable stands (Plan.admission_eq_blocked_iff.mp blocked).1

theorem admission_of_blocked {plan : Plan} (h : Reached plan exec done p)
    (blocked : p.standing id = .blocked) : plan.admission p.standing id = .blocked := by
  have placed := h.placed id (h.mem_done (by simp [blocked]))
  unfold Progress.Placed at placed
  cases admission : plan.admission p.standing id with
  | executed =>
      rw [admission] at placed
      obtain ⟨n, inputs, -, shown⟩ := placed
      have standing := shown.standing
      rw [blocked] at standing
      cases outcome : (exec n inputs).outcome <;> rw [outcome] at standing <;> cases standing
  | blocked => rfl
  | _ =>
      rw [admission] at placed
      cases blocked.symm.trans placed

/-- Stalled nodes lead from the failed node that is to blame to the node that it blocks. -/
theorem stalls_of_blames (h : Reached (.ofGraph g) exec done p) (runnable : g.Runnable)
    (blames : (Plan.ofGraph g).Blames p.standing id origin) :
    Relation.ReflTransGen (p.Stalls g) origin id := by
  induction blames with
  | own _ => exact .refl
  | @passed id origin e blocked _ first _ ih =>
      obtain ⟨edge, target⟩ := Plan.mem_incoming.mp (List.mem_of_find?_eq_some first)
      refine ih.tail ⟨⟨e, edge, rfl, target⟩, ?_⟩
      exact h.stalled_of_blocked runnable (.inr blocked) (h.admission_of_blocked blocked)

/-- An edge out of the last stage, or from a node that is still to come, leads to a node that is
still to come. -/
theorem target_undone {plan : Plan} (h : Reached plan exec done p)
    (follows : plan.Follows done stage) (now : failed ∈ stage) {e : Edge} (edge : e ∈ plan.edges)
    (source : e.source = failed ∨ e.source ∉ done ++ stage) : e.target ∉ done ++ stage := by
  intro mem
  have fed : e ∈ plan.incoming e.target := Plan.mem_incoming.mpr ⟨edge, rfl⟩
  have old : e.source ∈ done := by
    rcases List.mem_append.mp mem with old | here
    · exact h.closed _ old e fed
    · exact follows.fed _ here e fed
  rcases source with same | undone
  · exact follows.fresh failed now (same ▸ old)
  · exact undone (List.mem_append_left _ old)

/-- What the failure of a node of the last stage drags along is still to come. -/
theorem undone_of_drags {plan : Plan} (h : Reached plan exec done p)
    (follows : plan.Follows done stage) {σ : String → Standing} (now : failed ∈ stage)
    (drags : plan.Drags σ failed id) : id = failed ∨ id ∉ done ++ stage := by
  induction drags with
  | self => exact .inl rfl
  | next edge _ _ source _ => exact .inr (h.target_undone follows now edge source)

/-- Stalled nodes lead from a failed node to all that its failure drags along. -/
theorem stalls_of_drags (h : Reached (.ofGraph g) exec done p)
    (follows : (Plan.ofGraph g).Follows done stage) (now : failed ∈ stage)
    (last : Reached (.ofGraph g) exec (done ++ stage) q) (runnable : g.Runnable)
    (failure : q.standing failed = .failed)
    (drags : (Plan.ofGraph g).Drags q.standing failed id) :
    Relation.ReflTransGen (q.Stalls g) failed id := by
  induction drags with
  | self => exact .refl
  | @next e edge before certain source sources =>
      have undone := h.target_undone follows now edge (h.undone_of_drags follows now before)
      refine source.tail ⟨⟨e, edge, rfl, rfl⟩, ?_⟩
      refine last.stalled runnable (.inl (last.waiting undone)) fun d fed => ?_
      rw [← Bool.not_eq_true]
      intro pruned
      -- A condition that rules the node out would be dragged along, yet it has succeeded.
      obtain ⟨port, selected, condition, -⟩ := Plan.isPruned_iff.mp pruned
      have dragged := certain d fed (by simp [Plan.spares, condition, pruned])
      rcases h.undone_of_drags follows now dragged with same | undone
      · rw [same, failure] at selected
        cases selected
      · rw [last.waiting undone] at selected
        cases selected

end Reached

theorem Progress.exists_stalled_path (h : Relation.ReflTransGen (q.Stalls g) failed id) :
    ∃ path, List.IsChain g.Leads (failed :: path) ∧ (failed :: path).getLast? = some id ∧
      ∀ i ∈ path, q.Stalled g i := by
  induction h using Relation.ReflTransGen.head_induction_on with
  | refl => exact ⟨[], List.isChain_singleton id, rfl, fun _ mem => absurd mem List.not_mem_nil⟩
  | @head failed next step _ ih =>
      obtain ⟨path, chain, last, stalled⟩ := ih
      refine ⟨next :: path, List.isChain_cons_cons.mpr ⟨step.1, chain⟩, ?_, ?_⟩
      · rw [List.getLast?_cons_cons, last]
      · exact List.forall_mem_cons.mpr ⟨step.2, stalled⟩

/-- What is said of a node that a failed run names: it failed, once and for the given cause, and an
output node that stalled nodes lead to needs it. -/
structure Progress.Blames (q : Progress) (g : Graph) (failed cause : String) : Prop where
  ended : q.state.hasStatus failed .failed = true
  once : (q.trace.history failed).count .failed = 1
  noted : ∃ failure, q.errors.get? failed = some failure ∧ failure.message = cause
  needed : ∃ output, (Plan.ofGraph g).isOutput output = true ∧ output ≠ failed ∧
    Relation.ReflTransGen (q.Stalls g) failed output

/-- A stage that fails the run names a node that failed and that an output node needs. -/
theorem Scheduler.StageEnd.blames {cause : String} (runnable : g.Runnable)
    (h : Reached (.ofGraph g) exec done p) (follows : (Plan.ofGraph g).Follows done stage)
    (drawn : p.Drawn g exec setup) (recordable : exec.Recordable g setup)
    (end' : StageEnd (.ofGraph g) exec setup.payload stage p
      (.error (.failed (some failed) cause), q)) :
    q.Blames g failed cause := by
  cases end' with
  | @blocked output _ failure _ first blame _ cause =>
      have now := List.mem_of_find?_eq_some first
      have fails := List.find?_some first
      simp only [Plan.failsAt, Bool.and_eq_true, decide_eq_true_eq] at fails
      obtain ⟨isOutput, blocked⟩ := fails
      have waits := h.waiting (follows.fresh output now)
      obtain ⟨e, source, marked⟩ := Option.bind_eq_some_iff.mp blame
      have blames := h.blamed marked
      have failure := blames.failed
      obtain ⟨edge, target⟩ := Plan.mem_incoming.mp (List.mem_of_find?_eq_some source)
      have last : p.Stalls g e.source output :=
        ⟨⟨e, edge, rfl, target⟩, h.stalled_of_blocked runnable (.inl waits) blocked⟩
      obtain ⟨ended, once⟩ := h.failed_once failure
      refine ⟨ended, once, ⟨_, cause, rfl⟩, output, isOutput, ?_, ?_⟩
      · rintro rfl
        rw [waits] at failure
        cases failure
      · exact (h.stalls_of_blames runnable blames).tail last
  | @refused _ n inputs f _ _ node gathered copied _ =>
      -- Nothing is copied while events keep no outputs.
      unfold Recorder.copied at copied
      split at copied
      · rename_i snapshots
        rw [drawn.copying] at snapshots
        obtain ⟨copy, copied'⟩ := recordable snapshots n
          (Plan.mem_functionalNodes_of_get? node).1 inputs (drawn.arises gathered)
        cases copied.symm.trans copied'
      · cases copied
  | @doomed _ failure _ adv now ended doom cause =>
      have last := h.advance follows adv
      have sound := Plan.sound_ofGraph g
      have tells : (Plan.ofGraph g).Tells q := fun e edge => last.found (sound.joined e edge).1
      obtain ⟨output, other, isOutput, drags⟩ :=
        (isDoomed_iff sound tells (follows.known failed now)).mp doom
      obtain ⟨status, once⟩ := last.failed_once ended
      exact ⟨status, once, ⟨_, cause, rfl⟩, output, isOutput, other,
        h.stalls_of_drags follows now last runnable ended drags⟩

open Scheduler in
/-- A run that fails at a node tells the truth: that node failed, as one event of the trace tells,
and the cause of the run is the message of its failure, which one of its executions came to. A path
leads from it to an output node on which no node was started, and none was ruled out by a
condition. -/
theorem blamed_node_needed (valid : g.check.valid = true) (recordable : exec.Recordable g setup)
    {r : RunResult} (run : runFrom (.ofGraph g) exec setup = (.ok r, q))
    (status : r.status = .failed) (named : r.failingNodeId = some failed) :
    q.state.hasStatus failed .failed = true ∧ (r.trace.statuses failed).count .failed = 1 ∧
      (∃ n ∈ g.functionalNodes, n.id = failed ∧ ∃ inputs failure,
        settled n (exec n inputs).outcome = .failure failure ∧
          q.errors.get? failed = some failure ∧ r.cause = some failure.message) ∧
      ∃ path output, List.IsChain g.Leads (failed :: path) ∧ path.getLast? = some output ∧
        (∃ n ∈ g.functionalNodes, n.id = output ∧ n.kind = .output) ∧
        ∀ id ∈ path,
          (∀ e ∈ r.trace.events, e.nodeId = id → e.status = .pending ∨ e.status = .skipped) ∧
            ∀ condition, ¬g.RulesOut q.state condition id := by
  have runnable := Graph.runnable_of_valid valid
  obtain ⟨p, reached, -, copying, blank, course, end'⟩ := runFrom_cases runnable exec setup
  have drawn : p.Drawn g exec setup :=
    ⟨fun id => by rw [blank]; exact .null, copying⟩
  have attributed : (courseFrom (.ofGraph g) exec setup).2.Attributed (.ofGraph g) exec :=
    (courseFrom_edits g exec setup).attributed fun found => nomatch found
  rw [run] at end'
  generalize courseFrom (.ofGraph g) exec setup = ended at course end' attributed
  cases end' with
  | succeeded _ _ => cases status
  | unreached _ => cases named
  | cancelled => cases status
  | @failed q _ cause =>
      cases named
      obtain ⟨done, stage, t, reached, follows, drawn, last⟩ :=
        course.last (I := fun t => t.Drawn g exec setup) (fun adv drawn => drawn.advance adv) drawn
      obtain ⟨ended, once, ⟨failure, noted, message⟩, output, isOutput, other, stalls⟩ :=
        last.blames runnable reached follows drawn recordable
      obtain ⟨n, inputs, node, made⟩ := attributed noted
      obtain ⟨functional, name⟩ := Plan.mem_functionalNodes_of_get? node
      obtain ⟨path, chain, ends, stalled⟩ := Progress.exists_stalled_path stalls
      refine ⟨ended, once, ?_, path, output, chain, ?_, ?_, stalled⟩
      · exact ⟨n, functional, name, inputs, failure, made, noted, congrArg some message.symm⟩
      · cases path with
        | nil => exact absurd (Option.some.inj ends).symm other
        | cons next path => rwa [List.getLast?_cons_cons] at ends
      · obtain ⟨m, node, kind⟩ := Plan.isOutput_iff.mp isOutput
        obtain ⟨functional, name⟩ := Plan.mem_functionalNodes_of_get? node
        exact ⟨m, functional, name, kind⟩

/-- A graph in which an output node needs a tool, by way of another node. -/
def lifeline : Graph where
  id := none
  name := none
  nodes :=
    [⟨"in", none, [], .input ⟨none, []⟩⟩, ⟨"risk", none, [], .tool ⟨"server", "tool", []⟩⟩,
     ⟨"join", none, [], .template ⟨""⟩⟩, ⟨"out", none, [], .output ⟨[]⟩⟩]
  edges :=
    [⟨"in", "risk", none, none, none⟩, ⟨"risk", "join", none, none, none⟩,
     ⟨"join", "out", none, none, none⟩]
  metadata := []

theorem failingTool_recordable (port : String) (delay : String → Nat) :
    (failingTool port delay).Recordable g plainSetup := by
  intro _ n _ inputs _
  change (failingOutcome port n).shown.Copyable
  unfold failingOutcome
  split <;> exact ⟨_, rfl⟩

open Scheduler in
theorem blamed_node_needed_lifeline :
    ∃ r q, runFrom (.ofGraph lifeline) (failingTool "true" evenly) plainSetup = (.ok r, q) ∧
      q.state.hasStatus "risk" .failed = true ∧ (r.trace.statuses "risk").count .failed = 1 := by
  have valid : lifeline.check.valid = true := by decide +kernel
  have status : (runFrom (.ofGraph lifeline) (failingTool "true" evenly)
      plainSetup).1.toOption.map (fun r => (r.status, r.failingNodeId)) =
        some (.failed, some "risk") := by decide +kernel
  cases run : runFrom (.ofGraph lifeline) (failingTool "true" evenly) plainSetup with
  | mk result q =>
      rw [run] at status
      cases result with
      | error stop => cases status
      | ok r =>
          obtain ⟨failed, named⟩ : r.status = .failed ∧ r.failingNodeId = some "risk" := by
            simpa [Except.toOption] using status
          obtain ⟨ended, once, -⟩ :=
            blamed_node_needed valid (failingTool_recordable "true" evenly) run failed named
          exact ⟨r, q, rfl, ended, once⟩

end Workflow
