import Workflow.Proofs.Run.Lives
import Workflow.Proofs.Run.Numbering

/-! What the records of a run and its trace say of the same node. They agree on its status, but for
a node that has come to an output of which no event can hold a copy: it has succeeded and is listed
as completed, and the trace leaves it running. -/

namespace Workflow

/-- A node has succeeded with an output of which no event can hold a copy. -/
def NodeState.Uncopied (s : NodeState) (copies : Bool) : Prop :=
  copies = true ∧ s.status = .succeeded ∧ ¬s.output.Copyable

/-- The trace tells the life of a node up to its status, or up to its start if its output could not
be copied. -/
def Progress.Matches (q : Progress) (id : String) : Prop :=
  ∃ s, q.state.get? id = some s ∧
    (s.Uncopied q.trace.snapshotOutputs → q.trace.history id = NodeStatus.running.life) ∧
    (¬s.Uncopied q.trace.snapshotOutputs → q.trace.history id = s.status.life)

/-- The nodes that have ended are listed as completed, and no others. -/
def Progress.Listed (q : Progress) : Prop :=
  ∀ id, id ∈ q.state.completed ↔ ∃ s, q.state.get? id = some s ∧ s.status.isTerminal = true

theorem NodeStatus.getLast?_life (s : NodeStatus) : s.life.getLast? = some s := by
  cases s <;> rfl

variable {g : Graph} {plan : Plan} {exec : Executor} {payload : Value} {setup : Setup}
  {may : String → NodeStatus → Prop} {done stage : List String} {p q r : Progress} {id : String}

theorem Progress.output_of_found {s : NodeState} (found : p.state.get? id = some s) :
    p.state.output id = s.output := by
  rw [RunState.output, found]

/-- A transition lists its node if it ends it, and no node is ended twice. -/
theorem Progress.Edits.listed (h : p.Edits plan exec may q) (start : p.Listed) : q.Listed := by
  refine h.keeps ?_ start
  intro r t listed edit
  cases edit with
  | @moved i n s status change tr result known found legal allowed record =>
      have going : s.status.isTerminal = false := by
        rw [← Bool.not_eq_true, ← NodeStatus.following_eq_nil_iff]
        intro none'
        rw [none'] at legal
        cases legal
      intro id
      have grown : id ∈ (r.state.after i s status change).completed ↔
          id ∈ r.state.completed ∨ (id = i ∧ status.isTerminal = true) := by
        unfold RunState.after
        cases status.isTerminal <;> simp
      change id ∈ (r.state.after i s status change).completed ↔ _
      rw [grown, listed id]
      by_cases same : id = i
      · subst same
        rw [RunState.after_get?_self, found]
        simp [NodeState.moved, going]
      · rw [RunState.after_get?_of_ne r.state s status change same]
        simp [same]
  | _ => exact listed

theorem Progress.start_listed (distinct : plan.nodes.Distinct) (setup : Setup) :
    (Progress.start plan setup).Listed := by
  intro id
  rw [Scheduler.start_get? distinct]
  refine ⟨fun mem => absurd mem List.not_mem_nil, ?_⟩
  rintro ⟨s, found, terminal⟩
  obtain ⟨n, -, rfl⟩ := Option.map_eq_some_iff.mp found
  cases terminal

namespace Scheduler

/-- What can be copied of an output that is kept has been copied. -/
theorem copied_of_reached (h : Reached plan exec done p) {s : NodeState}
    (found : p.state.get? id = some s) : ¬s.Uncopied p.trace.snapshotOutputs := by
  rintro ⟨copies, -, uncopied⟩
  obtain ⟨copy, copied⟩ := h.copied id
  rw [Progress.output_of_found found, Recorder.copied, if_pos copies] at copied
  exact uncopied ⟨copy, copied⟩

theorem matches_of_reached (h : Reached plan exec done p) (known : id ∈ plan.nodes.keys) :
    p.Matches id := by
  obtain ⟨s, found⟩ := h.found known
  refine ⟨s, found, fun uncopied => absurd uncopied (copied_of_reached h found), fun _ => ?_⟩
  rw [h.faithful id, found]
  rfl

theorem Concluded.matches_of_mem {executions : List (String × Execution)}
    (h : Concluded executions r q) (nodup : (executions.map Prod.fst).Nodup)
    (faithful : r.Faithful) {x : String × Execution} (mem : x ∈ executions)
    (running : r.Has plan .running x.1) : q.Matches x.1 := by
  have shows' := h.shown x mem
  have started := running.history faithful
  have told := h.history_of_mem nodup mem
  rw [started] at told
  cases copied : r.trace.copied x.2.outcome.shown with
  | error f =>
      obtain ⟨history, succeeded, copies, g, uncopied⟩ := h.lost nodup mem started copied
      obtain ⟨s, found, status⟩ := RunState.hasStatus_iff.mp succeeded
      refine ⟨s, found, fun _ => history, fun copied' => absurd ⟨copies, status, ?_⟩ copied'⟩
      rintro ⟨copy, done⟩
      rw [← Progress.output_of_found found, uncopied] at done
      cases done
  | ok copy =>
      rw [copied] at told
      obtain ⟨s, found, status⟩ : ∃ s, q.state.get? x.1 = some s ∧
          NodeStatus.running.life ++ [x.2.outcome.standing.status] = s.status.life := by
        have standing := shows'.standing
        cases outcome : x.2.outcome.standing with
        | succeeded port =>
            obtain ⟨s, found, status, -⟩ := Progress.standing_eq_succeeded (standing.trans outcome)
            exact ⟨s, found, by rw [status]; rfl⟩
        | failed =>
            obtain ⟨s, found, status⟩ :=
              Progress.standing_eq_failed_iff.mp (standing.trans outcome)
            exact ⟨s, found, by rw [status]; rfl⟩
        | waiting => exact absurd outcome shows'.ended
        | skipped => cases made : x.2.outcome <;> rw [made] at outcome <;> cases outcome
        | blocked => cases made : x.2.outcome <;> rw [made] at outcome <;> cases outcome
      refine ⟨s, found, fun uncopied => ?_, fun _ => told.trans status⟩
      obtain ⟨copies, -, uncopied⟩ := uncopied
      obtain ⟨copy', copied'⟩ := Outcome.copied_output copied
      rw [Recorder.copied, if_pos (h.copying.symm.trans copies), ← shows'.output,
        Progress.output_of_found found] at copied'
      exact absurd ⟨copy', copied'⟩ uncopied

/-- What a concluded stage does not execute matches its trace as it did before. -/
theorem Concluded.matches_of_not_mem {executions : List (String × Execution)}
    (h : Concluded executions r q) (apart : id ∉ executions.map Prod.fst) (before : r.Matches id) :
    q.Matches id := by
  unfold Progress.Matches
  rw [h.others id apart, h.history_of_not_mem apart, h.copying]
  exact before

/-- A node that is still to be executed or was skipped matches its trace. -/
theorem matches_of_faithful (faithful : r.Faithful) {s : NodeState}
    (found : r.state.get? id = some s) (going : s.status ≠ .succeeded) : r.Matches id := by
  refine ⟨s, found, fun uncopied => absurd uncopied.2.1 going, fun _ => ?_⟩
  rw [faithful id, found]
  rfl

theorem matches_of_stopped {stop : Stop} (h : Reached plan exec done p)
    (follows : plan.Follows done stage)
    (ran : (runStage plan exec payload stage).on p = (.error stop, q))
    (kept : ∀ message, stop ≠ .cancelled message) (known : id ∈ plan.nodes.keys) :
    q.Matches id := by
  have run := runStage_run payload h follows
  rw [ran] at run
  generalize step : ((.error stop, q) : Except Stop Unit × Progress) = last at run
  cases run with
  | blocked _ _ _ _ =>
      obtain ⟨-, rfl⟩ := Prod.mk.inj step
      exact matches_of_reached (p := p) h known
  | @opened _ _ executions r opens =>
      have opened := opens.opened
      have faithful := opened.moved.faithful h.faithful
      have end' := opens.concluded step.symm fun message same =>
        kept message (Except.error.inj same)
      by_cases fit : id ∈ executions.map Prod.fst
      · obtain ⟨x, mem, rfl⟩ := List.mem_map.mp fit
        exact end'.matches_of_mem opened.nodup faithful mem (opened.running x mem)
      · refine end'.matches_of_not_mem fit ?_
        by_cases now : id ∈ stage
        · obtain ⟨-, s, found, status⟩ := opened.skipped id now fun admitted =>
            fit (opened.chosen.mpr ⟨now, admitted⟩)
          exact matches_of_faithful faithful found (by rw [status]; exact NodeStatus.noConfusion)
        · obtain ⟨s, found, -, told⟩ := matches_of_reached h known
          have same := opened.moved.others id now
          have found' := same.trans found
          refine ⟨s, found', fun uncopied => ?_, fun _ => ?_⟩
          · rw [opened.moved.copying] at uncopied
            exact absurd uncopied (copied_of_reached h found)
          · rw [faithful id, found']
            rfl

/-- At the end of the stages of a run every node matches its trace, and where the output of one
could not be copied, the run is stopped. -/
theorem runStages_matches (payload : Value) (h : Reached plan exec done p)
    {stages : List (List String)} (layered : plan.Layered done stages)
    {result : Except Stop (Option (Option String))}
    (ran : (runStages plan exec payload stages).on p = (result, q))
    (kept : ∀ message, result ≠ .error (.cancelled message)) (known : id ∈ plan.nodes.keys) :
    q.Matches id ∧ ∀ {s}, q.state.get? id = some s → s.Uncopied q.trace.snapshotOutputs →
      ∃ stop, result = .error stop := by
  rcases runStages_ends payload h layered ran with
    ⟨asked, done', rfl, reached⟩ | ⟨stop, done', stage, t, rfl, reached, follows, step⟩
  · exact ⟨matches_of_reached reached known, fun found uncopied =>
      absurd uncopied (copied_of_reached reached found)⟩
  · exact ⟨matches_of_stopped reached follows step (fun message same =>
      kept message (congrArg _ same)) known, fun _ _ => ⟨stop, rfl⟩⟩

/-- A run that comes to a result leaves each node with a status that its last event tells as well,
unless its output could not be copied: then the node has succeeded, is listed as completed and keeps
that output, its last event tells that it is running, and the run is failed. -/
theorem status_of_last_event {res : RunResult} (valid : g.check.valid = true)
    (run : runFrom (.ofGraph g) exec setup = (.ok res, q)) {n : Node}
    (functional : n ∈ g.functionalNodes) :
    ∃ s, q.state.get? n.id = some s ∧
      (n.id ∈ q.state.completed ↔ s.status.isTerminal = true) ∧
      (s.Uncopied setup.snapshotOutputs →
        (res.trace.statuses n.id).getLast? = some .running ∧ res.status = .failed) ∧
      (¬s.Uncopied setup.snapshotOutputs →
        (res.trace.statuses n.id).getLast? = some s.status) := by
  have runnable := Graph.runnable_of_valid valid
  have sound := Plan.sound_ofGraph g
  have known : n.id ∈ (Plan.ofGraph g).nodes.keys :=
    Plan.mem_keys_ofGraph.mpr (Graph.mem_functionalIds.mpr ⟨n, functional, rfl⟩)
  obtain ⟨p, start, reached, -⟩ := start_reached sound exec setup
  obtain ⟨-, -, -, -, -, -, end'⟩ := runFrom_cases runnable exec setup
  have edits := courseFrom_edits g exec setup
  cases ended : courseFrom (.ofGraph g) exec setup with
  | mk result t =>
      rw [run, ended] at end'
      rw [ended] at edits
      obtain ⟨kept, failed, -⟩ := end'.ends
      have listed := edits.listed (Progress.start_listed sound.distinct setup)
      have copying : t.trace.snapshotOutputs = setup.snapshotOutputs := edits.copying
      have state : q.state = t.state := by
        rcases end'.closes with same | ⟨_, same⟩
        · exact congrArg Progress.state same
        · exact (congrArg Progress.state same).trans rfl
      obtain ⟨⟨s, found, running, told⟩, stopped⟩ := runStages_matches setup.payload reached
        (Plan.layered_ofGraph g) ((courseFrom_eq start).symm.trans ended) kept known
      rw [copying] at running told stopped
      refine ⟨s, state ▸ found, ?_, fun uncopied => ?_, fun copied => ?_⟩
      · rw [state, listed n.id, found]
        exact ⟨fun ⟨_, same, last⟩ => Option.some.inj same ▸ last, fun last => ⟨s, rfl, last⟩⟩
      · rw [end'.statuses, running uncopied]
        exact ⟨rfl, failed (stopped found uncopied)⟩
      · rw [end'.statuses, told copied, NodeStatus.getLast?_life]

/-- A node with an answer that cannot be copied has succeeded, though its last event tells that it
is running. -/
theorem status_of_last_event_trio :
    ∃ res q s, runFrom (.ofGraph trio) poisonedTool.executor plainSetup = (.ok res, q) ∧
      q.state.get? "alpha" = some s ∧ s.status = .succeeded ∧ "alpha" ∈ q.state.completed ∧
      (res.trace.statuses "alpha").getLast? = some .running ∧ res.status = .failed := by
  have valid : trio.check.valid = true := by decide +kernel
  obtain ⟨n, functional, name⟩ : ∃ n ∈ trio.functionalNodes, n.id = "alpha" := by decide +kernel
  have told : (runFrom (.ofGraph trio) poisonedTool.executor plainSetup).1.toOption.map
      (fun res => (res.trace.statuses "alpha").getLast?) = some (some .running) := by
    decide +kernel
  have ended : (runFrom (.ofGraph trio) poisonedTool.executor plainSetup).2.state.hasStatus "alpha"
      .succeeded = true := by decide +kernel
  cases run : runFrom (.ofGraph trio) poisonedTool.executor plainSetup with
  | mk result q =>
      rw [run] at told ended
      cases result with
      | error stop => cases told
      | ok res =>
          have told : (res.trace.statuses "alpha").getLast? = some .running := by
            simpa [Except.toOption] using told
          obtain ⟨s, found, listed, uncopied, copied⟩ := status_of_last_event valid run functional
          rw [name] at found listed uncopied copied
          obtain ⟨s', found', succeeded⟩ := RunState.hasStatus_iff.mp ended
          obtain rfl : s' = s := Option.some.inj (found'.symm.trans found)
          have lost : s'.Uncopied plainSetup.snapshotOutputs := by
            by_contra kept
            cases (told.symm.trans (copied kept)).trans (congrArg some succeeded)
          refine ⟨res, q, s', rfl, found, succeeded, listed.mpr ?_, uncopied lost⟩
          rw [succeeded]
          rfl

end Scheduler

end Workflow
