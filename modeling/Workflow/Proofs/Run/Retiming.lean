import Workflow.Proofs.Run.Consumption

/-! Runs at other times and of other graphs. Nothing that a run does depends on what its clock says,
and of its graph a run reads no more than the plan, the id, the stages, and why they end early. -/

namespace Workflow

def TraceEvent.retimed (clock : Nat → String) (e : TraceEvent) : TraceEvent :=
  { e with timestamp := clock e.sequence }

def Trace.retimed (clock : Nat → String) (t : Trace) : Trace :=
  { t with events := t.events.map (·.retimed clock) }

def Recorder.retimed (clock : Nat → String) (r : Recorder) : Recorder :=
  { r with
    clock
    events := r.events.map (·.retimed clock)
    sealedTrace := r.sealedTrace.map (·.retimed clock) }

def Progress.retimed (clock : Nat → String) (p : Progress) : Progress :=
  { p with trace := p.trace.retimed clock }

def RunResult.retimed (clock : Nat → String) (r : RunResult) : RunResult :=
  { r with trace := r.trace.retimed clock }

/-- The plan under another graph. -/
def Plan.onto (plan : Plan) (g : Graph) : Plan := { plan with graph := g }

/-- The second step does at the times of another clock what the first one does; answers are carried
over by a map. -/
def RunM.Retimes {α : Type} (clock : Nat → String) (carry : α → α) (m m' : RunM α) : Prop :=
  ∀ p, m'.on (p.retimed clock) = ((m.on p).1.map carry, (m.on p).2.retimed clock)

namespace RunM.Retimes

variable {α β : Type} {clock : Nat → String} {carry : α → α} {next : β → β} {m m' : RunM α}
  {f f' : α → RunM β}

theorem pure (a : α) : Retimes clock id (pure a) (pure a) := fun _ => rfl

theorem throw (stop : Stop) : Retimes clock carry (throw stop) (throw stop) := fun _ => rfl

theorem lift (x : Except Stop α) : Retimes clock id (liftM x : RunM α) (liftM x) := by
  intro p
  cases x <;> rfl

theorem set (p : Progress) : Retimes clock id (set p : RunM PUnit) (set (p.retimed clock)) :=
  fun _ => rfl

theorem modify {h h' : Progress → Progress}
    (same : ∀ p, h' (p.retimed clock) = (h p).retimed clock) :
    Retimes clock id (modify h : RunM PUnit) (modify h') := by
  intro p
  rw [on_modify, on_modify, same]
  rfl

theorem bind (first : Retimes clock carry m m')
    (rest : ∀ a, Retimes clock next (f a) (f' (carry a))) :
    Retimes clock next (m >>= f) (m' >>= f') := by
  intro p
  rw [on_bind, on_bind, first p]
  rcases m.on p with ⟨_ | a, q⟩
  · rfl
  · exact rest a q

/-- What is done with the progress that a step finds is done with the retimed one. -/
theorem get {f f' : Progress → RunM β}
    (rest : ∀ p, Retimes clock next (f p) (f' (p.retimed clock))) :
    Retimes clock next (MonadState.get >>= f) (MonadState.get >>= f') := by
  intro p
  exact rest p p

theorem tryCatch {handle handle' : Stop → RunM α} (body : Retimes clock carry m m')
    (caught : ∀ stop, Retimes clock carry (handle stop) (handle' stop)) :
    Retimes clock carry (tryCatch m handle) (tryCatch m' handle') := by
  intro p
  rw [on_tryCatch, on_tryCatch, body p]
  rcases m.on p with ⟨stop | _, q⟩
  · exact caught stop q
  · rfl

end RunM.Retimes

section

variable {clock : Nat → String} {plan : Plan} {g : Graph} {exec : Executor} {payload : Value}
  {p : Progress}

@[simp] theorem Progress.retimed_state : (p.retimed clock).state = p.state := rfl

@[simp] theorem Progress.retimed_signal : (p.retimed clock).signal = p.signal := rfl

/-- A recorder keeps of its clock the times of the events only. -/
theorem Recorder.record_retimed (clock : Nat → String) (r : Recorder) (id kind : String)
    (status : NodeStatus) (output : Value) (error : Option NodeError) :
    (r.retimed clock).record id kind status output error =
      ((r.record id kind status output error).1.retimed clock,
        (r.record id kind status output error).2.map (·.retimed clock)) := by
  obtain ⟨runId, graphId, snapshots, time, sequence, events, done⟩ := r
  cases done with
  | some t => rfl
  | none =>
      cases snapshots with
      | false => simp [record, copied, retimed, TraceEvent.retimed, Except.map]
      | true =>
          cases copy : output.snapshot <;>
            simp [record, copied, copy, retimed, TraceEvent.retimed, Except.map]

theorem Recorder.sealAs_retimed (clock : Nat → String) (r : Recorder) (status : RunStatus)
    (output : Value) (failingNodeId cause : Option String) :
    (r.retimed clock).sealAs status output failingNodeId cause =
      ((r.sealAs status output failingNodeId cause).1.retimed clock,
        (r.sealAs status output failingNodeId cause).2.map (·.retimed clock)) := by
  have open' : (r.retimed clock).sealedTrace = r.sealedTrace.map (·.retimed clock) := rfl
  unfold sealAs
  rw [open']
  cases r.sealedTrace with
  | some t => rfl
  | none => cases output.snapshot <;> rfl

end

namespace Scheduler

open RunM

variable {clock : Nat → String} {plan : Plan} {g : Graph} {exec : Executor} {payload : Value}

section

variable (p : Progress)

theorem edgeStates_retimed (edges : List Edge) :
    edgeStates (plan.onto g) (p.retimed clock) edges = edgeStates plan p edges := by
  induction edges with
  | nil => rfl
  | cons e rest ih =>
      have same : edgeState (plan.onto g) (p.retimed clock) e = edgeState plan p e := rfl
      rw [edgeStates, same, ih, edgeStates]

theorem judge_retimed (id : String) :
    judge (plan.onto g) (p.retimed clock) id = judge plan p id := by
  have same : (plan.onto g).incoming id = plan.incoming id := rfl
  unfold judge
  simp only [same, edgeStates_retimed]
  rfl

theorem delivered_retimed (edges : List Edge) (tables : Table Value × Table Value) :
    delivered (plan.onto g) (p.retimed clock) edges tables = delivered plan p edges tables := by
  induction edges generalizing tables with
  | nil => rfl
  | cons e rest ih =>
      have same : edgeState (plan.onto g) (p.retimed clock) e = edgeState plan p e := rfl
      have kind : (plan.onto g).isCondition e.source = plan.isCondition e.source := rfl
      simp only [delivered, same, kind, ih]
      rfl

theorem resolveInputs_retimed (id : String) :
    resolveInputs (plan.onto g) payload (p.retimed clock) id = resolveInputs plan payload p id := by
  have same : (plan.onto g).incoming id = plan.incoming id := rfl
  unfold resolveInputs
  rw [same, delivered_retimed]
  rfl

theorem reach_retimed (targets reached frontier : List String) :
    reach (plan.onto g) (p.retimed clock) targets reached frontier =
      reach plan p targets reached frontier := by
  induction targets generalizing reached frontier with
  | nil => rfl
  | cons target rest ih =>
      have certain : certainlyBlocked (plan.onto g) (p.retimed clock) reached target =
          certainlyBlocked plan p reached target := rfl
      have kind : (plan.onto g).isOutput target = plan.isOutput target := rfl
      simp only [reach, certain, kind, ih]

theorem isDoomed_retimed (id : String) :
    isDoomed (plan.onto g) (p.retimed clock) id = isDoomed plan p id := by
  have same : ∀ rounds reached frontier,
      reachesOutput (plan.onto g) (p.retimed clock) rounds reached frontier =
        reachesOutput plan p rounds reached frontier := by
    intro rounds
    induction rounds with
    | zero => exact fun _ _ => rfl
    | succ rounds ih =>
        intro reached frontier
        cases frontier with
        | nil => rfl
        | cons node frontier =>
            have next : (plan.onto g).successors node = plan.successors node := rfl
            simp only [reachesOutput, next, reach_retimed, ih]
  exact same _ _ _

end

theorem judgeAll_retimes (ids : List String) :
    Retimes clock id (judgeAll plan ids) (judgeAll (plan.onto g) ids) := by
  induction ids with
  | nil => exact .pure []
  | cons i rest ih =>
      refine .get fun p => ?_
      rw [judge_retimed]
      refine .bind (.lift _) fun (verdict, origin) => ?_
      cases origin with
      | none => exact .bind ih fun others => .pure ((i, verdict) :: others)
      | some origin =>
          refine .bind (.modify fun _ => rfl) fun _ => ?_
          exact .bind ih fun others => .pure ((i, verdict) :: others)

theorem transition_retimes (i : String) (status : NodeStatus) (change : Change) :
    Retimes clock id (transition plan i status change)
      (transition (plan.onto g) i status change) := by
  refine .get fun p => ?_
  have known : (plan.onto g).nodes = plan.nodes := rfl
  rw [Progress.retimed_state, known]
  cases p.state.transition i status change with
  | error e => exact .throw _
  | ok state =>
      refine .bind (.set { p with state }) fun _ => ?_
      cases plan.nodes.get? i with
      | none => exact .throw _
      | some n =>
          have told := p.trace.record_retimed clock i n.kind.name status
            ((change.decision.map Value.object).getD change.output) change.error
          simp only [Progress.retimed, told]
          generalize p.trace.record i n.kind.name status
            ((change.decision.map Value.object).getD change.output) change.error = recorded
          obtain ⟨trace, result⟩ := recorded
          refine .bind (.set { p with state, trace }) fun _ => ?_
          cases result with
          | error f => exact .throw _
          | ok _ => exact .pure ()

theorem admitAll_retimes (verdicts : List (String × Verdict)) :
    Retimes clock id (admitAll plan payload verdicts)
      (admitAll (plan.onto g) payload verdicts) := by
  induction verdicts with
  | nil => exact .pure []
  | cons x rest ih =>
      obtain ⟨i, verdict⟩ := x
      cases verdict with
      | skipped => exact .bind (transition_retimes i .skipped .none) fun _ => ih
      | ready =>
          refine .get fun p => ?_
          rw [resolveInputs_retimed]
          refine .bind (.lift _) fun inputs => ?_
          refine .bind (transition_retimes i .ready _) fun _ => ?_
          exact .bind ih fun others => .pure ((i, inputs) :: others)

theorem startAll_retimes (admitted : List (String × Inputs)) :
    Retimes clock id (startAll plan admitted) (startAll (plan.onto g) admitted) := by
  induction admitted with
  | nil => exact .pure ()
  | cons x rest ih => exact .bind (transition_retimes x.1 .running .none) fun _ => ih

theorem executeAll_retimes (admitted : List (String × Inputs)) :
    Retimes clock id (executeAll plan exec admitted) (executeAll (plan.onto g) exec admitted) := by
  induction admitted with
  | nil => exact .pure []
  | cons x rest ih =>
      refine .bind (.lift (executionOf plan exec x.1 x.2)) fun execution => ?_
      refine .bind (.modify fun _ => rfl) fun _ => ?_
      exact .bind ih fun others => .pure ((x.1, execution) :: others)

theorem complete_retimes (i : String) (outcome : Outcome) :
    Retimes clock id (complete plan i outcome) (complete (plan.onto g) i outcome) := by
  have known : (plan.onto g).nodes = plan.nodes := rfl
  unfold complete
  rw [known]
  cases plan.nodes.get? i with
  | none => exact .throw _
  | some n =>
      dsimp only
      cases settled n outcome with
      | value v => exact transition_retimes i .succeeded _
      | decision d => cases d.toValue <;> exact transition_retimes i .succeeded _
      | failure f =>
          have noted : Retimes clock id
              (modify fun p : Progress =>
                { p with errors := p.errors.put i f, failures := p.failures ++ [i] })
              (modify fun p : Progress =>
                { p with errors := p.errors.put i f, failures := p.failures ++ [i] }) :=
            .modify fun _ => rfl
          exact noted.bind fun _ => transition_retimes i .failed _
      | fault f => exact .throw _
      | cancelled message => exact .throw _

theorem recording_retimes {action action' : RunM Unit} (h : Retimes clock id action action') :
    Retimes clock id (recording action) (recording action') := by
  intro p
  rw [recording_on, recording_on, h p]
  rcases action.on p with ⟨stop | _, q⟩
  · cases stop <;> rfl
  · rfl

theorem consume_retimes (executions : List (String × Execution)) :
    Retimes clock id (consume plan executions) (consume (plan.onto g) executions) := by
  induction executions with
  | nil => exact .pure none
  | cons x rest ih =>
      intro p
      rw [consume_heard, consume_heard]
      have heard : (p.retimed clock).heard x.2 = (p.heard x.2).retimed clock := rfl
      rw [heard]
      refine Retimes.bind (recording_retimes (complete_retimes x.1 x.2.outcome)) (fun trouble => ?_)
        (p.heard x.2)
      exact .bind ih fun others => .pure ((trouble.map (x.1, ·)).or others)

theorem dispatch_retimes (admitted : List (String × Inputs)) :
    Retimes clock id (dispatch plan exec admitted) (dispatch (plan.onto g) exec admitted) := by
  refine .bind (startAll_retimes admitted) fun _ => ?_
  refine .bind (executeAll_retimes admitted) fun executions => ?_
  refine .bind (consume_retimes _) fun trouble => ?_
  cases trouble with
  | none => exact .pure ()
  | some x => exact .throw _

theorem failDoomed_retimes (failed : List String) :
    Retimes clock id (failDoomed plan failed) (failDoomed (plan.onto g) failed) := by
  induction failed with
  | nil => exact .pure ()
  | cons i rest ih =>
      refine .get fun p => ?_
      rw [isDoomed_retimed]
      split
      · exact .bind (.lift (failureCause p i)) fun cause => .throw _
      · exact ih

theorem escalate_retimes (failed : List String) :
    Retimes clock id (escalate plan failed) (escalate (plan.onto g) failed) :=
  .bind (.modify fun _ => rfl) fun _ => failDoomed_retimes failed

theorem runStage_retimes (stage : List String) :
    Retimes clock id (runStage plan exec payload stage)
      (runStage (plan.onto g) exec payload stage) := by
  refine .bind (judgeAll_retimes stage) fun verdicts => ?_
  refine .bind (admitAll_retimes verdicts) fun admitted => ?_
  dsimp only [id]
  split
  · refine .get fun p => .bind (dispatch_retimes admitted) fun _ => .get fun q => ?_
    exact escalate_retimes _
  · exact .pure ()

theorem runStages_retimes (stages : List (List String)) :
    Retimes clock id (runStages plan exec payload stages)
      (runStages (plan.onto g) exec payload stages) := by
  induction stages with
  | nil => exact .pure none
  | cons stage rest ih =>
      refine .get fun p => ?_
      rw [Progress.retimed_signal]
      cases p.signal with
      | some reason => exact .pure (some reason)
      | none => exact .bind (runStage_retimes stage) fun _ => ih

theorem finish_retimes (status : RunStatus) (output : Value) (failingNodeId cause : Option String) :
    Retimes clock (RunResult.retimed clock) (finish status output failingNodeId cause)
      (finish status output failingNodeId cause) := by
  refine .get fun p => ?_
  have told := p.trace.sealAs_retimed clock status output failingNodeId cause
  simp only [Progress.retimed, told]
  generalize p.trace.sealAs status output failingNodeId cause = done
  obtain ⟨trace, result⟩ := done
  refine .bind (.set { p with trace }) fun _ => ?_
  cases result with
  | error f => exact .throw _
  | ok t => exact fun _ => rfl

theorem recordPending_retimes (nodes : List (String × Node)) :
    Retimes clock id (recordPending nodes) (recordPending nodes) := by
  induction nodes with
  | nil => exact .pure ()
  | cons x rest ih =>
      obtain ⟨i, n⟩ := x
      refine .get fun p => ?_
      have told := p.trace.record_retimed clock i n.kind.name .pending .null none
      simp only [Progress.retimed, told]
      generalize p.trace.record i n.kind.name .pending .null none = recorded
      obtain ⟨trace, result⟩ := recorded
      refine .bind (.set { p with trace }) fun _ => ?_
      cases result with
      | error f => exact .throw _
      | ok _ => exact ih

/-- Of its graph a run uses the id, the stages, and why there are no more. -/
structure Stands (plan : Plan) (g : Graph) : Prop where
  id : g.id = plan.graph.id
  stages : g.staging.stages = plan.graph.staging.stages
  ending : g.stagingError? = plan.graph.stagingError?

theorem runPlan_retimes (stands : Stands plan g) :
    Retimes clock (RunResult.retimed clock) (runPlan plan exec payload)
      (runPlan (plan.onto g) exec payload) := by
  have stages : (plan.onto g).graph.staging.stages = plan.graph.staging.stages := stands.stages
  have ending : (plan.onto g).graph.stagingError? = plan.graph.stagingError? := stands.ending
  unfold runPlan
  rw [stages, ending]
  refine .bind (runStages_retimes _) fun reason => ?_
  cases reason with
  | some reason => exact finish_retimes .cancelled .null none reason
  | none =>
      cases plan.graph.stagingError? with
      | some message => exact fun _ => rfl
      | none =>
          refine .get fun p => ?_
          have same : finishedOutput? (plan.onto g) (p.retimed clock) = finishedOutput? plan p :=
            rfl
          rw [same]
          cases finishedOutput? plan p with
          | some output => exact finish_retimes .succeeded output none none
          | none => exact .throw _

theorem run_retimes (stands : Stands plan g) :
    Retimes clock (RunResult.retimed clock) (run plan exec payload)
      (run (plan.onto g) exec payload) := by
  refine .bind (recordPending_retimes plan.nodes) fun _ => ?_
  refine (runPlan_retimes stands).tryCatch fun stop => ?_
  cases stop with
  | failed i cause => exact finish_retimes .failed .null i (some cause)
  | _ => exact .throw _

/-- A run by another clock over another graph, where the plan and what is used of the graph are the
same, is the same run at other times. -/
theorem runFrom_retimed (stands : Stands plan g) (exec : Executor) (setup : Setup)
    (clock : Nat → String) :
    runFrom (plan.onto g) exec { setup with clock } =
      ((runFrom plan exec setup).1.map (RunResult.retimed clock),
        (runFrom plan exec setup).2.retimed clock) := by
  have start : Progress.start (plan.onto g) { setup with clock } =
      (Progress.start plan setup).retimed clock := by
    have same : (plan.onto g).graph.id = plan.graph.id := stands.id
    unfold Progress.start
    rw [same]
    rfl
  change (run (plan.onto g) exec setup.payload).on (.start (plan.onto g) { setup with clock }) = _
  rw [start]
  exact run_retimes stands (.start plan setup)

end Scheduler

end Workflow
