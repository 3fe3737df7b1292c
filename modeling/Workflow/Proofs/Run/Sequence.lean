import Workflow.Proofs.Run.Course
import Workflow.Proofs.Run.Result

/-! The order in which nodes end. While everything can be recorded, the nodes that have ended are on
record in the order in which the trace tells of their ends. -/

namespace Workflow

def Recorder.ended (r : Recorder) : List String :=
  (r.told.filter fun x => x.2.isTerminal).map Prod.fst

/-- The nodes that have ended are on record in the order in which the trace tells of their ends. -/
def Progress.Ordered (p : Progress) : Prop := p.state.completed = p.trace.ended

theorem Progress.Ordered.congr {p q : Progress} (h : p.Ordered) (state : q.state = p.state)
    (trace : q.trace = p.trace) : q.Ordered := by
  rw [Ordered, state, trace]
  exact h

namespace Scheduler

variable {plan : Plan} {exec : Executor} {payload : Value} {done stage : List String}
  {stages : List (List String)} {p q r : Progress}

theorem transition_ordered {id : String} {status : NodeStatus} {change : Change}
    (ordered : p.Ordered) (ran : (transition plan id status change).on p = (.ok (), q)) :
    q.Ordered := by
  obtain ⟨n, s, e, -, -, -, record, same⟩ := transition_ok ran
  have told := Recorder.told_of_record record
  have ended : q.trace.ended = p.trace.ended ++ if status.isTerminal then [id] else [] := by
    rw [Recorder.ended, told, List.filter_append, List.map_append]
    by_cases terminal : status.isTerminal = true <;> simp [Recorder.ended, terminal]
  have completed : q.state.completed =
      p.state.completed ++ if status.isTerminal then [id] else [] := by
    rw [same]
    by_cases terminal : status.isTerminal = true <;> simp [RunState.after, terminal]
  have before : p.state.completed = p.trace.ended := ordered
  rw [Progress.Ordered, completed, ended, before]

theorem admitAll_ordered {verdicts : List (String × Verdict)} {admitted : List (String × Inputs)}
    (ordered : p.Ordered) (ran : (admitAll plan payload verdicts).on p = (.ok admitted, q)) :
    q.Ordered := by
  induction verdicts generalizing p admitted with
  | nil =>
      cases ran
      exact ordered
  | cons x rest ih =>
      obtain ⟨id, verdict⟩ := x
      cases verdict with
      | skipped =>
          obtain ⟨t, step, later⟩ := admitAll_skipped_ok ran
          exact ih (transition_ordered ordered step) later
      | ready =>
          obtain ⟨inputs, t, others, -, step, later, -⟩ := admitAll_ready_ok ran
          exact ih (transition_ordered ordered step) later

theorem startAll_ordered {admitted : List (String × Inputs)} (ordered : p.Ordered)
    (ran : (startAll plan admitted).on p = (.ok (), q)) : q.Ordered := by
  induction admitted generalizing p with
  | nil =>
      cases ran
      exact ordered
  | cons x rest ih =>
      obtain ⟨t, step, later⟩ := startAll_cons_ok ran
      exact ih (transition_ordered ordered step) later

theorem executeAll_keeps {admitted : List (String × Inputs)}
    {executions : List (String × Execution)}
    (ran : (executeAll plan exec admitted).on p = (.ok executions, q)) :
    q = { p with calls := q.calls } := by
  induction admitted generalizing p executions with
  | nil =>
      cases ran
      rfl
  | cons x rest ih =>
      obtain ⟨n, others, -, later, -⟩ := executeAll_cons_ok ran
      exact (ih later).trans rfl

theorem complete_ordered {id : String} {o : Outcome} (ordered : p.Ordered)
    (ran : (complete plan id o).on p = (.ok (), q)) : q.Ordered := by
  unfold complete at ran
  split at ran
  · cases ran
  · rename_i n known
    cases o with
    | value v => exact transition_ordered ordered ran
    | decision d => exact transition_ordered ordered ran
    | failure f | fault f =>
        dsimp only [settled] at ran
        rw [RunM.on_bind, RunM.on_modify] at ran
        dsimp only at ran
        refine transition_ordered ?_ ran
        exact ordered.congr rfl rfl
    | cancelled message => cases ran

theorem consume_ordered {executions : List (String × Execution)} (ordered : p.Ordered)
    (ran : (consume plan executions).on p = (.ok none, q)) : q.Ordered := by
  induction executions generalizing p with
  | nil =>
      cases ran
      exact ordered
  | cons x rest ih =>
      obtain ⟨t, completed, later⟩ := consume_cons_ok ran
      exact ih (complete_ordered (p := p.heard x.2) ordered completed) later

theorem Opens.ordered {marks : Table String} {admitted : List (String × Inputs)}
    {executions : List (String × Execution)}
    (opens : Opens plan exec payload stage p marks admitted executions r) (ordered : p.Ordered) :
    r.Ordered := by
  obtain ⟨s, t, enter, start, execute⟩ := opens.steps
  have entered : s.Ordered := admitAll_ordered (p := p.marked marks) ordered enter
  have started : t.Ordered := startAll_ordered entered start
  rw [executeAll_keeps execute]
  exact started

theorem runStage_ordered (h : Reached plan exec done p) (follows : plan.Follows done stage)
    (ordered : p.Ordered) (ran : (runStage plan exec payload stage).on p = (.ok (), q)) :
    q.Ordered := by
  have run := runStage_run payload h follows
  rw [ran] at run
  generalize step : ((.ok (), q) : Except Stop Unit × Progress) = result at run
  cases run with
  | blocked _ _ _ _ => cases step
  | opened opens =>
      obtain ⟨trouble, t, consumed, ran⟩ := RunM.on_bind_eq_ok step.symm
      cases trouble with
      | some x => cases ran
      | none =>
          have last := consume_ordered (opens.ordered ordered) consumed
          rw [conclude_recorded consumed] at step
          obtain rfl := (failDoomed_on _ _).symm.trans (congrArg Prod.snd step.symm)
          exact last

theorem runStages_ordered (h : Reached plan exec done p) (layered : plan.Layered done stages)
    (ordered : p.Ordered) (ran : (runStages plan exec payload stages).on p = (.ok none, q)) :
    q.Ordered := by
  induction stages generalizing done p with
  | nil =>
      cases ran
      exact ordered
  | cons stage rest ih =>
      obtain ⟨follows, layered⟩ := layered
      rw [runStages_cons] at ran
      cases asked : p.signal with
      | some reason =>
          rw [asked] at ran
          cases ran
      | none =>
          rw [asked] at ran
          obtain ⟨_, t, staged, ran⟩ := RunM.on_bind_eq_ok ran
          exact ih (runStage_reached h follows staged) layered
            (runStage_ordered h follows ordered staged) ran

theorem start_ordered {setup : Setup}
    (ran : (recordPending plan.nodes).on (.start plan setup) = (.ok (), q)) : q.Ordered := by
  have pending : q.trace.ended = [] := by
    rw [Recorder.ended, recordPending_told ran]
    simp [Progress.start, Recorder.start, Recorder.told, List.filter_map, Function.comp_def,
      NodeStatus.isTerminal]
  rw [Progress.Ordered, pending, recordPending_rest ran]
  rfl

end Scheduler

end Workflow
