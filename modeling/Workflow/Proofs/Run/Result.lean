import Workflow.Proofs.Graph.Acceptance
import Workflow.Proofs.Run.Course
import Workflow.Proofs.Value.Copy

/-! A whole run: it starts with every node pending, goes its course, and turns the end of that into
a result. -/

namespace Workflow

/-- The result of a run that ends here, with a copy of its output in the trace. -/
def Progress.result (p : Progress) (status : RunStatus) (output copy : Value)
    (failingNodeId cause : Option String) : RunResult :=
  ⟨p.state.runId, status, output, failingNodeId, cause,
    ⟨p.trace.runId, p.trace.graphId, status, p.trace.events, copy, failingNodeId, cause⟩⟩

def Progress.close (p : Progress) (t : Trace) : Progress :=
  { p with trace := { p.trace with sealedTrace := some t } }

namespace Plan

/-- What a run makes of the values of some output nodes: that of the only one, or all under the ids
of their nodes. -/
def gather (value : String → Value) : List String → Option Value
  | [] => none
  | [id] => some (value id)
  | ids => some (.object (ids.map fun id => (id, value id)))

theorem gather_eq_none_iff {value : String → Value} {ids : List String} :
    gather value ids = none ↔ ids = [] := by
  cases ids with
  | nil => simp [gather]
  | cons id rest => cases rest <;> simp [gather]

theorem gather_congr {value value' : String → Value} {ids : List String}
    (h : ∀ id ∈ ids, value id = value' id) : gather value ids = gather value' ids := by
  have same : (ids.map fun id => (id, value id)) = ids.map fun id => (id, value' id) :=
    List.map_congr_left fun id mem => by rw [h id mem]
  cases ids with
  | nil => rfl
  | cons id rest =>
      cases rest with
      | nil => rw [gather, gather, h id List.mem_cons_self]
      | cons other rest => exact congrArg (fun t => some (Value.object t)) same

/-- Values that can be copied one by one can be copied together, unless an integer is too long. -/
theorem gather_fault {value : String → Value} {ids : List String} {output : Value} {f : Fault}
    (h : gather value ids = some output) (copyable : ∀ id ∈ ids, (value id).Copyable)
    (failed : output.snapshot = .error f) :
    f = .unwritable .longInteger ∧ output.hasLong = true := by
  cases ids with
  | nil => cases h
  | cons id rest =>
      cases rest with
      | nil =>
          cases h
          obtain ⟨copy, copied⟩ := copyable id List.mem_cons_self
          cases copied.symm.trans failed
      | cons other rest =>
          cases h
          exact Value.snapshot_object_error (List.forall_mem_map.mpr copyable) failed

theorem gather_short {value : String → Value} {ids : List String} {output : Value}
    (h : gather value ids = some output) (short : ∀ id ∈ ids, (value id).hasLong = false) :
    output.hasLong = false := by
  cases ids with
  | nil => cases h
  | cons id rest =>
      cases rest with
      | nil =>
          cases h
          exact short id List.mem_cons_self
      | cons other rest =>
          cases h
          exact Value.anyMemberHasInteger_eq_false_iff.mpr (List.forall_mem_map.mpr short)

end Plan

namespace Scheduler

variable {plan : Plan} {exec : Executor} {payload : Value} {p q : Progress}
  {status : RunStatus} {output : Value} {failingNodeId cause : Option String}

theorem finishedOutput?_eq_gather (plan : Plan) (p : Progress) :
    finishedOutput? plan p = Plan.gather p.state.output
      (plan.outputIds.filter fun id => p.state.hasStatus id .succeeded) := rfl

theorem finish_ok {copy : Value} (unsealed : p.trace.sealedTrace = none)
    (copied : output.snapshot = .ok copy) :
    (finish status output failingNodeId cause).on p =
      (.ok (p.result status output copy failingNodeId cause),
        p.close (p.result status output copy failingNodeId cause).trace) := by
  unfold finish
  rw [RunM.on_bind, RunM.on_get]
  dsimp only
  simp only [Recorder.sealAs, unsealed, copied]
  rfl

theorem finish_error {f : Fault} (unsealed : p.trace.sealedTrace = none)
    (copied : output.snapshot = .error f) :
    (finish status output failingNodeId cause).on p = (.error (.fault f), p) := by
  unfold finish
  rw [RunM.on_bind, RunM.on_get]
  dsimp only
  simp only [Recorder.sealAs, unsealed, copied]
  rfl

theorem recordPending_on {entries : Table Node} (distinct : entries.Distinct)
    (unsealed : p.trace.sealedTrace = none) :
    ∃ tr, (recordPending entries).on p = (.ok (), { p with trace := tr }) ∧
      tr.sealedTrace = none ∧ tr.snapshotOutputs = p.trace.snapshotOutputs ∧
      ∀ id, tr.history id = p.trace.history id ++ if id ∈ entries.keys then [.pending] else [] := by
  induction entries generalizing p with
  | nil => exact ⟨p.trace, rfl, unsealed, rfl, fun id => (List.append_nil _).symm⟩
  | cons entry rest ih =>
      obtain ⟨id, n⟩ := entry
      obtain ⟨fresh, distinct'⟩ := List.nodup_cons.mp distinct
      obtain ⟨e, tr, record, open', copying, events, node, same⟩ := Recorder.record_ok unsealed
        (Recorder.copied_null p.trace) id n.kind.name .pending none
      obtain ⟨tr', run, open'', copying', history⟩ :=
        ih (p := { p with trace := tr }) distinct' open'
      refine ⟨tr', ?_, open'', copying'.trans copying, ?_⟩
      · rw [recordPending_cons, record]
        exact run
      · intro i
        have grown : tr.history i = p.trace.history i ++ if i = id then [.pending] else [] := by
          simp only [Recorder.history, events, List.filter_append, List.map_append]
          by_cases here : i = id
          · simp [node, here, same]
          · simp [node, here, Ne.symm here]
        have keys : i ∈ Table.keys ((id, n) :: rest) ↔ i = id ∨ i ∈ Table.keys rest :=
          List.mem_cons
        have fresh : id ∉ Table.keys rest := fresh
        rw [history, grown, List.append_assoc]
        simp only [keys]
        by_cases here : i = id
        · simp [here, fresh]
        · simp [here]

/-- The nodes are told to be pending in the order of the entries. -/
theorem recordPending_told {entries : Table Node}
    (ran : (recordPending entries).on p = (.ok (), q)) :
    q.trace.told = p.trace.told ++ entries.map fun x => (x.1, .pending) := by
  induction entries generalizing p with
  | nil =>
      cases ran
      exact (List.append_nil _).symm
  | cons x rest ih =>
      obtain ⟨id, n⟩ := x
      obtain ⟨tr, e, record, ran⟩ := recordPending_cons_ok ran
      rw [ih ran, Recorder.told_of_record record, List.append_assoc]
      rfl

theorem recordPending_rest {entries : Table Node}
    (ran : (recordPending entries).on p = (.ok (), q)) : q = { p with trace := q.trace } := by
  induction entries generalizing p with
  | nil =>
      cases ran
      rfl
  | cons x rest ih =>
      obtain ⟨id, n⟩ := x
      obtain ⟨tr, e, -, ran⟩ := recordPending_cons_ok ran
      exact ih (p := { p with trace := tr }) ran

/-- A run starts with the nodes of its plan in their initial states. -/
theorem start_get? (distinct : plan.nodes.Distinct) (setup : Setup) (id : String) :
    (Progress.start plan setup).state.get? id =
      (plan.nodes.get? id).map fun n => .initial id n.kind.name := by
  have entries : ((plan.nodes.map fun x => (x.1, x.2.kind.name)).map fun x =>
      (x.1, NodeState.initial x.1 x.2)) =
      plan.nodes.map fun x => (x.1, NodeState.initial x.1 x.2.kind.name) := by
    rw [List.map_map]
    rfl
  have keys : Table.Distinct (plan.nodes.map fun x =>
      (x.1, NodeState.initial x.1 x.2.kind.name)) := by
    have same : Table.keys (plan.nodes.map fun x =>
        (x.1, NodeState.initial x.1 x.2.kind.name)) = plan.nodes.keys := by
      simp [Table.keys, Function.comp_def]
    rw [Table.Distinct, same]
    exact distinct
  change Table.get? (Table.ofList ((plan.nodes.map fun x => (x.1, x.2.kind.name)).map fun x =>
    (x.1, NodeState.initial x.1 x.2))) id = _
  rw [entries, Table.ofList_of_distinct keys]
  exact Table.get?_mapEntries (fun id n => NodeState.initial id n.kind.name) plan.nodes id

theorem start_known (distinct : plan.nodes.Distinct) (setup : Setup) {id : String}
    (known : id ∈ plan.nodes.keys) :
    ∃ n, plan.nodes.get? id = some n ∧
      (Progress.start plan setup).state.get? id = some (.initial id n.kind.name) := by
  obtain ⟨n, node⟩ := Table.mem_keys_iff.mp known
  exact ⟨n, node, by rw [start_get? distinct, node]; rfl⟩

theorem start_unknown (distinct : plan.nodes.Distinct) (setup : Setup) {id : String}
    (unknown : id ∉ plan.nodes.keys) : (Progress.start plan setup).state.get? id = none := by
  rw [start_get? distinct, Table.get?_eq_none_iff.mpr unknown]
  rfl

theorem start_output (distinct : plan.nodes.Distinct) (setup : Setup) (id : String) :
    (Progress.start plan setup).state.output id = .null := by
  unfold RunState.output
  rw [start_get? distinct]
  cases plan.nodes.get? id <;> rfl

theorem start_standing (distinct : plan.nodes.Distinct) (setup : Setup) (id : String) :
    (Progress.start plan setup).standing id = .waiting := by
  unfold Progress.standing
  rw [start_get? distinct]
  cases plan.nodes.get? id <;> rfl

/-- A run whose trace tells of every node that it is pending has done no stage yet. -/
theorem reached_of_start (distinct : plan.nodes.Distinct) (exec : Executor) (setup : Setup)
    {tr : Recorder} (unsealed : tr.sealedTrace = none)
    (history : ∀ id, tr.history id = if id ∈ plan.nodes.keys then [.pending] else []) :
    Reached plan exec [] { Progress.start plan setup with trace := tr } where
  unsealed := unsealed
  faithful id := by
    dsimp only
    rw [history]
    by_cases known : id ∈ plan.nodes.keys
    · obtain ⟨n, -, state⟩ := start_known distinct setup known
      rw [state, if_pos known]
      rfl
    · rw [start_unknown distinct setup known, if_neg known]
      rfl
  copied id := by
    dsimp only
    rw [start_output distinct]
    exact ⟨.null, Recorder.copied_null _⟩
  within _ h := absurd h List.not_mem_nil
  closed _ h := absurd h List.not_mem_nil
  unknown _ := start_unknown distinct setup
  pending id known _ := by
    obtain ⟨n, node, state⟩ := start_known distinct setup known
    exact ⟨⟨⟨n, node⟩, _, state, rfl⟩, start_output distinct setup id⟩
  unmarked _ _ := rfl
  marked _ h := absurd h List.not_mem_nil
  blamed blame := by cases blame
  caused {id} failed := by
    have waiting := start_standing distinct setup id
    cases waiting.symm.trans failed
  placed _ h := absurd h List.not_mem_nil
  spared _ h := absurd h List.not_mem_nil

theorem start_reached (sound : plan.Sound) (exec : Executor) (setup : Setup) :
    ∃ p, (recordPending plan.nodes).on (.start plan setup) = (.ok (), p) ∧
      Reached plan exec [] p ∧ p.signal = setup.cancelled ∧
      p.trace.snapshotOutputs = setup.snapshotOutputs ∧ ∀ id, p.state.output id = .null := by
  obtain ⟨tr, run, unsealed, copying, history⟩ :=
    recordPending_on (p := .start plan setup) sound.distinct rfl
  exact ⟨_, run, reached_of_start sound.distinct exec setup unsealed history, rfl, copying,
    start_output sound.distinct setup⟩

def courseFrom (plan : Plan) (exec : Executor) (setup : Setup) :
    Except Stop (Option (Option String)) × Progress :=
  (do
    recordPending plan.nodes
    runStages plan exec setup.payload plan.graph.staging.stages : RunM _).on (.start plan setup)

theorem courseFrom_eq {setup : Setup}
    (run : (recordPending plan.nodes).on (.start plan setup) = (.ok (), p)) :
    courseFrom plan exec setup =
      (runStages plan exec setup.payload plan.graph.staging.stages).on p := by
  unfold courseFrom
  rw [RunM.on_bind_ok run]

inductive RunEnd (plan : Plan) :
    Except Stop (Option (Option String)) × Progress → Except Stop RunResult × Progress → Prop where
  | succeeded {q : Progress} {output copy : Value} (found : finishedOutput? plan q = some output)
      (copied : output.snapshot = .ok copy) :
      RunEnd plan (.ok none, q)
        (.ok (q.result .succeeded output copy none none),
          q.close (q.result .succeeded output copy none none).trace)
  | uncopied {q : Progress} {output : Value} {f : Fault}
      (found : finishedOutput? plan q = some output) (copied : output.snapshot = .error f) :
      RunEnd plan (.ok none, q) (.error (.fault f), q)
  | unreached {q : Progress} (found : finishedOutput? plan q = none) :
      RunEnd plan (.ok none, q)
        (.ok (q.result .failed .null .null none (some "no output node was reached")),
          q.close (q.result .failed .null .null none (some "no output node was reached")).trace)
  | cancelled {q : Progress} {reason : Option String} :
      RunEnd plan (.ok (some reason), q)
        (.ok (q.result .cancelled .null .null none reason),
          q.close (q.result .cancelled .null .null none reason).trace)
  | failed {q : Progress} {id cause : String} :
      RunEnd plan (.error (.failed (some id) cause), q)
        (.ok (q.result .failed .null .null (some id) (some cause)),
          q.close (q.result .failed .null .null (some id) (some cause)).trace)
  | aborted {q : Progress} {message : String} :
      RunEnd plan (.error (.cancelled message), q) (.error (.cancelled message), q)

theorem runPlan_cases
    (course : Course plan exec payload [] plan.graph.staging.stages p
      ((runStages plan exec payload plan.graph.staging.stages).on p))
    (staged : plan.graph.stagingError? = none) :
    RunEnd plan ((runStages plan exec payload plan.graph.staging.stages).on p)
      ((do
        try runPlan plan exec payload
        catch
          | .failed id cause => finish .failed .null id (some cause)
          | stop => throw stop : RunM RunResult).on p) := by
  rw [RunM.on_tryCatch]
  unfold runPlan
  rw [RunM.on_bind]
  generalize (runStages plan exec payload plan.graph.staging.stages).on p = result at course
  obtain ⟨result, q⟩ := result
  have null : Value.snapshot .null = .ok .null := rfl
  cases result with
  | error stop =>
      rcases course.stop_cases with ⟨message, rfl⟩ | ⟨id, cause, rfl, unsealed⟩
      · exact .aborted
      · dsimp only
        rw [finish_ok unsealed null]
        exact .failed
  | ok reason =>
      cases reason with
      | some reason =>
          dsimp only
          rw [finish_ok course.unsealed_of_cancelled null]
          exact .cancelled
      | none =>
          have unsealed := course.reached.unsealed
          dsimp only
          rw [staged]
          dsimp only
          rw [RunM.on_bind, RunM.on_get]
          dsimp only
          cases found : finishedOutput? plan q with
          | none =>
              dsimp only
              rw [RunM.on_throw]
              dsimp only
              rw [finish_ok unsealed null]
              exact .unreached found
          | some output =>
              dsimp only
              cases copied : output.snapshot with
              | ok copy =>
                  rw [finish_ok unsealed copied]
                  exact .succeeded found copied
              | error f =>
                  rw [finish_error unsealed copied]
                  exact .uncopied found copied

/-- Every run of a graph with a stage for every node starts with its nodes pending, goes its course,
and ends as that does. -/
theorem runFrom_cases_of_staged {g : Graph} (staged : g.staging.held = []) (exec : Executor)
    (setup : Setup) :
    ∃ p, Reached (.ofGraph g) exec [] p ∧ p.signal = setup.cancelled ∧
      p.trace.snapshotOutputs = setup.snapshotOutputs ∧ (∀ id, p.state.output id = .null) ∧
      Course (.ofGraph g) exec setup.payload [] g.staging.stages p
        (courseFrom (.ofGraph g) exec setup) ∧
      RunEnd (.ofGraph g) (courseFrom (.ofGraph g) exec setup)
        (runFrom (.ofGraph g) exec setup) := by
  obtain ⟨p, run, reached, signal, copying, blank⟩ :=
    start_reached (Plan.sound_ofGraph g) exec setup
  have ran : courseFrom (.ofGraph g) exec setup =
      (runStages (.ofGraph g) exec setup.payload g.staging.stages).on p := courseFrom_eq run
  have course := runStages_course setup.payload reached (Plan.layered_ofGraph g)
  rw [ran]
  refine ⟨p, reached, signal, copying, blank, course, ?_⟩
  have rest := runPlan_cases course (Graph.stagingError?_eq_none staged)
  change RunEnd _ _ ((Scheduler.run (.ofGraph g) exec setup.payload).on _)
  unfold Scheduler.run
  rw [RunM.on_bind_ok run]
  exact rest

theorem runFrom_cases {g : Graph} (runnable : g.Runnable) (exec : Executor) (setup : Setup) :
    ∃ p, Reached (.ofGraph g) exec [] p ∧ p.signal = setup.cancelled ∧
      p.trace.snapshotOutputs = setup.snapshotOutputs ∧ (∀ id, p.state.output id = .null) ∧
      Course (.ofGraph g) exec setup.payload [] g.staging.stages p
        (courseFrom (.ofGraph g) exec setup) ∧
      RunEnd (.ofGraph g) (courseFrom (.ofGraph g) exec setup)
        (runFrom (.ofGraph g) exec setup) :=
  runFrom_cases_of_staged runnable.staged exec setup

end Scheduler

end Workflow
