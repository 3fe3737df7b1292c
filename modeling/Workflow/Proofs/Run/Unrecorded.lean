import Workflow.Proofs.Run.Cut
import Workflow.Proofs.Run.Numbering

/-! Outcomes that cannot be recorded. The others of their stage are recorded all the same, and then
the run is failed in the name of the first of them, whatever else has failed in that stage; nothing
of a later stage is started. -/

namespace Workflow

namespace Scheduler

/-- The first part of a stage, up to the executions of the nodes that it has started. -/
def opening (plan : Plan) (exec : Executor) (payload : Value) (stage : List String) :
    RunM (List (String × Execution)) := do
  let verdicts ← judgeAll plan stage
  let admitted ← admitAll plan payload verdicts
  startAll plan admitted
  executeAll plan exec admitted

end Scheduler

/-- The executions whose outcomes a recorder cannot record, in the order in which they complete. -/
def Recorder.unrecorded (r : Recorder) (executions : List (String × Execution)) :
    List (String × Execution) :=
  (Scheduler.completionOrder executions).filter fun x => !(r.copied x.2.outcome.shown).isOk

/-- The first of some executions whose outcome a recorder cannot record, with its fault. -/
def Recorder.trouble? (r : Recorder) (executions : List (String × Execution)) :
    Option (String × Stop) :=
  executions.findSome? fun x =>
    match r.copied x.2.outcome.shown with
    | .ok _ => none
    | .error f => some (x.1, .fault f)

variable {g : Graph} {plan : Plan} {exec : Executor} {payload : Value} {setup : Setup}
  {done stage : List String} {before after : List (List String)} {p q r : Progress} {id : String}
  {executions : List (String × Execution)}

theorem Recorder.mem_unrecorded {r : Recorder} {x : String × Execution} :
    x ∈ r.unrecorded executions ↔
      x ∈ executions ∧ ∃ f, r.copied x.2.outcome.shown = .error f := by
  unfold unrecorded
  rw [List.mem_filter, (Scheduler.completionOrder_perm executions).mem_iff]
  cases r.copied x.2.outcome.shown <;> simp [Except.isOk, Except.toBool]

theorem Recorder.trouble?_congr {r s : Recorder} (h : r.snapshotOutputs = s.snapshotOutputs)
    (executions : List (String × Execution)) : r.trouble? executions = s.trouble? executions := by
  simp only [trouble?, Recorder.copied_congr h]

/-- The trouble is with the first execution that cannot be recorded. -/
theorem Recorder.trouble?_eq {r : Recorder} {x : String × Execution}
    {others : List (String × Execution)}
    (first : (executions.filter fun x => !(r.copied x.2.outcome.shown).isOk) = x :: others) :
    ∃ f, r.copied x.2.outcome.shown = .error f ∧ r.trouble? executions = some (x.1, .fault f) := by
  induction executions with
  | nil => cases first
  | cons y rest ih =>
      unfold trouble?
      rw [List.findSome?_cons]
      cases copied : r.copied y.2.outcome.shown with
      | ok copy =>
          rw [List.filter_cons_of_neg (by simp [copied, Except.isOk, Except.toBool])] at first
          exact ih first
      | error f =>
          rw [List.filter_cons_of_pos (by simp [copied, Except.isOk, Except.toBool])] at first
          obtain ⟨rfl, -⟩ := List.cons.inj first
          exact ⟨f, copied, rfl⟩

namespace Scheduler

/-- All outcomes of some executions are taken, and the answer is the first trouble among them. -/
theorem consume_trouble (nodup : (executions.map Prod.fst).Nodup)
    (unsealed : p.trace.sealedTrace = none)
    (running : ∀ x ∈ executions, p.Has plan .running x.1 ∧ p.state.output x.1 = .null)
    (undisturbed : ∀ x ∈ executions, ∀ message, x.2.outcome ≠ .cancelled message) :
    ((consume plan executions).on p).1 = .ok (p.trace.trouble? executions) := by
  induction executions generalizing p with
  | nil => rfl
  | cons x rest ih =>
      obtain ⟨fresh, nodup⟩ := List.nodup_cons.mp nodup
      obtain ⟨calm, undisturbed⟩ := List.forall_mem_cons.mp undisturbed
      have later : ∀ {q : Progress}, q.trace.sealedTrace = none →
          q.trace.snapshotOutputs = p.trace.snapshotOutputs →
          (∀ i ≠ x.1, q.state.get? i = p.state.get? i) →
          ((consume plan rest).on q).1 = .ok (p.trace.trouble? rest) := by
        intro q unsealed copying others
        rw [← Recorder.trouble?_congr copying]
        exact ih nodup unsealed (running_beside fresh running others) undisturbed
      have first := complete_heard unsealed running
      rw [consume_cons]
      unfold Recorder.trouble?
      rw [List.findSome?_cons]
      generalize (complete plan x.1 x.2.outcome).on (p.heard x.2) = result at first
      cases first with
      | cancelled same => exact absurd same (calm _)
      | @refused f q copied unsealed' copying others _ _ =>
          have copied : p.trace.copied x.2.outcome.shown = .error f := copied
          have next := later unsealed' copying others
          rw [copied]
          dsimp only
          cases ran : (consume plan rest).on q with
          | mk result t =>
              rw [ran] at next
              obtain rfl : result = .ok _ := next
              rfl
      | @recorded copy q copied moved _ _ _ _ _ _ _ =>
          have copied : p.trace.copied x.2.outcome.shown = .ok copy := copied
          rw [copied]
          exact later moved.unsealed moved.copying fun i ne => moved.others i (by simpa using ne)

/-- A stage that is opened has its executions, and has to be concluded. -/
theorem opens_of_opening (h : Reached plan exec done p) (follows : plan.Follows done stage)
    (ran : (opening plan exec payload stage).on p = (.ok executions, r)) :
    ∃ marks admitted, Opens plan exec payload stage p marks admitted executions r ∧
      (runStage plan exec payload stage).on p =
        (conclude plan executions p.failures.length).on r := by
  have judged := judgeAll_on h follows
  unfold opening at ran
  unfold runStage
  rw [RunM.on_bind] at ran ⊢
  generalize (judgeAll plan stage).on p = result at judged ran
  cases judged with
  | failed _ _ _ _ => cases ran
  | @judged marks clear marked =>
      obtain ⟨admitted, executions', s, t, r', enter, failures, start, execute, opened⟩ :=
        open_stage exec payload h follows fun i new => by
          rw [marked, if_neg fun now => new now.1]
      dsimp only at ran ⊢
      rw [RunM.on_bind_ok enter, RunM.on_bind_ok start, execute] at ran
      cases ran
      rw [RunM.on_bind_ok enter, ending_on, failures, dispatch_on start execute]
      exact ⟨marks, admitted, ⟨clear, marked, ⟨s, t, enter, start, execute⟩, opened⟩, rfl⟩

/-- A stage with outcomes that cannot be recorded stops the run in the name of the first of them. -/
theorem runStage_unrecorded (h : Reached plan exec done p) (follows : plan.Follows done stage)
    (opened : (opening plan exec payload stage).on p = (.ok executions, r))
    (undisturbed : ∀ x ∈ executions, ∀ message, x.2.outcome ≠ .cancelled message)
    {x : String × Execution} {others : List (String × Execution)}
    (lost : p.trace.unrecorded executions = x :: others) :
    ∃ f t, p.trace.copied x.2.outcome.shown = .error f ∧
      (runStage plan exec payload stage).on p = (.error (.failed (some x.1) f.message), t) ∧
      (∀ y ∈ p.trace.unrecorded executions, t.Lost y.1) ∧
      ∀ id ∈ stage, id ∉ (p.trace.unrecorded executions).map Prod.fst → t.Lived id := by
  obtain ⟨marks, admitted, opens, ran⟩ := opens_of_opening h follows opened
  have perm := completionOrder_perm executions
  have faithful := opens.opened.moved.faithful h.faithful
  have copying := opens.opened.moved.copying
  obtain ⟨f, copied, trouble⟩ := Recorder.trouble?_eq lost
  have ordered := opens.opened.perm perm
  have first := consume_trouble ordered.nodup ordered.moved.unsealed
    (fun y mem => ⟨ordered.running y mem,
      ordered.blank y.1 (ordered.chosen.mp (List.mem_map_of_mem mem)).1⟩)
    fun y mem => undisturbed y (perm.mem_iff.mp mem)
  rw [Recorder.trouble?_congr copying, trouble] at first
  cases taken : (consume plan (completionOrder executions)).on r with
  | mk result t =>
      rw [taken] at first
      obtain rfl : result = .ok (some (x.1, .fault f)) := first
      have stopped : (conclude plan executions p.failures.length).on r =
          (.error (.failed (some x.1) f.message), t) := by
        rw [conclude, RunM.on_bind_ok taken]
        rfl
      have end' := opens.concluded stopped fun message same => by cases same
      have nodup := opens.opened.nodup
      have started : ∀ y ∈ executions, r.trace.history y.1 = NodeStatus.running.life :=
        fun y mem => (opens.opened.running y mem).history faithful
      refine ⟨f, t, copied, ran.trans stopped, fun y mem => ?_, fun id now recorded => ?_⟩
      · obtain ⟨mem, g, uncopied⟩ := Recorder.mem_unrecorded.mp mem
        exact end'.lost nodup mem (started y mem)
          ((Recorder.copied_congr copying _).trans uncopied)
      · by_cases fit : plan.admission p.standing id = .executed
        · obtain ⟨y, mem, rfl⟩ := List.mem_map.mp (opens.opened.chosen.mpr ⟨now, fit⟩)
          cases copy : p.trace.copied y.2.outcome.shown with
          | ok _ =>
              exact end'.lived nodup mem (started y mem)
                ((Recorder.copied_congr copying _).trans copy)
          | error g =>
              exact absurd (List.mem_map_of_mem (Recorder.mem_unrecorded.mpr ⟨mem, g, copy⟩))
                recorded
        · have apart : id ∉ executions.map Prod.fst := fun mem =>
            fit (opens.opened.chosen.mp mem).2
          refine ⟨.skipped, rfl, ?_⟩
          rw [end'.history_of_not_mem apart, (opens.opened.skipped id now fit).history faithful]

/-- Where some outcomes of a stage cannot be recorded, whatever else becomes of its nodes, the run
is failed in the name of the first of them to complete, with the text of its fault and with a sealed
trace. All other nodes of the stage come to their ends, and those of later stages do not start. -/
theorem unrecorded_fails_run (valid : g.check.valid = true)
    (staged : g.staging.stages = before ++ stage :: after)
    (ran : courseThrough (.ofGraph g) exec setup before = (.ok none, p))
    (unasked : p.signal = none)
    (opened : (opening (.ofGraph g) exec setup.payload stage).on p = (.ok executions, r))
    (undisturbed : ∀ x ∈ executions, ∀ message, x.2.outcome ≠ .cancelled message)
    {x : String × Execution} {others : List (String × Execution)}
    (lost : p.trace.unrecorded executions = x :: others) :
    ∃ f res q, p.trace.copied x.2.outcome.shown = .error f ∧
      runFrom (.ofGraph g) exec setup = (.ok res, q) ∧
      res.status = .failed ∧ res.failingNodeId = some x.1 ∧ res.cause = some f.message ∧
      q.trace.sealedTrace = some res.trace ∧ res.trace.status = .failed ∧
      (∀ y ∈ p.trace.unrecorded executions,
        res.trace.statuses y.1 = [.pending, .ready, .running]) ∧
      (∀ id ∈ stage, id ∉ (p.trace.unrecorded executions).map Prod.fst →
        res.trace.statuses id ∈ NodeStatus.wholeLives) ∧
      ∀ id ∈ after.flatten, res.trace.statuses id = [.pending] := by
  have layered := Plan.layered_ofGraph g
  obtain ⟨p₀, start, first, -⟩ := start_reached (Plan.sound_ofGraph g) exec setup
  obtain ⟨-, -, -, -, -, -, end'⟩ := runFrom_cases (Graph.runnable_of_valid valid) exec setup
  rw [staged] at layered
  rw [courseThrough, RunM.on_bind_ok start] at ran
  have reached : Reached (.ofGraph g) exec ([] ++ before.flatten) p :=
    (ran ▸ runStages_course setup.payload first layered.append.1 : Course _ _ _ _ _ _ _).reached
  obtain ⟨follows, rest⟩ := layered.append.2
  obtain ⟨f, t, copied, stopped, unended, ended⟩ :=
    runStage_unrecorded reached follows opened undisturbed lost
  have course : courseFrom (.ofGraph g) exec setup =
      (.error (.failed (some x.1) f.message), t) := by
    rw [courseFrom_eq start]
    change (runStages _ _ _ g.staging.stages).on p₀ = _
    rw [staged, runStages_through ran, runStages_cons, unasked]
    exact RunM.on_bind_error stopped
  have later : ∀ id ∈ after.flatten, t.trace.history id = [.pending] := by
    intro id mem
    have edits := runStage_edits setup.payload reached follows
    rw [stopped] at edits
    have fresh := rest.fresh id mem
    rw [edits.history_others fun _ allowed => fresh (List.mem_append_right _ allowed.1)]
    exact history_of_waiting reached (rest.known id mem) fun old =>
      fresh (List.mem_append_left _ old)
  rw [course] at end'
  generalize runFrom (.ofGraph g) exec setup = result at end'
  cases end' with
  | failed =>
      exact ⟨f, _, _, copied, rfl, rfl, rfl, rfl, rfl, rfl, fun y mem => (unended y mem).running,
        fun id now recorded => (ended id now recorded).whole, later⟩

/-- Beside an answer that cannot be copied a tool that is absent has failed, and dooms the run by
itself. -/
theorem unrecorded_fails_run_trio :
    ∃ res q, runFrom (.ofGraph trio) poisonedTool.executor plainSetup = (.ok res, q) ∧
      res.status = .failed ∧ res.failingNodeId = some "alpha" ∧
      res.trace.statuses "beta" = NodeStatus.failed.life ∧
      res.trace.statuses "gamma" ∈ NodeStatus.wholeLives ∧
      res.trace.statuses "out" = [.pending] := by
  have valid : trio.check.valid = true := by decide +kernel
  have staged : trio.staging.stages = [["in"]] ++ ["alpha", "beta", "gamma"] :: [["out"]] := by
    decide +kernel
  have through : (courseThrough (.ofGraph trio) poisonedTool.executor plainSetup
      [["in"]]).1.toOption = some none := by decide +kernel
  have unasked : (courseThrough (.ofGraph trio) poisonedTool.executor plainSetup
      [["in"]]).2.signal = none := by decide +kernel
  have abreast : ((opening (.ofGraph trio) poisonedTool.executor .null
      ["alpha", "beta", "gamma"]).on (courseThrough (.ofGraph trio) poisonedTool.executor
        plainSetup [["in"]]).2).1.toOption.map (fun executions =>
      (((courseThrough (.ofGraph trio) poisonedTool.executor plainSetup
        [["in"]]).2.trace.unrecorded executions).map Prod.fst,
        executions.all fun x => x.2.outcome.standing != .waiting)) = some (["alpha"], true) := by
    decide +kernel
  have beta : (runFrom (.ofGraph trio) poisonedTool.executor plainSetup).1.toOption.map
      (fun res => res.trace.statuses "beta") = some NodeStatus.failed.life := by decide +kernel
  cases ran : courseThrough (.ofGraph trio) poisonedTool.executor plainSetup [["in"]] with
  | mk result p =>
      rw [ran] at through unasked abreast
      obtain rfl : result = .ok none := by
        cases result with
        | error stop => cases through
        | ok asked => simpa [Except.toOption] using through
      cases opened : (opening (.ofGraph trio) poisonedTool.executor .null
          ["alpha", "beta", "gamma"]).on p with
      | mk answer r =>
          rw [opened] at abreast
          cases answer with
          | error stop => cases abreast
          | ok executions =>
              obtain ⟨names, calm⟩ : (p.trace.unrecorded executions).map Prod.fst = ["alpha"] ∧
                  (executions.all fun x => x.2.outcome.standing != .waiting) = true := by
                simpa [Except.toOption] using abreast
              have undisturbed : ∀ x ∈ executions, ∀ message, x.2.outcome ≠ .cancelled message := by
                intro x mem message same
                have ended := List.all_eq_true.mp calm x mem
                rw [same] at ended
                cases ended
              cases lost : p.trace.unrecorded executions with
              | nil =>
                  rw [lost] at names
                  cases names
              | cons x others =>
                  obtain ⟨f, res, q, -, run, failed, node, -, -, -, -, rest, later⟩ :=
                    unrecorded_fails_run valid staged ran unasked opened undisturbed lost
                  rw [lost] at rest
                  rw [lost] at names
                  rw [names] at rest
                  obtain ⟨name, -⟩ := List.cons.inj names
                  rw [run] at beta
                  refine ⟨res, q, run, failed, name ▸ node, by simpa [Except.toOption] using beta,
                    rest "gamma" (by simp) (by simp), later "out" (by simp)⟩

end Scheduler

end Workflow
