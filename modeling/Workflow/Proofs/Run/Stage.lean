import Workflow.Proofs.Ranked
import Workflow.Proofs.Run.Reached

/-! One stage of a run. It ends in one of five ways: an output node of it is blocked, a task of it
was cancelled, an outcome of it could not be recorded, or all its outcomes are recorded, and then a
failure among them is doomed or none is. -/

namespace Workflow

def Progress.escalated (p : Progress) (failed : List String) : Progress :=
  { p with blockedBy := failed.foldl (fun t id => t.put id id) p.blockedBy }

namespace Scheduler

variable {plan : Plan} {exec : Executor} {payload : Value} {done stage : List String}
  {p q : Progress}

/-- The first doomed failure stops the run, and nothing else becomes of it. -/
theorem failDoomed_eq (failed : List String) (p : Progress) :
    (failDoomed plan failed).on p =
      (match failed.find? (isDoomed plan p) with
        | none => .ok ()
        | some id =>
            (failureCause p id).bind fun cause => .error (.failed (some id) cause), p) := by
  induction failed with
  | nil => rfl
  | cons id rest ih =>
      unfold failDoomed
      rw [RunM.on_bind, RunM.on_get]
      dsimp only
      rw [List.find?_cons]
      cases isDoomed plan p id with
      | true =>
          rw [if_pos rfl, RunM.on_bind, RunM.on_lift]
          dsimp only
          cases failureCause p id <;> rfl
      | false =>
          rw [if_neg Bool.false_ne_true]
          exact ih

theorem failDoomed_cases {failed : List String}
    (caused : ∀ id ∈ failed, ∃ f, p.errors.get? id = some f) :
    (∃ id failure, failed.find? (isDoomed plan p) = some id ∧
      p.errors.get? id = some failure ∧
      (failDoomed plan failed).on p = (.error (.failed (some id) failure.message), p)) ∨
    ((∀ id ∈ failed, isDoomed plan p id = false) ∧
      (failDoomed plan failed).on p = (.ok (), p)) := by
  rw [failDoomed_eq]
  cases first : failed.find? (isDoomed plan p) with
  | some id =>
      obtain ⟨failure, found⟩ := caused id (List.mem_of_find?_eq_some first)
      have cause : failureCause p id = .ok failure.message := by rw [failureCause, found]
      refine .inl ⟨id, failure, rfl, found, ?_⟩
      dsimp only
      rw [cause]
      rfl
  | none =>
      refine .inr ⟨fun id mem => ?_, rfl⟩
      exact Bool.eq_false_iff.mpr (List.find?_eq_none.mp first id mem)

theorem failDoomed_on (failed : List String) (p : Progress) :
    ((failDoomed plan failed).on p).2 = p := by
  rw [failDoomed_eq]

theorem escalated_get? (p : Progress) (failed : List String) (id : String) :
    (p.escalated failed).blockedBy.get? id =
      if id ∈ failed then some id else p.blockedBy.get? id := by
  unfold Progress.escalated
  generalize p.blockedBy = t
  induction failed generalizing t with
  | nil => simp
  | cons i rest ih =>
      dsimp only at ih ⊢
      rw [List.foldl_cons, ih]
      by_cases later : id ∈ rest
      · rw [if_pos later, if_pos (List.mem_cons_of_mem _ later)]
      · by_cases same : id = i
        · subst same
          rw [if_neg later, if_pos List.mem_cons_self, Table.get?_put_self]
        · rw [if_neg later, if_neg (by simp [same, later]), Table.get?_put_of_ne _ _ same]

/-- The end of a stage is the same whether or not it is left out when no node is admitted. -/
theorem ending_on (admitted : List (String × Inputs)) (p : Progress) :
    (if !admitted.isEmpty then do
        let before := (← get).failures.length
        dispatch plan exec admitted
        escalate plan ((← get).failures.drop before)
      else pure () : RunM Unit).on p =
    (do
      dispatch plan exec admitted
      escalate plan ((← get).failures.drop p.failures.length) : RunM Unit).on p := by
  cases admitted with
  | cons x rest => rfl
  | nil =>
      have drop : p.failures.drop p.failures.length = [] := List.drop_length
      change _ = (escalate plan (p.failures.drop p.failures.length)).on p
      rw [drop]
      rfl

/-- A stage is open: its fit nodes run, with their executions at hand, and its unfit ones are
skipped. -/
structure Opened (plan : Plan) (exec : Executor) (payload : Value) (stage : List String)
    (p : Progress) (marks : Table String) (executions : List (String × Execution))
    (q : Progress) : Prop where
  moved : p.Moved stage q
  nodup : (executions.map Prod.fst).Nodup
  chosen : ∀ {id}, id ∈ executions.map Prod.fst ↔
    id ∈ stage ∧ plan.admission p.standing id = .executed
  running : ∀ x ∈ executions, q.Has plan .running x.1
  made : ∀ x ∈ executions, ∃ n inputs, plan.nodes.get? x.1 = some n ∧
    inputs.Gathered payload p ∧ x.2 = exec n inputs
  skipped : ∀ id ∈ stage, plan.admission p.standing id ≠ .executed → q.Has plan .skipped id
  blank : ∀ id ∈ stage, q.state.output id = .null
  marks : q.blockedBy = marks
  errors : q.errors = p.errors
  failures : q.failures = p.failures
  signal : q.signal = p.signal

theorem Opened.perm {marks : Table String} {executions others : List (String × Execution)}
    (h : Opened plan exec payload stage p marks executions q) (perm : others.Perm executions) :
    Opened plan exec payload stage p marks others q :=
  { h with
    nodup := (perm.map Prod.fst).nodup_iff.mpr h.nodup
    chosen := (perm.map Prod.fst).mem_iff.trans h.chosen
    running := fun x mem => h.running x (perm.mem_iff.mp mem)
    made := fun x mem => h.made x (perm.mem_iff.mp mem) }

theorem verdictOn_eq_ready {σ : String → Standing} {id : String} :
    verdictOn plan σ id = .ready ↔ plan.admission σ id = .executed := by
  unfold verdictOn
  split <;> simp [*]

/-- The end of a stage: its outcomes are recorded in the order in which they complete, and then the
failures among them, which come after so many earlier ones, are marked. -/
def conclude (plan : Plan) (executions : List (String × Execution)) (earlier : Nat) :
    RunM Unit := do
  match ← consume plan (completionOrder executions) with
  | some (id, stop) => throw (.failed (some id) stop.message)
  | none => escalate plan ((← get).failures.drop earlier)

/-- Once all outcomes of a stage are recorded, its failures are marked and searched for a doomed
one. -/
theorem conclude_recorded {executions : List (String × Execution)}
    (recorded : (consume plan (completionOrder executions)).on p = (.ok none, q)) (earlier : Nat) :
    (conclude plan executions earlier).on p =
      (failDoomed plan (q.failures.drop earlier)).on
        (q.escalated (q.failures.drop earlier)) := by
  rw [conclude, RunM.on_bind_ok recorded]
  rfl

/-- Once the admitted nodes have been started and executed, a stage has to be concluded. -/
theorem dispatch_on {admitted : List (String × Inputs)} {r : Progress}
    {executions : List (String × Execution)} (start : (startAll plan admitted).on p = (.ok (), q))
    (execute : (executeAll plan exec admitted).on q = (.ok executions, r)) (earlier : Nat) :
    (do
      dispatch plan exec admitted
      escalate plan ((← get).failures.drop earlier) : RunM Unit).on p =
    (conclude plan executions earlier).on r := by
  unfold dispatch conclude
  rw [RunM.on_bind, RunM.on_bind_ok start, RunM.on_bind_ok execute, RunM.on_bind, RunM.on_bind]
  cases (consume plan (completionOrder executions)).on r with
  | mk result t =>
      cases result with
      | error stop => rfl
      | ok trouble => cases trouble <;> rfl

theorem open_stage (exec : Executor) (payload : Value) (h : Reached plan exec done p)
    (follows : plan.Follows done stage) {marks : Table String}
    (kept : ∀ i ∉ stage, marks.get? i = p.blockedBy.get? i) :
    ∃ admitted executions q t r,
      (admitAll plan payload (stage.map fun id => (id, verdictOn plan p.standing id))).on
        (p.marked marks) = (.ok admitted, q) ∧
      q.failures = p.failures ∧
      (startAll plan admitted).on q = (.ok (), t) ∧
      (executeAll plan exec admitted).on t = (.ok executions, r) ∧
      Opened plan exec payload stage p marks executions r := by
  have waiting := fun id mem => h.pending id (follows.known id mem) (follows.fresh id mem)
  have apart : ∀ id ∈ stage, ∀ e ∈ plan.incoming id, e.source ∈ done ∧ e.source ∉ stage :=
    fun id mem e he =>
      ⟨follows.fed id mem e he, fun now => follows.fresh _ now (follows.fed id mem e he)⟩
  obtain ⟨admitted, q, enter, quiet, names, has, gathered⟩ :=
    admitAll_on (p := p.marked marks) payload (verdictOn plan p.standing)
      follows.nodup h.unsealed (fun id mem => (waiting id mem).1) fun id mem e he =>
        ⟨(h.settled (apart id mem e he).1).congr rfl (kept _ (apart id mem e he).2) rfl,
          (apart id mem e he).2⟩
  have chosen : ∀ {id : String}, id ∈ admitted.map Prod.fst ↔
      id ∈ stage ∧ plan.admission p.standing id = .executed := by
    intro id
    rw [names, List.mem_filter, decide_eq_true_eq, verdictOn_eq_ready]
  have nodup : (admitted.map Prod.fst).Nodup := names ▸ follows.nodup.filter _
  obtain ⟨t, start, quiet', running⟩ := startAll_on nodup quiet.unsealed fun x hx => by
    obtain ⟨mem, fit⟩ := chosen.mp (List.mem_map_of_mem hx)
    simpa [verdictOn_eq_ready.mpr fit] using has x.1 mem
  obtain ⟨executions, calls, execute, same, made⟩ := executeAll_on (p := t) exec fun x hx =>
    (running x hx).1
  have within : ∀ id ∈ admitted.map Prod.fst, id ∈ stage := fun id mem => (chosen.mp mem).1
  have all := quiet.trans (quiet'.mono within)
  refine ⟨admitted, executions, q, t, _, enter, ?_, start, execute, ?_⟩
  · rw [quiet.rest]
    rfl
  · have rest := all.rest
    refine ⟨?_, same ▸ nodup, same ▸ chosen, ?_, ?_, ?_, ?_, ?_, ?_, ?_, ?_⟩
    · have moved : (p.marked marks).Moved stage t := all.toMoved.mono (by simp)
      exact ⟨moved.others, moved.unsealed, moved.copying, moved.faithful⟩
    · intro x hx
      have mem : x.1 ∈ admitted.map Prod.fst := same ▸ List.mem_map_of_mem hx
      obtain ⟨a, ha, eq⟩ := List.mem_map.mp mem
      exact eq ▸ running a ha
    · intro x hx
      obtain ⟨n, inputs, node, mem, made⟩ := made x hx
      exact ⟨n, inputs, node, (gathered _ mem).congr fun _ => rfl, made⟩
    · intro id mem unfit
      have skipped := has id mem
      rw [if_neg fun ready => unfit (verdictOn_eq_ready.mp ready)] at skipped
      exact skipped.congr (quiet'.others id fun now => unfit (chosen.mp now).2)
    · intro id mem
      rw [← (waiting id mem).2]
      exact all.outputs id
    all_goals
      rw [rest]
      rfl

theorem completionOrder_perm (executions : List (String × Execution)) :
    (completionOrder executions).Perm executions := ranked_perm _ executions

theorem mem_failedOf {executions : List (String × Execution)} {id : String} :
    id ∈ failedOf executions ↔
      ∃ x ∈ executions, x.1 = id ∧ x.2.outcome.standing = .failed := by
  simp only [failedOf, List.mem_map, List.mem_filter, decide_eq_true_eq]
  constructor
  · rintro ⟨x, ⟨mem, failed⟩, same⟩
    exact ⟨x, mem, same, failed⟩
  · rintro ⟨x, mem, same, failed⟩
    exact ⟨x, ⟨mem, failed⟩, same⟩

section

variable {marks : Table String} {executions : List (String × Execution)} {r t : Progress}

/-- The nodes of a stage that end failed are those whose executions failed. -/
theorem Opened.failed_iff (opened : Opened plan exec payload stage p marks executions r)
    (all : Recorded r executions t) {id : String} (now : id ∈ stage) :
    (t.escalated (failedOf executions)).standing id = .failed ↔ id ∈ failedOf executions := by
  rw [mem_failedOf]
  constructor
  · intro ended
    obtain ⟨s, found, failed⟩ := Progress.standing_eq_failed_iff.mp ended
    by_cases fit : plan.admission p.standing id = .executed
    · obtain ⟨x, mem, rfl⟩ := List.mem_map.mp (opened.chosen.mpr ⟨now, fit⟩)
      refine ⟨x, mem, rfl, ?_⟩
      rw [← (all.shown x mem).standing]
      exact Progress.standing_eq_failed_iff.mpr ⟨s, found, failed⟩
    · obtain ⟨-, s', found', skipped⟩ := (opened.skipped id now fit).congr
        (all.moved.others id fun mem => fit (opened.chosen.mp mem).2)
      cases found.symm.trans found'
      rw [failed] at skipped
      cases skipped
  · rintro ⟨x, mem, rfl, failed⟩
    have shown : (t.escalated (failedOf executions)).Shows x.1 x.2.outcome :=
      (all.shown x mem).congr rfl
    exact shown.standing.trans failed

theorem Opened.fit_of_failed (opened : Opened plan exec payload stage p marks executions r)
    {id : String} (mem : id ∈ failedOf executions) :
    id ∈ stage ∧ plan.admission p.standing id = .executed := by
  obtain ⟨x, hx, rfl, -⟩ := mem_failedOf.mp mem
  exact opened.chosen.mp (List.mem_map_of_mem hx)

/-- The recorded outcomes leave a node alone that is not executed. -/
theorem Opened.get?_unfit (opened : Opened plan exec payload stage p marks executions r)
    (all : Recorded r executions t) {id : String}
    (unfit : plan.admission p.standing id ≠ .executed) : t.state.get? id = r.state.get? id :=
  all.moved.others id fun mem => unfit (opened.chosen.mp mem).2

theorem Opened.output_unfit (opened : Opened plan exec payload stage p marks executions r)
    (all : Recorded r executions t) {id : String} (now : id ∈ stage)
    (unfit : plan.admission p.standing id ≠ .executed) : t.state.output id = .null := by
  rw [← opened.blank id now]
  unfold RunState.output
  rw [opened.get?_unfit all unfit]

/-- An executed node shows the outcome of its execution, and that could be copied. -/
theorem Opened.shows_fit (opened : Opened plan exec payload stage p marks executions r)
    (all : Recorded r executions t) {id : String} (now : id ∈ stage)
    (fit : plan.admission p.standing id = .executed) :
    ∃ n inputs, plan.nodes.get? id = some n ∧ inputs.Gathered payload p ∧
      (t.escalated (failedOf executions)).Shows id (exec n inputs).outcome ∧
      ∃ copy, p.trace.copied (exec n inputs).outcome.shown = .ok copy := by
  obtain ⟨x, mem, rfl⟩ := List.mem_map.mp (opened.chosen.mpr ⟨now, fit⟩)
  obtain ⟨n, inputs, node, gathered, made⟩ := opened.made x mem
  obtain ⟨copy, copied⟩ := all.copied x mem
  rw [Recorder.copied_congr opened.moved.copying, made] at copied
  exact ⟨n, inputs, node, gathered, made ▸ (all.shown x mem).congr rfl, copy, copied⟩

theorem Opened.marks_escalated (opened : Opened plan exec payload stage p marks executions r)
    (h : Reached plan exec done p) (follows : plan.Follows done stage)
    (marked : ∀ i, marks.get? i =
      if i ∈ stage ∧ plan.admission p.standing i = .blocked then plan.origin? p i
      else p.blockedBy.get? i)
    (all : Recorded r executions t) {id : String} (now : id ∈ stage) :
    (t.escalated (failedOf executions)).blockedBy.get? id =
      if plan.admission p.standing id = .blocked then plan.origin? p id
      else if (t.escalated (failedOf executions)).standing id = .failed then some id
      else none := by
  rw [escalated_get?, all.marks, opened.marks, marked]
  by_cases blocked : plan.admission p.standing id = .blocked
  · have unfit : id ∉ failedOf executions := fun mem => by
      have fit := (opened.fit_of_failed mem).2
      rw [blocked] at fit
      cases fit
    rw [if_neg unfit, if_pos ⟨now, blocked⟩, if_pos blocked]
  · have free : ¬(id ∈ stage ∧ plan.admission p.standing id = .blocked) := fun both =>
      blocked both.2
    rw [if_neg free, if_neg blocked, h.unmarked id (follows.fresh id now)]
    by_cases mem : id ∈ failedOf executions
    · rw [if_pos mem, if_pos ((opened.failed_iff all now).mpr mem)]
    · rw [if_neg mem, if_neg fun ended => mem ((opened.failed_iff all now).mp ended)]

theorem Opened.copied_output (opened : Opened plan exec payload stage p marks executions r)
    (all : Recorded r executions t) {id : String} (now : id ∈ stage) :
    ∃ copy, p.trace.copied ((t.escalated (failedOf executions)).state.output id) = .ok copy := by
  by_cases fit : plan.admission p.standing id = .executed
  · obtain ⟨n, inputs, -, -, shown, copy, copied⟩ := opened.shows_fit all now fit
    rw [shown.output]
    exact Outcome.copied_output copied
  · exact ⟨.null, (opened.output_unfit all now fit).symm ▸ Recorder.copied_null _⟩

/-- A stage that asks for no cancellation leaves the signal as it was. -/
theorem Opened.signal_quiet (opened : Opened plan exec payload stage p marks executions r)
    (all : Recorded r executions t)
    (quiet : ∀ id ∈ stage, ∀ n inputs, plan.nodes.get? id = some n → inputs.Gathered payload p →
      (exec n inputs).cancels = none) :
    (t.escalated (failedOf executions)).signal = p.signal := by
  change t.signal = _
  rw [all.signal, opened.signal]
  refine heardFrom_quiet (fun x mem => ?_) _
  obtain ⟨n, inputs, node, gathered, made⟩ := opened.made x mem
  rw [made]
  exact quiet x.1 (opened.chosen.mp (List.mem_map_of_mem mem)).1 n inputs node gathered

/-- A stage in which one executed node alone asks for the cancellation leaves the signal so. -/
theorem Opened.signal_asked (opened : Opened plan exec payload stage p marks executions r)
    (all : Recorded r executions t) {id : String} {reason : Option String} (now : id ∈ stage)
    (fit : plan.admission p.standing id = .executed)
    (sets : ∀ i ∈ stage, ∀ n inputs, plan.nodes.get? i = some n →
      (exec n inputs).cancels = if i = id then some reason else none) :
    (t.escalated (failedOf executions)).signal = some reason := by
  have set : ∀ x ∈ executions, x.2.cancels = if x.1 = id then some reason else none := by
    intro x mem
    obtain ⟨n, inputs, node, -, made⟩ := opened.made x mem
    rw [made]
    exact sets x.1 (opened.chosen.mp (List.mem_map_of_mem mem)).1 n inputs node
  obtain ⟨x, mem, rfl⟩ := List.mem_map.mp (opened.chosen.mpr ⟨now, fit⟩)
  change t.signal = _
  rw [all.signal]
  refine heardFrom_eq (fun y mem => ?_) (.inr ⟨x, mem, by rw [set x mem, if_pos rfl]⟩)
  rw [set y mem]
  split
  · exact .inr rfl
  · exact .inl rfl

/-- An open stage whose outcomes are all recorded, with its failures marked, is one more stage. -/
theorem Opened.advance (opened : Opened plan exec payload stage p marks executions r)
    (h : Reached plan exec done p) (follows : plan.Follows done stage)
    (clear : ∀ id ∈ stage, plan.failsAt p.standing id = false)
    (marked : ∀ i, marks.get? i =
      if i ∈ stage ∧ plan.admission p.standing i = .blocked then plan.origin? p i
      else p.blockedBy.get? i)
    (all : Recorded r executions t) :
    Advance plan exec payload stage p (t.escalated (failedOf executions)) := by
  have within : ∀ id ∈ executions.map Prod.fst, id ∈ stage := fun id mem =>
    (opened.chosen.mp mem).1
  have whole := opened.moved.trans (all.moved.mono within)
  exact {
    unsealed := whole.unsealed
    copying := whole.copying
    faithful := whole.faithful
    copied := fun id now => opened.copied_output all now
    clear
    others := fun id old => whole.others id (by simpa using old)
    executed := by
      intro id now fit
      obtain ⟨n, inputs, node, gathered, shown, -⟩ := opened.shows_fit all now fit
      exact ⟨n, inputs, node, gathered, shown⟩
    skipped := fun id now unfit =>
      (opened.skipped id now unfit).congr (opened.get?_unfit all unfit)
    blank := fun id now unfit => opened.output_unfit all now unfit
    unmarked := by
      intro id old
      rw [escalated_get?, if_neg fun mem => old (opened.fit_of_failed mem).1, all.marks,
        opened.marks, marked, if_neg fun now => old now.1]
    marks := fun id now => opened.marks_escalated h follows marked all now
    caused := fun id now ended => all.caused id ((opened.failed_iff all now).mp ended)
    errors := fun id old => opened.errors ▸ all.errors id fun mem => old (within id mem)
    signal := opened.signal_quiet all
    asked := opened.signal_asked all }

end

inductive StageEnd (plan : Plan) (exec : Executor) (payload : Value) (stage : List String)
    (p : Progress) : Except Stop Unit × Progress → Prop where
  | blocked {id origin : String} {failure : NodeFailure} {marks : Table String}
      (first : stage.find? (plan.failsAt p.standing) = some id)
      (blame : plan.origin? p id = some origin)
      (kept : ∀ i ∉ stage, marks.get? i = p.blockedBy.get? i)
      (cause : p.errors.get? origin = some failure) :
      StageEnd plan exec payload stage p
        (.error (.failed (some origin) failure.message), p.marked marks)
  | cancelled {id message : String} {n : Node} {inputs : Inputs} {q : Progress} (mem : id ∈ stage)
      (node : plan.nodes.get? id = some n) (gathered : inputs.Gathered payload p)
      (outcome : (exec n inputs).outcome = .cancelled message) :
      StageEnd plan exec payload stage p (.error (.cancelled message), q)
  | refused {id : String} {n : Node} {inputs : Inputs} {f : Fault} {q : Progress} (mem : id ∈ stage)
      (node : plan.nodes.get? id = some n) (gathered : inputs.Gathered payload p)
      (copied : p.trace.copied (exec n inputs).outcome.shown = .error f)
      (unsealed : q.trace.sealedTrace = none) :
      StageEnd plan exec payload stage p (.error (.failed (some id) (Stop.fault f).message), q)
  | doomed {id : String} {failure : NodeFailure} {q : Progress}
      (adv : Advance plan exec payload stage p q) (mem : id ∈ stage)
      (failed : q.standing id = .failed) (doom : isDoomed plan q id = true)
      (cause : q.errors.get? id = some failure) :
      StageEnd plan exec payload stage p (.error (.failed (some id) failure.message), q)
  | passed {q : Progress} (adv : Advance plan exec payload stage p q)
      (free : ∀ id ∈ stage, q.standing id = .failed → isDoomed plan q id = false) :
      StageEnd plan exec payload stage p (.ok (), q)

/-- The judgement of a stage that follows what a run has reached. -/
theorem judgeAll_on (h : Reached plan exec done p) (follows : plan.Follows done stage) :
    Judged plan p stage p.blockedBy stage ((judgeAll plan stage).on p) :=
  judgeAll_cases (fun _ mem => mem)
    (fun id mem e he => ⟨h.settled (follows.fed id mem e he), fun now =>
      follows.fresh _ now (follows.fed id mem e he)⟩) fun _ _ => rfl

/-- A stage is opened: none of its output nodes is blocked, the nodes that a failure blocks are
marked, and the fit ones are admitted, started and executed. -/
structure Opens (plan : Plan) (exec : Executor) (payload : Value) (stage : List String)
    (p : Progress) (marks : Table String) (admitted : List (String × Inputs))
    (executions : List (String × Execution)) (r : Progress) : Prop where
  clear : ∀ id ∈ stage, plan.failsAt p.standing id = false
  marked : ∀ i, marks.get? i =
    if i ∈ stage ∧ plan.admission p.standing i = .blocked then plan.origin? p i
    else p.blockedBy.get? i
  steps : ∃ q t, (admitAll plan payload (stage.map fun id => (id, verdictOn plan p.standing id))).on
        (p.marked marks) = (.ok admitted, q) ∧
      (startAll plan admitted).on q = (.ok (), t) ∧
      (executeAll plan exec admitted).on t = (.ok executions, r)
  opened : Opened plan exec payload stage p marks executions r

/-- How a stage goes: an output node of it is blocked, or it is opened and has to be concluded. -/
inductive StageRun (plan : Plan) (exec : Executor) (payload : Value) (stage : List String)
    (p : Progress) : Except Stop Unit × Progress → Prop where
  | blocked {id origin : String} {failure : NodeFailure} {marks : Table String}
      (first : stage.find? (plan.failsAt p.standing) = some id)
      (blame : plan.origin? p id = some origin)
      (kept : ∀ i ∉ stage, marks.get? i = p.blockedBy.get? i)
      (cause : p.errors.get? origin = some failure) :
      StageRun plan exec payload stage p
        (.error (.failed (some origin) failure.message), p.marked marks)
  | opened {marks : Table String} {admitted : List (String × Inputs)}
      {executions : List (String × Execution)} {r : Progress}
      (opens : Opens plan exec payload stage p marks admitted executions r) :
      StageRun plan exec payload stage p ((conclude plan executions p.failures.length).on r)

theorem runStage_run (payload : Value) (h : Reached plan exec done p)
    (follows : plan.Follows done stage) :
    StageRun plan exec payload stage p ((runStage plan exec payload stage).on p) := by
  have judged := judgeAll_on h follows
  unfold runStage
  rw [RunM.on_bind]
  generalize (judgeAll plan stage).on p = result at judged
  cases judged with
  | failed first blame cause kept => exact .blocked first blame kept cause
  | judged clear marked =>
      obtain ⟨admitted, executions, q, t, r, enter, failures, start, execute, opened⟩ :=
        open_stage exec payload h follows fun i new => by
          rw [marked, if_neg fun now => new now.1]
      dsimp only
      rw [RunM.on_bind_ok enter, ending_on, failures, dispatch_on start execute]
      exact .opened ⟨clear, marked, ⟨q, t, enter, start, execute⟩, opened⟩

/-- The executions of a stage may be consumed in the order in which they complete. -/
theorem Opens.consumed {marks : Table String} {admitted : List (String × Inputs)}
    {executions : List (String × Execution)} {r : Progress}
    (opens : Opens plan exec payload stage p marks admitted executions r) :
    Consumed r (completionOrder executions) ((consume plan (completionOrder executions)).on r) := by
  have opened := opens.opened.perm (completionOrder_perm executions)
  refine consume_cases opened.nodup opened.moved.unsealed fun x mem => ?_
  have here := (opened.chosen.mp (List.mem_map_of_mem mem)).1
  exact ⟨opened.running x mem, opened.blank x.1 here⟩

theorem runStage_cases (payload : Value) (h : Reached plan exec done p)
    (follows : plan.Follows done stage) :
    StageEnd plan exec payload stage p ((runStage plan exec payload stage).on p) := by
  have run := runStage_run payload h follows
  generalize (runStage plan exec payload stage).on p = result at run
  cases run with
  | blocked first blame kept cause => exact .blocked first blame kept cause
  | @opened _ _ executions r opens =>
      have opened := opens.opened.perm (completionOrder_perm executions)
      have within : ∀ x ∈ completionOrder executions, x.1 ∈ stage := fun x mem =>
        (opened.chosen.mp (List.mem_map_of_mem mem)).1
      have consumed := opens.consumed
      cases ran : (consume plan (completionOrder executions)).on r with
      | mk result t =>
          rw [ran] at consumed
          cases consumed with
          | cancelled mem outcome =>
              rw [conclude, RunM.on_bind, ran]
              obtain ⟨n, inputs, node, gathered, made⟩ := opened.made _ mem
              exact .cancelled (within _ mem) node gathered (made ▸ outcome)
          | refused mem copied unsealed =>
              rw [conclude, RunM.on_bind, ran]
              obtain ⟨n, inputs, node, gathered, made⟩ := opened.made _ mem
              refine .refused (within _ mem) node gathered ?_ unsealed
              rw [← made, ← Recorder.copied_congr opened.moved.copying, copied]
          | recorded all =>
              have adv := opened.advance h follows opens.clear opens.marked all
              rw [conclude_recorded ran, all.failures, opened.failures, List.drop_left]
              rcases failDoomed_cases (p := t.escalated _) all.caused with
                ⟨id, failure, first, cause, run⟩ | ⟨free, run⟩
              · have mem := List.mem_of_find?_eq_some first
                have doom := List.find?_some first
                obtain ⟨x, hx, rfl, -⟩ := mem_failedOf.mp mem
                rw [run]
                have failed := (opened.failed_iff all (within x hx)).mpr mem
                exact .doomed adv (within x hx) failed doom cause
              · rw [run]
                exact .passed adv fun id now failed =>
                  free id ((opened.failed_iff all now).mp failed)

theorem runStage_advance (h : Reached plan exec done p) (follows : plan.Follows done stage)
    {u : Unit} (ran : (runStage plan exec payload stage).on p = (.ok u, q)) :
    Advance plan exec payload stage p q := by
  have end' := runStage_cases payload h follows
  rw [ran] at end'
  cases end' with
  | passed adv _ => exact adv

theorem runStage_reached (h : Reached plan exec done p) (follows : plan.Follows done stage)
    {u : Unit} (ran : (runStage plan exec payload stage).on p = (.ok u, q)) :
    Reached plan exec (done ++ stage) q :=
  h.advance follows (runStage_advance h follows ran)

end Scheduler

end Workflow
