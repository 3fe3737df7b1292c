import Workflow.Proofs.Run.Abreast
import Workflow.Proofs.Run.Settlement

/-! Two runs in step. A stage that finds two runs alike comes to the same end in both, and if it
goes by it leaves them alike. -/

namespace Workflow

/-- The outcomes of a stage are all recorded, whatever its nodes are given. -/
def Executor.Records (exec : Executor) (plan : Plan) (payload : Value) (stage : List String)
    (p : Progress) : Prop :=
  ∀ id ∈ stage, ∀ n inputs, plan.nodes.get? id = some n → inputs.Gathered payload p →
    (∀ message, (exec n inputs).outcome ≠ .cancelled message) ∧
      ∃ copy, p.trace.copied (exec n inputs).outcome.shown = .ok copy

variable {v : View} {plan : Plan} {exec exec' : Executor} {payload : Value}
  {done stage : List String} {p p' q q' r r' : Progress} {marks marks' : Table String}
  {admitted admitted' : List (String × Inputs)} {executions others : List (String × Execution)}

namespace Scheduler

theorem failedOf_filter (executions : List (String × Execution)) :
    (failedOf executions).filter v.shows = failedOf (executions.filter fun x => v.shows x.1) := by
  unfold failedOf
  rw [List.filter_map, List.filter_filter, List.filter_filter]
  congr 1
  exact List.filter_congr fun x _ => Bool.and_comm _ _

theorem failedOf_twins (likewise : exec.Likewise exec' plan v)
    (twins : List.Forall₂ (Twin plan exec exec' v) executions others) :
    failedOf executions = failedOf others := by
  induction twins with
  | nil => rfl
  | @cons x y rest rest' twin _ ih =>
      have outcome := likewise.twin_outcome twin
      unfold failedOf at ih ⊢
      rw [List.filter_cons, List.filter_cons, outcome]
      split
      · rw [List.map_cons, List.map_cons, ih, twin.1]
      · exact ih

/-- The steps that open a stage leave two runs alike, and the executions that are seen are those of
the same nodes on the same inputs. -/
theorem Opens.twins (closed : v.Closed plan)
    (opens : Opens plan exec payload stage p marks admitted executions r)
    (opens' : Opens plan exec' payload stage p' marks' admitted' others r')
    (alike : p.Alike v p') :
    r.Alike v r' ∧ List.Forall₂ (Twin plan exec exec' v)
      (executions.filter fun x => v.shows x.1) (others.filter fun x => v.shows x.1) := by
  obtain ⟨s, t, enter, start, execute⟩ := opens.steps
  obtain ⟨s', t', enter', start', execute'⟩ := opens'.steps
  have marked : (p.marked marks).Alike v (p'.marked marks') := by
    refine ⟨alike.state, alike.trace, alike.errors, fun {i} shown => ?_⟩
    change marks.get? i = marks'.get? i
    rw [opens.marked, opens'.marked, alike.admission closed shown, alike.origin? closed shown,
      alike.marks shown]
  -- The verdicts on the nodes that are seen.
  have judged : (stage.map fun id => (id, verdictOn plan p.standing id)).filter
        (fun x => v.shows x.1) =
      (stage.map fun id => (id, verdictOn plan p'.standing id)).filter fun x => v.shows x.1 := by
    rw [List.filter_map, List.filter_map]
    refine List.map_congr_left fun id mem => ?_
    have shown : v.shows id = true := (List.mem_filter.mp mem).2
    rw [verdictOn, alike.admission closed shown, verdictOn]
  obtain ⟨u, run, last⟩ := admitAll_seen closed (.refl marked.trace.unsealed) enter
  obtain ⟨u', run', last'⟩ := admitAll_seen closed marked.symm enter'
  rw [judged] at run
  obtain ⟨same, rfl⟩ := Prod.mk.inj (run.symm.trans run')
  have names := Except.ok.inj same
  have entered : s.Alike v s' := last.trans last'.symm
  obtain ⟨w, run, last⟩ := startAll_seen (v := v) (.refl entered.trace.unsealed) start
  obtain ⟨w', run', last'⟩ := startAll_seen entered.symm start'
  rw [names] at run
  obtain ⟨-, rfl⟩ := Prod.mk.inj (run.symm.trans run')
  have started : t.Alike v t' := last.trans last'.symm
  obtain ⟨made, kept⟩ := executeAll_ok execute
  obtain ⟨made', kept'⟩ := executeAll_ok execute'
  constructor
  · rw [kept, kept']
    exact ⟨started.state, started.trace, started.errors, started.marks⟩
  · rw [made, made', executed_filter, executed_filter, names]
    exact executed_twins exec exec' fun x mem => (List.mem_filter.mp mem).2

theorem Opens.records (opens : Opens plan exec payload stage p marks admitted executions r)
    (records : exec.Records plan payload stage p) :
    ∃ t, (consume plan (completionOrder executions)).on r = (.ok none, t) := by
  have opened := opens.opened.perm (completionOrder_perm executions)
  have recorded : ∀ x ∈ completionOrder executions,
      (∀ message, x.2.outcome ≠ .cancelled message) ∧
        ∃ copy, r.trace.copied x.2.outcome.shown = .ok copy := by
    intro x mem
    obtain ⟨n, inputs, node, gathered, made⟩ := opened.made x mem
    have here := (opened.chosen.mp (List.mem_map_of_mem mem)).1
    obtain ⟨calm, copy, copied⟩ := records x.1 here n inputs node gathered
    rw [made, Recorder.copied_congr opened.moved.copying]
    exact ⟨calm, copy, copied⟩
  have consumed := opens.consumed
  generalize (consume plan (completionOrder executions)).on r = result at consumed
  cases consumed with
  | cancelled mem outcome => exact absurd outcome ((recorded _ mem).1 _)
  | refused mem copied =>
      obtain ⟨copy, copied'⟩ := (recorded _ mem).2
      cases copied.symm.trans copied'
  | recorded all => exact ⟨_, rfl⟩

theorem Opens.reaches (opens : Opens plan exec payload stage p marks admitted executions r)
    (h : Reached plan exec done p) (follows : plan.Follows done stage) {t : Progress}
    (all : Recorded r (completionOrder executions) t) :
    Reached plan exec (done ++ stage) (t.escalated (failedOf (completionOrder executions))) ∧
      t.failures.drop p.failures.length = failedOf (completionOrder executions) ∧
      ∀ id ∈ failedOf (completionOrder executions), id ∈ plan.nodes.keys := by
  have opened := opens.opened.perm (completionOrder_perm executions)
  refine ⟨h.advance follows (opened.advance h follows opens.clear opens.marked all), ?_, ?_⟩
  · rw [all.failures, opened.failures, List.drop_left]
  · exact fun id mem => follows.known id (opened.fit_of_failed mem).1

theorem Opens.concur (sound : plan.Sound) (closed : v.Closed plan)
    (likewise : exec.Likewise exec' plan v) (h : Reached plan exec done p)
    (h' : Reached plan exec' done p') (follows : plan.Follows done stage)
    (opens : Opens plan exec payload stage p marks admitted executions r)
    (opens' : Opens plan exec' payload stage p' marks' admitted' others r')
    (alike : p.Alike v p')
    (calm : (∀ id, v.shows id = true) ∨
      exec.Records plan payload stage p ∧ exec'.Records plan payload stage p') :
    Concur v ((conclude plan executions p.failures.length).on r)
      ((conclude plan others p'.failures.length).on r') := by
  obtain ⟨opened, twins⟩ := opens.twins closed opens' alike
  have ordered := completionOrder_twins likewise twins
  have agree := consume_agree likewise ordered opened <| calm.imp_right fun both => by
    obtain ⟨records, records'⟩ := both
    obtain ⟨t, ran⟩ := opens.records records
    obtain ⟨t', ran'⟩ := opens'.records records'
    exact ⟨t, t', ran, ran'⟩
  have consumed := opens.consumed
  have consumed' := opens'.consumed
  obtain ⟨result, t, t', ran, ran', alike⟩ := agree.cases
  rw [ran] at consumed
  rw [ran'] at consumed'
  rcases result with stop | (_ | ⟨id, stop⟩)
  · rw [conclude, RunM.on_bind, ran, conclude, RunM.on_bind, ran']
    exact .stopped alike.trace
  · obtain ⟨reached, new, known⟩ := opens.reaches h follows consumed.all
    obtain ⟨reached', new', known'⟩ := opens'.reaches h' follows consumed'.all
    have same : (failedOf (completionOrder executions)).filter v.shows =
        (failedOf (completionOrder others)).filter v.shows := by
      rw [failedOf_filter, failedOf_filter]
      exact failedOf_twins likewise ordered
    rw [conclude_recorded ran, conclude_recorded ran', new, new']
    exact failDoomed_concur sound closed (alike.escalated same)
      (fun e edge => reached.found (sound.joined e edge).1)
      (fun e edge => reached'.found (sound.joined e edge).1) same known known'
  · rw [conclude, RunM.on_bind, ran, conclude, RunM.on_bind, ran']
    exact .stopped alike.trace

/-- Two runs that are alike come to the same end in a stage, unless what is hidden disturbs one of
them. -/
theorem runStage_concur (payload : Value) (sound : plan.Sound) (closed : v.Closed plan)
    (likewise : exec.Likewise exec' plan v) (h : Reached plan exec done p)
    (h' : Reached plan exec' done p') (follows : plan.Follows done stage) (alike : p.Alike v p')
    (calm : (∀ id, v.shows id = true) ∨
      exec.Records plan payload stage p ∧ exec'.Records plan payload stage p') :
    Concur v ((runStage plan exec payload stage).on p)
      ((runStage plan exec' payload stage).on p') := by
  have run := runStage_run payload h follows
  have run' := runStage_run payload h' follows
  have fails := alike.failsAt closed
  generalize (runStage plan exec payload stage).on p = result at run
  generalize (runStage plan exec' payload stage).on p' = result' at run'
  cases run with
  | @blocked id origin failure marks first blame kept cause =>
      cases run' with
      | @blocked id' origin' failure' marks' first' blame' kept' cause' =>
          rw [fails] at first
          cases first.symm.trans first'
          -- The output node is seen, hence the failure that blocks it, hence its cause.
          have shown : v.shows id = true := by
            have failing := List.find?_some first
            exact closed.outputs (Bool.and_eq_true_iff.mp failing).1
          rw [alike.origin? closed shown] at blame
          cases blame.symm.trans blame'
          have seen : v.shows origin = true := by
            obtain ⟨e, first, marked⟩ := Option.bind_eq_some_iff.mp blame
            exact Progress.Alike.blames_shown closed (h'.blamed marked)
              (closed.incoming shown e (List.mem_of_find?_eq_some first))
          rw [alike.errors seen] at cause
          cases cause.symm.trans cause'
          exact .stopped alike.trace
      | opened opens' =>
          have failing := List.find?_some first
          rw [fails, opens'.clear id (List.mem_of_find?_eq_some first)] at failing
          cases failing
  | opened opens =>
      cases run' with
      | @blocked id' origin' failure' marks' first' blame' kept' cause' =>
          have failing := List.find?_some first'
          rw [← fails, opens.clear id' (List.mem_of_find?_eq_some first')] at failing
          cases failing
      | opened opens' => exact opens.concur sound closed likewise h h' follows opens' alike calm

/-- Nothing cancels two runs in a stage, and what is hidden does not disturb them. -/
structure Safe (v : View) (plan : Plan) (exec exec' : Executor) (payload : Value)
    (stage : List String) (p p' : Progress) : Prop where
  calm : (∀ id, v.shows id = true) ∨
    exec.Records plan payload stage p ∧ exec'.Records plan payload stage p'
  quiet : ∀ id ∈ stage, ∀ n inputs, plan.nodes.get? id = some n → inputs.Gathered payload p →
    (exec n inputs).cancels = none
  quiet' : ∀ id ∈ stage, ∀ n inputs, plan.nodes.get? id = some n → inputs.Gathered payload p' →
    (exec' n inputs).cancels = none

/-- Two runs that start alike go by alike, as long as nothing cancels or disturbs them. -/
theorem runStages_concur (payload : Value) {I : Progress → Progress → Prop}
    {stages : List (List String)} (sound : plan.Sound) (closed : v.Closed plan)
    (likewise : exec.Likewise exec' plan v)
    (safe : ∀ stage ∈ stages, ∀ {p p'}, I p p' → Safe v plan exec exec' payload stage p p')
    (keeps : ∀ stage ∈ stages, ∀ {p p' q q'}, I p p' → Advance plan exec payload stage p q →
      Advance plan exec' payload stage p' q' → I q q')
    (layered : plan.Layered done stages) (h : Reached plan exec done p)
    (h' : Reached plan exec' done p') (alike : p.Alike v p') (start : I p p')
    (unasked : p.signal = none) (unasked' : p'.signal = none) :
    Concur v ((runStages plan exec payload stages).on p)
        ((runStages plan exec' payload stages).on p') ∧
      ∀ a, ((runStages plan exec payload stages).on p).1 = .ok a → a = none ∧
        I ((runStages plan exec payload stages).on p).2
          ((runStages plan exec' payload stages).on p').2 ∧
        ((runStages plan exec payload stages).on p).2.signal = none ∧
        ((runStages plan exec' payload stages).on p').2.signal = none := by
  -- `I` is kept by both runs together; it keeps what is hidden from disturbing either of them.
  induction stages generalizing done p p' with
  | nil =>
      refine ⟨.through alike, fun a through => ?_⟩
      cases through
      exact ⟨rfl, start, unasked, unasked'⟩
  | cons stage rest ih =>
      obtain ⟨follows, layered⟩ := layered
      obtain ⟨safe, laterSafe⟩ := List.forall_mem_cons.mp safe
      obtain ⟨keeps, laterKeeps⟩ := List.forall_mem_cons.mp keeps
      obtain ⟨calm, quiet, quiet'⟩ := safe start
      have concur := runStage_concur payload sound closed likewise h h' follows alike calm
      rw [runStages_cons, runStages_cons, unasked, unasked']
      dsimp only
      rw [RunM.on_bind, RunM.on_bind]
      rcases concur.cases with ⟨stop, q, q', ran, ran', traces⟩ | ⟨_, q, q', ran, ran', alike⟩
      · rw [ran, ran']
        refine ⟨.stopped traces, fun _ through => ?_⟩
        cases through
      · have adv := runStage_advance h follows ran
        have adv' := runStage_advance h' follows ran'
        rw [ran, ran']
        exact ih laterSafe laterKeeps layered (h.advance follows adv) (h'.advance follows adv')
          alike (keeps start adv adv') ((adv.signal quiet).trans unasked)
          ((adv'.signal quiet').trans unasked')

theorem recordPending_agree (nodes : List (String × Node)) (alike : p.Alike v p') :
    Agree v ((recordPending nodes).on p) ((recordPending nodes).on p') := by
  induction nodes generalizing p p' with
  | nil => exact ⟨rfl, alike⟩
  | cons x rest ih =>
      obtain ⟨id, n⟩ := x
      rw [recordPending_cons, recordPending_cons]
      rcases alike.trace.record_alike id n.kind.name .pending .null none with
        ⟨f, x, y, record, record', traces⟩ | ⟨e, f, x, y, record, record', traces⟩
      · rw [record, record']
        exact ⟨rfl, alike.state, traces, alike.errors, alike.marks⟩
      · rw [record, record']
        exact ih ⟨alike.state, traces, alike.errors, alike.marks⟩

theorem start_alike {setup setup' : Setup}
    (copying : setup.snapshotOutputs = setup'.snapshotOutputs)
    (ran : (recordPending plan.nodes).on (.start plan setup) = (.ok (), p))
    (ran' : (recordPending plan.nodes).on (.start plan setup') = (.ok (), p')) : p.Alike v p' := by
  have alike : (Progress.start plan setup).Alike v (Progress.start plan setup') :=
    ⟨⟨fun _ => rfl, rfl⟩, ⟨rfl, rfl, copying, rfl, rfl⟩, fun _ => rfl, fun _ => rfl⟩
  have agree := recordPending_agree plan.nodes alike
  rw [ran, ran'] at agree
  exact agree.alike

/-- What two runs deliver is the same: all output nodes are seen. -/
theorem finishedOutput?_alike (closed : v.Closed plan) (alike : p.Alike v p') :
    finishedOutput? plan p = finishedOutput? plan p' := by
  have shown : ∀ id ∈ plan.outputIds, v.shows id = true := fun id mem =>
    closed.outputs (mem_outputIds.mp mem)
  have ids : (plan.outputIds.filter fun id => p.state.hasStatus id .succeeded) =
      plan.outputIds.filter fun id => p'.state.hasStatus id .succeeded :=
    List.filter_congr fun id mem => alike.hasStatus (shown id mem) _
  rw [finishedOutput?_eq_gather, finishedOutput?_eq_gather, ids]
  exact Plan.gather_congr fun id mem => alike.output (shown id (List.mem_of_mem_filter mem))

end Scheduler

/-- Two results agree in a view: on the verdict, and on the events that are seen. -/
structure RunResult.Agree (v : View) (a b : RunResult) : Prop where
  status : a.status = b.status
  output : a.output = b.output
  failingNodeId : a.failingNodeId = b.failingNodeId
  cause : a.cause = b.cause
  events : v.events a.trace.events = v.events b.trace.events

namespace Scheduler

/-- Runs whose stages come to the same end come to results that agree, or to the same stop. -/
theorem RunEnd.agree (closed : v.Closed plan)
    {ended ended' : Except Stop (Option (Option String)) × Progress}
    {result result' : Except Stop RunResult × Progress} (concur : Concur v ended ended')
    (h : RunEnd plan ended result) (h' : RunEnd plan ended' result') :
    (∃ stop, result.1 = .error stop ∧ result'.1 = .error stop) ∨
      ∃ a b, result.1 = .ok a ∧ result'.1 = .ok b ∧ a.Agree v b := by
  obtain ⟨answer, traces, alike⟩ := concur
  obtain ⟨end', q⟩ := ended
  obtain ⟨end'', q'⟩ := ended'
  obtain rfl : end' = end'' := answer
  have agree : ∀ (status : RunStatus) (output copy : Value) (id cause : Option String),
      (q.result status output copy id cause).Agree v (q'.result status output copy id cause) :=
    fun _ _ _ _ _ => ⟨rfl, rfl, rfl, rfl, traces.events⟩
  cases h with
  | succeeded found copied =>
      have delivered := found.symm.trans (finishedOutput?_alike closed (alike _ rfl))
      cases h' with
      | succeeded found' copied' =>
          cases delivered.trans found'
          cases copied.symm.trans copied'
          exact .inr ⟨_, _, rfl, rfl, agree _ _ _ _ _⟩
      | uncopied found' copied' =>
          cases delivered.trans found'
          cases copied.symm.trans copied'
      | unreached found' => cases delivered.trans found'
  | uncopied found copied =>
      have delivered := found.symm.trans (finishedOutput?_alike closed (alike _ rfl))
      cases h' with
      | succeeded found' copied' =>
          cases delivered.trans found'
          cases copied.symm.trans copied'
      | uncopied found' copied' =>
          cases delivered.trans found'
          cases copied.symm.trans copied'
          exact .inl ⟨_, rfl, rfl⟩
      | unreached found' => cases delivered.trans found'
  | unreached found =>
      have delivered := found.symm.trans (finishedOutput?_alike closed (alike _ rfl))
      cases h' with
      | succeeded found' _ => cases delivered.trans found'
      | uncopied found' _ => cases delivered.trans found'
      | unreached _ => exact .inr ⟨_, _, rfl, rfl, agree _ _ _ _ _⟩
  | cancelled =>
      cases h' with
      | cancelled => exact .inr ⟨_, _, rfl, rfl, agree _ _ _ _ _⟩
  | failed =>
      cases h' with
      | failed => exact .inr ⟨_, _, rfl, rfl, agree _ _ _ _ _⟩
  | aborted =>
      cases h' with
      | aborted => exact .inl ⟨_, rfl, rfl⟩

end Scheduler

end Workflow
