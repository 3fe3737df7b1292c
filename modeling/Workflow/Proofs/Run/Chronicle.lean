import Workflow.Proofs.Run.Lives
import Workflow.Proofs.Run.Sight

/-! What a run writes down, stage by stage. The part of a stage has three sections: its nodes enter
or are skipped, those that entered start, and those that started end; between the starts and the
ends stand the calls. A stage behind another one is written down only where every node of that one
has ended. -/

namespace Workflow.Scheduler

variable {plan : Plan} {exec : Executor} {payload : Value} {done stage : List String}
  {stages : List (List String)} {p q : Progress}

def called (plan : Plan) (exec : Executor) (x : String × Inputs) : Option (String × Call) :=
  (plan.nodes.get? x.1).bind fun n => (exec n x.2).call.map (x.1, ·)

/-- What a stage tells and which calls it makes. Nothing comes of a stage that is shut, as where one
of its output nodes is blocked. -/
inductive Page (plan : Plan) (exec : Executor) (payload : Value) (p : Progress)
    (stage : List String) : List (String × NodeStatus) → List (String × Call) → Prop where
  | shut : Page plan exec payload p stage [] []
  | opened {admitted : List (String × Inputs)} {s : Progress}
      {entries ends : List (String × NodeStatus)}
      (enters : (enter plan payload stage).on p = (.ok admitted, s))
      (nodup : (admitted.map Prod.fst).Nodup)
      (within : ∀ id ∈ admitted.map Prod.fst, id ∈ stage)
      (entered : ∀ x ∈ entries, x.1 ∈ stage ∧
        (x.2 = .ready ∨ (x.2 = .skipped ∧ x.1 ∉ admitted.map Prod.fst)))
      (ended : ∀ x ∈ ends, x.1 ∈ admitted.map Prod.fst ∧ (x.2 = .succeeded ∨ x.2 = .failed)) :
      Page plan exec payload p stage
        (entries ++ admitted.map (fun x => (x.1, .running)) ++ ends)
        (admitted.filterMap (called plan exec))

/-- What the stages of a run tell and which calls they make, up to a cancellation or a stop. -/
inductive Chronicle (plan : Plan) (exec : Executor) (payload : Value) :
    Progress → List (List String) → List (String × NodeStatus) → List (String × Call) → Prop where
  | blank {p : Progress} {stages : List (List String)} : Chronicle plan exec payload p stages [] []
  | last {p : Progress} {stage : List String} {rest : List (List String)}
      {told : List (String × NodeStatus)} {calls : List (String × Call)}
      (unasked : p.signal = none) (page : Page plan exec payload p stage told calls) :
      Chronicle plan exec payload p (stage :: rest) told calls
  | next {p q : Progress} {stage : List String} {rest : List (List String)}
      {told later : List (String × NodeStatus)} {calls others : List (String × Call)}
      (unasked : p.signal = none) (page : Page plan exec payload p stage told calls)
      (ran : (runStage plan exec payload stage).on p = (.ok (), q))
      (whole : ∀ id ∈ stage, ∃ status : NodeStatus, status.isTerminal = true ∧ (id, status) ∈ told)
      (goesOn : Chronicle plan exec payload q rest later others) :
      Chronicle plan exec payload p (stage :: rest) (told ++ later) (calls ++ others)

def Writes (p q : Progress) (told : List (String × NodeStatus)) (calls : List (String × Call)) :
    Prop :=
  q.trace.told = p.trace.told ++ told ∧ q.calls = p.calls ++ calls

theorem Writes.refl (p : Progress) : Writes p p [] [] :=
  ⟨(List.append_nil _).symm, (List.append_nil _).symm⟩

theorem Writes.trans {r : Progress} {told later : List (String × NodeStatus)}
    {calls others : List (String × Call)} (first : Writes p q told calls)
    (second : Writes q r later others) : Writes p r (told ++ later) (calls ++ others) :=
  ⟨by rw [second.1, first.1, List.append_assoc], by rw [second.2, first.2, List.append_assoc]⟩

theorem writes_of_edits {may : String → NodeStatus → Prop} (edits : p.Edits plan exec may q)
    (still : ∀ id, ¬ may id .running) :
    ∃ told, Writes p q told [] ∧ ∀ x ∈ told, may x.1 x.2 := by
  obtain ⟨told, grown, allowed⟩ := edits.told
  obtain ⟨calls, made, running⟩ := edits.calls
  have none' : calls = [] := List.eq_nil_iff_forall_not_mem.mpr fun c mem => still _ (running c mem)
  exact ⟨told, ⟨grown, none' ▸ made⟩, allowed⟩

theorem admitAll_writes (exec : Executor) {verdicts : List (String × Verdict)}
    {admitted : List (String × Inputs)}
    (known : ∀ x ∈ verdicts, x.1 ∈ plan.nodes.keys)
    (ran : (admitAll plan payload verdicts).on p = (.ok admitted, q)) :
    ∃ entries, Writes p q entries [] ∧ ∀ x ∈ entries, following verdicts x.1 x.2 := by
  have goes : ((admitAll plan payload verdicts).on p).2 = q := congrArg Prod.snd ran
  have edits : p.Edits plan exec (following verdicts) q := by
    rw [← goes]
    exact admitAll_edits known fun _ _ h => h
  refine writes_of_edits edits ?_
  rintro id (⟨-, h⟩ | ⟨-, h⟩) <;> cases h

theorem startAll_writes {admitted : List (String × Inputs)}
    (ran : (startAll plan admitted).on p = (.ok (), q)) :
    Writes p q (admitted.map fun x => (x.1, .running)) [] := by
  induction admitted generalizing p with
  | nil =>
      cases ran
      exact .refl _
  | cons x rest ih =>
      obtain ⟨t, step, later⟩ := startAll_cons_ok ran
      obtain ⟨n, s, e, -, -, -, record, same⟩ := transition_ok step
      have first : Writes p t [(x.1, .running)] [] :=
        ⟨Recorder.told_of_record record, by rw [same, List.append_nil]⟩
      exact first.trans (ih later)

theorem executeAll_writes {admitted : List (String × Inputs)}
    {executions : List (String × Execution)}
    (ran : (executeAll plan exec admitted).on p = (.ok executions, q)) :
    Writes p q [] (admitted.filterMap (called plan exec)) := by
  induction admitted generalizing p executions with
  | nil =>
      cases ran
      exact .refl _
  | cons x rest ih =>
      obtain ⟨n, others, known, later, rfl⟩ := executeAll_cons_ok ran
      have first : Writes p { p with calls := p.calls ++ (exec n x.2).call.toList.map (x.1, ·) } []
          ((exec n x.2).call.toList.map (x.1, ·)) :=
        ⟨(List.append_nil _).symm, rfl⟩
      have now : called plan exec x = (exec n x.2).call.map (x.1, ·) := by
        rw [called, known]
        rfl
      have whole := first.trans (ih later)
      rw [List.filterMap_cons, now]
      cases call : (exec n x.2).call with
      | none => simpa [call] using whole
      | some c => simpa [call] using whole

theorem executeAll_names {admitted : List (String × Inputs)}
    {executions : List (String × Execution)}
    (ran : (executeAll plan exec admitted).on p = (.ok executions, q)) :
    executions.map Prod.fst = admitted.map Prod.fst := by
  induction admitted generalizing p executions with
  | nil =>
      cases ran
      rfl
  | cons x rest ih =>
      obtain ⟨n, others, -, later, rfl⟩ := executeAll_cons_ok ran
      rw [List.map_cons, List.map_cons, ih later]

theorem conclude_writes {executions : List (String × Execution)}
    (made : ∀ x ∈ executions, Made plan exec x) (earlier : Nat) :
    ∃ ends, Writes p ((conclude plan executions earlier).on p).2 ends [] ∧
      ∀ x ∈ ends, x.1 ∈ executions.map Prod.fst ∧ (x.2 = .succeeded ∨ x.2 = .failed) := by
  have edits : p.Edits plan exec
      (fun id status => id ∈ executions.map Prod.fst ∧ (status = .succeeded ∨ status = .failed))
      ((conclude plan executions earlier).on p).2 := by
    unfold conclude
    refine .bind (consume_edits (fun x mem => made x (mem_ranked.mp mem)) ?_) ?_
    · intro x mem
      have here : x.1 ∈ executions.map Prod.fst := List.mem_map_of_mem (mem_ranked.mp mem)
      exact ⟨⟨here, .inl rfl⟩, here, .inr rfl⟩
    · intro trouble s _
      cases trouble with
      | some x => exact .refl
      | none =>
          dsimp only
          rw [RunM.on_bind, RunM.on_get]
          exact escalate_edits fun id mem => List.mem_of_mem_drop mem
  refine writes_of_edits edits ?_
  rintro id ⟨-, h | h⟩ <;> cases h

/-- A stage whose nodes have been judged is entered, started, executed and concluded. -/
theorem opened_page {verdict : String → Verdict} {marks : Table String}
    {admitted : List (String × Inputs)} {executions : List (String × Execution)}
    {s t r : Progress} (known : ∀ id ∈ stage, id ∈ plan.nodes.keys)
    (judged : (judgeAll plan stage).on p =
      (.ok (stage.map fun id => (id, verdict id)), p.marked marks))
    (admits : (admitAll plan payload (stage.map fun id => (id, verdict id))).on (p.marked marks) =
      (.ok admitted, s))
    (start : (startAll plan admitted).on s = (.ok (), t))
    (execute : (executeAll plan exec admitted).on t = (.ok executions, r))
    (nodup : (executions.map Prod.fst).Nodup) (earlier : Nat) :
    ∃ told calls, Writes p ((conclude plan executions earlier).on r).2 told calls ∧
      Page plan exec payload p stage told calls := by
  have of_verdict : ∀ {id : String} {v : Verdict},
      (id, v) ∈ stage.map (fun id => (id, verdict id)) → id ∈ stage ∧ verdict id = v := by
    intro id v mem
    obtain ⟨i, here, same⟩ := List.mem_map.mp mem
    cases same
    exact ⟨here, rfl⟩
  have ready : ∀ x ∈ admitted, x.1 ∈ stage ∧ verdict x.1 = .ready := fun x mem =>
    of_verdict (admitAll_ready admits x mem)
  have within : ∀ x ∈ admitted, x.1 ∈ plan.nodes.keys := fun x mem => known x.1 (ready x mem).1
  have names := executeAll_names execute
  have made := fun x mem => (executeAll_made within execute x mem).1
  -- The three sections, and the calls between the second and the third.
  obtain ⟨entries, enters, entered⟩ :=
    admitAll_writes exec (fun x mem => known x.1 (of_verdict mem).1) admits
  obtain ⟨ends, concludes, ended⟩ := conclude_writes (p := r) made earlier
  -- What is marked in between is not told.
  have enters : Writes p s entries [] := enters
  have whole := ((enters.trans (startAll_writes start)).trans (executeAll_writes execute)).trans
    concludes
  rw [List.append_nil, List.append_nil, List.append_nil, List.nil_append] at whole
  refine ⟨_, _, whole, .opened (s := s) ?_ (names ▸ nodup) ?_ ?_ ?_⟩
  · rw [enter, RunM.on_bind_ok judged, admits]
  · intro id mem
    obtain ⟨x, chosen, rfl⟩ := List.mem_map.mp mem
    exact (ready x chosen).1
  · intro x mem
    rcases entered x mem with ⟨here, skipped⟩ | ⟨here, ready'⟩
    · obtain ⟨now, verdict⟩ := of_verdict here
      refine ⟨now, .inr ⟨skipped, fun admitted => ?_⟩⟩
      obtain ⟨y, chosen, same⟩ := List.mem_map.mp admitted
      have other := (ready y chosen).2
      rw [same, verdict] at other
      cases other
    · exact ⟨(of_verdict here).1, .inl ready'⟩
  · exact fun x mem => names ▸ ended x mem

theorem runStage_page (payload : Value) (h : Reached plan exec done p)
    (follows : plan.Follows done stage) :
    ∃ told calls, Writes p ((runStage plan exec payload stage).on p).2 told calls ∧
      Page plan exec payload p stage told calls := by
  have judged := judgeAll_on h follows
  unfold runStage
  rw [RunM.on_bind]
  cases answer : (judgeAll plan stage).on p with
  | mk result s =>
      rw [answer] at judged
      cases judged with
      | failed _ _ _ _ => exact ⟨[], [], .refl p, .shut⟩
      | @judged marks clear marked =>
          obtain ⟨admitted, executions, s, t, r, admits, failures, start, execute, opened⟩ :=
            open_stage exec payload h follows fun i new => by
              rw [marked, if_neg fun now => new now.1]
          dsimp only
          rw [RunM.on_bind_ok admits, ending_on, failures, dispatch_on start execute]
          exact opened_page follows.known answer admits start execute opened.nodup _

/-- A run that goes on after a stage has told the ends of all its nodes. -/
theorem whole_of_passed (h : Reached plan exec done p) (follows : plan.Follows done stage)
    (adv : Advance plan exec payload stage p q) {told : List (String × NodeStatus)}
    (grown : q.trace.told = p.trace.told ++ told) :
    ∀ id ∈ stage, ∃ status : NodeStatus, status.isTerminal = true ∧ (id, status) ∈ told := by
  intro id now
  obtain ⟨status, terminal, life⟩ :=
    lived_of_reached (h.advance follows adv) (List.mem_append_right _ now)
  have ended : status ∈ q.trace.history id := by
    rw [life]
    cases status <;> simp [NodeStatus.life]
  have before := history_of_waiting h (follows.known id now) (follows.fresh id now)
  rw [Recorder.history_eq_told, grown, List.filter_append, List.map_append,
    ← Recorder.history_eq_told, before] at ended
  rcases List.mem_append.mp ended with old | new
  · obtain rfl := List.mem_singleton.mp old
    cases terminal
  · obtain ⟨⟨i, s⟩, mem, rfl⟩ := List.mem_map.mp new
    obtain ⟨mem, same⟩ := List.mem_filter.mp mem
    exact ⟨s, terminal, of_decide_eq_true same ▸ mem⟩

theorem runStages_chronicle (payload : Value) (h : Reached plan exec done p)
    (layered : plan.Layered done stages) :
    ∃ told calls, Writes p ((runStages plan exec payload stages).on p).2 told calls ∧
      Chronicle plan exec payload p stages told calls := by
  induction stages generalizing done p with
  | nil => exact ⟨[], [], Writes.refl p, .blank⟩
  | cons stage rest ih =>
      obtain ⟨follows, layered⟩ := layered
      obtain ⟨told, calls, writes, page⟩ := runStage_page payload h follows
      rw [runStages_cons]
      cases asked : p.signal with
      | some reason => exact ⟨[], [], Writes.refl p, .blank⟩
      | none =>
          dsimp only
          rw [RunM.on_bind]
          cases ran : (runStage plan exec payload stage).on p with
          | mk result q =>
              rw [ran] at writes
              cases result with
              | error stop => exact ⟨told, calls, writes, .last asked page⟩
              | ok _ =>
                  have adv := runStage_advance h follows ran
                  obtain ⟨later, others, more, goesOn⟩ := ih (h.advance follows adv) layered
                  exact ⟨_, _, writes.trans more,
                    .next asked page ran (whole_of_passed h follows adv writes.1) goesOn⟩

/-- A run tells that its nodes are pending, and then what its stages tell. -/
theorem courseFrom_chronicle (g : Graph) (exec : Executor) (setup : Setup) :
    ∃ p starts told, (recordPending (Plan.ofGraph g).nodes).on (.start (.ofGraph g) setup) =
        (.ok (), p) ∧
      (∀ x ∈ starts, x.2 = NodeStatus.pending) ∧
      (courseFrom (.ofGraph g) exec setup).2.trace.told = starts ++ told ∧
      Chronicle (.ofGraph g) exec setup.payload p g.staging.stages told
        (courseFrom (.ofGraph g) exec setup).2.calls := by
  obtain ⟨p, run, reached, edits⟩ := start_edits g exec setup
  obtain ⟨starts, first, pending⟩ := writes_of_edits edits fun _ => NodeStatus.noConfusion
  obtain ⟨told, calls, writes, chronicle⟩ :=
    runStages_chronicle setup.payload reached (Plan.layered_ofGraph g)
  have whole := first.trans writes
  refine ⟨p, starts, told, run, pending, ?_, ?_⟩
  · rw [courseFrom_eq run]
    exact whole.1
  · have made : (courseFrom (.ofGraph g) exec setup).2.calls = calls := by
      rw [courseFrom_eq run]
      exact whole.2
    rw [made]
    exact chronicle

end Workflow.Scheduler
