import Workflow.Proofs.Run.Keeping

/-! What is kept as the stages of a run go by. A stage edits the records of its own nodes, and of
those that it does not execute only to skip them; what such edits keep is kept up to the end of the
run, however it ends. -/

namespace Workflow

/-- What a stage may make of a node: it executes its own nodes by the rule of admission, and skips
the others of them. -/
def Plan.Allows (plan : Plan) (σ : String → Standing) (stage : List String) (id : String)
    (status : NodeStatus) : Prop :=
  id ∈ stage ∧ (plan.admission σ id = .executed ∨ status = .skipped)

namespace Scheduler

variable {plan : Plan} {exec : Executor} {done stage : List String}
  {stages : List (List String)} {p q : Progress} {I : Progress → Prop}

/-- A stage that follows what is reached is judged by the rule of admission. -/
theorem judgeAll_verdicts (h : Reached plan exec done p) (follows : plan.Follows done stage)
    {verdicts : List (String × Verdict)} (ran : (judgeAll plan stage).on p = (.ok verdicts, q)) :
    ∀ x ∈ verdicts, x.1 ∈ stage ∧ verdictOn plan p.standing x.1 = x.2 := by
  have judged := judgeAll_on h follows
  rw [ran] at judged
  intro x mem
  cases judged with
  | judged _ _ =>
      obtain ⟨id, here, rfl⟩ := List.mem_map.mp mem
      exact ⟨here, rfl⟩

theorem runStage_edits (payload : Value) (h : Reached plan exec done p)
    (follows : plan.Follows done stage) :
    p.Edits plan exec (plan.Allows p.standing stage)
      ((runStage plan exec payload stage).on p).2 := by
  unfold runStage
  refine .bind (judgeAll_edits stage) fun verdicts q ran => ?_
  have judged := judgeAll_verdicts h follows ran
  refine .bind (admitAll_edits (fun x mem => follows.known x.1 (judged x mem).1) ?_)
    fun admitted r enter => ?_
  · rintro id status (⟨mem, rfl⟩ | ⟨mem, rfl⟩)
    · exact ⟨(judged _ mem).1, .inr rfl⟩
    · obtain ⟨here, ready⟩ := judged _ mem
      exact ⟨here, .inl (verdictOn_eq_ready.mp ready)⟩
  · have chosen : ∀ x ∈ admitted, x.1 ∈ stage ∧ plan.admission p.standing x.1 = .executed := by
      intro x mem
      obtain ⟨here, ready⟩ := judged _ (admitAll_ready enter x mem)
      exact ⟨here, verdictOn_eq_ready.mp ready⟩
    have allowed : ∀ x ∈ admitted, ∀ status, plan.Allows p.standing stage x.1 status :=
      fun x mem _ => ⟨(chosen x mem).1, .inl (chosen x mem).2⟩
    rw [ending_on]
    refine .bind (dispatch_edits (fun x mem => follows.known x.1 (chosen x mem).1)
      fun x mem => ⟨allowed x mem _, allowed x mem _, allowed x mem _⟩) fun _ s _ => ?_
    rw [RunM.on_bind, RunM.on_get]
    exact escalate_edits fun id mem => List.mem_of_mem_drop mem

/-- What the edits of every stage keep is kept by all stages of a run. -/
theorem runStages_keeps (payload : Value)
    (step : ∀ {done stage p q}, stage ∈ stages → Reached plan exec done p →
      plan.Follows done stage → p.Edits plan exec (plan.Allows p.standing stage) q → I p → I q)
    (h : Reached plan exec done p) (layered : plan.Layered done stages) (start : I p) :
    I ((runStages plan exec payload stages).on p).2 := by
  induction stages generalizing done p with
  | nil => exact start
  | cons stage rest ih =>
      obtain ⟨follows, layered⟩ := layered
      have now := step List.mem_cons_self h follows (runStage_edits payload h follows) start
      have end' := runStage_cases payload h follows
      rw [runStages_cons]
      cases p.signal with
      | some reason => exact start
      | none =>
          dsimp only
          rw [RunM.on_bind]
          generalize (runStage plan exec payload stage).on p = result at now end'
          obtain ⟨result, q⟩ := result
          cases result with
          | error stop => exact now
          | ok _ =>
              cases end' with
              | passed adv free =>
                  exact ih (fun mem => step (List.mem_cons_of_mem _ mem)) (h.advance follows adv)
                    layered now

theorem runStages_edits (payload : Value) (h : Reached plan exec done p)
    (layered : plan.Layered done stages) :
    p.Edits plan exec (fun id _ => id ∈ stages.flatten)
      ((runStages plan exec payload stages).on p).2 := by
  refine runStages_keeps (I := fun q => p.Edits plan exec (fun id _ => id ∈ stages.flatten) q)
    payload (fun here _ _ edits before => before.trans (edits.mono ?_)) h layered .refl
  exact fun id _ allowed => List.mem_flatten_of_mem here allowed.1

theorem start_edits (g : Graph) (exec : Executor) (setup : Setup) :
    ∃ p, (recordPending (Plan.ofGraph g).nodes).on (.start (.ofGraph g) setup) = (.ok (), p) ∧
      Reached (.ofGraph g) exec [] p ∧
      (Progress.start (.ofGraph g) setup).Edits (.ofGraph g) exec
        (fun _ status => status = .pending) p := by
  obtain ⟨p, run, reached, -, -, -⟩ := start_reached (Plan.sound_ofGraph g) exec setup
  refine ⟨p, run, reached, ?_⟩
  have edits : (Progress.start (.ofGraph g) setup).Edits (.ofGraph g) exec
      (fun _ status => status = .pending)
      ((recordPending (Plan.ofGraph g).nodes).on (.start (.ofGraph g) setup)).2 :=
    recordPending_edits
      (fun x mem => Table.get?_of_mem (Plan.sound_ofGraph g).distinct mem) fun _ _ => rfl
  rw [run] at edits
  exact edits

/-- What holds once every node is recorded as pending, and is kept by every stage, holds at the end
of the stages of a run. -/
theorem courseFrom_keeps {g : Graph} {setup : Setup}
    (step : ∀ {done stage p q}, Reached (.ofGraph g) exec done p →
      (Plan.ofGraph g).Follows done stage →
      p.Edits (.ofGraph g) exec ((Plan.ofGraph g).Allows p.standing stage) q → I p → I q)
    (start : ∀ p, (Progress.start (.ofGraph g) setup).Edits (.ofGraph g) exec
      (fun _ status => status = .pending) p → I p) :
    I (courseFrom (.ofGraph g) exec setup).2 := by
  obtain ⟨p, run, reached, edits⟩ := start_edits g exec setup
  rw [courseFrom_eq run]
  exact runStages_keeps setup.payload (fun _ => step) reached (Plan.layered_ofGraph g)
    (start p edits)

theorem courseFrom_edits (g : Graph) (exec : Executor) (setup : Setup) :
    (Progress.start (.ofGraph g) setup).Edits (.ofGraph g) exec (fun _ _ => True)
      (courseFrom (.ofGraph g) exec setup).2 :=
  courseFrom_keeps (fun _ _ edits before => before.trans (edits.mono fun _ _ _ => trivial))
    fun _ edits => edits.mono fun _ _ _ => trivial

/-- A run ends with the records of its stages, with its trace sealed or not. -/
theorem RunEnd.closes {ended : Except Stop (Option (Option String)) × Progress}
    {result : Except Stop RunResult × Progress} (h : RunEnd plan ended result) :
    result.2 = ended.2 ∨ ∃ t, result.2 = ended.2.close t := by
  cases h with
  | uncopied _ _ => exact .inl rfl
  | aborted => exact .inl rfl
  | _ => exact .inr ⟨_, rfl⟩

/-- What holds of a run after its stages holds of it at its end, if sealing the trace keeps it. -/
theorem RunEnd.carries {ended : Except Stop (Option (Option String)) × Progress}
    {result : Except Stop RunResult × Progress} (h : RunEnd plan ended result)
    {I : Progress → Prop} (sealed : ∀ {q} (t : Trace), I q → I (q.close t)) (holds : I ended.2) :
    I result.2 := by
  rcases h.closes with same | ⟨t, same⟩ <;> rw [same]
  · exact holds
  · exact sealed t holds

theorem RunEnd.events {ended : Except Stop (Option (Option String)) × Progress} {r : RunResult}
    (h : RunEnd plan ended (.ok r, q)) : r.trace.events = q.trace.events := by
  cases h <;> rfl

end Scheduler

end Workflow
