import Workflow.Proofs.Plan
import Workflow.Proofs.Run.Stage

/-! The course of a run, stage by stage, up to its end, a cancellation, a failure or another
stop. -/

namespace Workflow

namespace Scheduler

variable {plan : Plan} {exec : Executor} {payload : Value} {done stage : List String}
  {stages : List (List String)} {p q : Progress}

inductive Course (plan : Plan) (exec : Executor) (payload : Value) :
    List String → List (List String) → Progress →
    Except Stop (Option (Option String)) × Progress → Prop where
  | completed {done : List String} {p : Progress} (reached : Reached plan exec done p) :
      Course plan exec payload done [] p (.ok none, p)
  | cancelled {done stage : List String} {rest : List (List String)} {p : Progress}
      {reason : Option String} (reached : Reached plan exec done p)
      (signal : p.signal = some reason) :
      Course plan exec payload done (stage :: rest) p (.ok (some reason), p)
  | stopped {done stage : List String} {rest : List (List String)} {p q : Progress} {stop : Stop}
      (reached : Reached plan exec done p) (follows : plan.Follows done stage)
      (unasked : p.signal = none) (last : StageEnd plan exec payload stage p (.error stop, q)) :
      Course plan exec payload done (stage :: rest) p (.error stop, q)
  | next {done stage : List String} {rest : List (List String)} {p q : Progress}
      {result : Except Stop (Option (Option String)) × Progress}
      (reached : Reached plan exec done p) (follows : plan.Follows done stage)
      (unasked : p.signal = none) (adv : Advance plan exec payload stage p q)
      (free : ∀ id ∈ stage, q.standing id = .failed → isDoomed plan q id = false)
      (later : Course plan exec payload (done ++ stage) rest q result) :
      Course plan exec payload done (stage :: rest) p result

theorem runStages_cons (stages : List (List String)) (p : Progress) :
    (runStages plan exec payload (stage :: stages)).on p =
      match p.signal with
      | some reason => (.ok (some reason), p)
      | none => (do
          runStage plan exec payload stage
          runStages plan exec payload stages : RunM _).on p := by
  rw [runStages, RunM.on_bind, RunM.on_get]
  dsimp only
  cases p.signal <;> rfl

/-- Stages are run one part after the other, unless a cancellation ends the first part. -/
theorem runStages_append (first rest : List (List String)) (p : Progress) :
    (runStages plan exec payload (first ++ rest)).on p =
      (do
        match ← runStages plan exec payload first with
        | some reason => return some reason
        | none => runStages plan exec payload rest : RunM _).on p := by
  induction first generalizing p with
  | nil => rfl
  | cons stage first ih =>
      rw [List.cons_append, RunM.on_bind, runStages_cons, runStages_cons]
      cases p.signal with
      | some reason => rfl
      | none =>
          dsimp only
          rw [RunM.on_bind, RunM.on_bind]
          cases (runStage plan exec payload stage).on p with
          | mk result q =>
              cases result with
              | error stop => rfl
              | ok _ =>
                  dsimp only
                  rw [ih q, RunM.on_bind]

theorem runStages_through {first : List (List String)}
    (ran : (runStages plan exec payload first).on p = (.ok none, q)) (rest : List (List String)) :
    (runStages plan exec payload (first ++ rest)).on p =
      (runStages plan exec payload rest).on q := by
  rw [runStages_append, RunM.on_bind_ok ran]

theorem runStages_stopped {first : List (List String)} {stop : Stop}
    (ran : (runStages plan exec payload first).on p = (.error stop, q))
    (rest : List (List String)) :
    (runStages plan exec payload (first ++ rest)).on p = (.error stop, q) := by
  rw [runStages_append, RunM.on_bind_error ran]

theorem runStages_course (payload : Value) (h : Reached plan exec done p)
    (layered : plan.Layered done stages) :
    Course plan exec payload done stages p ((runStages plan exec payload stages).on p) := by
  induction stages generalizing done p with
  | nil => exact .completed h
  | cons stage rest ih =>
      obtain ⟨follows, layered⟩ := layered
      unfold runStages
      rw [RunM.on_bind, RunM.on_get]
      cases asked : p.signal with
      | some reason =>
          simp only [asked]
          exact .cancelled h asked
      | none =>
          simp only [asked]
          rw [RunM.on_bind]
          have end' := runStage_cases payload h follows
          generalize (runStage plan exec payload stage).on p = result at end'
          obtain ⟨result, q⟩ := result
          cases result with
          | error stop => exact .stopped h follows asked end'
          | ok _ =>
              cases end' with
              | passed adv free =>
                  exact .next h follows asked adv free (ih (h.advance follows adv) layered)

/-- The stages of a run go by in order up to where it has come, or one of them stops it. -/
theorem runStages_ends (payload : Value) (h : Reached plan exec done p)
    (layered : plan.Layered done stages) {result : Except Stop (Option (Option String))}
    (ran : (runStages plan exec payload stages).on p = (result, q)) :
    (∃ asked done', result = .ok asked ∧ Reached plan exec done' q) ∨
      ∃ stop done' stage t, result = .error stop ∧ Reached plan exec done' t ∧
        plan.Follows done' stage ∧ (runStage plan exec payload stage).on t = (.error stop, q) := by
  induction stages generalizing done p with
  | nil =>
      cases ran
      exact .inl ⟨none, done, rfl, h⟩
  | cons stage rest ih =>
      obtain ⟨follows, layered⟩ := layered
      rw [runStages_cons] at ran
      cases asked : p.signal with
      | some reason =>
          rw [asked] at ran
          cases ran
          exact .inl ⟨_, done, rfl, h⟩
      | none =>
          rw [asked] at ran
          dsimp only at ran
          rw [RunM.on_bind] at ran
          cases staged : (runStage plan exec payload stage).on p with
          | mk first t =>
              rw [staged] at ran
              cases first with
              | ok _ => exact ih (runStage_reached h follows staged) layered ran
              | error stop =>
                  cases ran
                  exact .inr ⟨stop, done, stage, p, rfl, h, follows, staged⟩

/-- A course that comes to its end has come through all stages. -/
theorem Course.reached (h : Course plan exec payload done stages p (.ok none, q)) :
    Reached plan exec (done ++ stages.flatten) q := by
  generalize result : ((.ok none, q) : Except Stop (Option (Option String)) × Progress) = r at h
  induction h with
  | completed reached =>
      cases result
      simpa using reached
  | cancelled _ _ => cases result
  | stopped _ _ _ _ => cases result
  | next _ _ _ _ _ _ ih =>
      rw [List.flatten_cons, ← List.append_assoc]
      exact ih result

theorem runStages_reached (h : Reached plan exec done p) (layered : plan.Layered done stages)
    (ran : (runStages plan exec payload stages).on p = (.ok none, q)) :
    Reached plan exec (done ++ stages.flatten) q := by
  have course := runStages_course payload h layered
  rw [ran] at course
  exact course.reached

/-- A course that comes to its end has kept what every stage keeps. -/
theorem Course.keeps {I : Progress → Prop}
    (keeps : ∀ {stage p q}, Advance plan exec payload stage p q → I p → I q)
    (h : Course plan exec payload done stages p (.ok none, q)) (start : I p) : I q := by
  generalize result : ((.ok none, q) : Except Stop (Option (Option String)) × Progress) = r at h
  induction h with
  | completed _ =>
      cases result
      exact start
  | cancelled _ _ => cases result
  | stopped _ _ _ _ => cases result
  | next _ _ _ adv _ _ ih => exact ih (keeps adv start) result

/-- A course that comes to its end copies as it did at its start. -/
theorem Course.copying (h : Course plan exec payload done stages p (.ok none, q)) :
    q.trace.snapshotOutputs = p.trace.snapshotOutputs :=
  h.keeps (I := fun r => r.trace.snapshotOutputs = p.trace.snapshotOutputs)
    (fun adv same => adv.copying.trans same) rfl

/-- A course that is stopped is so in some stage, up to which it has kept what every stage
keeps. -/
theorem Course.last {I : Progress → Prop} {stop : Stop}
    (keeps : ∀ {stage p q}, Advance plan exec payload stage p q → I p → I q)
    (h : Course plan exec payload done stages p (.error stop, q)) (start : I p) :
    ∃ done stage p, Reached plan exec done p ∧ plan.Follows done stage ∧ I p ∧
      StageEnd plan exec payload stage p (.error stop, q) := by
  generalize result : ((.error stop, q) : Except Stop (Option (Option String)) × Progress) = r at h
  induction h with
  | completed _ => cases result
  | cancelled _ _ => cases result
  | stopped reached follows _ last =>
      cases result
      exact ⟨_, _, _, reached, follows, start, last⟩
  | next _ _ _ adv _ _ ih => exact ih (keeps adv start) result

/-- A course that is stopped was cancelled in a task, or it is failed by a node. -/
theorem Course.stop_cases {stop : Stop}
    (h : Course plan exec payload done stages p (.error stop, q)) :
    (∃ message, stop = .cancelled message) ∨
      ∃ id cause, stop = .failed (some id) cause ∧ q.trace.sealedTrace = none := by
  obtain ⟨done, stage, p, reached, -, -, last⟩ := h.last (I := fun _ => True) (fun _ _ => trivial)
    trivial
  cases last with
  | blocked _ _ _ _ => exact .inr ⟨_, _, rfl, reached.unsealed⟩
  | cancelled _ _ _ _ => exact .inl ⟨_, rfl⟩
  | refused _ _ _ _ unsealed => exact .inr ⟨_, _, rfl, unsealed⟩
  | doomed adv _ _ _ _ => exact .inr ⟨_, _, rfl, adv.unsealed⟩

theorem Course.unsealed_of_cancelled {reason : Option String}
    (h : Course plan exec payload done stages p (.ok (some reason), q)) :
    q.trace.sealedTrace = none := by
  generalize result :
    ((.ok (some reason), q) : Except Stop (Option (Option String)) × Progress) = r at h
  induction h with
  | completed _ => cases result
  | cancelled reached _ =>
      cases result
      exact reached.unsealed
  | stopped _ _ _ _ => cases result
  | next _ _ _ _ _ _ ih => exact ih result

/-- A course is stopped by a cancelled task only if the execution of some node is cancelled. -/
theorem Course.cancelled_of_stop {message : String}
    (h : Course plan exec payload done stages p (.error (.cancelled message), q)) :
    ∃ n inputs, (exec n inputs).outcome = .cancelled message := by
  obtain ⟨done, stage, p, -, -, -, last⟩ := h.last (I := fun _ => True) (fun _ _ => trivial) trivial
  cases last with
  | cancelled _ _ _ outcome => exact ⟨_, _, outcome⟩

end Scheduler

end Workflow
