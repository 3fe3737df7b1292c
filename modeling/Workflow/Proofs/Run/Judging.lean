import Workflow.Proofs.Run.Moves
import Workflow.Proofs.Run.Verdict

/-! The judgement of a stage. Either it comes to a blocked output node and fails the run, or every
node gets its verdict and the blocked ones are marked with the failure that blocks them. -/

namespace Workflow

def Plan.origin? (plan : Plan) (p : Progress) (id : String) : Option String :=
  (plan.blocker? p.standing id).bind fun e => p.blockedBy.get? e.source

def Plan.failsAt (plan : Plan) (σ : String → Standing) (id : String) : Bool :=
  plan.isOutput id && decide (plan.admission σ id = .blocked)

def Progress.marked (p : Progress) (marks : Table String) : Progress :=
  { p with blockedBy := marks }

theorem Progress.standing_congr {p q : Progress} {id : String}
    (state : q.state.get? id = p.state.get? id)
    (marks : q.blockedBy.get? id = p.blockedBy.get? id) : q.standing id = p.standing id := by
  unfold standing Table.contains
  rw [state, marks]

theorem Progress.standing_of_unskipped {p q : Progress} {id : String}
    (state : q.state.get? id = p.state.get? id)
    (unskipped : ∀ s, p.state.get? id = some s → s.status ≠ .skipped) :
    q.standing id = p.standing id := by
  unfold standing
  rw [state]
  cases found : p.state.get? id with
  | none => rfl
  | some s =>
      have other := unskipped s found
      dsimp only
      cases status : s.status with
      | skipped => exact absurd status other
      | _ => rfl

theorem Progress.Settled.congr {p q : Progress} {id : String} (h : p.Settled id)
    (state : q.state.get? id = p.state.get? id)
    (marks : q.blockedBy.get? id = p.blockedBy.get? id) (errors : q.errors = p.errors) :
    q.Settled id := by
  have same := standing_congr state marks
  refine ⟨by rw [same]; exact h.ended, ?_, ?_⟩
  · rw [same, ← h.marked, Table.contains, Table.contains, marks]
  · intro origin blame
    rw [errors]
    exact h.blamed (marks ▸ blame)

namespace Scheduler

variable {plan : Plan} {p : Progress} {stage ids : List String} {marks : Table String}

/-- The judgement of a node reads the marks of the sources of its edges only. -/
theorem judge_marked (marks : Table String) {id : String}
    (settled : ∀ e ∈ plan.incoming id, p.Settled e.source)
    (kept : ∀ e ∈ plan.incoming id, marks.get? e.source = p.blockedBy.get? e.source) :
    if plan.admission p.standing id = .blocked then
      ∃ origin failure, plan.origin? p id = some origin ∧ p.errors.get? origin = some failure ∧
        judge plan (p.marked marks) id =
          if plan.isOutput id then .error (.failed (some origin) failure.message)
          else .ok (.skipped, some origin)
    else judge plan (p.marked marks) id = .ok (verdictOn plan p.standing id, none) := by
  have settled' : ∀ e ∈ plan.incoming id, (p.marked marks).Settled e.source :=
    fun e he => (settled e he).congr rfl (kept e he) rfl
  have standing : ∀ e ∈ plan.incoming id, (p.marked marks).standing e.source =
      p.standing e.source := fun e he => Progress.standing_congr rfl (kept e he)
  have admission := Plan.admission_congr standing
  split
  · rename_i blocked
    obtain ⟨e, origin, failure, first, he, blame, cause, verdict⟩ :=
      judge_of_blocked settled' (admission.trans blocked)
    refine ⟨origin, failure, ?_, cause, verdict⟩
    rw [Plan.origin?, ← Plan.blocker?_congr standing, first, ← blame]
    exact (kept e he).symm
  · rename_i free
    rw [judge_of_not_blocked settled' fun blocked => free (admission.symm.trans blocked),
      verdictOn, admission, verdictOn]

/-- What the judgement of some nodes of a stage comes to. -/
inductive Judged (plan : Plan) (p : Progress) (stage : List String) (marks : Table String)
    (ids : List String) : Except Stop (List (String × Verdict)) × Progress → Prop where
  | failed {id origin : String} {failure : NodeFailure} {marks' : Table String}
      (first : ids.find? (plan.failsAt p.standing) = some id)
      (blame : plan.origin? p id = some origin) (cause : p.errors.get? origin = some failure)
      (kept : ∀ i ∉ stage, marks'.get? i = p.blockedBy.get? i) :
      Judged plan p stage marks ids
        (.error (.failed (some origin) failure.message), p.marked marks')
  | judged {marks' : Table String} (clear : ∀ id ∈ ids, plan.failsAt p.standing id = false)
      (marked : ∀ i, marks'.get? i =
        if i ∈ ids ∧ plan.admission p.standing i = .blocked then plan.origin? p i
        else marks.get? i) :
      Judged plan p stage marks ids
        (.ok (ids.map fun id => (id, verdictOn plan p.standing id)), p.marked marks')

/-- A node that does not fail the run goes in front of those judged after it. -/
theorem Judged.cons {id : String} {now : Table String} (spared : plan.failsAt p.standing id = false)
    (marked : ∀ i, now.get? i =
      if i = id ∧ plan.admission p.standing i = .blocked then plan.origin? p i else marks.get? i)
    (h : Judged plan p stage now ids ((judgeAll plan ids).on (p.marked now))) :
    Judged plan p stage marks (id :: ids)
      ((do
        let others ← judgeAll plan ids
        return (id, verdictOn plan p.standing id) :: others).on (p.marked now)) := by
  rw [RunM.on_bind]
  generalize (judgeAll plan ids).on (p.marked now) = result at h
  cases h with
  | failed first blame cause kept =>
      exact .failed (by rw [List.find?_cons, spared, first]) blame cause kept
  | judged clear later =>
      refine .judged ?_ ?_
      · intro i hi
        rcases List.mem_cons.mp hi with rfl | old
        · exact spared
        · exact clear i old
      · intro i
        rw [later, marked]
        by_cases old : i ∈ ids
        · simp only [old, List.mem_cons, or_true, true_and]
          split
          · rfl
          · rename_i free
            rw [if_neg fun h => free h.2]
        · simp only [old, List.mem_cons, false_and, or_false, if_false]

theorem judgeAll_cases (within : ∀ id ∈ ids, id ∈ stage)
    (settled : ∀ id ∈ stage, ∀ e ∈ plan.incoming id, p.Settled e.source ∧ e.source ∉ stage)
    (kept : ∀ i ∉ stage, marks.get? i = p.blockedBy.get? i) :
    Judged plan p stage marks ids ((judgeAll plan ids).on (p.marked marks)) := by
  induction ids generalizing marks with
  | nil => exact .judged (fun _ h => absurd h List.not_mem_nil) (by simp)
  | cons id rest ih =>
      have inside := within id List.mem_cons_self
      have later : ∀ i ∈ rest, i ∈ stage := fun i hi => within i (List.mem_cons_of_mem _ hi)
      have rule := judge_marked marks (fun e he => (settled id inside e he).1)
        fun e he => kept _ (settled id inside e he).2
      unfold judgeAll
      rw [RunM.on_bind, RunM.on_get]
      dsimp only
      by_cases blocked : plan.admission p.standing id = .blocked
      · rw [if_pos blocked] at rule
        obtain ⟨origin, failure, blame, cause, verdict⟩ := rule
        by_cases output : plan.isOutput id = true
        · rw [if_pos output] at verdict
          rw [RunM.on_bind_error (by rw [RunM.on_lift, verdict])]
          exact .failed (by simp [Plan.failsAt, output, blocked]) blame cause kept
        · rw [if_neg output] at verdict
          have skipped : Verdict.skipped = verdictOn plan p.standing id := by
            simp [verdictOn, blocked]
          rw [RunM.on_bind_ok (by rw [RunM.on_lift, verdict])]
          dsimp only
          rw [RunM.on_bind, RunM.on_modify, skipped]
          refine Judged.cons (by simp [Plan.failsAt, output]) ?_ (ih later ?_)
          · intro i
            by_cases same : i = id
            · subst same
              rw [if_pos ⟨rfl, blocked⟩, blame]
              exact Table.get?_put_self _ _ _
            · rw [if_neg fun h => same h.1]
              exact Table.get?_put_of_ne _ _ same
          · intro i new
            rw [← kept i new]
            refine Table.get?_put_of_ne _ _ ?_
            rintro rfl
            exact new inside
      · rw [if_neg blocked] at rule
        rw [RunM.on_bind_ok (by rw [RunM.on_lift, rule])]
        refine Judged.cons (by simp [Plan.failsAt, blocked]) ?_ (ih later kept)
        intro i
        rw [if_neg]
        rintro ⟨rfl, h⟩
        exact blocked h

end Scheduler

end Workflow
