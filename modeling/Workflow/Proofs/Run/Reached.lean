import Workflow.Proofs.Run.Consumption

/-! What a run has reached after some of its stages, and what one more stage adds to it. -/

namespace Workflow

/-- The failed node that is behind the standing of a node: that node itself, or the one behind the
first edge that blocks it. -/
inductive Plan.Blames (plan : Plan) (σ : String → Standing) : String → String → Prop where
  | own {id : String} (failed : σ id = .failed) : Blames plan σ id id
  | passed {id origin : String} {e : Edge} (blocked : σ id = .blocked)
      (known : ∀ d ∈ plan.incoming id, σ d.source ≠ .waiting)
      (first : plan.blocker? σ id = some e) (rest : Blames plan σ e.source origin) :
      Blames plan σ id origin

namespace Plan.Blames

variable {plan : Plan} {σ τ : String → Standing} {id origin other : String}

theorem failed (h : plan.Blames σ id origin) : σ origin = .failed := by
  induction h with
  | own failed => exact failed
  | passed _ _ _ _ ih => exact ih

theorem unique (h : plan.Blames σ id origin) (k : plan.Blames σ id other) : origin = other := by
  induction h with
  | own failed =>
      cases k with
      | own _ => rfl
      | passed blocked _ _ _ => rw [failed] at blocked; cases blocked
  | passed blocked _ first _ ih =>
      cases k with
      | own failed => rw [blocked] at failed; cases failed
      | passed _ _ first' rest' =>
          rw [first, Option.some.injEq] at first'
          subst first'
          exact ih rest'

theorem mono (h : plan.Blames σ id origin) (same : ∀ i, σ i ≠ .waiting → τ i = σ i) :
    plan.Blames τ id origin := by
  induction h with
  | own failed => exact .own (by rw [same _ (by rw [failed]; exact Standing.noConfusion), failed])
  | passed blocked known first rest ih =>
      refine .passed ?_ ?_ ?_ ih
      · rw [same _ (by rw [blocked]; exact Standing.noConfusion), blocked]
      · intro d hd
        rw [same _ (known d hd)]
        exact known d hd
      · rw [blocker?_congr fun d hd => same _ (known d hd), first]

end Plan.Blames

/-- A node stands where the rule of admission and, if it is executed, its outcome put it. -/
def Progress.Placed (plan : Plan) (exec : Executor) (p : Progress) (id : String) : Prop :=
  match plan.admission p.standing id with
  | .executed => ∃ n inputs, plan.nodes.get? id = some n ∧ p.Shows id (exec n inputs).outcome
  | .pruned | .starved => p.standing id = .skipped
  | .blocked => p.standing id = .blocked

/-- A run has come through some nodes: they stand where they belong, no output node is blocked,
and all others wait. -/
structure Reached (plan : Plan) (exec : Executor) (done : List String) (p : Progress) : Prop where
  unsealed : p.trace.sealedTrace = none
  faithful : p.Faithful
  copied : ∀ id, ∃ copy, p.trace.copied (p.state.output id) = .ok copy
  within : ∀ id ∈ done, id ∈ plan.nodes.keys
  closed : ∀ id ∈ done, ∀ e ∈ plan.incoming id, e.source ∈ done
  unknown : ∀ id ∉ plan.nodes.keys, p.state.get? id = none
  pending : ∀ id ∈ plan.nodes.keys, id ∉ done →
    p.Has plan .pending id ∧ p.state.output id = .null
  unmarked : ∀ id ∉ done, p.blockedBy.get? id = none
  marked : ∀ id ∈ done, p.blockedBy.contains id = (p.standing id).isFault
  blamed : ∀ {id origin}, p.blockedBy.get? id = some origin → plan.Blames p.standing id origin
  caused : ∀ {id}, p.standing id = .failed → ∃ f, p.errors.get? id = some f
  placed : ∀ id ∈ done, p.Placed plan exec id
  spared : ∀ id ∈ done, plan.failsAt p.standing id = false

/-- What one more stage adds: its nodes are skipped, or stand where their outcomes put them. -/
structure Advance (plan : Plan) (exec : Executor) (payload : Value) (stage : List String)
    (p q : Progress) : Prop where
  unsealed : q.trace.sealedTrace = none
  copying : q.trace.snapshotOutputs = p.trace.snapshotOutputs
  faithful : p.Faithful → q.Faithful
  copied : ∀ id ∈ stage, ∃ copy, p.trace.copied (q.state.output id) = .ok copy
  clear : ∀ id ∈ stage, plan.failsAt p.standing id = false
  others : ∀ id ∉ stage, q.state.get? id = p.state.get? id
  executed : ∀ id ∈ stage, plan.admission p.standing id = .executed →
    ∃ n inputs, plan.nodes.get? id = some n ∧ inputs.Gathered payload p ∧
      q.Shows id (exec n inputs).outcome
  skipped : ∀ id ∈ stage, plan.admission p.standing id ≠ .executed → q.Has plan .skipped id
  blank : ∀ id ∈ stage, plan.admission p.standing id ≠ .executed → q.state.output id = .null
  unmarked : ∀ id ∉ stage, q.blockedBy.get? id = p.blockedBy.get? id
  marks : ∀ id ∈ stage, q.blockedBy.get? id =
    if plan.admission p.standing id = .blocked then plan.origin? p id
    else if q.standing id = .failed then some id else none
  caused : ∀ id ∈ stage, q.standing id = .failed → ∃ f, q.errors.get? id = some f
  errors : ∀ id ∉ stage, q.errors.get? id = p.errors.get? id
  signal : (∀ id ∈ stage, ∀ n inputs, plan.nodes.get? id = some n → inputs.Gathered payload p →
    (exec n inputs).cancels = none) → q.signal = p.signal
  asked : ∀ {id reason}, id ∈ stage → plan.admission p.standing id = .executed →
    (∀ i ∈ stage, ∀ n inputs, plan.nodes.get? i = some n →
      (exec n inputs).cancels = if i = id then some reason else none) → q.signal = some reason

namespace Reached

variable {plan : Plan} {exec : Executor} {payload : Value} {done stage : List String}
  {p q : Progress}

theorem waiting (h : Reached plan exec done p) {id : String} (undone : id ∉ done) :
    p.standing id = .waiting := by
  unfold Progress.standing
  by_cases known : id ∈ plan.nodes.keys
  · obtain ⟨⟨-, s, found, status⟩, -⟩ := h.pending id known undone
    simp only [found, status]
  · rw [h.unknown id known]

theorem ended (h : Reached plan exec done p) {id : String} (mem : id ∈ done) :
    p.standing id ≠ .waiting := by
  have placed := h.placed id mem
  unfold Progress.Placed at placed
  split at placed
  · obtain ⟨n, inputs, -, shown⟩ := placed
    rw [shown.standing]
    exact shown.ended
  all_goals
    rw [placed]
    exact Standing.noConfusion

theorem mem_done (h : Reached plan exec done p) {id : String} (ended : p.standing id ≠ .waiting) :
    id ∈ done := Decidable.byContradiction fun undone => ended (h.waiting undone)

theorem found (h : Reached plan exec done p) {id : String} (known : id ∈ plan.nodes.keys) :
    ∃ s, p.state.get? id = some s := by
  by_cases mem : id ∈ done
  · have ended := h.ended mem
    unfold Progress.standing at ended
    cases found : p.state.get? id with
    | none => rw [found] at ended; exact absurd rfl ended
    | some s => exact ⟨s, rfl⟩
  · obtain ⟨⟨-, s, found, -⟩, -⟩ := h.pending id known mem
    exact ⟨s, found⟩

theorem settled (h : Reached plan exec done p) {id : String} (mem : id ∈ done) : p.Settled id :=
  ⟨h.ended mem, h.marked id mem, fun blame => h.caused (h.blamed blame).failed⟩

theorem status (h : Reached plan exec done p) {id : String} (known : id ∈ plan.nodes.keys) :
    ∃ s, p.state.get? id = some s ∧ s.status = (p.standing id).status := by
  by_cases mem : id ∈ done
  · obtain ⟨s, found⟩ := h.found known
    refine ⟨s, found, ?_⟩
    have ended := h.ended mem
    unfold Progress.standing at ended ⊢
    rw [found] at ended ⊢
    dsimp only at ended ⊢
    cases status : s.status with
    | succeeded => rfl
    | failed => rfl
    | skipped =>
        dsimp only
        split <;> rfl
    | _ =>
        rw [status] at ended
        exact absurd rfl ended
  · obtain ⟨⟨-, s, found, status⟩, -⟩ := h.pending id known mem
    exact ⟨s, found, by rw [status, h.waiting mem]; rfl⟩

theorem history (h : Reached plan exec done p) (id : String) :
    p.trace.history id =
      if id ∈ plan.nodes.keys then (p.standing id).status.life else [] := by
  rw [h.faithful id]
  by_cases known : id ∈ plan.nodes.keys
  · obtain ⟨s, found, status⟩ := h.status known
    rw [if_pos known, found, Option.map_some, Option.getD_some, status]
  · rw [if_neg known, h.unknown id known]
    rfl

end Reached

namespace Advance

variable {plan : Plan} {exec : Executor} {payload : Value} {done stage : List String}
  {p q : Progress}

theorem standing_others (adv : Advance plan exec payload stage p q) {id : String}
    (old : id ∉ stage) : q.standing id = p.standing id :=
  Progress.standing_congr (adv.others id old) (adv.unmarked id old)

theorem output_others (adv : Advance plan exec payload stage p q) {id : String}
    (old : id ∉ stage) : q.state.output id = p.state.output id := by
  unfold RunState.output
  rw [adv.others id old]

/-- A node that is not executed ends skipped, and blocked if a failure blocks it. -/
theorem standing_unfit (adv : Advance plan exec payload stage p q) (h : Reached plan exec done p)
    (follows : plan.Follows done stage) {id : String} (mem : id ∈ stage)
    (unfit : plan.admission p.standing id ≠ .executed) :
    q.standing id = if plan.admission p.standing id = .blocked then .blocked else .skipped := by
  obtain ⟨-, s, found, status⟩ := adv.skipped id mem unfit
  have marks := adv.marks id mem
  have skipped : q.standing id = if q.blockedBy.contains id = true then .blocked else .skipped := by
    simp only [Progress.standing, found, status]
  rw [skipped, Table.contains, marks]
  by_cases blocked : plan.admission p.standing id = .blocked
  · rw [if_pos blocked, if_pos blocked]
    obtain ⟨e, he, first, fault⟩ := Plan.blocker?_of_blocked blocked
    have source := h.marked e.source (follows.fed id mem e he)
    rw [if_pos]
    rw [Plan.origin?, first]
    exact source.trans fault
  · have unfailed : q.standing id ≠ .failed := by
      rw [skipped]
      split <;> exact Standing.noConfusion
    rw [if_neg blocked, if_neg blocked, if_neg unfailed]
    rfl

theorem admission_done (adv : Advance plan exec payload stage p q) (h : Reached plan exec done p)
    (follows : plan.Follows done stage) {id : String} (mem : id ∈ done ++ stage) :
    plan.admission q.standing id = plan.admission p.standing id := by
  refine Plan.admission_congr fun e he => adv.standing_others fun new => ?_
  rcases List.mem_append.mp mem with old | now
  · exact follows.fresh _ new (h.closed id old e he)
  · exact follows.fresh _ new (follows.fed id now e he)

theorem placed (adv : Advance plan exec payload stage p q) (h : Reached plan exec done p)
    (follows : plan.Follows done stage) {id : String} (mem : id ∈ done ++ stage) :
    q.Placed plan exec id := by
  unfold Progress.Placed
  rw [adv.admission_done h follows mem]
  rcases List.mem_append.mp mem with old | now
  · have apart : id ∉ stage := fun new => follows.fresh id new old
    have placed := h.placed id old
    unfold Progress.Placed at placed
    rw [adv.standing_others apart]
    cases admission : plan.admission p.standing id <;> rw [admission] at placed
    · obtain ⟨n, inputs, found, shown⟩ := placed
      exact ⟨n, inputs, found, shown.congr (adv.others id apart)⟩
    all_goals exact placed
  · cases admission : plan.admission p.standing id
    · obtain ⟨n, inputs, found, -, shown⟩ := adv.executed id now admission
      exact ⟨n, inputs, found, shown⟩
    all_goals
      dsimp only
      rw [adv.standing_unfit h follows now (by rw [admission]; exact Admission.noConfusion),
        admission]
      rfl

end Advance

namespace Reached

variable {plan : Plan} {exec : Executor} {payload : Value} {done stage : List String}
  {p q : Progress}

theorem blamed_of_advance (h : Reached plan exec done p) (follows : plan.Follows done stage)
    (adv : Advance plan exec payload stage p q) {id origin : String}
    (blame : q.blockedBy.get? id = some origin) : plan.Blames q.standing id origin := by
  have mono : ∀ {i o : String}, plan.Blames p.standing i o → plan.Blames q.standing i o :=
    fun blames => blames.mono fun i ended =>
      adv.standing_others fun new => follows.fresh i new (h.mem_done ended)
  by_cases now : id ∈ stage
  · have marks := adv.marks id now
    rw [blame] at marks
    by_cases blocked : plan.admission p.standing id = .blocked
    · rw [if_pos blocked] at marks
      have unfit : plan.admission p.standing id ≠ .executed := by
        rw [blocked]
        exact Admission.noConfusion
      have standing := adv.standing_unfit h follows now unfit
      rw [if_pos blocked] at standing
      have sources : ∀ d ∈ plan.incoming id, q.standing d.source = p.standing d.source :=
        fun d hd => adv.standing_others fun new =>
          follows.fresh _ new (follows.fed id now d hd)
      obtain ⟨e, he, first, -⟩ := Plan.blocker?_of_blocked blocked
      rw [Plan.origin?, first] at marks
      refine .passed standing ?_ ((Plan.blocker?_congr sources).trans first)
        (mono (h.blamed marks.symm))
      intro d hd
      rw [sources d hd]
      exact h.ended (follows.fed id now d hd)
    · rw [if_neg blocked] at marks
      split at marks
      · rename_i failed
        cases marks
        exact .own failed
      · cases marks
  · rw [adv.unmarked id now] at blame
    exact mono (h.blamed blame)

theorem marked_of_advance (h : Reached plan exec done p) (follows : plan.Follows done stage)
    (adv : Advance plan exec payload stage p q) {id : String} (mem : id ∈ done ++ stage) :
    q.blockedBy.contains id = (q.standing id).isFault := by
  by_cases now : id ∈ stage
  · have marks := adv.marks id now
    by_cases executed : plan.admission p.standing id = .executed
    · obtain ⟨n, inputs, -, -, shown⟩ := adv.executed id now executed
      rw [Table.contains, marks, executed, if_neg Admission.noConfusion, shown.standing]
      cases (exec n inputs).outcome <;> rfl
    · have standing := adv.standing_unfit h follows now executed
      by_cases blocked : plan.admission p.standing id = .blocked
      · rw [standing, if_pos blocked, Table.contains, marks, if_pos blocked]
        obtain ⟨e, he, first, fault⟩ := Plan.blocker?_of_blocked blocked
        rw [Plan.origin?, first]
        exact (h.marked e.source (follows.fed id now e he)).trans fault
      · rw [if_neg blocked] at standing
        rw [standing, Table.contains, marks, if_neg blocked, standing, if_neg Standing.noConfusion]
        rfl
  · have old := (List.mem_append.mp mem).resolve_right now
    rw [adv.standing_others now, ← h.marked id old, Table.contains, Table.contains,
      adv.unmarked id now]

theorem advance (h : Reached plan exec done p) (follows : plan.Follows done stage)
    (adv : Advance plan exec payload stage p q) : Reached plan exec (done ++ stage) q where
  unsealed := adv.unsealed
  faithful := adv.faithful h.faithful
  copied id := by
    rw [Recorder.copied_congr adv.copying]
    by_cases now : id ∈ stage
    · exact adv.copied id now
    · rw [adv.output_others now]
      exact h.copied id
  within id mem := (List.mem_append.mp mem).elim (h.within id) (follows.known id)
  closed id mem e he := List.mem_append_left _ <|
    (List.mem_append.mp mem).elim (fun old => h.closed id old e he) fun now =>
      follows.fed id now e he
  unknown id new := by
    rw [adv.others id fun now => new (follows.known id now), h.unknown id new]
  pending id known undone := by
    rw [List.mem_append, not_or] at undone
    obtain ⟨has, blank⟩ := h.pending id known undone.1
    exact ⟨has.congr (adv.others id undone.2), (adv.output_others undone.2).trans blank⟩
  unmarked id undone := by
    rw [List.mem_append, not_or] at undone
    rw [adv.unmarked id undone.2, h.unmarked id undone.1]
  marked id mem := h.marked_of_advance follows adv mem
  blamed blame := h.blamed_of_advance follows adv blame
  caused {id} failed := by
    by_cases now : id ∈ stage
    · exact adv.caused id now failed
    · rw [adv.errors id now]
      exact h.caused ((adv.standing_others now).symm.trans failed)
  placed id mem := adv.placed h follows mem
  spared id mem := by
    rw [Plan.failsAt, adv.admission_done h follows mem]
    exact (List.mem_append.mp mem).elim (h.spared id) (adv.clear id)

end Reached

end Workflow
