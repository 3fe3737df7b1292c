import Workflow.Proofs.Run.Admission

/-! The verdicts of the scheduler on the nodes of a stage follow the rule of admission. -/

namespace Workflow

def Progress.standing (p : Progress) (id : String) : Standing :=
  match p.state.get? id with
  | none => .waiting
  | some s =>
    match s.status with
    | .succeeded => .succeeded s.selectedPort?
    | .failed => .failed
    | .skipped => if p.blockedBy.contains id then .blocked else .skipped
    | _ => .waiting

theorem Progress.standing_eq_failed_iff {p : Progress} {id : String} :
    p.standing id = .failed ↔ ∃ s, p.state.get? id = some s ∧ s.status = .failed := by
  unfold standing
  cases p.state.get? id with
  | none => simp
  | some s =>
      cases status : s.status with
      | skipped => by_cases marked : p.blockedBy.contains id = true <;> simp [status, marked]
      | _ => simp [status]

theorem RunState.hasStatus_iff {state : RunState} {id : String} {status : NodeStatus} :
    state.hasStatus id status = true ↔ ∃ s, state.get? id = some s ∧ s.status = status := by
  simp [hasStatus, Option.any_eq_true]

theorem Progress.standing_eq_succeeded {p : Progress} {id : String} {port : Option String}
    (h : p.standing id = .succeeded port) :
    ∃ s, p.state.get? id = some s ∧ s.status = .succeeded ∧ s.selectedPort? = port := by
  unfold standing at h
  cases found : p.state.get? id with
  | none => simp [found] at h
  | some s =>
      cases status : s.status with
      | skipped =>
          by_cases marked : p.blockedBy.contains id = true <;> simp [found, status, marked] at h
      | succeeded => exact ⟨s, rfl, status, by simpa [found, status] using h⟩
      | _ => simp [found, status] at h

theorem Progress.hasStatus_skipped {p : Progress} {id : String} (h : p.standing id = .skipped) :
    p.state.hasStatus id .skipped = true := by
  rw [RunState.hasStatus_iff]
  unfold standing at h
  cases found : p.state.get? id with
  | none => simp [found] at h
  | some s => cases status : s.status <;> simp [found, status] at h ⊢

/-- A node has ended, and if a failure stands behind it the failed node is on record with its
failure. -/
structure Progress.Settled (p : Progress) (id : String) : Prop where
  ended : p.standing id ≠ .waiting
  marked : p.blockedBy.contains id = (p.standing id).isFault
  blamed : ∀ {origin}, p.blockedBy.get? id = some origin → ∃ f, p.errors.get? origin = some f

def Plan.view (plan : Plan) (σ : String → Standing) (e : Edge) : Scheduler.EdgeState :=
  match σ e.source with
  | .succeeded port =>
    if plan.isCondition e.source && e.sourcePort != port then .pruned else .live
  | .failed | .blocked => .blocked
  | .skipped | .waiting => .dead

namespace Scheduler

variable {plan : Plan} {p : Progress} {σ : String → Standing}

theorem edgeState_eq {e : Edge} (h : p.Settled e.source) :
    edgeState plan p e = .ok (plan.view p.standing e) := by
  obtain ⟨ended, marked, -⟩ := h
  unfold edgeState Plan.view
  unfold Progress.standing at *
  cases found : p.state.get? e.source with
  | none => simp [found] at ended
  | some s =>
      simp only [found] at ended marked ⊢
      cases status : s.status with
      | succeeded =>
          have clear : p.blockedBy.contains e.source = false := by
            simpa [status, Standing.isFault] using marked
          simp only [clear, Bool.false_eq_true, if_false]
          split <;> rfl
      | failed =>
          have caught : p.blockedBy.contains e.source = true := by
            simpa [status, Standing.isFault] using marked
          simp [caught]
      | skipped => by_cases caught : p.blockedBy.contains e.source = true <;> simp [caught]
      | pending => simp [status] at ended
      | ready => simp [status] at ended
      | running => simp [status] at ended

theorem edgeStates_eq (plan : Plan) {edges : List Edge} (h : ∀ e ∈ edges, p.Settled e.source) :
    edgeStates plan p edges = .ok (edges.map fun e => (e, plan.view p.standing e)) := by
  induction edges with
  | nil => rfl
  | cons e rest ih =>
      rw [edgeStates, edgeState_eq (h e List.mem_cons_self),
        ih fun d hd => h d (List.mem_cons_of_mem _ hd)]
      rfl

theorem view_eq_blocked_iff {e : Edge} :
    plan.view σ e = .blocked ↔ (σ e.source).isFault = true := by
  unfold Plan.view Standing.isFault
  cases σ e.source with
  | succeeded port => dsimp only; split <;> simp
  | _ => simp

theorem view_eq_live_iff {e : Edge} : plan.view σ e = .live ↔ plan.isLive σ e = true := by
  unfold Plan.view Plan.isLive
  cases σ e.source with
  | succeeded port =>
      cases plan.isCondition e.source <;> by_cases same : e.sourcePort = port <;> simp [same]
  | _ => simp

theorem view_eq_pruned_iff {e : Edge} :
    plan.view σ e = .pruned ↔ ∃ port, σ e.source = .succeeded port ∧
      plan.isCondition e.source = true ∧ e.sourcePort ≠ port := by
  unfold Plan.view
  cases σ e.source with
  | succeeded port =>
      cases plan.isCondition e.source <;> by_cases same : e.sourcePort = port <;> simp [same]
  | _ => simp

/-- A pruned edge rules its target out unless its source feeds the target through the selected
port as well. -/
theorem isPruned_eq (plan : Plan) (σ : String → Standing) (id : String) :
    isPruned ((plan.incoming id).map fun e => (e, plan.view σ e)) =
      (plan.incoming id).any (plan.isPruned σ) := by
  rw [Bool.eq_iff_iff, isPruned, List.any_map, List.any_eq_true, List.any_eq_true]
  refine exists_congr fun e => and_congr_right fun he => ?_
  obtain ⟨edge, target⟩ := Plan.mem_incoming.mp he
  simp only [Function.comp, Bool.and_eq_true, decide_eq_true_eq, Bool.not_eq_true',
    List.filter_map, List.map_map, view_eq_pruned_iff, Plan.isPruned_iff]
  rw [← Bool.not_eq_true, List.contains_iff_mem, List.mem_map]
  simp only [List.mem_filter, Function.comp, decide_eq_true_eq, view_eq_live_iff]
  constructor
  · rintro ⟨⟨port, selected, condition, other⟩, unfed⟩
    refine ⟨port, selected, condition, ?_⟩
    rw [← Bool.not_eq_true, Plan.feeds_iff]
    rintro ⟨d, hd, source, same, through⟩
    refine unfed ⟨d, ⟨Plan.mem_incoming.mpr ⟨hd, same.trans target⟩, ?_⟩, source⟩
    simp [Plan.isLive, source, selected, through]
  · rintro ⟨port, selected, condition, unfed⟩
    rw [← Bool.not_eq_true, Plan.feeds_iff] at unfed
    refine ⟨⟨port, selected, condition, fun through => unfed ⟨e, edge, rfl, rfl, through⟩⟩, ?_⟩
    rintro ⟨d, ⟨hd, live⟩, source⟩
    obtain ⟨edge', target'⟩ := Plan.mem_incoming.mp hd
    have through : d.sourcePort = port := by
      simpa [Plan.isLive, source, selected, condition] using live
    exact unfed ⟨d, edge', source, target'.trans target.symm, through⟩

theorem firstBlocked?_eq (plan : Plan) (σ : String → Standing) (id : String) :
    firstBlocked? ((plan.incoming id).map fun e => (e, plan.view σ e)) = plan.blocker? σ id := by
  unfold firstBlocked? Plan.blocker?
  induction plan.incoming id with
  | nil => rfl
  | cons e rest ih =>
      rw [List.map_cons, List.find?_cons, List.find?_cons]
      by_cases fault : (σ e.source).isFault = true
      · simp [view_eq_blocked_iff, fault]
      · simpa [view_eq_blocked_iff, fault] using ih

theorem any_live_eq (plan : Plan) (σ : String → Standing) (id : String) :
    (((plan.incoming id).map fun e => (e, plan.view σ e)).any fun s => s.2 = .live) =
      (plan.incoming id).any (plan.isLive σ) := by
  rw [List.any_map]
  exact Plan.any_congr_of_mem fun e _ => by
    rw [Bool.eq_iff_iff, Function.comp, decide_eq_true_eq, view_eq_live_iff]

/-- The verdict on a node with edges into it, on the standing of their sources. -/
theorem judge_eq {id : String} (some' : plan.incoming id ≠ [])
    (settled : ∀ e ∈ plan.incoming id, p.Settled e.source) :
    judge plan p id =
      if (plan.incoming id).any (plan.isPruned p.standing) then .ok (.skipped, none)
      else
        match plan.blocker? p.standing id with
        | some e =>
          match p.blockedBy.get? e.source with
          | none => .error (.unknownNode e.source)
          | some origin =>
            if plan.isOutput id then
              (failureCause p origin).bind fun cause => .error (.failed (some origin) cause)
            else .ok (.skipped, some origin)
        | none =>
          if (plan.incoming id).any (plan.isLive p.standing) then .ok (.ready, none)
          else .ok (.skipped, none) := by
  have states := edgeStates_eq plan settled
  have pruned := isPruned_eq plan p.standing id
  have first := firstBlocked?_eq plan p.standing id
  have live := any_live_eq plan p.standing id
  unfold judge
  cases incoming : plan.incoming id with
  | nil => exact absurd incoming some'
  | cons e rest =>
      rw [incoming] at states pruned first live
      dsimp only
      rw [states]
      change (if isPruned _ = true then _ else _) = _
      rw [pruned]
      split
      · rfl
      · rw [← first, ← live]
        cases firstBlocked? ((e :: rest).map fun e => (e, plan.view p.standing e)) with
        | none => dsimp only; split <;> rfl
        | some d =>
            dsimp only
            cases p.blockedBy.get? d.source with
            | none => rfl
            | some origin =>
                dsimp only
                split
                · cases failureCause p origin <;> rfl
                · rfl

def verdictOn (plan : Plan) (σ : String → Standing) (id : String) : Verdict :=
  if plan.admission σ id = .executed then .ready else .skipped

theorem judge_of_not_blocked {id : String} (settled : ∀ e ∈ plan.incoming id, p.Settled e.source)
    (h : plan.admission p.standing id ≠ .blocked) :
    judge plan p id = .ok (verdictOn plan p.standing id, none) := by
  by_cases free : plan.incoming id = []
  · simp [judge, verdictOn, Plan.admission, free]
  · rw [judge_eq free settled]
    have some' : (plan.incoming id).isEmpty = false := by simpa using free
    have faulty : ((plan.incoming id).find? fun e => (p.standing e.source).isFault).isSome =
        (plan.incoming id).any fun e => (p.standing e.source).isFault := List.isSome_find?
    unfold verdictOn
    unfold Plan.admission Plan.blocker? at *
    cases first : (plan.incoming id).find? fun e => (p.standing e.source).isFault <;>
      rw [first] at faulty <;>
      cases pruned : (plan.incoming id).any (plan.isPruned p.standing) <;>
      cases live : (plan.incoming id).any (plan.isLive p.standing) <;>
      simp [some', ← faulty, pruned, live] at h ⊢

/-- A blocked output node fails the run in the name of the failed node; any other blocked node is
skipped and marked with that node. -/
theorem judge_of_blocked {id : String} (settled : ∀ e ∈ plan.incoming id, p.Settled e.source)
    (h : plan.admission p.standing id = .blocked) :
    ∃ e origin failure, plan.blocker? p.standing id = some e ∧ e ∈ plan.incoming id ∧
      p.blockedBy.get? e.source = some origin ∧ p.errors.get? origin = some failure ∧
      judge plan p id =
        if plan.isOutput id then .error (.failed (some origin) failure.message)
        else .ok (.skipped, some origin) := by
  obtain ⟨e, he, first, fault⟩ := Plan.blocker?_of_blocked h
  have source := settled e he
  obtain ⟨origin, blame⟩ : ∃ origin, p.blockedBy.get? e.source = some origin := by
    rw [← Option.isSome_iff_exists]
    exact source.marked.trans fault
  obtain ⟨failure, cause⟩ := source.blamed blame
  refine ⟨e, origin, failure, first, he, blame, cause, ?_⟩
  have spared : (plan.incoming id).any (plan.isPruned p.standing) = false := by
    simpa using (Plan.admission_eq_blocked_iff.mp h).1
  rw [judge_eq (List.ne_nil_of_mem he) settled, spared, first]
  simp only [Bool.false_eq_true, if_false, blame, failureCause, cause]
  rfl

end Scheduler

end Workflow
