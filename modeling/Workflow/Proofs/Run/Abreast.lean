import Workflow.Proofs.Run.Fate
import Workflow.Proofs.Run.Likeness

/-! Stages of two runs side by side. Where the runs start alike and their executors do the same with
the nodes that a view shows, each part of a stage leaves them alike: what it does with the other
nodes may be left out, and then both do the same. -/

namespace Workflow

/-- Two executors do the same with the nodes that a view shows: they come to the same outcomes, and
complete in the same order. -/
structure Executor.Likewise (exec exec' : Executor) (plan : Plan) (v : View) : Prop where
  outcome : ∀ {id n}, plan.nodes.get? id = some n → v.shows id = true → ∀ inputs,
    (exec n inputs).outcome = (exec' n inputs).outcome
  order : ∀ {id n other m}, plan.nodes.get? id = some n → v.shows id = true →
    plan.nodes.get? other = some m → v.shows other = true → ∀ i j,
      ((exec n i).delay < (exec m j).delay ↔ (exec' n i).delay < (exec' m j).delay)

/-- Two executions of one node that is seen. -/
def Twin (plan : Plan) (exec exec' : Executor) (v : View) (x y : String × Execution) : Prop :=
  x.1 = y.1 ∧ v.shows x.1 = true ∧
    ∃ n inputs, plan.nodes.get? x.1 = some n ∧ x.2 = exec n inputs ∧ y.2 = exec' n inputs

variable {v : View} {plan : Plan} {exec exec' : Executor} {payload : Value} {p q r s t : Progress}
  {admitted : List (String × Inputs)} {executions : List (String × Execution)}

theorem Agree.ok {α : Type} {m : RunM α} {a : α} (h : Agree v (.ok a, q) (m.on r)) :
    ∃ s, m.on r = (.ok a, s) ∧ q.Alike v s := by
  obtain ⟨result, p, s, same, ran, alike⟩ := h.cases
  obtain ⟨rfl, rfl⟩ := Prod.mk.inj same
  exact ⟨s, ran, alike⟩

theorem Progress.Alike.heard (alike : p.Alike v q) (e f : Execution) :
    (p.heard e).Alike v (q.heard f) :=
  ⟨alike.state, alike.trace, alike.errors, alike.marks⟩

theorem Executor.Likewise.twin_outcome (likewise : exec.Likewise exec' plan v)
    {x y : String × Execution} (twin : Twin plan exec exec' v x y) :
    x.2.outcome = y.2.outcome := by
  obtain ⟨-, shown, n, inputs, node, made, made'⟩ := twin
  rw [made, made', likewise.outcome node shown]

namespace Scheduler

section

variable (closed : v.Closed plan)

include closed

theorem admitAll_seen {verdicts : List (String × Verdict)} (alike : p.Alike v r)
    (ran : (admitAll plan payload verdicts).on p = (.ok admitted, q)) :
    ∃ s, (admitAll plan payload (verdicts.filter fun x => v.shows x.1)).on r =
        (.ok (admitted.filter fun x => v.shows x.1), s) ∧ q.Alike v s := by
  induction verdicts generalizing p r admitted with
  | nil =>
      cases ran
      exact ⟨r, rfl, alike⟩
  | cons x rest ih =>
      obtain ⟨id, verdict⟩ := x
      cases verdict with
      | skipped =>
          obtain ⟨t, step, later⟩ := admitAll_skipped_ok ran
          cases shown : v.shows id with
          | false =>
              rw [List.filter_cons, shown]
              exact ih ((transition_hidden shown step).symm.trans alike) later
          | true =>
              obtain ⟨u, step', next⟩ := (step ▸ transition_alike alike shown).ok
              obtain ⟨s, run, last⟩ := ih next later
              refine ⟨s, ?_, last⟩
              rw [List.filter_cons, if_pos shown, admitAll, RunM.on_bind_ok step', run]
      | ready =>
          obtain ⟨inputs, t, others, resolved, step, later, rfl⟩ := admitAll_ready_ok ran
          cases shown : v.shows id with
          | false =>
              rw [List.filter_cons, shown, List.filter_cons, shown]
              exact ih ((transition_hidden shown step).symm.trans alike) later
          | true =>
              rw [resolveInputs_alike alike closed shown] at resolved
              obtain ⟨u, step', next⟩ := (step ▸ transition_alike alike shown).ok
              obtain ⟨s, run, last⟩ := ih next later
              refine ⟨s, ?_, last⟩
              rw [List.filter_cons, if_pos shown, List.filter_cons, if_pos shown, admitAll,
                RunM.on_bind, RunM.on_get]
              dsimp only
              rw [RunM.on_bind_ok (by rw [RunM.on_lift, resolved]), RunM.on_bind_ok step',
                RunM.on_bind_ok run]
              rfl

end

theorem startAll_seen (alike : p.Alike v r) (ran : (startAll plan admitted).on p = (.ok (), q)) :
    ∃ s, (startAll plan (admitted.filter fun x => v.shows x.1)).on r = (.ok (), s) ∧
      q.Alike v s := by
  induction admitted generalizing p r with
  | nil =>
      cases ran
      exact ⟨r, rfl, alike⟩
  | cons x rest ih =>
      obtain ⟨t, step, later⟩ := startAll_cons_ok ran
      cases shown : v.shows x.1 with
      | false =>
          rw [List.filter_cons, shown]
          exact ih ((transition_hidden shown step).symm.trans alike) later
      | true =>
          obtain ⟨u, step', next⟩ := (step ▸ transition_alike alike shown).ok
          obtain ⟨s, run, last⟩ := ih next later
          refine ⟨s, ?_, last⟩
          rw [List.filter_cons, if_pos shown, startAll, RunM.on_bind_ok step', run]

def executed (plan : Plan) (exec : Executor) (x : String × Inputs) : Option (String × Execution) :=
  (plan.nodes.get? x.1).map fun n => (x.1, exec n x.2)

/-- Admitted nodes are executed one by one, and but for their calls nothing becomes of a run. -/
theorem executeAll_ok (ran : (executeAll plan exec admitted).on p = (.ok executions, q)) :
    executions = admitted.filterMap (executed plan exec) ∧ q = { p with calls := q.calls } := by
  induction admitted generalizing p executions with
  | nil =>
      cases ran
      exact ⟨rfl, rfl⟩
  | cons x rest ih =>
      obtain ⟨n, others, known, later, rfl⟩ := executeAll_cons_ok ran
      obtain ⟨made, kept⟩ := ih later
      refine ⟨?_, kept.trans rfl⟩
      rw [List.filterMap_cons, executed, known, made]
      rfl

theorem executed_twins (exec exec' : Executor)
    (shown : ∀ x ∈ admitted, v.shows x.1 = true) :
    List.Forall₂ (Twin plan exec exec' v) (admitted.filterMap (executed plan exec))
      (admitted.filterMap (executed plan exec')) := by
  induction admitted with
  | nil => exact .nil
  | cons x rest ih =>
      obtain ⟨now, later⟩ := List.forall_mem_cons.mp shown
      rw [List.filterMap_cons, List.filterMap_cons, executed, executed]
      cases known : plan.nodes.get? x.1 with
      | none => exact ih later
      | some n => exact .cons ⟨rfl, now, n, x.2, known, rfl, rfl⟩ (ih later)

theorem executed_filter :
    (admitted.filterMap (executed plan exec)).filter (fun x => v.shows x.1) =
      (admitted.filter fun x => v.shows x.1).filterMap (executed plan exec) := by
  rw [List.filter_filterMap, List.filterMap_filter]
  refine List.filterMap_congr fun x _ => ?_
  unfold executed
  cases plan.nodes.get? x.1 with
  | none => simp
  | some n => cases shown : v.shows x.1 <;> simp [Option.filter, shown]

theorem completionOrder_twins (likewise : exec.Likewise exec' plan v)
    {others : List (String × Execution)}
    (twins : List.Forall₂ (Twin plan exec exec' v) (executions.filter fun x => v.shows x.1)
      (others.filter fun x => v.shows x.1)) :
    List.Forall₂ (Twin plan exec exec' v)
      ((completionOrder executions).filter fun x => v.shows x.1)
      ((completionOrder others).filter fun x => v.shows x.1) := by
  unfold completionOrder
  rw [ranked_filter (fun x : String × Execution => x.2.delay),
    ranked_filter (fun x : String × Execution => x.2.delay)]
  refine ranked_forall₂ ?_ twins
  rintro a b c d ⟨-, shown, n, i, node, made, made'⟩ ⟨-, shown', m, j, node', made'', made'''⟩
  rw [made, made', made'', made''']
  exact decide_eq_decide.mpr (likewise.order node shown node' shown' i j)

/-- The consumption of hidden outcomes that are recorded may be left out. -/
theorem consume_seen (alike : p.Alike v r)
    (ran : (consume plan executions).on p = (.ok none, q)) :
    ∃ s, (consume plan (executions.filter fun x => v.shows x.1)).on r = (.ok none, s) ∧
      q.Alike v s := by
  induction executions generalizing p r with
  | nil =>
      cases ran
      exact ⟨r, rfl, alike⟩
  | cons x rest ih =>
      obtain ⟨t, completed, later⟩ := consume_cons_ok ran
      cases shown : v.shows x.1 with
      | false =>
          rw [List.filter_cons, shown]
          have heard := alike.heard x.2 x.2
          have first := complete_hidden shown heard.trace.unsealed completed
          exact ih (first.symm.trans ⟨alike.state, alike.trace, alike.errors, alike.marks⟩) later
      | true =>
          obtain ⟨u, completed', next⟩ :=
            (completed ▸ complete_alike (alike.heard x.2 x.2) shown x.2.outcome).ok
          obtain ⟨s, run, last⟩ := ih next later
          refine ⟨s, ?_, last⟩
          rw [List.filter_cons, if_pos shown, consume_cons, completed']
          exact run

theorem recording_agree {m m' : RunM Unit} (h : Agree v (m.on p) (m'.on q)) :
    Agree v ((recording m).on p) ((recording m').on q) := by
  obtain ⟨result, r, s, ran, ran', alike⟩ := h.cases
  rw [recording_on, recording_on, ran, ran']
  cases result with
  | ok _ => exact ⟨rfl, alike⟩
  | error stop => cases stop <;> exact ⟨rfl, alike⟩

/-- Outcomes of nodes that are seen are consumed in the same way. -/
theorem consume_twins (likewise : exec.Likewise exec' plan v)
    {others : List (String × Execution)}
    (twins : List.Forall₂ (Twin plan exec exec' v) executions others) (alike : p.Alike v q) :
    Agree v ((consume plan executions).on p) ((consume plan others).on q) := by
  induction twins generalizing p q with
  | nil => exact ⟨rfl, alike⟩
  | @cons x y rest rest' twin _ ih =>
      have outcome := likewise.twin_outcome twin
      obtain ⟨name, shown, -⟩ := twin
      have now : Agree v ((recording (complete plan x.1 x.2.outcome)).on (p.heard x.2))
          ((recording (complete plan y.1 y.2.outcome)).on (q.heard y.2)) := by
        rw [← name, ← outcome]
        exact recording_agree (complete_alike (alike.heard x.2 y.2) shown x.2.outcome)
      rw [consume_heard, consume_heard]
      refine now.bind fun trouble r s next => ?_
      refine (ih next).bind fun others t u last => ?_
      rw [name]
      exact ⟨rfl, last⟩

/-- The outcomes of two stages are consumed in the same way, if all of them are seen or all are
recorded. -/
theorem consume_agree (likewise : exec.Likewise exec' plan v)
    {others : List (String × Execution)}
    (twins : List.Forall₂ (Twin plan exec exec' v) (executions.filter fun x => v.shows x.1)
      (others.filter fun x => v.shows x.1)) (alike : p.Alike v q)
    (calm : (∀ id, v.shows id = true) ∨ ∃ r s, (consume plan executions).on p = (.ok none, r) ∧
      (consume plan others).on q = (.ok none, s)) :
    Agree v ((consume plan executions).on p) ((consume plan others).on q) := by
  rcases calm with whole | ⟨r, s, ran, ran'⟩
  · rw [List.filter_eq_self.mpr fun x _ => whole x.1,
      List.filter_eq_self.mpr fun x _ => whole x.1] at twins
    exact consume_twins likewise twins alike
  · obtain ⟨t, seen, last⟩ := consume_seen (.refl alike.trace.unsealed) ran
    obtain ⟨u, seen', last'⟩ := consume_seen (.refl alike.trace.unsealed') ran'
    have agree := consume_twins likewise twins alike
    rw [seen, seen'] at agree
    rw [ran, ran']
    exact ⟨rfl, last.trans (agree.alike.trans last'.symm)⟩

end Scheduler

/-- Two stages come to the same end: to the same stop with traces that are alike, or through with
all else alike as well. -/
structure Concur (v : View) {α : Type} (x y : Except Stop α × Progress) : Prop where
  answer : x.1 = y.1
  traces : x.2.trace.Alike v y.2.trace
  alike : ∀ a, x.1 = .ok a → x.2.Alike v y.2

theorem Concur.cases {α : Type} {x y : Except Stop α × Progress} (h : Concur v x y) :
    (∃ stop p q, x = (.error stop, p) ∧ y = (.error stop, q) ∧ p.trace.Alike v q.trace) ∨
      ∃ a p q, x = (.ok a, p) ∧ y = (.ok a, q) ∧ p.Alike v q := by
  obtain ⟨answer, traces, alike⟩ := h
  obtain ⟨result, p⟩ := x
  obtain ⟨result', q⟩ := y
  obtain rfl : result = result' := answer
  cases result with
  | error stop => exact .inl ⟨stop, p, q, rfl, rfl, traces⟩
  | ok a => exact .inr ⟨a, p, q, rfl, rfl, alike a rfl⟩

theorem Concur.stopped {α : Type} {stop : Stop} (traces : p.trace.Alike v q.trace) :
    Concur v (α := α) (.error stop, p) (.error stop, q) :=
  ⟨rfl, traces, fun _ through => nomatch through⟩

theorem Concur.through {α : Type} {a : α} (alike : p.Alike v q) :
    Concur v (.ok a, p) (.ok a, q) :=
  ⟨rfl, alike.trace, fun _ _ => alike⟩

theorem find?_filter_of_imp {α : Type} {f g : α → Bool} {l : List α}
    (h : ∀ a ∈ l, f a = true → g a = true) : (l.filter g).find? f = l.find? f := by
  induction l with
  | nil => rfl
  | cons a rest ih =>
      obtain ⟨now, later⟩ := List.forall_mem_cons.mp h
      rw [List.filter_cons, List.find?_cons]
      cases kept : g a with
      | true =>
          rw [if_pos rfl, List.find?_cons, ih later]
      | false =>
          have missed : f a = false := by
            rw [← Bool.not_eq_true]
            intro hit
            rw [now hit] at kept
            cases kept
          rw [if_neg Bool.false_ne_true, missed, ih later]

theorem find?_congr_of_mem {α : Type} {f g : α → Bool} {l : List α} (h : ∀ a ∈ l, f a = g a) :
    l.find? f = l.find? g := by
  induction l with
  | nil => rfl
  | cons a rest ih =>
      obtain ⟨now, later⟩ := List.forall_mem_cons.mp h
      rw [List.find?_cons, List.find?_cons, now, ih later]

theorem Progress.Alike.escalated (alike : p.Alike v q) {failed failed' : List String}
    (same : failed.filter v.shows = failed'.filter v.shows) :
    (p.escalated failed).Alike v (q.escalated failed') where
  state := alike.state
  trace := alike.trace
  errors := alike.errors
  marks {id} shown := by
    have listed : id ∈ failed ↔ id ∈ failed' := by
      have seen : ∀ l : List String, id ∈ l ↔ id ∈ l.filter v.shows := fun l => by
        rw [List.mem_filter, and_iff_left shown]
      rw [seen failed, seen failed', same]
    rw [Scheduler.escalated_get?, Scheduler.escalated_get?, alike.marks shown]
    simp only [listed]

namespace Scheduler

theorem failDoomed_concur (sound : plan.Sound) (closed : v.Closed plan) (alike : p.Alike v q)
    (tells : plan.Tells p) (tells' : plan.Tells q) {failed failed' : List String}
    (same : failed.filter v.shows = failed'.filter v.shows)
    (known : ∀ id ∈ failed, id ∈ plan.nodes.keys) (known' : ∀ id ∈ failed', id ∈ plan.nodes.keys) :
    Concur v ((failDoomed plan failed).on p) ((failDoomed plan failed').on q) := by
  have seen : ∀ {r : Progress} {ids : List String}, plan.Tells r →
      (∀ id ∈ ids, id ∈ plan.nodes.keys) →
      ∀ id ∈ ids, isDoomed plan r id = true → v.shows id = true := by
    intro r ids tells known id mem doom
    obtain ⟨target, -, output, drags⟩ := (isDoomed_iff sound tells (known id mem)).mp doom
    exact Progress.Alike.drags_shown closed drags (closed.outputs output)
  have doomed : ∀ id ∈ failed.filter v.shows, isDoomed plan p id = isDoomed plan q id := by
    intro id mem
    have key := known id (List.mem_of_mem_filter mem)
    rw [Bool.eq_iff_iff, isDoomed_iff sound tells key, isDoomed_iff sound tells' key]
    exact ⟨alike.doomed closed, alike.symm.doomed closed⟩
  -- A failure that dooms its run is seen, so the hidden ones do not matter to which is the first.
  have first : failed.find? (isDoomed plan p) = failed'.find? (isDoomed plan q) := by
    rw [← find?_filter_of_imp (seen tells known), ← find?_filter_of_imp (seen tells' known'),
      find?_congr_of_mem doomed, same]
  rw [failDoomed_eq, failDoomed_eq, ← first]
  cases found : failed.find? (isDoomed plan p) with
  | none => exact .through alike
  | some id =>
      have shown := seen tells known id (List.mem_of_find?_eq_some found) (List.find?_some found)
      have cause : failureCause p id = failureCause q id := by
        rw [failureCause, alike.errors shown, failureCause]
      dsimp only
      rw [← cause]
      cases failureCause p id <;> exact .stopped alike.trace

end Scheduler

end Workflow
