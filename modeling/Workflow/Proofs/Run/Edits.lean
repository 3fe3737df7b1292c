import Mathlib.Logic.Relation
import Workflow.Proofs.Run.Stage

/-! The edits of a run. Every part of a run changes its records by edits of a few kinds, and by no
others; so what each of them keeps is kept from the start of a run to its end. -/

namespace Workflow

/-- An edit of the records of a run. Which node may come to which status is given; a node that may
run may make its call. -/
inductive Progress.Edit (plan : Plan) (exec : Executor) (may : String → NodeStatus → Prop)
    (p : Progress) : Progress → Prop where
  /-- An event is recorded for a node that starts out. -/
  | announced {id : String} {n : Node} {tr : Recorder} {result : Except Fault TraceEvent}
      (known : plan.nodes.get? id = some n) (allowed : may id .pending)
      (record : p.trace.record id n.kind.name .pending .null none = (tr, result)) :
      Edit plan exec may p { p with trace := tr }
  /-- A node moves to another status, whether or not the event can be recorded. -/
  | moved {id : String} {n : Node} {s : NodeState} {status : NodeStatus} {change : Change}
      {tr : Recorder} {result : Except Fault TraceEvent} (known : plan.nodes.get? id = some n)
      (found : p.state.get? id = some s) (legal : s.status.following.contains status = true)
      (allowed : may id status)
      (record : p.trace.record id n.kind.name status change.shown change.error = (tr, result)) :
      Edit plan exec may p { p with state := p.state.after id s status change, trace := tr }
  /-- A node is marked with the failure that marks another one. -/
  | passed {id source origin : String} (blame : p.blockedBy.get? source = some origin) :
      Edit plan exec may p { p with blockedBy := p.blockedBy.put id origin }
  /-- A failed node is marked with its own failure. -/
  | owned {id : String} (failed : id ∈ p.failures) :
      Edit plan exec may p { p with blockedBy := p.blockedBy.put id id }
  /-- The failure of an execution is noted. -/
  | failed {id : String} {n : Node} {inputs : Inputs} {f : NodeFailure}
      (known : plan.nodes.get? id = some n)
      (made : Scheduler.settled n (exec n inputs).outcome = .failure f) :
      Edit plan exec may p { p with errors := p.errors.put id f, failures := p.failures ++ [id] }
  | called {id : String} {n : Node} {inputs : Inputs} (known : plan.nodes.get? id = some n)
      (allowed : may id .running) :
      Edit plan exec may p
        { p with calls := p.calls ++ (exec n inputs).call.toList.map (id, ·) }
  | cancelled {reason : Option String} : Edit plan exec may p { p with signal := some reason }

abbrev Progress.Edits (plan : Plan) (exec : Executor) (may : String → NodeStatus → Prop) :
    Progress → Progress → Prop :=
  Relation.ReflTransGen (Progress.Edit plan exec may)

variable {plan : Plan} {exec : Executor} {may also : String → NodeStatus → Prop}
  {p q : Progress} {payload : Value}

theorem Progress.Edit.mono (more : ∀ id status, may id status → also id status)
    (h : p.Edit plan exec may q) : p.Edit plan exec also q := by
  cases h with
  | announced known allowed record => exact .announced known (more _ _ allowed) record
  | moved known found legal allowed record =>
      exact .moved known found legal (more _ _ allowed) record
  | passed blame => exact .passed blame
  | owned failed => exact .owned failed
  | failed known made => exact .failed known made
  | called known allowed => exact .called known (more _ _ allowed)
  | cancelled => exact .cancelled

namespace Progress.Edits

theorem mono (more : ∀ id status, may id status → also id status) (h : p.Edits plan exec may q) :
    p.Edits plan exec also q :=
  Relation.ReflTransGen.mono (fun _ _ edit => Progress.Edit.mono more edit) _ _ h

theorem bind {α β : Type} {m : RunM α} {f : α → RunM β} (first : p.Edits plan exec may (m.on p).2)
    (second : ∀ a q, m.on p = (.ok a, q) → q.Edits plan exec may ((f a).on q).2) :
    p.Edits plan exec may ((m >>= f).on p).2 := by
  rw [RunM.on_bind]
  cases result : m.on p with
  | mk r q =>
      rw [result] at first
      cases r with
      | error stop => exact first
      | ok a => exact first.trans (second a q result)

end Progress.Edits

namespace Scheduler

variable {id : String} {status : NodeStatus}

theorem transition_edits (change : Change) (known : id ∈ plan.nodes.keys)
    (allowed : may id status) :
    p.Edits plan exec may ((transition plan id status change).on p).2 := by
  obtain ⟨n, node⟩ := Table.mem_keys_iff.mp known
  cases found : p.state.get? id with
  | none =>
      rw [transition_on_error (e := .unknownNode id) (by simp only [RunState.transition, found])]
  | some s =>
      by_cases legal : s.status.following.contains status = true
      · cases record : p.trace.record id n.kind.name status change.shown change.error with
        | mk tr result =>
            rw [transition_on node found legal record]
            exact .single (.moved node found legal allowed record)
      · rw [transition_on_error (e := .illegal id s.status status)
          (by simp only [RunState.transition, found, if_neg legal])]

theorem recordPending_edits {entries : Table Node}
    (known : ∀ x ∈ entries, plan.nodes.get? x.1 = some x.2)
    (allowed : ∀ x ∈ entries, may x.1 .pending) :
    p.Edits plan exec may ((recordPending entries).on p).2 := by
  induction entries generalizing p with
  | nil => exact .refl
  | cons x rest ih =>
      obtain ⟨id, n⟩ := x
      obtain ⟨first, known⟩ := List.forall_mem_cons.mp known
      obtain ⟨now, allowed⟩ := List.forall_mem_cons.mp allowed
      rw [recordPending_cons]
      cases record : p.trace.record id n.kind.name .pending .null none with
      | mk tr result =>
          have edit : p.Edit plan exec may { p with trace := tr } := .announced first now record
          cases result with
          | error f => exact .single edit
          | ok e => exact (ih known allowed).head edit

theorem judge_origin {verdict : Verdict} {origin : String}
    (h : judge plan p id = .ok (verdict, some origin)) :
    ∃ source, p.blockedBy.get? source = some origin := by
  unfold judge at h
  split at h
  · cases h
  · obtain ⟨states, -, h⟩ := except_bind_ok h
    split at h
    · cases h
    · split at h
      · rename_i e first
        split at h
        · cases h
        · rename_i found blame
          split at h
          · obtain ⟨cause, -, h⟩ := except_bind_ok h
            cases h
          · cases h
            exact ⟨_, blame⟩
      · split at h <;> cases h

theorem judgeAll_edits (ids : List String) :
    p.Edits plan exec may ((judgeAll plan ids).on p).2 := by
  induction ids generalizing p with
  | nil => exact .refl
  | cons id rest ih =>
      unfold judgeAll
      rw [RunM.on_bind, RunM.on_get]
      dsimp only
      cases judged : judge plan p id with
      | error stop =>
          rw [RunM.on_bind_error (by rw [RunM.on_lift])]
      | ok answer =>
          obtain ⟨verdict, origin⟩ := answer
          rw [RunM.on_bind_ok (by rw [RunM.on_lift])]
          have others : ∀ q : Progress, q.Edits plan exec may
              ((do
                let others ← judgeAll plan rest
                return (id, verdict) :: others : RunM _).on q).2 := fun q =>
            .bind ih fun _ _ _ => .refl
          cases origin with
          | none => exact others p
          | some origin =>
              obtain ⟨source, blame⟩ := judge_origin judged
              exact (others _).head (.passed blame)

/-- The nodes that are judged are skipped or become ready as their verdicts say. -/
def following (verdicts : List (String × Verdict)) (id : String) (status : NodeStatus) : Prop :=
  ((id, .skipped) ∈ verdicts ∧ status = .skipped) ∨ ((id, .ready) ∈ verdicts ∧ status = .ready)

theorem admitAll_edits {verdicts : List (String × Verdict)}
    (known : ∀ x ∈ verdicts, x.1 ∈ plan.nodes.keys)
    (allowed : ∀ id status, following verdicts id status → may id status) :
    p.Edits plan exec may ((admitAll plan payload verdicts).on p).2 := by
  induction verdicts generalizing p with
  | nil => exact .refl
  | cons x rest ih =>
      obtain ⟨id, verdict⟩ := x
      obtain ⟨first, known⟩ := List.forall_mem_cons.mp known
      have later : ∀ q : Progress, q.Edits plan exec may ((admitAll plan payload rest).on q).2 :=
        fun q => ih known fun i status h => allowed i status <|
          h.imp (fun h => ⟨List.mem_cons_of_mem _ h.1, h.2⟩)
            fun h => ⟨List.mem_cons_of_mem _ h.1, h.2⟩
      cases verdict with
      | skipped =>
          have now := allowed id .skipped (.inl ⟨List.mem_cons_self, rfl⟩)
          exact .bind (transition_edits _ first now) fun _ q _ => later q
      | ready =>
          have now := allowed id .ready (.inr ⟨List.mem_cons_self, rfl⟩)
          unfold admitAll
          rw [RunM.on_bind, RunM.on_get]
          refine .bind ?_ fun inputs q resolved => ?_
          · rw [RunM.on_lift]
          have same : p = q := congrArg Prod.snd resolved
          subst same
          refine .bind (transition_edits _ first now) fun _ q _ => ?_
          exact .bind (later q) fun _ _ _ => .refl

theorem admitAll_ready {verdicts : List (String × Verdict)} {admitted : List (String × Inputs)}
    (h : (admitAll plan payload verdicts).on p = (.ok admitted, q)) :
    ∀ x ∈ admitted, (x.1, .ready) ∈ verdicts := by
  induction verdicts generalizing p q admitted with
  | nil =>
      cases h
      exact fun _ mem => absurd mem List.not_mem_nil
  | cons x rest ih =>
      obtain ⟨id, verdict⟩ := x
      cases verdict with
      | skipped =>
          obtain ⟨r, -, later⟩ := admitAll_skipped_ok h
          exact fun x mem => List.mem_cons_of_mem _ (ih later x mem)
      | ready =>
          obtain ⟨inputs, r, others, -, -, later, rfl⟩ := admitAll_ready_ok h
          refine List.forall_mem_cons.mpr ⟨List.mem_cons_self, fun x mem => ?_⟩
          exact List.mem_cons_of_mem _ (ih later x mem)

theorem startAll_edits {admitted : List (String × Inputs)}
    (known : ∀ x ∈ admitted, x.1 ∈ plan.nodes.keys)
    (allowed : ∀ x ∈ admitted, may x.1 .running) :
    p.Edits plan exec may ((startAll plan admitted).on p).2 := by
  induction admitted generalizing p with
  | nil => exact .refl
  | cons x rest ih =>
      obtain ⟨first, known⟩ := List.forall_mem_cons.mp known
      obtain ⟨now, allowed⟩ := List.forall_mem_cons.mp allowed
      exact .bind (transition_edits _ first now) fun _ _ _ => ih known allowed

theorem executeAll_edits {admitted : List (String × Inputs)}
    (known : ∀ x ∈ admitted, x.1 ∈ plan.nodes.keys)
    (allowed : ∀ x ∈ admitted, may x.1 .running) :
    p.Edits plan exec may ((executeAll plan exec admitted).on p).2 := by
  induction admitted generalizing p with
  | nil => exact .refl
  | cons x rest ih =>
      obtain ⟨id, inputs⟩ := x
      obtain ⟨first, known⟩ := List.forall_mem_cons.mp known
      obtain ⟨now, allowed⟩ := List.forall_mem_cons.mp allowed
      obtain ⟨n, node⟩ := Table.mem_keys_iff.mp first
      have later : ∀ q : Progress, q.Edits plan exec may
          ((do
            let others ← executeAll plan exec rest
            return (id, exec n inputs) :: others : RunM _).on q).2 := fun q =>
        .bind (ih known allowed) fun _ _ _ => .refl
      unfold executeAll
      rw [RunM.on_bind_ok (by rw [RunM.on_lift, executionOf, node]), RunM.on_bind, RunM.on_modify]
      exact (later _).head (.called node now)

/-- An execution of the plan, under the id of its node. -/
def Made (plan : Plan) (exec : Executor) (x : String × Execution) : Prop :=
  ∃ n inputs, plan.nodes.get? x.1 = some n ∧ x.2 = exec n inputs

theorem complete_edits {x : String × Execution} (made : Made plan exec x)
    (allowed : may x.1 .succeeded ∧ may x.1 .failed) :
    p.Edits plan exec may ((complete plan x.1 x.2.outcome).on p).2 := by
  obtain ⟨id, execution⟩ := x
  obtain ⟨n, inputs, node, rfl⟩ := made
  have known : id ∈ plan.nodes.keys := Table.mem_keys_iff.mpr ⟨n, node⟩
  have failure : ∀ {f : NodeFailure}, settled n (exec n inputs).outcome = .failure f →
      p.Edits plan exec may ((transition plan id .failed
        (.withError ⟨f.typeName, f.cause.text, some n.kind.name⟩)).on
          { p with errors := p.errors.put id f, failures := p.failures ++ [id] }).2 :=
    fun same => (transition_edits _ known allowed.2).head (.failed node same)
  unfold complete
  rw [node]
  cases outcome : (exec n inputs).outcome with
  | value v => exact transition_edits _ known allowed.1
  | decision d => exact transition_edits _ known allowed.1
  | failure f => exact failure (by rw [outcome]; rfl)
  | fault f => exact failure (by rw [outcome]; rfl)
  | cancelled message => exact .refl

theorem heard_edits (e : Execution) : p.Edits plan exec may (p.heard e) := by
  unfold Progress.heard
  cases e.cancels with
  | none => exact .refl
  | some reason => exact .single .cancelled

theorem consume_edits {executions : List (String × Execution)}
    (made : ∀ x ∈ executions, Made plan exec x)
    (allowed : ∀ x ∈ executions, may x.1 .succeeded ∧ may x.1 .failed) :
    p.Edits plan exec may ((consume plan executions).on p).2 := by
  induction executions generalizing p with
  | nil => exact .refl
  | cons x rest ih =>
      obtain ⟨first, made⟩ := List.forall_mem_cons.mp made
      obtain ⟨now, allowed⟩ := List.forall_mem_cons.mp allowed
      have here := (heard_edits (p := p) x.2).trans (complete_edits first now)
      rw [consume_cons]
      cases completed : (complete plan x.1 x.2.outcome).on (p.heard x.2) with
      | mk result q =>
          rw [completed] at here
          have later := here.trans (ih (p := q) made allowed)
          cases result with
          | ok _ => exact later
          | error stop =>
              cases stop with
              | cancelled message => exact here
              | _ =>
                  dsimp only
                  cases consumed : (consume plan rest).on q with
                  | mk result r =>
                      rw [consumed] at later
                      cases result <;> exact later

theorem executeAll_made {admitted : List (String × Inputs)}
    {executions : List (String × Execution)} (known : ∀ x ∈ admitted, x.1 ∈ plan.nodes.keys)
    (ran : (executeAll plan exec admitted).on p = (.ok executions, q)) :
    ∀ x ∈ executions, Made plan exec x ∧ ∃ y ∈ admitted, y.1 = x.1 := by
  obtain ⟨executions', calls, ran', names, made⟩ := executeAll_on (p := p) exec fun x mem =>
    Table.mem_keys_iff.mp (known x mem)
  cases ran.symm.trans ran'
  intro x mem
  obtain ⟨n, inputs, node, here, same⟩ := made x mem
  exact ⟨⟨n, inputs, node, same⟩, _, here, rfl⟩

theorem dispatch_edits {admitted : List (String × Inputs)}
    (known : ∀ x ∈ admitted, x.1 ∈ plan.nodes.keys)
    (allowed : ∀ x ∈ admitted, may x.1 .running ∧ may x.1 .succeeded ∧ may x.1 .failed) :
    p.Edits plan exec may ((dispatch plan exec admitted).on p).2 := by
  refine .bind (startAll_edits known fun x mem => (allowed x mem).1) fun _ q _ => ?_
  refine .bind (executeAll_edits known fun x mem => (allowed x mem).1) fun executions r ran => ?_
  have made := executeAll_made known ran
  refine .bind (consume_edits (fun x mem => (made x (mem_ranked.mp mem)).1) fun x mem => ?_)
    fun trouble s _ => ?_
  · obtain ⟨-, y, here, same⟩ := made x (mem_ranked.mp mem)
    exact same ▸ (allowed y here).2
  · cases trouble <;> exact .refl

theorem escalate_edits {failed : List String} (noted : ∀ id ∈ failed, id ∈ p.failures) :
    p.Edits plan exec may ((escalate plan failed).on p).2 := by
  unfold escalate
  rw [RunM.on_bind, RunM.on_modify]
  dsimp only
  rw [failDoomed_on]
  generalize marks : p.blockedBy = t
  have start : p = { p with blockedBy := t } := by rw [← marks]
  rw [start] at noted ⊢
  clear marks start
  induction failed generalizing t with
  | nil => exact .refl
  | cons id rest ih =>
      obtain ⟨first, noted⟩ := List.forall_mem_cons.mp noted
      exact (ih (t.put id id) noted).head (.owned first)

end Scheduler

end Workflow
