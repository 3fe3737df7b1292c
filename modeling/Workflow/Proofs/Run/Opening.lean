import Workflow.Proofs.Run.Judging

/-! The opening of a stage: the nodes that are judged unfit are skipped, and the others admitted
with their inputs, started and executed. None of these steps stops the run. -/

namespace Workflow

/-- The values that a node sees come from the payload and from the outputs of nodes. -/
structure Inputs.Gathered (inputs : Inputs) (payload : Value) (p : Progress) : Prop where
  payload : inputs.payload = payload
  predecessors : ∀ x ∈ inputs.predecessors, ∃ id, x.2 = p.state.output id
  ports : ∀ x ∈ inputs.ports, ∃ id, x.2 = p.state.output id
  ancestors : ∀ x ∈ inputs.ancestors, ∃ id, x.2 = p.state.output id

theorem Inputs.Gathered.congr {inputs : Inputs} {payload : Value} {p q : Progress}
    (h : inputs.Gathered payload q) (same : ∀ id, q.state.output id = p.state.output id) :
    inputs.Gathered payload p := by
  have moved : ∀ {t : Table Value}, (∀ x ∈ t, ∃ id, x.2 = q.state.output id) →
      ∀ x ∈ t, ∃ id, x.2 = p.state.output id := fun all x hx =>
    (all x hx).imp fun id eq => eq.trans (same id)
  exact ⟨h.payload, moved h.predecessors, moved h.ports, moved h.ancestors⟩

def Progress.Has (p : Progress) (plan : Plan) (status : NodeStatus) (id : String) : Prop :=
  (∃ n, plan.nodes.get? id = some n) ∧ ∃ s, p.state.get? id = some s ∧ s.status = status

theorem Progress.Has.congr {p q : Progress} {plan : Plan} {status : NodeStatus} {id : String}
    (h : p.Has plan status id) (same : q.state.get? id = p.state.get? id) :
    q.Has plan status id := ⟨h.1, by rw [same]; exact h.2⟩

/-- Some nodes have moved without an output, and every move is recorded. -/
structure Progress.Quietly (ids : List String) (p q : Progress) : Prop
    extends p.Moved ids q where
  rest : q = { p with state := q.state, trace := q.trace }
  outputs : ∀ id, q.state.output id = p.state.output id

namespace Progress.Quietly

variable {p q r : Progress} {ids others : List String}

theorem refl (h : p.trace.sealedTrace = none) : p.Quietly [] p := ⟨.refl h, rfl, fun _ => rfl⟩

theorem trans (first : p.Quietly ids q) (second : q.Quietly others r) :
    p.Quietly (ids ++ others) r where
  toMoved := first.toMoved.trans second.toMoved
  rest := by
    refine second.rest.trans ?_
    rw [first.rest]
  outputs id := (second.outputs id).trans (first.outputs id)

theorem mono (h : p.Quietly ids q) (sub : ∀ id ∈ ids, id ∈ others) : p.Quietly others q :=
  ⟨h.toMoved.mono sub, h.rest, h.outputs⟩

theorem settled (h : p.Quietly ids q) {id : String} (apart : id ∉ ids) (old : p.Settled id) :
    q.Settled id :=
  old.congr (h.others id apart) (by rw [h.rest]) (by rw [h.rest])

end Progress.Quietly

namespace Scheduler

variable {plan : Plan} {p : Progress} {payload : Value}

theorem mem_putNew {t : Table Value} {key : String} {v : Value} {x : String × Value}
    (h : x ∈ t.putNew key v) : x.2 = v ∨ x ∈ t := by
  unfold Table.putNew at h
  split at h
  · exact .inr h
  · exact (Table.mem_put h).imp_left fun same => same.2

theorem delivered_gathered (plan : Plan) {edges : List Edge}
    (settled : ∀ e ∈ edges, p.Settled e.source) {predecessors ports : Table Value}
    (before : ∀ x ∈ predecessors, ∃ id, x.2 = p.state.output id)
    (before' : ∀ x ∈ ports, ∃ id, x.2 = p.state.output id) :
    ∃ t u, delivered plan p edges (predecessors, ports) = .ok (t, u) ∧
      (∀ x ∈ t, ∃ id, x.2 = p.state.output id) ∧ ∀ x ∈ u, ∃ id, x.2 = p.state.output id := by
  induction edges generalizing predecessors ports with
  | nil => exact ⟨_, _, rfl, before, before'⟩
  | cons e rest ih =>
      have later : ∀ d ∈ rest, p.Settled d.source := fun d hd =>
        settled d (List.mem_cons_of_mem _ hd)
      have added : ∀ {t : Table Value} {key : String},
          (∀ x ∈ t, ∃ id, x.2 = p.state.output id) →
          ∀ x ∈ t.putNew key (p.state.output e.source), ∃ id, x.2 = p.state.output id :=
        fun all x hx => (mem_putNew hx).elim (fun new => ⟨_, new⟩) (all x)
      unfold delivered
      rw [edgeState_eq (settled e List.mem_cons_self)]
      dsimp only [bind, Except.bind]
      split
      · refine ih later (added before) ?_
        cases e.targetPort with
        | none => exact before'
        | some port =>
            dsimp only
            split
            · exact before'
            · exact added before'
      · exact ih later before before'

/-- The inputs of a node are there once the sources of its edges are settled. -/
theorem resolveInputs_gathered (payload : Value) {id : String}
    (settled : ∀ e ∈ plan.incoming id, p.Settled e.source) :
    ∃ inputs, resolveInputs plan payload p id = .ok inputs ∧ inputs.Gathered payload p := by
  obtain ⟨t, u, found, left, right⟩ := delivered_gathered plan settled
    (fun x hx => absurd hx List.not_mem_nil) fun x hx => absurd hx List.not_mem_nil
  refine ⟨⟨payload, t, u, ancestorOutputs plan p id⟩, ?_, rfl, left, right, ?_⟩
  · rw [resolveInputs, found]
    rfl
  · intro x hx
    obtain ⟨a, -, rfl⟩ := List.mem_map.mp hx
    exact ⟨a, rfl⟩

/-- A transition that shows nothing and is no success is recorded and keeps every output. -/
theorem transition_quiet (status : NodeStatus) (change : Change) {id : String} {now : NodeStatus}
    (has : p.Has plan now id) (legal : now.following.contains status = true)
    (unsealed : p.trace.sealedTrace = none) (null : change.shown = .null)
    (fruitless : status ≠ .succeeded) :
    ∃ q, (transition plan id status change).on p = (.ok (), q) ∧ p.Quietly [id] q ∧
      q.Has plan status id := by
  obtain ⟨⟨n, known⟩, s, found, rfl⟩ := has
  obtain ⟨st, tr, step, moved, self, -⟩ := transition_recorded change known found legal
    unsealed (null.symm ▸ Recorder.copied_null p.trace)
  refine ⟨_, step, ⟨moved, rfl, ?_⟩, ⟨n, known⟩, _, self, rfl⟩
  intro i
  unfold RunState.output
  by_cases same : i = id
  · subst same
    simp [self, found, NodeState.moved, fruitless]
  · rw [moved.others i (by simpa using same)]

/-- The judged nodes of a stage are skipped or admitted, the latter with what they see. -/
structure Admitted (plan : Plan) (payload : Value) (verdict : String → Verdict)
    (ids : List String) (p : Progress) (admitted : List (String × Inputs)) (q : Progress) :
    Prop where
  quiet : p.Quietly ids q
  names : admitted.map Prod.fst = ids.filter fun id => verdict id = .ready
  has : ∀ id ∈ ids, q.Has plan (if verdict id = .ready then .ready else .skipped) id
  gathered : ∀ x ∈ admitted, x.2.Gathered payload p

section

variable {verdict : String → Verdict} {ids : List String} {id : String} {q r : Progress}
  {admitted : List (String × Inputs)}

theorem Admitted.has_cons (h : Admitted plan payload verdict ids q admitted r) (fresh : id ∉ ids)
    (has : q.Has plan (if verdict id = .ready then .ready else .skipped) id) :
    ∀ i ∈ id :: ids, r.Has plan (if verdict i = .ready then .ready else .skipped) i :=
  List.forall_mem_cons.mpr ⟨has.congr (h.quiet.others id fresh), h.has⟩

theorem Admitted.skip (h : Admitted plan payload verdict ids q admitted r) (fresh : id ∉ ids)
    (skipped : verdict id = .skipped) (quiet : p.Quietly [id] q) (has : q.Has plan .skipped id) :
    Admitted plan payload verdict (id :: ids) p admitted r where
  quiet := quiet.trans h.quiet
  names := by
    rw [List.filter_cons, h.names]
    simp [skipped]
  has := h.has_cons fresh (by simpa [skipped] using has)
  gathered x hx := (h.gathered x hx).congr quiet.outputs

theorem Admitted.ready (h : Admitted plan payload verdict ids q admitted r) (fresh : id ∉ ids)
    (ready : verdict id = .ready) (quiet : p.Quietly [id] q) (has : q.Has plan .ready id)
    {inputs : Inputs} (seen : inputs.Gathered payload p) :
    Admitted plan payload verdict (id :: ids) p ((id, inputs) :: admitted) r where
  quiet := quiet.trans h.quiet
  names := by
    rw [List.map_cons, List.filter_cons, h.names]
    simp [ready]
  has := h.has_cons fresh (by simpa [ready] using has)
  gathered := List.forall_mem_cons.mpr
    ⟨seen, fun x hx => (h.gathered x hx).congr quiet.outputs⟩

end

theorem admitAll_on (payload : Value) (verdict : String → Verdict) {ids : List String}
    (nodup : ids.Nodup) (unsealed : p.trace.sealedTrace = none)
    (pending : ∀ id ∈ ids, p.Has plan .pending id)
    (settled : ∀ id ∈ ids, ∀ e ∈ plan.incoming id, p.Settled e.source ∧ e.source ∉ ids) :
    ∃ admitted q, (admitAll plan payload (ids.map fun id => (id, verdict id))).on p =
        (.ok admitted, q) ∧
      Admitted plan payload verdict ids p admitted q := by
  induction ids generalizing p with
  | nil =>
      refine ⟨[], p, rfl, .refl unsealed, rfl, ?_, ?_⟩
      · exact fun _ h => absurd h List.not_mem_nil
      · exact fun _ h => absurd h List.not_mem_nil
  | cons id rest ih =>
      obtain ⟨fresh, nodup'⟩ := List.nodup_cons.mp nodup
      have here : ∀ i ∈ rest, i ∉ [id] := by
        intro i hi same
        exact fresh (List.mem_singleton.mp same ▸ hi)
      -- The nodes behind the first one find the sources of their edges as they were.
      have later : ∀ {q : Progress}, p.Quietly [id] q →
          ∃ admitted r, (admitAll plan payload (rest.map fun id => (id, verdict id))).on q =
              (.ok admitted, r) ∧
            Admitted plan payload verdict rest q admitted r := by
        intro q quiet
        refine ih nodup' quiet.unsealed ?_ ?_
        · intro i hi
          exact (pending i (List.mem_cons_of_mem _ hi)).congr (quiet.others i (here i hi))
        · intro i hi e he
          obtain ⟨old, apart⟩ := settled i (List.mem_cons_of_mem _ hi) e he
          rw [List.mem_cons, not_or] at apart
          exact ⟨quiet.settled (by simpa using apart.1) old, apart.2⟩
      have now := pending id List.mem_cons_self
      rw [List.map_cons]
      cases ready : verdict id with
      | skipped =>
          obtain ⟨q, step, quiet, has⟩ := transition_quiet .skipped .none now rfl
            unsealed rfl (by decide)
          obtain ⟨admitted, r, run, all⟩ := later quiet
          refine ⟨admitted, r, ?_, all.skip fresh ready quiet has⟩
          rw [admitAll, RunM.on_bind_ok step, run]
      | ready =>
          obtain ⟨inputs, resolved, seen⟩ := resolveInputs_gathered payload
            fun e he => (settled id List.mem_cons_self e he).1
          obtain ⟨q, step, quiet, has⟩ := transition_quiet .ready
            (.withInputs inputs.kept) now rfl unsealed rfl (by decide)
          obtain ⟨admitted, r, run, all⟩ := later quiet
          refine ⟨(id, inputs) :: admitted, r, ?_, all.ready fresh ready quiet has seen⟩
          rw [admitAll, RunM.on_bind, RunM.on_get]
          dsimp only
          rw [RunM.on_bind_ok (by rw [RunM.on_lift, resolved]), RunM.on_bind_ok step,
            RunM.on_bind_ok run]
          rfl

theorem startAll_on {admitted : List (String × Inputs)} (nodup : (admitted.map Prod.fst).Nodup)
    (unsealed : p.trace.sealedTrace = none) (ready : ∀ x ∈ admitted, p.Has plan .ready x.1) :
    ∃ q, (startAll plan admitted).on p = (.ok (), q) ∧ p.Quietly (admitted.map Prod.fst) q ∧
      ∀ x ∈ admitted, q.Has plan .running x.1 := by
  induction admitted generalizing p with
  | nil => exact ⟨p, rfl, .refl unsealed, fun _ h => absurd h List.not_mem_nil⟩
  | cons x rest ih =>
      obtain ⟨fresh, nodup'⟩ := List.nodup_cons.mp nodup
      obtain ⟨q, step, quiet, has⟩ := transition_quiet .running .none
        (ready x List.mem_cons_self) rfl unsealed rfl (by decide)
      obtain ⟨r, run, next, all⟩ := ih nodup' quiet.unsealed fun y hy =>
        (ready y (List.mem_cons_of_mem _ hy)).congr <| quiet.others y.1 fun same =>
          fresh (List.mem_singleton.mp same ▸ List.mem_map_of_mem hy)
      refine ⟨r, ?_, quiet.trans next, ?_⟩
      · rw [startAll, RunM.on_bind_ok step, run]
      · intro y hy
        rcases List.mem_cons.mp hy with rfl | old
        · exact has.congr (next.others y.1 fresh)
        · exact all y old

theorem executeAll_on (exec : Executor) {admitted : List (String × Inputs)}
    (known : ∀ x ∈ admitted, ∃ n, plan.nodes.get? x.1 = some n) :
    ∃ executions calls, (executeAll plan exec admitted).on p =
        (.ok executions, { p with calls }) ∧
      executions.map Prod.fst = admitted.map Prod.fst ∧
      ∀ x ∈ executions, ∃ n inputs, plan.nodes.get? x.1 = some n ∧ (x.1, inputs) ∈ admitted ∧
        x.2 = exec n inputs := by
  induction admitted generalizing p with
  | nil => exact ⟨[], p.calls, rfl, rfl, fun _ h => absurd h List.not_mem_nil⟩
  | cons x rest ih =>
      obtain ⟨n, found⟩ := known x List.mem_cons_self
      obtain ⟨executions, calls, run, names, all⟩ :=
        ih (p := { p with calls := p.calls ++ (exec n x.2).call.toList.map (x.1, ·) })
          fun y hy => known y (List.mem_cons_of_mem _ hy)
      refine ⟨(x.1, exec n x.2) :: executions, calls, ?_, by simp [names], ?_⟩
      · rw [executeAll, RunM.on_bind_ok (by rw [RunM.on_lift, executionOf, found]), RunM.on_bind,
          RunM.on_modify]
        dsimp only
        rw [RunM.on_bind_ok run]
        rfl
      · intro y hy
        rcases List.mem_cons.mp hy with rfl | old
        · exact ⟨n, x.2, found, List.mem_cons_self, rfl⟩
        · obtain ⟨m, inputs, at', mem, same⟩ := all y old
          exact ⟨m, inputs, at', List.mem_cons_of_mem _ mem, same⟩

section

variable {exec : Executor} {q : Progress} {id : String} {admitted : List (String × Inputs)}

/-- A node is admitted with what it sees at that moment, and then the others are. -/
theorem admitAll_ready_ok {rest : List (String × Verdict)}
    (ran : (admitAll plan payload ((id, .ready) :: rest)).on p = (.ok admitted, q)) :
    ∃ inputs t others, resolveInputs plan payload p id = .ok inputs ∧
      (transition plan id .ready (.withInputs inputs.kept)).on p = (.ok (), t) ∧
      (admitAll plan payload rest).on t = (.ok others, q) ∧ admitted = (id, inputs) :: others := by
  unfold admitAll at ran
  rw [RunM.on_bind, RunM.on_get] at ran
  dsimp only at ran
  obtain ⟨inputs, s, resolved, moved⟩ := RunM.on_bind_eq_ok ran
  obtain ⟨_, t, step, entered⟩ := RunM.on_bind_eq_ok moved
  obtain ⟨others, u, later, last⟩ := RunM.on_bind_eq_ok entered
  rw [RunM.on_lift] at resolved
  rw [RunM.on_pure] at last
  obtain ⟨found, rfl⟩ := Prod.mk.inj resolved
  obtain ⟨same, rfl⟩ := Prod.mk.inj last
  exact ⟨inputs, t, others, found, step, later, (Except.ok.inj same).symm⟩

theorem admitAll_skipped_ok {rest : List (String × Verdict)}
    (ran : (admitAll plan payload ((id, .skipped) :: rest)).on p = (.ok admitted, q)) :
    ∃ t, (transition plan id .skipped .none).on p = (.ok (), t) ∧
      (admitAll plan payload rest).on t = (.ok admitted, q) := by
  unfold admitAll at ran
  obtain ⟨_, t, step, ran⟩ := RunM.on_bind_eq_ok ran
  exact ⟨t, step, ran⟩

theorem startAll_cons_ok {x : String × Inputs} {rest : List (String × Inputs)}
    (ran : (startAll plan (x :: rest)).on p = (.ok (), q)) :
    ∃ t, (transition plan x.1 .running .none).on p = (.ok (), t) ∧
      (startAll plan rest).on t = (.ok (), q) := by
  unfold startAll at ran
  obtain ⟨_, t, step, ran⟩ := RunM.on_bind_eq_ok ran
  exact ⟨t, step, ran⟩

/-- A node of the plan is executed on its inputs; its call is noted and nothing else. -/
theorem executeAll_cons_ok {x : String × Inputs} {rest : List (String × Inputs)}
    {executions : List (String × Execution)}
    (ran : (executeAll plan exec (x :: rest)).on p = (.ok executions, q)) :
    ∃ n others, plan.nodes.get? x.1 = some n ∧
      (executeAll plan exec rest).on
          { p with calls := p.calls ++ (exec n x.2).call.toList.map (x.1, ·) } = (.ok others, q) ∧
      executions = (x.1, exec n x.2) :: others := by
  unfold executeAll executionOf at ran
  cases known : plan.nodes.get? x.1 with
  | none =>
      rw [known] at ran
      cases ran
  | some n =>
      rw [known] at ran
      obtain ⟨execution, s, found, noted⟩ := RunM.on_bind_eq_ok ran
      rw [RunM.on_lift] at found
      obtain ⟨same, rfl⟩ := Prod.mk.inj found
      obtain rfl := Except.ok.inj same
      rw [RunM.on_bind, RunM.on_modify] at noted
      dsimp only at noted
      obtain ⟨others, u, later, last⟩ := RunM.on_bind_eq_ok noted
      rw [RunM.on_pure] at last
      obtain ⟨made, rfl⟩ := Prod.mk.inj last
      exact ⟨n, others, rfl, later, (Except.ok.inj made).symm⟩

end

end Scheduler

end Workflow
