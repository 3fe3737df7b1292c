import Workflow.Run.Scheduler
import Workflow.Proofs.Table

/-! How the steps of a run compose, and which transitions of nodes they are. -/

namespace Workflow

/-- What a step makes of a progress: its answer, or the stop that it comes to. -/
def RunM.on {α : Type} (m : RunM α) (p : Progress) : Except Stop α × Progress := m.run.run p

namespace RunM

variable {α β : Type} {m : RunM α} {f : α → RunM β} {p q : Progress}

@[simp] theorem on_pure (a : α) (p : Progress) : (pure a : RunM α).on p = (.ok a, p) := rfl

@[simp] theorem on_get (p : Progress) : (get : RunM Progress).on p = (.ok p, p) := rfl

@[simp] theorem on_set (q p : Progress) : (set q : RunM PUnit).on p = (.ok ⟨⟩, q) := rfl

@[simp] theorem on_modify (h : Progress → Progress) (p : Progress) :
    (modify h : RunM PUnit).on p = (.ok ⟨⟩, h p) := rfl

@[simp] theorem on_throw (s : Stop) (p : Progress) :
    (throw s : RunM α).on p = (.error s, p) := rfl

@[simp] theorem on_lift (x : Except Stop α) (p : Progress) :
    (liftM x : RunM α).on p = (x, p) := rfl

theorem on_bind (m : RunM α) (f : α → RunM β) (p : Progress) :
    (m >>= f).on p =
      match m.on p with
      | (.ok a, q) => (f a).on q
      | (.error s, q) => (.error s, q) := by
  change (ExceptT.bind m f).run.run p = _
  simp only [ExceptT.bind, ExceptT.mk, ExceptT.run, StateT.run, bind, StateT.bind, on]
  cases h : (m : StateM Progress (Except Stop α)) p with
  | mk r q => cases r <;> rfl

theorem on_bind_ok {a : α} (h : m.on p = (.ok a, q)) : (m >>= f).on p = (f a).on q := by
  rw [on_bind, h]

theorem on_bind_error {s : Stop} (h : m.on p = (.error s, q)) :
    (m >>= f).on p = (.error s, q) := by
  rw [on_bind, h]

theorem on_bind_eq_ok {b : β} (h : (m >>= f).on p = (.ok b, q)) :
    ∃ a r, m.on p = (.ok a, r) ∧ (f a).on r = (.ok b, q) := by
  rw [on_bind] at h
  cases first : m.on p with
  | mk result r =>
      rw [first] at h
      cases result with
      | error stop => cases h
      | ok a => exact ⟨a, r, rfl, h⟩

theorem on_tryCatch (m : RunM α) (handle : Stop → RunM α) (p : Progress) :
    (tryCatch m handle).on p =
      match m.on p with
      | (.ok a, q) => (.ok a, q)
      | (.error s, q) => (handle s).on q := by
  change (ExceptT.tryCatch m handle).run.run p = _
  simp only [ExceptT.tryCatch, ExceptT.mk, ExceptT.run, StateT.run, bind, StateT.bind, on]
  cases h : (m : StateM Progress (Except Stop α)) p with
  | mk r q => cases r <;> rfl

end RunM

/-! A legal transition moves one node and leaves the others alone; when its event is recorded, the
trace goes on telling the life of every node. -/

def NodeStatus.life : NodeStatus → List NodeStatus
  | pending => [pending]
  | ready => [pending, ready]
  | running => [pending, ready, running]
  | succeeded => [pending, ready, running, succeeded]
  | failed => [pending, ready, running, failed]
  | skipped => [pending, skipped]

theorem NodeStatus.life_following {s t : NodeStatus} (h : s.following.contains t = true) :
    t.life = s.life ++ [t] := by
  cases s <;> cases t <;> first | rfl | exact absurd h (by decide)

def Change.shown (c : Change) : Value := (c.decision.map Value.object).getD c.output

def Recorder.history (r : Recorder) (id : String) : List NodeStatus :=
  (r.events.filter fun e => e.nodeId = id).map TraceEvent.status

def Recorder.told (r : Recorder) : List (String × NodeStatus) :=
  r.events.map fun e => (e.nodeId, e.status)

theorem Recorder.history_eq_told (r : Recorder) (id : String) :
    r.history id = (r.told.filter fun x => x.1 = id).map Prod.snd := by
  simp only [history, told, List.filter_map, List.map_map]
  rfl

theorem Recorder.mem_history {r : Recorder} {id : String} {status : NodeStatus} :
    status ∈ r.history id ↔ ∃ e ∈ r.events, e.nodeId = id ∧ e.status = status := by
  simp [history, and_assoc]

/-- The trace tells the life of every node of the run, and nothing of others. -/
def Progress.Faithful (p : Progress) : Prop :=
  ∀ id, p.trace.history id = ((p.state.get? id).map fun s => s.status.life).getD []

/-- Nothing but the states of some nodes has moved, and every move is recorded. -/
structure Progress.Moved (ids : List String) (p q : Progress) : Prop where
  others : ∀ id ∉ ids, q.state.get? id = p.state.get? id
  unsealed : q.trace.sealedTrace = none
  copying : q.trace.snapshotOutputs = p.trace.snapshotOutputs
  faithful : p.Faithful → q.Faithful

namespace Progress.Moved

variable {p q r : Progress} {ids others : List String}

theorem refl (h : p.trace.sealedTrace = none) : p.Moved [] p := ⟨fun _ _ => rfl, h, rfl, id⟩

theorem trans (first : p.Moved ids q) (second : q.Moved others r) : p.Moved (ids ++ others) r where
  others id h := by
    rw [second.others id fun k => h (List.mem_append_right _ k),
      first.others id fun k => h (List.mem_append_left _ k)]
  unsealed := second.unsealed
  copying := second.copying.trans first.copying
  faithful h := second.faithful (first.faithful h)

theorem mono (h : p.Moved ids q) (sub : ∀ id ∈ ids, id ∈ others) : p.Moved others q :=
  ⟨fun id k => h.others id fun old => k (sub id old), h.unsealed, h.copying, h.faithful⟩

end Progress.Moved

theorem Recorder.copied_null (r : Recorder) : r.copied .null = .ok .null := by
  unfold copied
  split <;> rfl

theorem Recorder.copied_congr {r s : Recorder} (h : r.snapshotOutputs = s.snapshotOutputs)
    (v : Value) : r.copied v = s.copied v := by
  rw [copied, copied, h]

def RunState.after (st : RunState) (id : String) (s : NodeState) (status : NodeStatus)
    (change : Change) : RunState :=
  { st with
    nodes := st.nodes.put id (s.moved status change)
    completed := if status.isTerminal then st.completed ++ [id] else st.completed }

theorem RunState.after_get?_self (st : RunState) (id : String) (s : NodeState)
    (status : NodeStatus) (change : Change) :
    (st.after id s status change).get? id = some (s.moved status change) :=
  Table.get?_put_self _ _ _

theorem RunState.after_get?_of_ne (st : RunState) {id other : String} (s : NodeState)
    (status : NodeStatus) (change : Change) (h : other ≠ id) :
    (st.after id s status change).get? other = st.get? other :=
  Table.get?_put_of_ne _ _ h

theorem RunState.after_of_transition {st st' : RunState} {id : String} {status : NodeStatus}
    {change : Change} (h : st.transition id status change = .ok st') :
    ∃ s, st.get? id = some s ∧ s.status.following.contains status = true ∧
      st' = st.after id s status change := by
  unfold transition at h
  split at h
  · cases h
  · rename_i s found
    split at h
    · rename_i legal
      cases h
      exact ⟨s, found, legal, rfl⟩
    · cases h

theorem Recorder.record_ok {r : Recorder} {output copy : Value} (unsealed : r.sealedTrace = none)
    (copied : r.copied output = .ok copy) (id kind : String) (status : NodeStatus)
    (error : Option NodeError) :
    ∃ e s, r.record id kind status output error = (s, .ok e) ∧ s.sealedTrace = none ∧
      s.snapshotOutputs = r.snapshotOutputs ∧ s.events = r.events ++ [e] ∧ e.nodeId = id ∧
      e.status = status := by
  have copied' : ({ r with sequence := r.sequence + 1, sealedTrace := none } : Recorder).copied
      output = .ok copy := copied
  simp only [record, unsealed, copied']
  exact ⟨_, _, rfl, rfl, rfl, rfl, rfl, rfl⟩

theorem Recorder.record_error {r : Recorder} {output : Value} {f : Fault}
    (unsealed : r.sealedTrace = none) (copied : r.copied output = .error f) (id kind : String)
    (status : NodeStatus) (error : Option NodeError) :
    ∃ s, r.record id kind status output error = (s, .error f) ∧ s.sealedTrace = none ∧
      s.snapshotOutputs = r.snapshotOutputs ∧ s.events = r.events := by
  have copied' : ({ r with sequence := r.sequence + 1, sealedTrace := none } : Recorder).copied
      output = .error f := copied
  simp only [record, unsealed, copied']
  exact ⟨_, rfl, rfl, rfl, rfl⟩

theorem Recorder.told_of_record {r s : Recorder} {id kind : String} {status : NodeStatus}
    {output : Value} {error : Option NodeError} {e : TraceEvent}
    (h : r.record id kind status output error = (s, .ok e)) :
    s.told = r.told ++ [(id, status)] := by
  unfold record at h
  split at h
  · cases h
  · dsimp only at h
    split at h
    · cases h
    · cases h
      simp only [told, List.map_append, List.map_cons, List.map_nil]

/-- An event that continues the life of its node keeps the trace faithful. -/
theorem Progress.Faithful.advance {p q : Progress} {id : String} {s t : NodeState}
    {e : TraceEvent} (h : p.Faithful) (found : p.state.get? id = some s)
    (legal : s.status.following.contains t.status = true)
    (moved : q.state.get? id = some t) (others : ∀ i ≠ id, q.state.get? i = p.state.get? i)
    (events : q.trace.events = p.trace.events ++ [e]) (node : e.nodeId = id)
    (status : e.status = t.status) : q.Faithful := by
  intro i
  have told := h i
  have grown : q.trace.history i =
      p.trace.history i ++ if e.nodeId = i then [e.status] else [] := by
    simp only [Recorder.history, events, List.filter_append, List.map_append]
    by_cases same : e.nodeId = i <;> simp [same]
  rw [grown]
  by_cases same : i = id
  · subst same
    rw [told, found, moved, if_pos node, status]
    exact (NodeStatus.life_following legal).symm
  · rw [if_neg fun at' => same (at'.symm.trans node), List.append_nil, told, others i same]

namespace Scheduler

variable {plan : Plan} {p : Progress} {id : String} {n : Node} {s : NodeState}
  {status : NodeStatus} {change : Change}

theorem transition_on {tr : Recorder} {result : Except Fault TraceEvent}
    (known : plan.nodes.get? id = some n) (found : p.state.get? id = some s)
    (legal : s.status.following.contains status = true)
    (record : p.trace.record id n.kind.name status change.shown change.error = (tr, result)) :
    (transition plan id status change).on p =
      (match result with
        | .ok _ => .ok ()
        | .error f => .error (.fault f),
      { p with state := p.state.after id s status change, trace := tr }) := by
  have moved : p.state.transition id status change =
      .ok (p.state.after id s status change) := by
    simp only [RunState.transition, found, legal, if_true, RunState.after]
  unfold Change.shown at record
  unfold transition
  rw [RunM.on_bind, RunM.on_get]
  dsimp only
  rw [moved]
  dsimp only
  rw [RunM.on_bind, RunM.on_set]
  dsimp only
  rw [known]
  dsimp only
  rw [record]
  cases result <;> rfl

theorem transition_on_unknown (unknown : plan.nodes.get? id = none)
    (found : p.state.get? id = some s) (legal : s.status.following.contains status = true) :
    (transition plan id status change).on p =
      (.error (.unknownNode id), { p with state := p.state.after id s status change }) := by
  have moved : p.state.transition id status change =
      .ok (p.state.after id s status change) := by
    simp only [RunState.transition, found, legal, if_true, RunState.after]
  unfold transition
  rw [RunM.on_bind, RunM.on_get]
  dsimp only
  rw [moved]
  dsimp only
  rw [RunM.on_bind, RunM.on_set]
  dsimp only
  rw [unknown]
  rfl

/-- A legal transition whose output can be copied moves its node and tells of it. -/
theorem transition_recorded (change : Change) {copy : Value} (known : plan.nodes.get? id = some n)
    (found : p.state.get? id = some s) (legal : s.status.following.contains status = true)
    (unsealed : p.trace.sealedTrace = none) (copied : p.trace.copied change.shown = .ok copy) :
    ∃ st tr, (transition plan id status change).on p =
        (.ok (), { p with state := st, trace := tr }) ∧
      p.Moved [id] { p with state := st, trace := tr } ∧
      st.get? id = some (s.moved status change) ∧ tr.told = p.trace.told ++ [(id, status)] := by
  obtain ⟨e, tr, record, open', copying, events, node, same⟩ :=
    Recorder.record_ok unsealed copied id n.kind.name status change.error
  have self := RunState.after_get?_self p.state id s status change
  have others : ∀ i ≠ id, (p.state.after id s status change).get? i = p.state.get? i :=
    fun i ne => RunState.after_get?_of_ne p.state s status change ne
  refine ⟨_, tr, transition_on known found legal record, ?_, self, ?_⟩
  · exact ⟨fun i new => others i (by simpa using new), open', copying,
      fun faithful => faithful.advance found legal self others events node same⟩
  · simp only [Recorder.told, events, List.map_append, List.map_cons, List.map_nil, node, same]

/-- A legal transition whose output cannot be copied moves its node as well, but tells nothing and
ends in the fault of the copy. -/
theorem transition_unrecorded {f : Fault} (known : plan.nodes.get? id = some n)
    (found : p.state.get? id = some s) (legal : s.status.following.contains status = true)
    (unsealed : p.trace.sealedTrace = none) (copied : p.trace.copied change.shown = .error f) :
    ∃ st tr, (transition plan id status change).on p =
        (.error (.fault f), { p with state := st, trace := tr }) ∧
      tr.sealedTrace = none ∧ tr.snapshotOutputs = p.trace.snapshotOutputs ∧
      tr.told = p.trace.told ∧ st.get? id = some (s.moved status change) ∧
      ∀ i ≠ id, st.get? i = p.state.get? i := by
  obtain ⟨tr, record, open', copying, events⟩ :=
    Recorder.record_error unsealed copied id n.kind.name status change.error
  refine ⟨_, tr, transition_on known found legal record, open', copying, ?_, ?_, ?_⟩
  · simp only [Recorder.told, events]
  · exact RunState.after_get?_self p.state id s status change
  · exact fun i ne => RunState.after_get?_of_ne p.state s status change ne

theorem transition_on_error {e : TransitionError}
    (h : p.state.transition id status change = .error e) :
    (transition plan id status change).on p = (.error (.transition e), p) := by
  unfold transition
  rw [RunM.on_bind, RunM.on_get]
  dsimp only
  rw [h]
  rfl

/-- A transition that answers was legal and is recorded, and it has changed nothing else. -/
theorem transition_ok {q : Progress} (ran : (transition plan id status change).on p = (.ok (), q)) :
    ∃ n s e, plan.nodes.get? id = some n ∧ p.state.get? id = some s ∧
      s.status.following.contains status = true ∧
      p.trace.record id n.kind.name status change.shown change.error = (q.trace, .ok e) ∧
      q = { p with state := p.state.after id s status change, trace := q.trace } := by
  cases step : p.state.transition id status change with
  | error e =>
      rw [transition_on_error step] at ran
      cases ran
  | ok st =>
      obtain ⟨s, found, legal, rfl⟩ := RunState.after_of_transition step
      cases known : plan.nodes.get? id with
      | none =>
          rw [transition_on_unknown known found legal] at ran
          cases ran
      | some n =>
          cases record : p.trace.record id n.kind.name status change.shown change.error with
          | mk tr result =>
              rw [transition_on known found legal record] at ran
              cases result with
              | error f => cases ran
              | ok e =>
                  cases ran
                  exact ⟨n, s, e, rfl, found, legal, record, rfl⟩

/-- A node is recorded as pending before those that come after it. -/
theorem recordPending_cons (id : String) (n : Node) (rest : List (String × Node)) (p : Progress) :
    (recordPending ((id, n) :: rest)).on p =
      match p.trace.record id n.kind.name .pending .null none with
      | (tr, .ok _) => (recordPending rest).on { p with trace := tr }
      | (tr, .error f) => (.error (.fault f), { p with trace := tr }) := by
  rw [recordPending, RunM.on_bind, RunM.on_get]
  dsimp only
  cases p.trace.record id n.kind.name .pending .null none with
  | mk tr result => cases result <;> rfl

/-- All of some nodes are recorded as pending if the first one is and then the others are. -/
theorem recordPending_cons_ok {rest : List (String × Node)} {q : Progress}
    (ran : (recordPending ((id, n) :: rest)).on p = (.ok (), q)) :
    ∃ tr e, p.trace.record id n.kind.name .pending .null none = (tr, .ok e) ∧
      (recordPending rest).on { p with trace := tr } = (.ok (), q) := by
  rw [recordPending_cons] at ran
  cases record : p.trace.record id n.kind.name .pending .null none with
  | mk tr result =>
      rw [record] at ran
      cases result with
      | error f => cases ran
      | ok e => exact ⟨tr, e, rfl, ran⟩

end Scheduler

end Workflow
