import Workflow.Proofs.Run.Edits
import Workflow.Proofs.Run.Result

/-! What edits keep. A node that has ended stays as it is, the trace and the calls only grow, and
the tables of a run hold all that is looked up in them. -/

namespace Workflow

variable {plan : Plan} {exec : Executor} {may : String → NodeStatus → Prop} {p q : Progress}
  {id : String}

theorem Recorder.record_cases {r tr : Recorder} {kind : String} {status : NodeStatus}
    {output : Value} {error : Option NodeError} {result : Except Fault TraceEvent}
    (h : r.record id kind status output error = (tr, result)) :
    tr.sealedTrace = r.sealedTrace ∧
      (tr.events = r.events ∨
        ∃ e, tr.events = r.events ++ [e] ∧ e.nodeId = id ∧ e.status = status) := by
  unfold record at h
  split at h
  · cases h
    exact ⟨rfl, .inl rfl⟩
  · rename_i unsealed
    dsimp only at h
    split at h
    · cases h
      exact ⟨rfl, .inl rfl⟩
    · cases h
      exact ⟨rfl, .inr ⟨_, rfl, rfl, rfl⟩⟩

theorem Recorder.record_copying {r tr : Recorder} {kind : String} {status : NodeStatus}
    {output : Value} {error : Option NodeError} {result : Except Fault TraceEvent}
    (h : r.record id kind status output error = (tr, result)) :
    tr.snapshotOutputs = r.snapshotOutputs := by
  unfold record at h
  split at h
  · cases h
    rfl
  · dsimp only at h
    split at h <;> cases h <;> rfl

namespace Progress.Edits

theorem keeps {I : Progress → Prop} (step : ∀ p q, I p → p.Edit plan exec may q → I q)
    (h : p.Edits plan exec may q) (start : I p) : I q := by
  induction h with
  | refl => exact start
  | tail _ edit ih => exact step _ _ ih edit

theorem ended (h : p.Edits plan exec may q) {s : NodeState} (found : p.state.get? id = some s)
    (terminal : s.status.isTerminal = true) : q.state.get? id = some s := by
  refine h.keeps (I := fun q => q.state.get? id = some s) ?_ found
  intro p q found edit
  cases edit with
  | @moved i n t status change tr result known found' legal allowed record =>
      have other : id ≠ i := by
        rintro rfl
        obtain rfl : s = t := Option.some.inj (found.symm.trans found')
        rw [(NodeStatus.following_eq_nil_iff s.status).mpr terminal] at legal
        cases legal
      exact (RunState.after_get?_of_ne p.state t status change other).trans found
  | _ => exact found

theorem others (h : p.Edits plan exec may q) (apart : ∀ status, ¬may id status) :
    q.state.get? id = p.state.get? id := by
  refine h.keeps (I := fun q => q.state.get? id = p.state.get? id) ?_ rfl
  intro r q same edit
  cases edit with
  | @moved i n t status change tr result known found legal allowed record =>
      have other : id ≠ i := by
        rintro rfl
        exact apart status allowed
      exact (RunState.after_get?_of_ne r.state t status change other).trans same
  | _ => exact same

theorem unsealed (h : p.Edits plan exec may q) (start : p.trace.sealedTrace = none) :
    q.trace.sealedTrace = none := by
  refine h.keeps (I := fun q => q.trace.sealedTrace = none) ?_ start
  intro p q unsealed edit
  cases edit with
  | announced _ _ record => exact (Recorder.record_cases record).1.trans unsealed
  | moved _ _ _ _ record => exact (Recorder.record_cases record).1.trans unsealed
  | _ => exact unsealed

theorem copying (h : p.Edits plan exec may q) :
    q.trace.snapshotOutputs = p.trace.snapshotOutputs := by
  refine h.keeps (I := fun q => q.trace.snapshotOutputs = p.trace.snapshotOutputs) ?_ rfl
  intro r s same edit
  cases edit with
  | announced _ _ record => exact (Recorder.record_copying record).trans same
  | moved _ _ _ _ record => exact (Recorder.record_copying record).trans same
  | _ => exact same

/-- The trace grows by events of nodes that may come to their statuses. -/
theorem events (h : p.Edits plan exec may q) :
    ∃ new, q.trace.events = p.trace.events ++ new ∧ ∀ e ∈ new, may e.nodeId e.status := by
  have grown : ∀ {r : Progress} {tr : Recorder} {i : String} {status : NodeStatus},
      (∃ new, r.trace.events = p.trace.events ++ new ∧ ∀ e ∈ new, may e.nodeId e.status) →
      may i status →
      (tr.events = r.trace.events ∨
        ∃ e, tr.events = r.trace.events ++ [e] ∧ e.nodeId = i ∧ e.status = status) →
      ∃ new, tr.events = p.trace.events ++ new ∧ ∀ e ∈ new, may e.nodeId e.status := by
    rintro r tr i status ⟨new, before, all⟩ allowed (same | ⟨e, one, rfl, rfl⟩)
    · exact ⟨new, same.trans before, all⟩
    · refine ⟨new ++ [e], by rw [one, before, List.append_assoc], ?_⟩
      intro d mem
      rcases List.mem_append.mp mem with old | now
      · exact all d old
      · obtain rfl := List.mem_singleton.mp now
        exact allowed
  refine h.keeps (I := fun q =>
    ∃ new, q.trace.events = p.trace.events ++ new ∧ ∀ e ∈ new, may e.nodeId e.status) ?_
    ⟨[], (List.append_nil _).symm, fun _ mem => absurd mem List.not_mem_nil⟩
  intro r q before edit
  cases edit with
  | announced _ allowed record => exact grown before allowed (Recorder.record_cases record).2
  | moved _ _ _ allowed record => exact grown before allowed (Recorder.record_cases record).2
  | _ => exact before

theorem told (h : p.Edits plan exec may q) :
    ∃ later, q.trace.told = p.trace.told ++ later ∧ ∀ x ∈ later, may x.1 x.2 := by
  obtain ⟨new, grown, allowed⟩ := h.events
  refine ⟨new.map fun e => (e.nodeId, e.status), ?_, fun x mem => ?_⟩
  · rw [Recorder.told, grown, List.map_append]
    rfl
  · obtain ⟨e, here, rfl⟩ := List.mem_map.mp mem
    exact allowed e here

/-- What the trace says of a node grows by statuses that it may come to. -/
theorem history (h : p.Edits plan exec may q) (id : String) :
    ∃ later, q.trace.history id = p.trace.history id ++ later ∧
      ∀ status ∈ later, may id status := by
  obtain ⟨later, grown, allowed⟩ := h.told
  refine ⟨(later.filter fun x => x.1 = id).map Prod.snd, ?_, fun status mem => ?_⟩
  · rw [Recorder.history_eq_told, grown, List.filter_append, List.map_append,
      ← Recorder.history_eq_told]
  · obtain ⟨x, here, rfl⟩ := List.mem_map.mp mem
    obtain ⟨here, same⟩ := List.mem_filter.mp here
    exact of_decide_eq_true same ▸ allowed x here

theorem history_others (h : p.Edits plan exec may q) (apart : ∀ status, ¬may id status) :
    q.trace.history id = p.trace.history id := by
  obtain ⟨later, grown, allowed⟩ := h.history id
  have none' : later = [] := List.eq_nil_iff_forall_not_mem.mpr fun status mem =>
    apart status (allowed status mem)
  rw [grown, none', List.append_nil]

theorem calls (h : p.Edits plan exec may q) :
    ∃ new, q.calls = p.calls ++ new ∧ ∀ c ∈ new, may c.1 .running := by
  refine h.keeps (I := fun q => ∃ new, q.calls = p.calls ++ new ∧ ∀ c ∈ new, may c.1 .running) ?_
    ⟨[], (List.append_nil _).symm, fun _ mem => absurd mem List.not_mem_nil⟩
  rintro r q ⟨new, before, all⟩ edit
  cases edit with
  | @called i n inputs known allowed =>
      refine ⟨new ++ (exec n inputs).call.toList.map (i, ·), ?_, ?_⟩
      · dsimp only
        rw [before, List.append_assoc]
      · intro c mem
        rcases List.mem_append.mp mem with old | now
        · exact all c old
        · obtain ⟨call, -, rfl⟩ := List.mem_map.mp now
          exact allowed
  | _ => exact ⟨new, before, all⟩

end Progress.Edits

/-- All that a run looks up in its tables is there: the states of the nodes of its plan, the nodes
that have ended, and the failures behind its marks. -/
structure Progress.Keyed (plan : Plan) (p : Progress) : Prop where
  states : ∀ id ∈ plan.nodes.keys, ∃ s, p.state.get? id = some s
  completed : ∀ id ∈ p.state.completed, id ∈ plan.nodes.keys
  blamed : ∀ {id origin}, p.blockedBy.get? id = some origin → ∃ f, p.errors.get? origin = some f
  caused : ∀ id ∈ p.failures, ∃ f, p.errors.get? id = some f

namespace Progress.Keyed

theorem moved (h : p.Keyed plan) {n : Node} (known : plan.nodes.get? id = some n) (s : NodeState)
    (status : NodeStatus) (change : Change) (tr : Recorder) :
    Keyed plan { p with state := p.state.after id s status change, trace := tr } where
  states i mem := by
    by_cases same : i = id
    · subst same
      exact ⟨_, RunState.after_get?_self p.state i s status change⟩
    · rw [RunState.after_get?_of_ne p.state s status change same]
      exact h.states i mem
  completed i mem := by
    dsimp only [RunState.after] at mem
    split at mem
    · rcases List.mem_append.mp mem with old | now
      · exact h.completed i old
      · obtain rfl := List.mem_singleton.mp now
        exact Table.mem_keys_iff.mpr ⟨n, known⟩
    · exact h.completed i mem
  blamed := h.blamed
  caused := h.caused

theorem marked (h : p.Keyed plan) (id : String) {origin : String}
    (cause : ∃ f, p.errors.get? origin = some f) :
    Keyed plan { p with blockedBy := p.blockedBy.put id origin } where
  states := h.states
  completed := h.completed
  blamed found := by
    rcases Table.of_get?_put found with ⟨-, rfl⟩ | old
    · exact cause
    · exact h.blamed old
  caused := h.caused

theorem failed (h : p.Keyed plan) (id : String) (f : NodeFailure) :
    Keyed plan { p with errors := p.errors.put id f, failures := p.failures ++ [id] } where
  states := h.states
  completed := h.completed
  blamed found := Table.get?_put_of_some id f (h.blamed found)
  caused i mem := by
    rcases List.mem_append.mp mem with old | now
    · exact Table.get?_put_of_some id f (h.caused i old)
    · obtain rfl := List.mem_singleton.mp now
      exact ⟨f, Table.get?_put_self _ _ _⟩

/-- An edit keeps what is looked up where it is, and what it adds can be looked up. -/
theorem edit (h : p.Keyed plan) (edit : p.Edit plan exec may q) : q.Keyed plan := by
  cases edit with
  | announced _ _ _ => exact ⟨h.states, h.completed, h.blamed, h.caused⟩
  | moved known _ _ _ _ => exact h.moved known _ _ _ _
  | passed blame => exact h.marked _ (h.blamed blame)
  | owned failed => exact h.marked _ (h.caused _ failed)
  | failed _ _ => exact h.failed _ _
  | called _ _ => exact ⟨h.states, h.completed, h.blamed, h.caused⟩
  | cancelled => exact ⟨h.states, h.completed, h.blamed, h.caused⟩

end Progress.Keyed

theorem Progress.Edits.keyed (h : p.Edits plan exec may q) (start : p.Keyed plan) : q.Keyed plan :=
  h.keeps (fun _ _ keyed edit => keyed.edit edit) start

theorem Progress.start_keyed (distinct : plan.nodes.Distinct) (setup : Setup) :
    (Progress.start plan setup).Keyed plan where
  states id mem := by
    obtain ⟨n, -, state⟩ := Scheduler.start_known distinct setup mem
    exact ⟨_, state⟩
  completed _ mem := absurd mem List.not_mem_nil
  blamed found := nomatch found
  caused _ mem := absurd mem List.not_mem_nil

/-- Every failure on record is what an execution of its node came to. -/
def Progress.Attributed (plan : Plan) (exec : Executor) (p : Progress) : Prop :=
  ∀ {id f}, p.errors.get? id = some f →
    ∃ n inputs, plan.nodes.get? id = some n ∧
      Scheduler.settled n (exec n inputs).outcome = .failure f

theorem Progress.Edits.attributed (h : p.Edits plan exec may q) (start : p.Attributed plan exec) :
    q.Attributed plan exec := by
  refine h.keeps (I := fun q => q.Attributed plan exec) ?_ start
  intro p q before edit
  cases edit with
  | @failed i n inputs f known made =>
      intro id g found
      rcases Table.of_get?_put found with ⟨rfl, rfl⟩ | old
      · exact ⟨n, inputs, known, made⟩
      · exact before old
  | _ => exact before

end Workflow
