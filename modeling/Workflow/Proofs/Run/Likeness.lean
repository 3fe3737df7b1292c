import Workflow.Proofs.Run.Doom
import Workflow.Proofs.Run.Stage

/-! Two runs side by side. A view shows some nodes and hides the others; two progresses are alike in
it when they agree on all that they say of the nodes that it shows. The steps of these nodes keep
progresses alike, and those of the others are not seen. -/

namespace Workflow

/-- What is seen of a run: some of its nodes, and something of the numbers of its events. Where
nodes are hidden, the numbers do not tell how many events of theirs lie between. -/
structure View where
  shows : String → Bool
  number : Nat → Nat
  next : ∀ {m n}, number m = number n → number (m + 1) = number (n + 1)
  blurs : ∀ {id}, shows id = false → ∀ n, number (n + 1) = number n

namespace View

def whole : View := ⟨fun _ => true, id, fun h => congrArg Nat.succ h, fun h => Bool.noConfusion h⟩

def only (shows : String → Bool) : View := ⟨shows, fun _ => 0, fun _ => rfl, fun _ _ => rfl⟩

def event (v : View) (e : TraceEvent) : TraceEvent :=
  { e with sequence := v.number e.sequence, timestamp := "" }

def events (v : View) (es : List TraceEvent) : List TraceEvent :=
  (es.filter fun e => v.shows e.nodeId).map v.event

theorem events_append (v : View) (es fs : List TraceEvent) :
    v.events (es ++ fs) = v.events es ++ v.events fs := by
  rw [events, List.filter_append, List.map_append]
  rfl

theorem events_prefix (v : View) {es fs : List TraceEvent} (h : es <+: fs) :
    v.events es <+: v.events fs := by
  obtain ⟨new, rfl⟩ := h
  exact ⟨v.events new, (v.events_append es new).symm⟩

end View

structure Recorder.Alike (v : View) (r s : Recorder) : Prop where
  unsealed : r.sealedTrace = none
  unsealed' : s.sealedTrace = none
  copying : r.snapshotOutputs = s.snapshotOutputs
  sequence : v.number r.sequence = v.number s.sequence
  events : v.events r.events = v.events s.events

/-- Two states agree on the nodes that are seen, and on the order in which these have ended. -/
structure RunState.Alike (v : View) (s t : RunState) : Prop where
  nodes : ∀ {id}, v.shows id = true → s.get? id = t.get? id
  completed : s.completed.filter v.shows = t.completed.filter v.shows

structure Progress.Alike (v : View) (p q : Progress) : Prop where
  state : p.state.Alike v q.state
  trace : p.trace.Alike v q.trace
  errors : ∀ {id}, v.shows id = true → p.errors.get? id = q.errors.get? id
  marks : ∀ {id}, v.shows id = true → p.blockedBy.get? id = q.blockedBy.get? id

section

variable {v : View} {plan : Plan} {exec : Executor} {payload : Value} {p q r : Progress}
  {s t u : RunState} {x y z : Recorder} {id : String} {status : NodeStatus} {change : Change}

namespace Recorder.Alike

theorem symm (h : x.Alike v y) : y.Alike v x :=
  ⟨h.unsealed', h.unsealed, h.copying.symm, h.sequence.symm, h.events.symm⟩

theorem trans (first : x.Alike v y) (second : y.Alike v z) : x.Alike v z :=
  ⟨first.unsealed, second.unsealed', first.copying.trans second.copying,
    first.sequence.trans second.sequence, first.events.trans second.events⟩

theorem history (h : x.Alike v y) (shown : v.shows id = true) : x.history id = y.history id := by
  have told : ∀ r : Recorder, r.history id =
      ((v.events r.events).filter fun e => e.nodeId = id).map TraceEvent.status := by
    intro r
    rw [View.events, List.filter_map, List.map_map, List.filter_filter]
    refine congrArg (List.map TraceEvent.status) (List.filter_congr fun e _ => ?_)
    by_cases same : e.nodeId = id
    · simp [View.event, same, shown]
    · simp [View.event, same]
  rw [told, told, h.events]

end Recorder.Alike

namespace Progress.Alike

theorem refl (unsealed : p.trace.sealedTrace = none) : p.Alike v p :=
  ⟨⟨fun _ => rfl, rfl⟩, ⟨unsealed, unsealed, rfl, rfl, rfl⟩, fun _ => rfl, fun _ => rfl⟩

theorem symm (h : p.Alike v q) : q.Alike v p :=
  ⟨⟨fun shown => (h.state.nodes shown).symm, h.state.completed.symm⟩, h.trace.symm,
    fun shown => (h.errors shown).symm, fun shown => (h.marks shown).symm⟩

theorem trans (first : p.Alike v q) (second : q.Alike v r) : p.Alike v r :=
  ⟨⟨fun shown => (first.state.nodes shown).trans (second.state.nodes shown),
      first.state.completed.trans second.state.completed⟩,
    first.trace.trans second.trace,
    fun shown => (first.errors shown).trans (second.errors shown),
    fun shown => (first.marks shown).trans (second.marks shown)⟩

end Progress.Alike

/-- An open recorder copies what it is to tell, and tells it under the next number. -/
theorem Recorder.record_eq (unsealed : x.sealedTrace = none) (id kind : String)
    (status : NodeStatus) (output : Value) (error : Option NodeError) :
    x.record id kind status output error =
      match x.copied output with
      | .error f => ({ x with sequence := x.sequence + 1 }, .error f)
      | .ok copy =>
        let e := ⟨x.sequence + 1, id, kind, status, x.clock (x.sequence + 1), copy, error⟩
        ({ x with sequence := x.sequence + 1, events := x.events ++ [e] }, .ok e) := by
  unfold record
  rw [unsealed]
  dsimp only
  change (match x.copied output with | .error f => _ | .ok output => _) = _
  cases x.copied output <;> rfl

theorem Recorder.Alike.record_alike (alike : x.Alike v y) (id kind : String)
    (status : NodeStatus) (output : Value) (error : Option NodeError) :
    (∃ f x' y', x.record id kind status output error = (x', .error f) ∧
      y.record id kind status output error = (y', .error f) ∧ x'.Alike v y') ∨
    ∃ e f x' y', x.record id kind status output error = (x', .ok e) ∧
      y.record id kind status output error = (y', .ok f) ∧ x'.Alike v y' := by
  have next := v.next alike.sequence
  rw [record_eq alike.unsealed, record_eq alike.unsealed', ← copied_congr alike.copying]
  cases x.copied output with
  | error f =>
      exact .inl ⟨f, _, _, rfl, rfl, alike.unsealed, alike.unsealed', alike.copying, next,
        alike.events⟩
  | ok copy =>
      refine .inr ⟨_, _, _, _, rfl, rfl, alike.unsealed, alike.unsealed', alike.copying, next, ?_⟩
      rw [View.events_append, View.events_append, alike.events]
      simp only [View.events, List.filter_cons, List.filter_nil]
      split
      · simp only [View.event, List.map_cons, List.map_nil, next]
      · rfl

theorem Recorder.record_hidden (hidden : v.shows id = false) {kind : String} {output : Value}
    {error : Option NodeError} {e : TraceEvent}
    (ran : x.record id kind status output error = (y, .ok e)) : x.Alike v y := by
  have unsealed : x.sealedTrace = none := by
    unfold record at ran
    split at ran
    · cases ran
    · assumption
  rw [record_eq unsealed] at ran
  cases copied : x.copied output with
  | error f =>
      rw [copied] at ran
      cases ran
  | ok copy =>
      rw [copied] at ran
      cases ran
      refine ⟨unsealed, unsealed, rfl, (v.blurs hidden _).symm, ?_⟩
      simp [View.events, hidden]

theorem RunState.Alike.after (alike : s.Alike v t) (id : String) (n : NodeState)
    (status : NodeStatus) (change : Change) :
    (s.after id n status change).Alike v (t.after id n status change) where
  nodes {i} shown := by
    by_cases same : i = id
    · subst same
      rw [after_get?_self, after_get?_self]
    · rw [after_get?_of_ne _ _ _ _ same, after_get?_of_ne _ _ _ _ same, alike.nodes shown]
  completed := by
    have grown : ∀ st : RunState, (st.after id n status change).completed =
        st.completed ++ if status.isTerminal then [id] else [] := by
      intro st
      by_cases terminal : status.isTerminal = true <;> simp [RunState.after, terminal]
    rw [grown, grown, List.filter_append, List.filter_append, alike.completed]

theorem RunState.after_hidden (hidden : v.shows id = false) (s : RunState) (n : NodeState)
    (status : NodeStatus) (change : Change) : s.Alike v (s.after id n status change) where
  nodes {i} shown := by
    have apart : i ≠ id := by
      rintro rfl
      rw [hidden] at shown
      cases shown
    exact (after_get?_of_ne _ _ _ _ apart).symm
  completed := by
    unfold RunState.after
    split
    · simp [hidden]
    · rfl

theorem Progress.Alike.failed (alike : p.Alike v q) (id : String) (f : NodeFailure) :
    Progress.Alike v { p with errors := p.errors.put id f, failures := p.failures ++ [id] }
      { q with errors := q.errors.put id f, failures := q.failures ++ [id] } where
  state := alike.state
  trace := alike.trace
  marks := alike.marks
  errors {i} shown := by
    by_cases same : i = id
    · subst same
      rw [Table.get?_put_self, Table.get?_put_self]
    · rw [Table.get?_put_of_ne _ _ same, Table.get?_put_of_ne _ _ same, alike.errors shown]

theorem Progress.failed_hidden (hidden : v.shows id = false) (unsealed : p.trace.sealedTrace = none)
    (f : NodeFailure) :
    p.Alike v { p with errors := p.errors.put id f, failures := p.failures ++ [id] } where
  state := ⟨fun _ => rfl, rfl⟩
  trace := ⟨unsealed, unsealed, rfl, rfl, rfl⟩
  marks := fun _ => rfl
  errors {i} shown := by
    refine (Table.get?_put_of_ne _ _ ?_).symm
    rintro rfl
    rw [hidden] at shown
    cases shown

/-- Two steps come to the same answer or the same stop, and leave progresses alike. -/
structure Agree (v : View) {α : Type} (x y : Except Stop α × Progress) : Prop where
  answer : x.1 = y.1
  alike : x.2.Alike v y.2

theorem Agree.cases {α : Type} {x y : Except Stop α × Progress} (h : Agree v x y) :
    ∃ result p q, x = (result, p) ∧ y = (result, q) ∧ p.Alike v q := by
  obtain ⟨answer, alike⟩ := h
  exact ⟨x.1, x.2, y.2, rfl, Prod.ext answer.symm rfl, alike⟩

theorem Agree.bind {α β : Type} {m m' : RunM α} {f f' : α → RunM β} {p q : Progress}
    (first : Agree v (m.on p) (m'.on q))
    (later : ∀ a r s, r.Alike v s → Agree v ((f a).on r) ((f' a).on s)) :
    Agree v ((m >>= f).on p) ((m' >>= f').on q) := by
  obtain ⟨result, r, s, ran, ran', alike⟩ := first.cases
  rw [RunM.on_bind, RunM.on_bind, ran, ran']
  cases result with
  | ok a => exact later a r s alike
  | error stop => exact ⟨rfl, alike⟩

namespace Scheduler

theorem transition_alike (alike : p.Alike v q) (shown : v.shows id = true) :
    Agree v ((transition plan id status change).on p)
      ((transition plan id status change).on q) := by
  have same := alike.state.nodes shown
  cases found : p.state.get? id with
  | none =>
      have step : ∀ {st : RunState}, st.get? id = none →
          st.transition id status change = .error (.unknownNode id) := by
        intro st unknown
        rw [RunState.transition, unknown]
      rw [transition_on_error (step found), transition_on_error (step (same.symm.trans found))]
      exact ⟨rfl, alike⟩
  | some n =>
      have found' := same.symm.trans found
      by_cases legal : n.status.following.contains status = true
      · have moved := alike.state.after id n status change
        cases known : plan.nodes.get? id with
        | none =>
            rw [transition_on_unknown known found legal, transition_on_unknown known found' legal]
            exact ⟨rfl, moved, alike.trace, alike.errors, alike.marks⟩
        | some m =>
            rcases alike.trace.record_alike id m.kind.name status change.shown change.error with
              ⟨f, x, y, record, record', traces⟩ | ⟨e, f, x, y, record, record', traces⟩
            · rw [transition_on known found legal record, transition_on known found' legal record']
              exact ⟨rfl, moved, traces, alike.errors, alike.marks⟩
            · rw [transition_on known found legal record, transition_on known found' legal record']
              exact ⟨rfl, moved, traces, alike.errors, alike.marks⟩
      · have step : ∀ {st : RunState}, st.get? id = some n →
            st.transition id status change = .error (.illegal id n.status status) := by
          intro st known
          rw [Bool.not_eq_true] at legal
          simp only [RunState.transition, known, legal, Bool.false_eq_true, if_false]
        rw [transition_on_error (step found), transition_on_error (step found')]
        exact ⟨rfl, alike⟩

theorem transition_hidden (hidden : v.shows id = false)
    (ran : (transition plan id status change).on p = (.ok (), q)) : p.Alike v q := by
  obtain ⟨n, s, e, -, -, -, record, same⟩ := transition_ok ran
  have traces := Recorder.record_hidden hidden record
  rw [same]
  exact ⟨RunState.after_hidden hidden p.state s status change, traces, fun _ => rfl, fun _ => rfl⟩

theorem complete_alike (alike : p.Alike v q) (shown : v.shows id = true) (o : Outcome) :
    Agree v ((complete plan id o).on p) ((complete plan id o).on q) := by
  unfold complete
  cases plan.nodes.get? id with
  | none => exact ⟨rfl, alike⟩
  | some n =>
      cases o with
      | value w => exact transition_alike alike shown
      | decision d => exact transition_alike alike shown
      | failure f => exact transition_alike (alike.failed id f) shown
      | fault f => exact transition_alike (alike.failed id _) shown
      | cancelled message => exact ⟨rfl, alike⟩

theorem complete_hidden {o : Outcome} (hidden : v.shows id = false)
    (unsealed : p.trace.sealedTrace = none) (ran : (complete plan id o).on p = (.ok (), q)) :
    p.Alike v q := by
  unfold complete at ran
  cases known : plan.nodes.get? id with
  | none =>
      rw [known] at ran
      cases ran
  | some n =>
      rw [known] at ran
      cases o with
      | value w => exact transition_hidden hidden ran
      | decision d => exact transition_hidden hidden ran
      | failure f =>
          exact (p.failed_hidden hidden unsealed f).trans (transition_hidden hidden ran)
      | fault f =>
          exact (p.failed_hidden hidden unsealed _).trans (transition_hidden hidden ran)
      | cancelled message => cases ran

end Scheduler

/-- What is behind a node that a view shows, it shows as well, and it shows all output nodes. -/
structure View.Closed (v : View) (plan : Plan) : Prop where
  sources : ∀ e ∈ plan.edges, v.shows e.target = true → v.shows e.source = true
  ancestors : ∀ {a id}, plan.isAncestor a id = true → v.shows id = true → v.shows a = true
  outputs : ∀ {id}, plan.isOutput id = true → v.shows id = true

theorem View.Closed.incoming (closed : v.Closed plan) (shown : v.shows id = true) :
    ∀ e ∈ plan.incoming id, v.shows e.source = true := by
  intro e mem
  obtain ⟨edge, rfl⟩ := Plan.mem_incoming.mp mem
  exact closed.sources e edge shown

namespace Progress.Alike

variable {done : List String}

theorem standing (alike : p.Alike v q) (shown : v.shows id = true) :
    p.standing id = q.standing id :=
  standing_congr (alike.state.nodes shown) (alike.marks shown)

theorem output (alike : p.Alike v q) (shown : v.shows id = true) :
    p.state.output id = q.state.output id := by
  rw [RunState.output, alike.state.nodes shown, RunState.output]

theorem hasStatus (alike : p.Alike v q) (shown : v.shows id = true) (status : NodeStatus) :
    p.state.hasStatus id status = q.state.hasStatus id status := by
  rw [RunState.hasStatus, alike.state.nodes shown, RunState.hasStatus]

theorem admission (alike : p.Alike v q) (closed : v.Closed plan) (shown : v.shows id = true) :
    plan.admission p.standing id = plan.admission q.standing id :=
  Plan.admission_congr fun e mem => alike.standing (closed.incoming shown e mem)

/-- The nodes that would fail the run are the same: all output nodes are seen. -/
theorem failsAt (alike : p.Alike v q) (closed : v.Closed plan) :
    plan.failsAt p.standing = plan.failsAt q.standing := by
  funext id
  unfold Plan.failsAt
  cases output : plan.isOutput id with
  | false => rfl
  | true => rw [alike.admission closed (closed.outputs output)]

theorem origin? (alike : p.Alike v q) (closed : v.Closed plan) (shown : v.shows id = true) :
    plan.origin? p id = plan.origin? q id := by
  have sources := closed.incoming shown
  rw [Plan.origin?, Plan.origin?,
    Plan.blocker?_congr fun e mem => alike.standing (sources e mem)]
  cases first : plan.blocker? q.standing id with
  | none => rfl
  | some e => exact alike.marks (sources e (List.mem_of_find?_eq_some first))

theorem blames_shown {σ : String → Standing} {origin : String} (closed : v.Closed plan)
    (blames : plan.Blames σ id origin) (shown : v.shows id = true) : v.shows origin = true := by
  induction blames with
  | own _ => exact shown
  | passed _ _ first _ ih =>
      exact ih (closed.incoming shown _ (List.mem_of_find?_eq_some first))

/-- What a failure that is seen drags along is the same as far as it is seen. -/
theorem drags (alike : p.Alike v q) (closed : v.Closed plan) {failed : String}
    (h : plan.Drags p.standing failed id) (shown : v.shows id = true) :
    plan.Drags q.standing failed id := by
  induction h with
  | self => exact .self
  | @next e edge _ _ ih ih' =>
      refine .next edge (ih (closed.sources e edge shown)) fun d mem spares => ?_
      have source := closed.incoming shown d mem
      refine ih' d mem ?_ source
      rw [← spares]
      simp only [Plan.spares, Plan.isPruned, alike.standing source]

theorem drags_shown {σ : String → Standing} {failed : String} (closed : v.Closed plan)
    (h : plan.Drags σ failed id) (shown : v.shows id = true) : v.shows failed = true := by
  induction h with
  | self => exact shown
  | @next e edge _ _ ih _ => exact ih (closed.sources e edge shown)

theorem doomed (alike : p.Alike v q) (closed : v.Closed plan) {failed : String}
    (h : plan.Doomed p.standing failed) : plan.Doomed q.standing failed := by
  obtain ⟨id, apart, output, drags⟩ := h
  exact ⟨id, apart, output, alike.drags closed drags (closed.outputs output)⟩

end Progress.Alike

namespace Scheduler

theorem edgeState_alike (alike : p.Alike v q) {e : Edge} (shown : v.shows e.source = true) :
    edgeState plan p e = edgeState plan q e := by
  rw [edgeState, edgeState, alike.state.nodes shown, Table.contains, Table.contains,
    alike.marks shown]

theorem delivered_alike (alike : p.Alike v q) {edges : List Edge}
    (shown : ∀ e ∈ edges, v.shows e.source = true) (tables : Table Value × Table Value) :
    delivered plan p edges tables = delivered plan q edges tables := by
  induction edges generalizing tables with
  | nil => rfl
  | cons e rest ih =>
      obtain ⟨now, later⟩ := List.forall_mem_cons.mp shown
      unfold delivered
      rw [edgeState_alike alike now, alike.output now]
      cases edgeState plan q e with
      | error stop => rfl
      | ok state =>
          dsimp only [bind, Except.bind]
          rw [ih later, ih later]

theorem ancestorOutputs_alike (alike : p.Alike v q) (closed : v.Closed plan)
    (shown : v.shows id = true) : ancestorOutputs plan p id = ancestorOutputs plan q id := by
  have seen : ∀ {r : Progress}, ((r.state.succeededInOrder.reverse.filter fun a =>
      plan.isAncestor a id && !plan.isCondition a)) =
        (((r.state.completed.filter v.shows).filter fun a =>
          r.state.hasStatus a .succeeded).reverse.filter fun a =>
            plan.isAncestor a id && !plan.isCondition a) := by
    intro r
    rw [RunState.succeededInOrder, List.filter_reverse, List.filter_reverse, List.filter_filter,
      List.filter_filter, List.filter_filter]
    congr 1
    refine List.filter_congr fun a _ => ?_
    cases before : plan.isAncestor a id with
    | false => simp
    | true => simp [closed.ancestors before shown]
  have same : (p.state.completed.filter v.shows).filter (fun a => p.state.hasStatus a .succeeded) =
      (q.state.completed.filter v.shows).filter fun a => q.state.hasStatus a .succeeded := by
    rw [alike.state.completed]
    exact List.filter_congr fun a mem => alike.hasStatus (List.mem_filter.mp mem).2 _
  rw [ancestorOutputs, ancestorOutputs, seen, same, ← seen]
  refine List.map_congr_left fun a mem => ?_
  have before := (Bool.and_eq_true_iff.mp (List.mem_filter.mp mem).2).1
  rw [alike.output (closed.ancestors before shown)]

theorem resolveInputs_alike (alike : p.Alike v q) (closed : v.Closed plan)
    (shown : v.shows id = true) :
    resolveInputs plan payload p id = resolveInputs plan payload q id := by
  rw [resolveInputs, resolveInputs, delivered_alike alike (closed.incoming shown),
    ancestorOutputs_alike alike closed shown]

end Scheduler

end

end Workflow
