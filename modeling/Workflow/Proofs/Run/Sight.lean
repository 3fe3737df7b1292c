import Workflow.Proofs.Graph.Ancestry
import Workflow.Proofs.Run.Absorption
import Workflow.Proofs.Run.Passage
import Workflow.Proofs.Run.Sequence

/-! What a node sees when it is admitted. The outputs that it may refer to are those of the nodes
before it that succeeded, conditions apart: under the ids of its direct predecessors, under the
ports that their edges lead to, and under the ids of all its ancestors. A reference is looked for in
these in turn. -/

namespace Workflow

variable {g : Graph} {plan : Plan} {exec : Executor} {payload : Value} {setup : Setup}
  {done stage : List String} {p q r : Progress} {id : String} {inputs : Inputs}

/-- A node whose output others may see: it succeeded and is no condition. -/
def Progress.supplies (p : Progress) (plan : Plan) (id : String) : Bool :=
  p.state.hasStatus id .succeeded && !plan.isCondition id

theorem Progress.hasStatus_succeeded_iff :
    p.state.hasStatus id .succeeded = true ↔ ∃ port, p.standing id = .succeeded port := by
  constructor
  · intro has
    obtain ⟨s, found, status⟩ := RunState.hasStatus_iff.mp has
    exact ⟨s.selectedPort?, by simp only [standing, found, status]⟩
  · rintro ⟨port, stands⟩
    obtain ⟨s, found, status, -⟩ := standing_eq_succeeded stands
    exact RunState.hasStatus_iff.mpr ⟨s, found, status⟩

namespace Inputs

/-- Where a reference is looked for: its first segment may name a predecessor, a port or an ancestor
whose value the others lead into, or all its segments lead into a predecessor or an ancestor. -/
def places (inputs : Inputs) : List String → List (Value × List String)
  | [] => []
  | head :: rest =>
    (([inputs.predecessors, inputs.ports, inputs.ancestors].filterMap
      (·.get? head)).map (·, rest)) ++
      (inputs.predecessors.values ++ inputs.ancestors.values).map (·, head :: rest)

theorem resolve?_eq (inputs : Inputs) (path : String) :
    inputs.resolve? path = (inputs.places (Reference.segments path)).findSome? fun place =>
      Reference.descend? place.1 place.2 := by
  unfold resolve?
  cases Reference.segments path with
  | nil => rfl
  | cons head rest =>
      have named : ∀ (scope : Table Value) (others : List (Table Value)),
          ((scope :: others).filterMap (·.get? head)).findSome? (Reference.descend? · rest) =
            (named? scope head rest).or
              ((others.filterMap (·.get? head)).findSome? (Reference.descend? · rest)) := by
        intro scope others
        rw [List.filterMap_cons, named?]
        cases scope.get? head with
        | none => rfl
        | some v =>
            rw [List.findSome?_cons, Option.bind_some]
            cases Reference.descend? v rest <;> rfl
      simp only [places, List.findSome?_append, List.findSome?_map, Function.comp_def, named,
        List.filterMap_nil, List.findSome?_nil, Option.or_none, Option.or_assoc, within?]

end Inputs

namespace Scheduler

/-- An edge from a settled node is live and carries a value just if its source supplies one. -/
theorem edgeState_supplies (plan : Plan) {e : Edge} (settled : p.Settled e.source) :
    ∃ state, edgeState plan p e = .ok state ∧
      (state = .live && !plan.isCondition e.source) = p.supplies plan e.source := by
  refine ⟨_, edgeState_eq settled, ?_⟩
  rw [Bool.eq_iff_iff, Progress.supplies, Bool.and_eq_true, Bool.and_eq_true, decide_eq_true_eq,
    view_eq_live_iff, Plan.isLive_iff, Progress.hasStatus_succeeded_iff]
  refine and_congr_left fun plain => ?_
  have plain' : plan.isCondition e.source = false := by simpa using plain
  simp [plain']

theorem putNew_outputs (f : String → Value) (ids : List String) (id : String) :
    Table.putNew ((distinct ids).map fun i => (i, f i)) id (f id) =
      (distinct (ids ++ [id])).map fun i => (i, f i) := by
  rw [distinct_concat, Table.putNew]
  by_cases old : id ∈ ids
  · rw [if_pos old, if_pos]
    rw [Table.contains, Table.get?_map, if_pos (mem_distinct.mpr old)]
    rfl
  · rw [if_neg old, if_neg, Table.put_of_not_mem, List.map_append]
    · rfl
    · rw [Table.keys, List.map_map]
      simpa [Function.comp_def, mem_distinct] using old
    · rw [Table.contains, Table.get?_map, if_neg fun mem => old (mem_distinct.mp mem)]
      exact Bool.false_ne_true

/-- The values under ports, with that which an edge carries, unless there is one before it. -/
def carried (ports : Table Value) (e : Edge) (v : Value) : Table Value :=
  match e.targetPort with
  | some port => if port.isEmpty then ports else ports.putNew port v
  | none => ports

theorem get?_carried (ports : Table Value) (e : Edge) (v : Value) (port : String) :
    (carried ports e v).get? port = (ports.get? port).or
      (if port.isEmpty then none else if e.targetPort == some port then some v else none) := by
  unfold carried
  cases e.targetPort with
  | none => simp
  | some target =>
      dsimp only
      by_cases empty : target.isEmpty = true
      · rw [if_pos empty]
        by_cases same : target = port
        · subst same
          rw [if_pos empty, Option.or_none]
        · simp [same]
      · rw [if_neg empty, Table.get?_putNew]
        by_cases same : port = target
        · subst same
          simp [empty]
        · simp [same, Ne.symm same]

theorem distinct_carried {ports : Table Value} (h : ports.Distinct) (e : Edge) (v : Value) :
    (carried ports e v).Distinct := by
  unfold carried
  split
  · split
    · exact h
    · exact Table.distinct_putNew _ v h
  · exact h

/-- The edges from settled nodes deliver the outputs of those that supply one: under the ids of the
nodes, each once, and under each port the first that comes to it. -/
theorem delivered_eq (plan : Plan) {edges : List Edge} (settled : ∀ e ∈ edges, p.Settled e.source)
    (ids : List String) (ports : Table Value) :
    ∃ u, delivered plan p edges ((distinct ids).map fun i => (i, p.state.output i), ports) =
        .ok ((distinct (ids ++ (edges.map Edge.source).filter (p.supplies plan))).map
          fun i => (i, p.state.output i), u) ∧
      (ports.Distinct → u.Distinct) ∧
      ∀ port, u.get? port = (ports.get? port).or
        (if port.isEmpty then none
        else (edges.find? fun e => p.supplies plan e.source && e.targetPort == some port).map
          fun e => p.state.output e.source) := by
  -- Along the edges, `ids` and `ports` are what the edges in front of them have delivered.
  induction edges generalizing ids ports with
  | nil => exact ⟨ports, by simp [delivered], fun h => h, by simp⟩
  | cons e rest ih =>
      have later : ∀ d ∈ rest, p.Settled d.source := fun d mem =>
        settled d (List.mem_cons_of_mem _ mem)
      obtain ⟨state, found, supplies⟩ := edgeState_supplies plan
        (settled e List.mem_cons_self)
      unfold delivered
      rw [found]
      dsimp only [bind, Except.bind]
      rw [supplies]
      by_cases supplied : p.supplies plan e.source = true
      · rw [if_pos supplied, putNew_outputs]
        obtain ⟨u, run, distinct', get⟩ := ih later (ids ++ [e.source])
          (carried ports e (p.state.output e.source))
        refine ⟨u, ?_, fun h => distinct' (distinct_carried h e _), fun port => ?_⟩
        · rw [List.map_cons, List.filter_cons, if_pos supplied]
          rw [List.append_assoc, List.singleton_append] at run
          exact run
        · rw [get, get?_carried, List.find?_cons, supplied, Bool.true_and, Option.or_assoc]
          congr 1
          by_cases empty : port.isEmpty = true
          · rw [if_pos empty, if_pos empty, if_pos empty]
            rfl
          · rw [if_neg empty, if_neg empty, if_neg empty]
            cases e.targetPort == some port <;> rfl
      · rw [if_neg supplied]
        obtain ⟨u, run, distinct', get⟩ := ih later ids ports
        refine ⟨u, ?_, distinct', ?_⟩
        · rw [run, List.map_cons, List.filter_cons, if_neg supplied]
        · intro port
          rw [get, List.find?_cons, Bool.eq_false_iff.mpr supplied, Bool.false_and]

end Scheduler

/-- What nodes may see is the same: nodes that have ended stay as they are, and no other has come to
an output. -/
structure Progress.Steady (p q : Progress) : Prop where
  ended : ∀ {a s}, p.state.get? a = some s → s.status.isTerminal = true → q.state.get? a = some s
  outputs : ∀ a, q.state.output a = p.state.output a
  succeeded : ∀ a, q.state.hasStatus a .succeeded = p.state.hasStatus a .succeeded
  order : q.state.succeededInOrder = p.state.succeededInOrder
  marks : q.blockedBy = p.blockedBy
  errors : q.errors = p.errors

namespace Progress.Steady

theorem refl (p : Progress) : p.Steady p :=
  ⟨fun found _ => found, fun _ => rfl, fun _ => rfl, rfl, rfl, rfl⟩

theorem trans (first : p.Steady q) (second : q.Steady r) : p.Steady r where
  ended found terminal := second.ended (first.ended found terminal) terminal
  outputs a := (second.outputs a).trans (first.outputs a)
  succeeded a := (second.succeeded a).trans (first.succeeded a)
  order := second.order.trans first.order
  marks := second.marks.trans first.marks
  errors := second.errors.trans first.errors

theorem supplies (h : p.Steady q) (a : String) : q.supplies plan a = p.supplies plan a := by
  rw [Progress.supplies, h.succeeded, Progress.supplies]

theorem settled (h : p.Steady q) (old : p.Settled id) : q.Settled id := by
  refine old.congr ?_ (by rw [h.marks]) h.errors
  have ended := old.ended
  unfold Progress.standing at ended
  cases found : p.state.get? id with
  | none =>
      rw [found] at ended
      exact absurd rfl ended
  | some s =>
      rw [found] at ended
      refine h.ended found ?_
      cases status : s.status with
      | succeeded | failed | skipped => rfl
      | _ =>
          dsimp only at ended
          rw [status] at ended
          exact absurd rfl ended

end Progress.Steady

namespace RunState

section

variable {st : RunState} {s : NodeState} {status : NodeStatus} {change : Change}

theorem after_hasStatus_succeeded (found : st.get? id = some s)
    (moving : s.status.isTerminal = false) (fruitless : status ≠ .succeeded) (a : String) :
    (st.after id s status change).hasStatus a .succeeded = st.hasStatus a .succeeded := by
  unfold hasStatus
  by_cases here : a = id
  · subst here
    have unmoved : s.status ≠ .succeeded := by
      intro done
      rw [done] at moving
      cases moving
    simp [after_get?_self, found, NodeState.moved, fruitless, unmoved]
  · rw [after_get?_of_ne st s status change here]

theorem after_output (found : st.get? id = some s) (fruitless : status ≠ .succeeded)
    (a : String) : (st.after id s status change).output a = st.output a := by
  unfold output
  by_cases here : a = id
  · subst here
    simp [after_get?_self, found, NodeState.moved, fruitless]
  · rw [after_get?_of_ne st s status change here]

theorem after_succeededInOrder (found : st.get? id = some s)
    (moving : s.status.isTerminal = false) (fruitless : status ≠ .succeeded) :
    (st.after id s status change).succeededInOrder = st.succeededInOrder := by
  have succeeded : ∀ a, (st.after id s status change).hasStatus a .succeeded =
      st.hasStatus a .succeeded := after_hasStatus_succeeded found moving fruitless
  have completed : (st.after id s status change).completed =
      st.completed ++ if status.isTerminal then [id] else [] := by
    by_cases terminal : status.isTerminal = true <;> simp [after, terminal]
  have unmoved : st.hasStatus id .succeeded = false := by
    rw [← succeeded id]
    simp [hasStatus, after_get?_self, NodeState.moved, fruitless]
  rw [succeededInOrder, succeededInOrder, completed, funext succeeded, List.filter_append]
  split <;> simp [unmoved]

end

end RunState

namespace Scheduler

theorem transition_steady {status : NodeStatus} {change : Change}
    (ran : (transition plan id status change).on p = (.ok (), q))
    (fruitless : status ≠ .succeeded) : p.Steady q := by
  obtain ⟨n, s, e, -, found, legal, -, same⟩ := transition_ok ran
  have moving : s.status.isTerminal = false := by
    cases status' : s.status <;> rw [status'] at legal <;> first | rfl | cases legal
  rw [same]
  exact {
    ended := by
      intro a t known terminal
      refine (RunState.after_get?_of_ne p.state s status change ?_).trans known
      rintro rfl
      cases found.symm.trans known
      rw [moving] at terminal
      cases terminal
    outputs := RunState.after_output found fruitless
    succeeded := RunState.after_hasStatus_succeeded found moving fruitless
    order := RunState.after_succeededInOrder found moving fruitless
    marks := rfl
    errors := rfl }

/-- A node is admitted with what it sees while the nodes of its stage are admitted, and that does
not change with them. -/
theorem admitAll_resolved {verdicts : List (String × Verdict)}
    {admitted : List (String × Inputs)}
    (ran : (admitAll plan payload verdicts).on p = (.ok admitted, q)) :
    p.Steady q ∧ ∀ x ∈ admitted, ∃ r, p.Steady r ∧ r.Steady q ∧
      resolveInputs plan payload r x.1 = .ok x.2 := by
  induction verdicts generalizing p admitted with
  | nil =>
      cases ran
      exact ⟨.refl _, fun _ mem => absurd mem List.not_mem_nil⟩
  | cons x rest ih =>
      obtain ⟨id, verdict⟩ := x
      cases verdict with
      | skipped =>
          obtain ⟨t, step, later⟩ := admitAll_skipped_ok ran
          have first := transition_steady step (by decide)
          obtain ⟨steady, seen⟩ := ih later
          refine ⟨first.trans steady, fun x mem => ?_⟩
          obtain ⟨r, before, after, resolved⟩ := seen x mem
          exact ⟨r, first.trans before, after, resolved⟩
      | ready =>
          obtain ⟨inputs, t, others, now, step, later, rfl⟩ := admitAll_ready_ok ran
          have first := transition_steady step (by decide)
          obtain ⟨steady, seen⟩ := ih later
          refine ⟨first.trans steady, List.forall_mem_cons.mpr ⟨?_, fun x mem => ?_⟩⟩
          · exact ⟨p, .refl p, first.trans steady, now⟩
          · obtain ⟨r, before, after, resolved⟩ := seen x mem
            exact ⟨r, first.trans before, after, resolved⟩

/-- The entry to a stage: its nodes are judged and then admitted or skipped. What a stage does with
them after that is told by `runStage_enter`. -/
def enter (plan : Plan) (payload : Value) (stage : List String) :
    RunM (List (String × Inputs)) := do
  let verdicts ← judgeAll plan stage
  admitAll plan payload verdicts

/-- A run up to the entry to one of its stages, if it comes to that stage; by `runStages_at` there
is no other way to it. -/
def enterAt (plan : Plan) (exec : Executor) (payload : Value) (k : Nat) :
    RunM (List (String × Inputs)) := do
  recordPending plan.nodes
  match ← runStages plan exec payload (plan.graph.staging.stages.take k) with
  | some _ => return []
  | none =>
    match (← get).signal with
    | some _ => return []
    | none => enter plan payload (plan.graph.staging.stages.getD k [])

/-- The nodes that enter a stage see what its entry leaves as it is. -/
theorem enter_resolved (h : Reached plan exec done p) (follows : plan.Follows done stage)
    {admitted : List (String × Inputs)}
    (ran : (enter plan payload stage).on p = (.ok admitted, q)) :
    ∃ marks, (p.marked marks).Steady q ∧ (p.Ordered → q.Ordered) ∧
      ∀ x ∈ admitted, x.1 ∈ stage ∧ ∃ r, r.Steady q ∧
        (∀ e ∈ plan.incoming x.1, r.Settled e.source) ∧
        resolveInputs plan payload r x.1 = .ok x.2 := by
  have judged := judgeAll_on h follows
  unfold enter at ran
  rw [RunM.on_bind] at ran
  generalize (judgeAll plan stage).on p = result at judged ran
  cases judged with
  | failed _ _ _ _ => cases ran
  | @judged marks clear marked =>
      dsimp only at ran
      obtain ⟨steady, seen⟩ := admitAll_resolved ran
      refine ⟨marks, steady, ?_, fun x mem => ?_⟩
      · intro ordered
        exact admitAll_ordered (p := p.marked marks) (ordered.congr rfl rfl) ran
      · obtain ⟨y, chosen, here⟩ := List.mem_map.mp (admitAll_ready ran x mem)
        obtain ⟨rfl, -⟩ := Prod.mk.inj here
        obtain ⟨r, before, after, resolved⟩ := seen x mem
        refine ⟨chosen, r, after, fun e he => before.settled ?_, resolved⟩
        have source := follows.fed _ chosen e he
        refine (h.settled source).congr rfl ?_ rfl
        exact (marked e.source).trans (if_neg fun now => follows.fresh _ now.1 source)

end Scheduler

theorem Progress.Ordered.succeededInOrder (ordered : p.Ordered) (faithful : p.Faithful) :
    p.state.succeededInOrder.Nodup ∧
      ∀ a, a ∈ p.state.succeededInOrder ↔ p.state.hasStatus a .succeeded = true := by
  have completed : p.state.completed = p.trace.ended := ordered
  rw [RunState.succeededInOrder, completed]
  constructor
  · refine List.Nodup.filter _ (List.nodup_iff_count_le_one.mpr fun a => ?_)
    have once : p.trace.ended.count a = ((p.trace.history a).filter (·.isTerminal)).length := by
      rw [Recorder.history_eq_told, Recorder.ended, List.filter_map, List.length_map, List.count,
        List.countP_map, List.countP_eq_length_filter, List.filter_filter, List.filter_filter]
      congr 1
      refine List.filter_congr fun x _ => ?_
      rw [Bool.and_comm]
      simp [Bool.beq_eq_decide_eq]
    rw [once, faithful a]
    cases p.state.get? a with
    | none => exact Nat.zero_le _
    | some s =>
        rw [Option.map_some, Option.getD_some]
        cases s.status <;> decide
  · intro a
    rw [List.mem_filter]
    refine and_iff_right_of_imp fun has => ?_
    obtain ⟨s, found, status⟩ := RunState.hasStatus_iff.mp has
    have told : NodeStatus.succeeded ∈ p.trace.history a := by
      rw [faithful a, found, Option.map_some, Option.getD_some, status]
      decide
    rw [Recorder.history_eq_told, List.mem_map] at told
    obtain ⟨x, mem, succeeded⟩ := told
    obtain ⟨mem, here⟩ := List.mem_filter.mp mem
    refine List.mem_map.mpr ⟨x, List.mem_filter.mpr ⟨mem, ?_⟩, of_decide_eq_true here⟩
    rw [succeeded]
    rfl

/-- What a node sees of a run. Its predecessors stand in the order of their first edges into it, and
its ancestors in the order in which they ended, the last in front. -/
structure Inputs.Sight (inputs : Inputs) (g : Graph) (payload : Value) (q : Progress)
    (id : String) : Prop where
  payload : inputs.payload = payload
  predecessors : inputs.predecessors =
    ((sourcesOf g.edges id).filter (q.supplies (.ofGraph g))).map fun a => (a, q.state.output a)
  ports : inputs.ports.Distinct ∧ ∀ port, inputs.ports.get? port =
    if port.isEmpty then none
    else ((g.edges.filter fun e => e.target == id).find? fun e =>
      q.supplies (.ofGraph g) e.source && e.targetPort == some port).map fun e =>
        q.state.output e.source
  ancestors : ∃ upstream : List String,
    inputs.ancestors = (upstream.map fun a => (a, q.state.output a)) ∧ upstream.Nodup ∧
      upstream.Sublist q.trace.ended.reverse ∧
      ∀ a, a ∈ upstream ↔ q.supplies (.ofGraph g) a = true ∧ g.Precedes a id
  resolved : ∀ path, inputs.resolve? path =
    (inputs.places (Reference.segments path)).findSome? fun place =>
      Reference.descend? place.1 place.2

theorem Plan.filter_incoming {f : Edge → Bool} (known : id ∈ g.functionalIds)
    (inside : ∀ e, f e = true → e.source ∈ g.functionalIds) :
    ((ofGraph g).incoming id).filter f = (g.edges.filter fun e => e.target == id).filter f := by
  change ((g.functionalEdges.filter fun e => e.target == id).filter f) = _
  rw [Graph.functionalEdges, List.filter_filter, List.filter_filter, List.filter_filter]
  refine List.filter_congr fun e _ => ?_
  by_cases passed : f e = true
  · by_cases target : e.target = id
    · have source := mem_distinct.mp (inside e passed)
      have stop := mem_distinct.mp (target ▸ known)
      rw [passed, target, beq_self_eq_true, List.contains_iff_mem.mpr source,
        List.contains_iff_mem.mpr (target ▸ stop)]
      rfl
    · simp [target]
  · simp [passed]

theorem Graph.precedes_of_edge (known : id ∈ g.functionalIds) {e : Edge} (edge : e ∈ g.edges)
    (source : e.source ∈ g.functionalIds) (target : e.target = id) : g.Precedes e.source id := by
  have functional := mem_functionalEdges.mpr ⟨edge, source, target ▸ known⟩
  exact ⟨[e], List.cons_ne_nil _ _, functional, rfl, target⟩

theorem Inputs.mem_places {segments : List String} {place : Value × List String}
    (mem : place ∈ inputs.places segments) :
    place.1 ∈ inputs.predecessors.values ∨ (∃ port, inputs.ports.get? port = some place.1) ∨
      place.1 ∈ inputs.ancestors.values := by
  cases segments with
  | nil => exact absurd mem List.not_mem_nil
  | cons head rest =>
      rcases List.mem_append.mp mem with named | within
      · obtain ⟨v, found, rfl⟩ := List.mem_map.mp named
        obtain ⟨scope, mem, found⟩ := List.mem_filterMap.mp found
        have listed : ∀ {t : Table Value}, t.get? head = some v → v ∈ t.values := fun found =>
          List.mem_map_of_mem (f := Prod.snd) (Table.mem_of_get? found)
        simp only [List.mem_cons, List.not_mem_nil, or_false] at mem
        rcases mem with rfl | rfl | rfl
        · exact .inl (listed found)
        · exact .inr (.inl ⟨head, found⟩)
        · exact .inr (.inr (listed found))
      · obtain ⟨v, found, rfl⟩ := List.mem_map.mp within
        exact (List.mem_append.mp found).imp_right .inr

/-- Whatever a node refers to comes from the output of one of its ancestors. -/
theorem Inputs.Sight.drawn (h : inputs.Sight g payload q id) (known : id ∈ g.functionalIds)
    (inside : ∀ a, q.supplies (.ofGraph g) a = true → a ∈ g.functionalIds) {path : String}
    {v : Value} (found : inputs.resolve? path = some v) :
    ∃ a way, q.supplies (.ofGraph g) a = true ∧ g.Precedes a id ∧
      Reference.descend? (q.state.output a) way = some v := by
  rw [h.resolved] at found
  obtain ⟨place, mem, leads⟩ := List.exists_of_findSome?_eq_some found
  suffices ∃ a, q.supplies (.ofGraph g) a = true ∧ g.Precedes a id ∧ q.state.output a = place.1 by
    obtain ⟨a, supplied, before, same⟩ := this
    exact ⟨a, place.2, supplied, before, same ▸ leads⟩
  rcases Inputs.mem_places mem with mem | ⟨port, carried⟩ | mem
  · rw [h.predecessors, Table.values, List.map_map] at mem
    obtain ⟨a, mem, same⟩ := List.mem_map.mp mem
    obtain ⟨source, supplied⟩ := List.mem_filter.mp mem
    obtain ⟨e, edge, target, rfl⟩ := mem_sourcesOf.mp source
    exact ⟨e.source, supplied, g.precedes_of_edge known edge (inside _ supplied) target, same⟩
  · rw [h.ports.2] at carried
    split at carried
    · cases carried
    · obtain ⟨e, first, same⟩ := Option.map_eq_some_iff.mp carried
      obtain ⟨edge, target⟩ := List.mem_filter.mp (List.mem_of_find?_eq_some first)
      have passed := List.find?_some first
      have supplied := (Bool.and_eq_true_iff.mp passed).1
      exact ⟨e.source, supplied,
        g.precedes_of_edge known edge (inside _ supplied) (eq_of_beq target), same⟩
  · obtain ⟨upstream, listed, -, -, members⟩ := h.ancestors
    rw [listed, Table.values, List.map_map] at mem
    obtain ⟨a, mem, same⟩ := List.mem_map.mp mem
    obtain ⟨supplied, before⟩ := (members a).mp mem
    exact ⟨a, supplied, before, same⟩

namespace Scheduler

/-- The ancestors that supply an output, in the order in which they ended. -/
theorem ancestorOutputs_eq (known : id ∈ g.functionalIds) (ordered : q.Ordered)
    (nodup : q.state.succeededInOrder.Nodup)
    (listed : ∀ a, a ∈ q.state.succeededInOrder ↔ q.state.hasStatus a .succeeded = true) :
    ∃ upstream : List String,
      ancestorOutputs (.ofGraph g) q id = (upstream.map fun a => (a, q.state.output a)) ∧
        upstream.Nodup ∧ upstream.Sublist q.trace.ended.reverse ∧
        ∀ a, a ∈ upstream ↔ q.supplies (.ofGraph g) a = true ∧ g.Precedes a id := by
  refine ⟨_, rfl, (List.nodup_reverse.mpr nodup).filter _, ?_, fun a => ?_⟩
  · have completed : q.state.completed = q.trace.ended := ordered
    rw [← completed]
    exact List.filter_sublist.trans List.filter_sublist.reverse
  · rw [List.mem_filter, List.mem_reverse, listed, Bool.and_eq_true, Plan.isAncestor_iff known,
      Progress.supplies, Bool.and_eq_true]
    tauto

theorem sight_of_resolved (known : id ∈ g.functionalIds)
    (inside : ∀ a, q.supplies (.ofGraph g) a = true → a ∈ g.functionalIds)
    (ordered : q.Ordered) (nodup : q.state.succeededInOrder.Nodup)
    (listed : ∀ a, a ∈ q.state.succeededInOrder ↔ q.state.hasStatus a .succeeded = true)
    (steady : r.Steady q) (settled : ∀ e ∈ (Plan.ofGraph g).incoming id, r.Settled e.source)
    (resolved : resolveInputs (.ofGraph g) payload r id = .ok inputs) :
    inputs.Sight g payload q id := by
  have outputs : r.state.output = q.state.output := funext fun a => (steady.outputs a).symm
  have supplies : r.supplies (.ofGraph g) = q.supplies (.ofGraph g) :=
    funext fun a => (steady.supplies a).symm
  obtain ⟨ports, delivered, distinct', get⟩ :=
    delivered_eq (.ofGraph g) settled [] []
  rw [List.nil_append, outputs, supplies, distinct, List.map_nil] at delivered
  rw [outputs, supplies] at get
  have ancestors : ancestorOutputs (.ofGraph g) r id = ancestorOutputs (.ofGraph g) q id := by
    rw [ancestorOutputs, ancestorOutputs, outputs, steady.order]
  rw [resolveInputs, delivered] at resolved
  cases resolved
  refine ⟨rfl, ?_, ⟨distinct' List.nodup_nil, fun port => ?_⟩, ?_, Inputs.resolve?_eq _⟩
  · have same := Plan.filter_incoming (f := q.supplies (.ofGraph g) ∘ Edge.source) known
      fun e passed => inside e.source passed
    rw [sourcesOf, distinct_filter, List.filter_map, List.filter_map, same]
  · rw [get, Table.get?, Option.none_or]
    split
    · rfl
    · rw [← List.head?_filter, ← List.head?_filter, Plan.filter_incoming known]
      exact fun e passed => inside e.source (Bool.and_eq_true_iff.mp passed).1
  · rw [ancestors]
    exact ancestorOutputs_eq known ordered nodup listed

/-- A stage goes on with the nodes that enter it and with what they see. -/
theorem runStage_enter :
    runStage plan exec payload stage = (do
      let admitted ← enter plan payload stage
      if !admitted.isEmpty then
        let before := (← get).failures.length
        dispatch plan exec admitted
        escalate plan ((← get).failures.drop before)) := by
  simp only [enter, runStage, bind_assoc]

/-- A run comes to each of its stages through those in front of it, and then to those behind it. -/
theorem runStages_at {stages : List (List String)} {k : Nat} (within : k < stages.length)
    (p : Progress) :
    (runStages plan exec payload stages).on p = (do
      match ← runStages plan exec payload (stages.take k) with
      | some reason => return some reason
      | none =>
        match (← get).signal with
        | some reason => return some reason
        | none =>
          runStage plan exec payload (stages.getD k [])
          runStages plan exec payload (stages.drop (k + 1)) : RunM _).on p := by
  have split : stages = stages.take k ++ stages.getD k [] :: stages.drop (k + 1) := by
    rw [List.getD_eq_getElem?_getD, List.getElem?_eq_getElem within, Option.getD_some,
      List.getElem_cons_drop, List.take_append_drop]
  calc (runStages plan exec payload stages).on p
    _ = (runStages plan exec payload
          (stages.take k ++ stages.getD k [] :: stages.drop (k + 1))).on p := by rw [← split]
    _ = _ := runStages_append _ _ p

/-- A run comes to a stage with what it has reached, and with the ended nodes in order. -/
theorem enterAt_ok {k : Nat} {admitted : List (String × Inputs)}
    (ran : (enterAt (.ofGraph g) exec setup.payload k).on (.start (.ofGraph g) setup) =
      (.ok admitted, q)) :
    admitted = [] ∨ ∃ done stage p, Reached (.ofGraph g) exec done p ∧
      (Plan.ofGraph g).Follows done stage ∧ p.Ordered ∧
      (enter (.ofGraph g) setup.payload stage).on p = (.ok admitted, q) := by
  obtain ⟨p, start, reached, -⟩ := start_reached (Plan.sound_ofGraph g) exec setup
  obtain ⟨layered, follows⟩ := (Plan.layered_ofGraph g).take k
  have course := runStages_course setup.payload reached layered
  unfold enterAt at ran
  rw [RunM.on_bind_ok start] at ran
  obtain ⟨reason, r, staged, ran⟩ := RunM.on_bind_eq_ok ran
  change (runStages (.ofGraph g) exec setup.payload (g.staging.stages.take k)).on p = _ at staged
  rw [staged] at course
  cases reason with
  | some reason =>
      cases ran
      exact .inl rfl
  | none =>
      dsimp only at ran
      rw [RunM.on_bind, RunM.on_get] at ran
      dsimp only at ran
      cases asked : r.signal with
      | some reason =>
          rw [asked] at ran
          cases ran
          exact .inl rfl
      | none =>
          rw [asked] at ran
          exact .inr ⟨_, _, r, course.reached, follows,
            runStages_ordered reached layered (start_ordered start) staged, ran⟩

theorem enter_sight (h : Reached (.ofGraph g) exec done p)
    (follows : (Plan.ofGraph g).Follows done stage) (ordered : p.Ordered)
    {admitted : List (String × Inputs)}
    (ran : (enter (.ofGraph g) payload stage).on p = (.ok admitted, q)) {x : String × Inputs}
    (mem : x ∈ admitted) :
    x.2.Sight g payload q x.1 ∧ ∀ path v, x.2.resolve? path = some v → ∃ a way,
      q.supplies (.ofGraph g) a = true ∧ g.Precedes a x.1 ∧
        Reference.descend? (q.state.output a) way = some v := by
  obtain ⟨marks, steady, keeps, seen⟩ := enter_resolved h follows ran
  obtain ⟨nodup, listed⟩ := ordered.succeededInOrder h.faithful
  have inside : ∀ a, q.supplies (.ofGraph g) a = true → a ∈ g.functionalIds := by
    intro a supplied
    have has := (Bool.and_eq_true_iff.mp supplied).1
    rw [steady.succeeded] at has
    obtain ⟨s, found, -⟩ := RunState.hasStatus_iff.mp has
    by_contra unknown
    have none' := h.unknown a fun known => unknown (Plan.mem_keys_ofGraph.mp known)
    cases none'.symm.trans found
  have listed' : ∀ a, a ∈ q.state.succeededInOrder ↔ q.state.hasStatus a .succeeded = true := by
    intro a
    rw [steady.order, steady.succeeded]
    exact listed a
  obtain ⟨chosen, s, after, settled, resolved⟩ := seen x mem
  have known := Plan.mem_keys_ofGraph.mp (follows.known x.1 chosen)
  have sight := sight_of_resolved known inside (keeps ordered) (steady.order ▸ nodup) listed' after
    settled resolved
  exact ⟨sight, fun path v found => sight.drawn known inside found⟩

end Scheduler

open Scheduler in
/-- In every run, each node that enters a stage sees the outputs of the nodes before it, and a
reference in it is to the first of these that it leads into. These are the nodes and inputs that the
run executes, by `runStages_at` and `runStage_enter`. -/
theorem references_resolved {k : Nat} {admitted : List (String × Inputs)}
    (ran : (enterAt (.ofGraph g) exec setup.payload k).on (.start (.ofGraph g) setup) =
      (.ok admitted, q)) :
    ∀ x ∈ admitted, x.2.Sight g setup.payload q x.1 ∧
      ∀ path v, x.2.resolve? path = some v → ∃ a way, q.supplies (.ofGraph g) a = true ∧
        g.Precedes a x.1 ∧ Reference.descend? (q.state.output a) way = some v := by
  rcases enterAt_ok ran with rfl | ⟨done, stage, p, reached, follows, ordered, ran⟩
  · exact fun _ mem => absurd mem List.not_mem_nil
  · exact fun x mem => enter_sight reached follows ordered ran mem

/-- Conditions select a given port, and all other nodes come to a given value. -/
def yielding (port : String) (v : Value) : Executor := fun n _ =>
  .immediate (if n.kind = .condition then .decision ⟨port, none, []⟩ else .value v)

open Scheduler in
/-- A null is found as any other value is; what a condition decided is not to be seen. -/
theorem references_resolved_detour :
    ∃ admitted q, (enterAt (.ofGraph detour) (yielding "true" (.object [("days", .null)]))
        .null 2).on (.start (.ofGraph detour) plainSetup) = (.ok admitted, q) ∧
      (admitted.map fun x => (x.1, ["risk.days", "days", "choice"].map fun path =>
        (x.2.resolve? path).map Value.sortName)) =
          [("join", [some "NoneType", some "NoneType", none])] ∧
      ∀ x ∈ admitted, x.2.Sight detour .null q x.1 := by
  have found : ((enterAt (.ofGraph detour) (yielding "true" (.object [("days", .null)]))
      .null 2).on (.start (.ofGraph detour) plainSetup)).1.toOption.map (·.map fun x =>
        (x.1, ["risk.days", "days", "choice"].map fun path =>
          (x.2.resolve? path).map Value.sortName)) =
      some [("join", [some "NoneType", some "NoneType", none])] := by decide +kernel
  cases run : (enterAt (.ofGraph detour) (yielding "true" (.object [("days", .null)]))
      .null 2).on (.start (.ofGraph detour) plainSetup) with
  | mk result q =>
      rw [run] at found
      cases result with
      | error stop => cases found
      | ok admitted =>
          have ran : (enterAt (.ofGraph detour) (yielding "true" (.object [("days", .null)]))
              plainSetup.payload 2).on (.start (.ofGraph detour) plainSetup) = (.ok admitted, q) :=
            run
          have sight := references_resolved ran
          exact ⟨admitted, q, rfl, Option.some.inj found, fun x mem => (sight x mem).1⟩

end Workflow
