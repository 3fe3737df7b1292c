import Workflow.Proofs.Run.Absorption
import Workflow.Proofs.Run.Passage

/-! The lives of the nodes in a run that returns. A run takes whole stages: every node of those that
it takes comes to the end of its life, and no other node gets beyond its start. Only where an
outcome cannot be recorded does the trace leave its node running, and then the run is failed. -/

namespace Workflow

/-- A node has come to the end of its life, as the trace tells. -/
def Progress.Lived (q : Progress) (id : String) : Prop :=
  ∃ status : NodeStatus, status.isTerminal = true ∧ q.trace.history id = status.life

/-- The trace leaves a node running that has come to an output of which no event can keep a copy. -/
structure Progress.Lost (q : Progress) (id : String) : Prop where
  running : q.trace.history id = NodeStatus.running.life
  succeeded : q.state.hasStatus id .succeeded = true
  copies : q.trace.snapshotOutputs = true
  uncopied : ∃ f, (q.state.output id).snapshot = .error f

variable {g : Graph} {plan : Plan} {exec : Executor} {payload : Value} {setup : Setup}
  {done stage : List String} {stages : List (List String)} {p q r : Progress} {id : String}
  {executions : List (String × Execution)}

theorem Progress.Has.history {status : NodeStatus} (h : p.Has plan status id)
    (faithful : p.Faithful) : p.trace.history id = status.life := by
  obtain ⟨-, s, found, rfl⟩ := h
  rw [faithful id, found]
  rfl

theorem Value.copyFault?_ofTexts (xs : List String) : (Value.ofTexts xs).copyFault? = none := by
  rw [ofTexts, copyFault?]
  induction xs with
  | nil => rfl
  | cons x rest ih => simpa [copyFaultOfItems?, copyFault?] using ih

theorem Decision.copyable (d : Decision) : d.toValue.Copyable := by
  refine Value.copyable_of_free ?_
  cases h : d.branchIndex <;>
    simp [toValue, Value.copyFault?, Value.copyFaultOfMembers?, Value.copyFault?_ofTexts, h]

/-- Only values fail to be copied, and only where outputs are kept. -/
theorem Outcome.of_copied_error {r : Recorder} {o : Outcome} {f : Fault}
    (h : r.copied o.shown = .error f) :
    r.snapshotOutputs = true ∧ o.standing = .succeeded none ∧ o.output.snapshot = .error f := by
  unfold Recorder.copied at h
  split at h
  · rename_i copies
    cases o with
    | value v => exact ⟨copies, rfl, h⟩
    | decision d =>
        obtain ⟨copy, copied⟩ := d.copyable
        cases copied.symm.trans h
    | _ => cases h
  · cases h

namespace Scheduler

theorem mem_of_mem_endings {tr : Recorder} {x : String × NodeStatus}
    (h : x ∈ tr.endings executions) : x.1 ∈ executions.map Prod.fst := by
  obtain ⟨y, mem, rfl⟩ := List.mem_map.mp h
  exact List.mem_map_of_mem (List.mem_of_mem_filter mem)

/-- The endings tell of an execution the status that its outcome comes to, if that can be copied. -/
theorem endings_of_mem {tr : Recorder} (nodup : (executions.map Prod.fst).Nodup)
    {x : String × Execution} (mem : x ∈ executions) :
    ((tr.endings executions).filter fun y => y.1 = x.1).map Prod.snd =
      if (tr.copied x.2.outcome.shown).isOk then [x.2.outcome.standing.status] else [] := by
  induction executions with
  | nil => cases mem
  | cons y rest ih =>
      obtain ⟨fresh, nodup⟩ := List.nodup_cons.mp nodup
      rw [Recorder.endings_cons, List.filter_append, List.map_append]
      rcases List.mem_cons.mp mem with rfl | later
      · have none' : (tr.endings rest).filter (fun y => y.1 = x.1) = [] := by
          rw [List.filter_eq_nil_iff]
          intro z told same
          exact fresh (of_decide_eq_true same ▸ mem_of_mem_endings told)
        rw [none', List.map_nil, List.append_nil]
        split <;> simp
      · have apart : y.1 ≠ x.1 := fun same => fresh (same ▸ List.mem_map_of_mem later)
        rw [ih nodup later]
        have first : ((if (tr.copied y.2.outcome.shown).isOk then
            [(y.1, y.2.outcome.standing.status)] else []).filter fun z => z.1 = x.1) = [] := by
          split <;> simp [apart]
        rw [first, List.map_nil, List.nil_append]

/-- An opened stage is concluded: its outcomes are told, so far as they can be copied, and its nodes
show them. -/
structure Concluded (executions : List (String × Execution)) (r q : Progress) : Prop where
  told : q.trace.told = r.trace.told ++ r.trace.endings (completionOrder executions)
  copying : q.trace.snapshotOutputs = r.trace.snapshotOutputs
  shown : ∀ x ∈ executions, q.Shows x.1 x.2.outcome
  others : ∀ id ∉ executions.map Prod.fst, q.state.get? id = r.state.get? id

/-- An opened stage is concluded, unless a task of it was cancelled. -/
theorem Opens.concluded {marks : Table String} {admitted : List (String × Inputs)}
    (opens : Opens plan exec payload stage p marks admitted executions r) {earlier : Nat}
    {result : Except Stop Unit} (ran : (conclude plan executions earlier).on r = (result, q))
    (kept : ∀ message, result ≠ .error (.cancelled message)) : Concluded executions r q := by
  have consumed := opens.consumed
  have perm := completionOrder_perm executions
  have apart : ∀ id ∉ executions.map Prod.fst,
      id ∉ (completionOrder executions).map Prod.fst := fun id fresh mem =>
    fresh ((perm.map Prod.fst).mem_iff.mp mem)
  cases end' : (consume plan (completionOrder executions)).on r with
  | mk result t =>
        rw [end'] at consumed
        cases consumed with
        | @cancelled _ message =>
            rw [conclude, RunM.on_bind, end'] at ran
            cases ran
            exact absurd rfl (kept message)
        | refused _ _ _ others shown told copying =>
            rw [conclude, RunM.on_bind, end'] at ran
            cases ran
            exact ⟨told, copying, fun x mem => shown x (perm.mem_iff.mpr mem),
              fun id fresh => others id (apart id fresh)⟩
        | recorded all =>
            rw [conclude_recorded end'] at ran
            obtain rfl := (failDoomed_on _ _).symm.trans (congrArg Prod.snd ran)
            exact ⟨all.told, all.moved.copying,
              fun x mem => (all.shown x (perm.mem_iff.mpr mem)).congr rfl,
              fun id fresh => all.moved.others id (apart id fresh)⟩

namespace Concluded

theorem history (h : Concluded executions r q) (id : String) :
    q.trace.history id = r.trace.history id ++
      ((r.trace.endings (completionOrder executions)).filter fun x => x.1 = id).map Prod.snd := by
  rw [Recorder.history_eq_told, h.told, List.filter_append, List.map_append,
    ← Recorder.history_eq_told]

/-- Of an executed node the trace tells the status that its outcome comes to, if that can be copied.
-/
theorem history_of_mem (h : Concluded executions r q) (nodup : (executions.map Prod.fst).Nodup)
    {x : String × Execution} (mem : x ∈ executions) :
    q.trace.history x.1 = r.trace.history x.1 ++
      if (r.trace.copied x.2.outcome.shown).isOk then [x.2.outcome.standing.status] else [] := by
  have perm := completionOrder_perm executions
  rw [h.history, endings_of_mem ((perm.map Prod.fst).nodup_iff.mpr nodup) (perm.mem_iff.mpr mem)]

theorem history_of_not_mem (h : Concluded executions r q) (apart : id ∉ executions.map Prod.fst) :
    q.trace.history id = r.trace.history id := by
  have none' : (r.trace.endings (completionOrder executions)).filter (fun x => x.1 = id) = [] := by
    rw [List.filter_eq_nil_iff]
    intro x mem same
    obtain ⟨y, here, name⟩ := List.mem_map.mp (mem_of_mem_endings mem)
    exact apart (of_decide_eq_true same ▸ name ▸ List.mem_map_of_mem (mem_ranked.mp here))
  rw [h.history, none', List.map_nil, List.append_nil]

/-- An executed node whose outcome can be copied comes to the end of its life. -/
theorem lived (h : Concluded executions r q) (nodup : (executions.map Prod.fst).Nodup)
    {x : String × Execution} (mem : x ∈ executions)
    (started : r.trace.history x.1 = NodeStatus.running.life) {copy : Value}
    (copied : r.trace.copied x.2.outcome.shown = .ok copy) : q.Lived x.1 := by
  have told := h.history_of_mem nodup mem
  rw [started, copied] at told
  cases standing : x.2.outcome.standing with
  | waiting => exact absurd standing (h.shown x mem).ended
  | succeeded port => exact ⟨.succeeded, rfl, by rw [told, standing]; rfl⟩
  | failed => exact ⟨.failed, rfl, by rw [told, standing]; rfl⟩
  | skipped => cases outcome : x.2.outcome <;> rw [outcome] at standing <;> cases standing
  | blocked => cases outcome : x.2.outcome <;> rw [outcome] at standing <;> cases standing

/-- Where the outcome of an executed node cannot be copied, the move is made, but its event is not:
the trace stays at the start of the task. -/
theorem lost (h : Concluded executions r q) (nodup : (executions.map Prod.fst).Nodup)
    {x : String × Execution} (mem : x ∈ executions)
    (started : r.trace.history x.1 = NodeStatus.running.life) {f : Fault}
    (copied : r.trace.copied x.2.outcome.shown = .error f) : q.Lost x.1 := by
  have told := h.history_of_mem nodup mem
  have shows' := h.shown x mem
  obtain ⟨copies, succeeded, uncopied⟩ := Outcome.of_copied_error copied
  obtain ⟨s, found, status, -⟩ := Progress.standing_eq_succeeded (shows'.standing.trans succeeded)
  rw [started, copied] at told
  refine ⟨told, RunState.hasStatus_iff.mpr ⟨s, found, status⟩, h.copying.trans copies, f, ?_⟩
  rw [shows'.output, uncopied]

end Concluded

/-- Once a stage is concluded, its nodes are at the end of their lives or lost, and the trace says
nothing new of others. -/
theorem Opens.lives {marks : Table String} {admitted : List (String × Inputs)}
    (opens : Opens plan exec payload stage p marks admitted executions r) (faithful : p.Faithful)
    {earlier : Nat} {result : Except Stop Unit}
    (ran : (conclude plan executions earlier).on r = (result, q))
    (kept : ∀ message, result ≠ .error (.cancelled message)) :
    (∀ id ∈ stage, q.Lived id ∨ q.Lost id) ∧
      ∀ id ∉ stage, q.trace.history id = p.trace.history id := by
  have end' := opens.concluded ran kept
  have opened := opens.opened
  have faithful' := opened.moved.faithful faithful
  refine ⟨fun id now => ?_, fun id apart => ?_⟩
  · by_cases fit : plan.admission p.standing id = .executed
    · obtain ⟨x, mem, rfl⟩ := List.mem_map.mp (opened.chosen.mpr ⟨now, fit⟩)
      have started := (opened.running x mem).history faithful'
      cases copied : r.trace.copied x.2.outcome.shown with
      | ok copy => exact .inl (end'.lived opened.nodup mem started copied)
      | error f => exact .inr (end'.lost opened.nodup mem started copied)
    · have apart : id ∉ executions.map Prod.fst := fun mem => fit (opened.chosen.mp mem).2
      refine .inl ⟨.skipped, rfl, ?_⟩
      rw [end'.history_of_not_mem apart, (opened.skipped id now fit).history faithful']
  · rw [end'.history_of_not_mem fun mem => apart (opened.chosen.mp mem).1, faithful' id,
      opened.moved.others id apart, faithful id]

theorem lived_of_reached (h : Reached plan exec done p) (mem : id ∈ done) : p.Lived id := by
  refine ⟨(p.standing id).status, ?_, ?_⟩
  · have ended := h.ended mem
    cases standing : p.standing id <;> first | rfl | exact absurd standing ended
  · rw [h.history, if_pos (h.within id mem)]

theorem history_of_waiting (h : Reached plan exec done p) (known : id ∈ plan.nodes.keys)
    (undone : id ∉ done) : p.trace.history id = [.pending] := by
  rw [h.history, if_pos known, h.waiting undone]
  rfl

/-- What a run leaves of the lives of its nodes: those that it has touched are at their ends or,
where it is stopped, lost, and all others are at their starts. -/
structure Leaves (plan : Plan) (touched : List String) (q : Progress) (stopped : Prop) : Prop where
  lives : ∀ id ∈ touched, q.Lived id ∨ (q.Lost id ∧ stopped)
  waits : ∀ id ∈ plan.nodes.keys, id ∉ touched → q.trace.history id = [.pending]

theorem leaves_of_reached (h : Reached plan exec done p) (stopped : Prop) :
    Leaves plan done p stopped :=
  ⟨fun _ mem => .inl (lived_of_reached h mem), fun _ => history_of_waiting h⟩

theorem Opens.leaves {marks : Table String} {admitted : List (String × Inputs)}
    (opens : Opens plan exec payload stage p marks admitted executions r)
    (h : Reached plan exec done p) {earlier : Nat} {stop : Stop}
    (ran : (conclude plan executions earlier).on r = (.error stop, q))
    (kept : ∀ message, stop ≠ .cancelled message) {stopped : Prop} (stops : stopped) :
    Leaves plan (done ++ stage) q stopped := by
  obtain ⟨lives, others⟩ := opens.lives h.faithful ran fun message same =>
    kept message (Except.error.inj same)
  refine ⟨fun id mem => ?_, fun id known apart => ?_⟩
  · by_cases now : id ∈ stage
    · exact (lives id now).imp_right fun lost => ⟨lost, stops⟩
    · have old := (List.mem_append.mp mem).resolve_right now
      obtain ⟨status, terminal, history⟩ := lived_of_reached h old
      exact .inl ⟨status, terminal, (others id now).trans history⟩
  · rw [List.mem_append, not_or] at apart
    rw [others id apart.2]
    exact history_of_waiting h known apart.1

/-- A stage that stops the run has touched none of its nodes, where an output node of it is blocked,
or all of them. -/
theorem leaves_of_stop (payload : Value) (h : Reached plan exec done p)
    (follows : plan.Follows done stage) {stop : Stop}
    (ran : (runStage plan exec payload stage).on p = (.error stop, q))
    (kept : ∀ message, stop ≠ .cancelled message) {stopped : Prop} (stops : stopped) :
    Leaves plan done q stopped ∨ Leaves plan (done ++ stage) q stopped := by
  have run := runStage_run payload h follows
  rw [ran] at run
  generalize step : (Except.error stop, q) = last at run
  cases run with
  | blocked _ _ _ _ =>
      obtain ⟨-, rfl⟩ := Prod.mk.inj step
      exact .inl ⟨fun _ mem => .inl (lived_of_reached (p := p) h mem),
        fun _ => history_of_waiting (p := p) h⟩
  | opened opens => exact .inr (opens.leaves h step.symm kept stops)

/-- The stages of a run that come to an end touch the nodes of the first of them, and all nodes if
no stop and no cancellation ends them. -/
theorem runStages_leaves (payload : Value) (h : Reached plan exec done p)
    (layered : plan.Layered done stages) {result : Except Stop (Option (Option String))}
    (ran : (runStages plan exec payload stages).on p = (result, q))
    (kept : ∀ message, result ≠ .error (.cancelled message)) :
    ∃ k ≤ stages.length,
      Leaves plan (done ++ (stages.take k).flatten) q (∃ stop, result = .error stop) ∧
      (result = .ok none → k = stages.length) := by
  induction stages generalizing done p with
  | nil =>
      cases ran
      exact ⟨0, Nat.le_refl _, by simpa using leaves_of_reached h _, fun _ => rfl⟩
  | cons stage rest ih =>
      obtain ⟨follows, layered⟩ := layered
      rw [runStages_cons] at ran
      cases asked : p.signal with
      | some reason =>
          rw [asked] at ran
          cases ran
          refine ⟨0, Nat.zero_le _, by simpa using leaves_of_reached h _, fun none' => ?_⟩
          cases none'
      | none =>
          rw [asked] at ran
          dsimp only at ran
          rw [RunM.on_bind] at ran
          cases staged : (runStage plan exec payload stage).on p with
          | mk first t =>
              rw [staged] at ran
              cases first with
              | ok _ =>
                  have reached := runStage_reached h follows staged
                  obtain ⟨k, within, leaves, whole⟩ := ih reached layered ran
                  refine ⟨k + 1, Nat.succ_le_succ within, ?_, fun none' => ?_⟩
                  · rw [List.take_succ_cons, List.flatten_cons, ← List.append_assoc]
                    exact leaves
                  · rw [List.length_cons, whole none']
              | error stop =>
                  cases ran
                  have kept' : ∀ message, stop ≠ .cancelled message := fun message same =>
                    kept message (congrArg _ same)
                  have stops : ∃ s, Except.error (α := Option (Option String)) stop = .error s :=
                    ⟨stop, rfl⟩
                  rcases leaves_of_stop payload h follows staged kept' stops with before | touched
                  · exact ⟨0, Nat.zero_le _, by simpa using before, nofun⟩
                  · exact ⟨1, Nat.succ_le_succ (Nat.zero_le _), by simpa using touched, nofun⟩

theorem RunEnd.statuses {ended : Except Stop (Option (Option String)) × Progress} {res : RunResult}
    (h : RunEnd plan ended (.ok res, q)) (id : String) :
    res.trace.statuses id = ended.2.trace.history id := by
  cases h <;> rfl

theorem RunEnd.told {ended : Except Stop (Option (Option String)) × Progress} {res : RunResult}
    (h : RunEnd plan ended (.ok res, q)) :
    (res.trace.events.map fun e => (e.nodeId, e.status)) = ended.2.trace.told := by
  cases h <;> rfl

theorem RunEnd.lost {ended : Except Stop (Option (Option String)) × Progress} {res : RunResult}
    (h : RunEnd plan ended (.ok res, q)) (lost : ended.2.Lost id) : q.Lost id := by
  obtain ⟨running, succeeded, copies, uncopied⟩ := lost
  cases h <;> exact ⟨running, succeeded, copies, uncopied⟩

/-- The result of a run is failed where its stages are stopped, and succeeded only where they come
to their end. -/
theorem RunEnd.ends {ended : Except Stop (Option (Option String)) × Progress} {res : RunResult}
    (h : RunEnd plan ended (.ok res, q)) :
    (∀ message, ended.1 ≠ .error (.cancelled message)) ∧
      ((∃ stop, ended.1 = .error stop) → res.status = .failed) ∧
      (res.status = .succeeded → ended.1 = .ok none) := by
  refine ⟨?_, ?_, ?_⟩
  · rintro message same
    cases h <;> cases same
  · rintro ⟨stop, same⟩
    cases h <;> first | rfl | cases same
  · intro succeeded
    cases h <;> first | rfl | cases succeeded

end Scheduler

theorem NodeStatus.life_eq (s : NodeStatus) :
    ∃ tail, s.life = .pending :: tail ∧ .pending ∉ tail := by
  cases s <;> exact ⟨_, rfl, by decide⟩

def NodeStatus.wholeLives : List (List NodeStatus) :=
  [[.pending, .skipped], [.pending, .ready, .running, .succeeded],
    [.pending, .ready, .running, .failed]]

/-- The trace of a result tells the whole lives of the nodes of the first stages, in front of them
the starts of all nodes in the order of the plan, and nothing else. A node that an outcome has left
without its last event has failed the run. -/
structure RunResult.LivesThrough (res : RunResult) (g : Graph) (q : Progress) (k : Nat) :
    Prop where
  within : k ≤ g.staging.stages.length
  starts : ∃ later, (res.trace.events.map fun e => (e.nodeId, e.status)) =
      (g.functionalNodes.map fun n => (n.id, .pending)) ++ later ∧
    ∀ x ∈ later, x.2 ≠ .pending ∧ x.1 ∈ (g.staging.stages.take k).flatten
  touched : ∀ id ∈ (g.staging.stages.take k).flatten,
    res.trace.statuses id ∈ NodeStatus.wholeLives ∨
      (res.trace.statuses id = [.pending, .ready, .running] ∧ q.Lost id ∧ res.status = .failed)
  untouched : ∀ id ∈ (g.staging.stages.drop k).flatten, res.trace.statuses id = [.pending]
  whole : res.status = .succeeded → k = g.staging.stages.length ∧
    ∀ n ∈ g.functionalNodes, res.trace.statuses n.id ∈ NodeStatus.wholeLives

theorem Progress.Lived.whole (h : q.Lived id) : q.trace.history id ∈ NodeStatus.wholeLives := by
  obtain ⟨status, terminal, history⟩ := h
  rw [history]
  cases status with
  | succeeded | failed | skipped => decide
  | _ => cases terminal

theorem Scheduler.Leaves.life {touched : List String} {stopped : Prop}
    (h : Leaves plan touched q stopped) (known : id ∈ plan.nodes.keys) :
    ∃ status : NodeStatus, q.trace.history id = status.life := by
  by_cases mem : id ∈ touched
  · rcases h.lives id mem with ⟨status, -, history⟩ | ⟨lost, -⟩
    · exact ⟨status, history⟩
    · exact ⟨.running, lost.running⟩
  · exact ⟨.pending, h.waits id known mem⟩

theorem starts_of_mem {ids : List String} (nodup : ids.Nodup) (mem : id ∈ ids) :
    ((ids.map fun i => (i, NodeStatus.pending)).filter fun x => x.1 = id).map Prod.snd =
      [.pending] := by
  rw [List.filter_map, List.map_map]
  have one : ids.filter (fun i => i = id) = [id] := by
    rw [List.filter_eq, List.count_eq_one_of_mem nodup mem]
    rfl
  simp only [Function.comp_def, one, List.map_cons, List.map_nil]

/-- What comes behind the starts of the nodes are events of nodes that were touched, and no
starts. -/
theorem Scheduler.Leaves.later {touched : List String} {stopped : Prop}
    (h : Leaves plan touched q stopped) (distinct : plan.nodes.Distinct)
    {later : List (String × NodeStatus)}
    (told : q.trace.told = (plan.nodes.keys.map fun i => (i, .pending)) ++ later)
    {x : String × NodeStatus} (mem : x ∈ later) (known : x.1 ∈ plan.nodes.keys) :
    x.2 ≠ .pending ∧ x.1 ∈ touched := by
  have here : x.2 ∈ (later.filter fun y => y.1 = x.1).map Prod.snd :=
    List.mem_map_of_mem (List.mem_filter.mpr ⟨mem, decide_eq_true rfl⟩)
  have history : q.trace.history x.1 =
      .pending :: (later.filter fun y => y.1 = x.1).map Prod.snd := by
    rw [Recorder.history_eq_told, told, List.filter_append, List.map_append,
      starts_of_mem distinct known]
    rfl
  constructor
  · obtain ⟨status, life⟩ := h.life known
    obtain ⟨tail, eq, single⟩ := status.life_eq
    obtain ⟨-, rfl⟩ := List.cons.inj (history.symm.trans (life.trans eq))
    intro pending
    exact single (pending ▸ here)
  · by_contra apart
    have waits := h.waits x.1 known apart
    obtain ⟨-, none'⟩ := List.cons.inj (history.symm.trans waits)
    rw [none'] at here
    exact List.not_mem_nil here

/-- The ids of the nodes of a plan stand in the order of the graph. -/
theorem Plan.keys_ofGraph (runnable : g.Runnable) :
    (ofGraph g).nodes.keys = g.functionalNodes.map Node.id := by
  have keys : Table.keys (g.functionalNodes.map fun n => (n.id, n)) =
      g.functionalNodes.map Node.id := by
    simp [Table.keys, Function.comp_def]
  have distinct : Table.Distinct (g.functionalNodes.map fun n => (n.id, n)) := by
    rw [Table.Distinct, keys]
    exact runnable.nodup
  change Table.keys (Table.ofList _) = _
  rw [Table.ofList_of_distinct distinct, keys]

open Scheduler in
/-- The trace of every result tells the whole lives of the nodes of the first stages, for some
number of stages, which is that of all if the run succeeded. -/
theorem lives_whole {res : RunResult} (valid : g.check.valid = true)
    (run : runFrom (.ofGraph g) exec setup = (.ok res, q)) : ∃ k, res.LivesThrough g q k := by
  have runnable := Graph.runnable_of_valid valid
  have sound := Plan.sound_ofGraph g
  obtain ⟨p, start, reached, -⟩ := start_reached sound exec setup
  obtain ⟨-, -, -, -, -, -, end'⟩ := runFrom_cases runnable exec setup
  rw [run, courseFrom_eq start] at end'
  obtain ⟨kept, failed, succeeded⟩ := end'.ends
  obtain ⟨k, within, leaves, whole⟩ :=
    runStages_leaves setup.payload reached (Plan.layered_ofGraph g) rfl kept
  obtain ⟨later, told, known⟩ :=
    (runStages_edits setup.payload reached (Plan.layered_ofGraph g)).told
  rw [recordPending_told start] at told
  have keys : (Plan.ofGraph g).nodes.map (fun x => (x.1, NodeStatus.pending)) =
      (Plan.ofGraph g).nodes.keys.map fun i => (i, .pending) := by
    rw [Table.keys, List.map_map]
    rfl
  have told' : _ = [] ++ _ ++ later := told
  rw [List.nil_append, keys] at told'
  have lives : ∀ id ∈ (g.staging.stages.take k).flatten,
      res.trace.statuses id ∈ NodeStatus.wholeLives ∨
        (res.trace.statuses id = [.pending, .ready, .running] ∧ q.Lost id ∧
          res.status = .failed) := by
    intro id mem
    rw [end'.statuses id]
    rcases leaves.lives id mem with lived | ⟨lost, stopped⟩
    · exact .inl lived.whole
    · exact .inr ⟨lost.running, end'.lost lost, failed stopped⟩
  refine ⟨k, within, ⟨later, ?_, ?_⟩, lives, ?_, ?_⟩
  · have starts : (g.functionalNodes.map fun n => (n.id, NodeStatus.pending)) =
        (Plan.ofGraph g).nodes.keys.map fun i => (i, .pending) := by
      rw [Plan.keys_ofGraph runnable, List.map_map]
      rfl
    rw [starts, ← told']
    exact end'.told
  · intro x mem
    have known := Plan.mem_keys_ofGraph.mpr (runnable.stages_perm.mem_iff.mp (known x mem))
    exact leaves.later sound.distinct told' mem known
  · intro id mem
    rw [end'.statuses id]
    have all := runnable.stages_perm
    rw [← List.take_append_drop k g.staging.stages, List.flatten_append] at all
    have distinct := all.nodup_iff.mpr (nodup_distinct _)
    refine leaves.waits id ?_ fun touched => ?_
    · exact Plan.mem_keys_ofGraph.mpr (all.mem_iff.mp (List.mem_append_right _ mem))
    · exact (List.nodup_append.mp distinct).2.2 id touched id mem rfl
  · intro status
    have all := whole (succeeded status)
    refine ⟨all, fun n functional => ?_⟩
    have mem : n.id ∈ (g.staging.stages.take k).flatten := by
      rw [all]
      rw [List.take_length]
      exact runnable.stages_perm.mem_iff.mpr (Graph.mem_functionalIds.mpr ⟨n, functional, rfl⟩)
    rcases lives n.id mem with whole' | ⟨-, -, failed⟩
    · exact whole'
    · rw [status] at failed
      cases failed

open Scheduler in
theorem lives_whole_detour :
    ∃ res q, runFrom (.ofGraph detour) (failingTool "false" evenly) plainSetup = (.ok res, q) ∧
      res.status = .succeeded ∧ res.LivesThrough detour q detour.staging.stages.length := by
  have valid : detour.check.valid = true := by decide +kernel
  have status : (runFrom (.ofGraph detour) (failingTool "false" evenly)
      plainSetup).1.toOption.map RunResult.status = some .succeeded := by decide +kernel
  cases run : runFrom (.ofGraph detour) (failingTool "false" evenly) plainSetup with
  | mk result q =>
      rw [run] at status
      cases result with
      | error stop => cases status
      | ok res =>
          have succeeded : res.status = .succeeded := by simpa [Except.toOption] using status
          obtain ⟨k, lives⟩ := lives_whole valid run
          obtain ⟨rfl, -⟩ := lives.whole succeeded
          exact ⟨res, q, rfl, succeeded, lives⟩

end Workflow
