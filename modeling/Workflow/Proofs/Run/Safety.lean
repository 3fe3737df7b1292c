import Workflow.Proofs.Graph.Way
import Workflow.Proofs.Run.Absorption
import Workflow.Proofs.Run.Passage

/-! The stops that tell of an error of the scheduler itself never come up: no node is moved where it
may not go, nothing is looked up in vain, and no edge is read before its source has ended. The graph
need not be valid for that; it is enough that it has no cycle. -/

namespace Workflow

/-- A stop that tells of an error of the scheduler: a move that a node may not make, something that
is not to be found, or an edge whose source has not ended. -/
def Stop.isInternal : Stop → Bool
  | .transition _ | .unknownNode _ | .unsettledEdge _ _ => true
  | _ => false

namespace Scheduler

/-- An outcome is recorded after those in front of it. The stop that it may come to is not kept
back; that a run does the same, and keeps it back, is `consume_split`. -/
def recordNext (plan : Plan) (order : List (String × Execution)) (n : Nat) : RunM Unit := do
  let _ ← consume plan (order.take n)
  match order[n]? with
  | none => return ()
  | some (id, execution) =>
    modify fun p => p.heard execution
    complete plan id execution.outcome

def recordIn (plan : Plan) (exec : Executor) (payload : Value) (stage : List String) (n : Nat) :
    RunM Unit := do
  let verdicts ← judgeAll plan stage
  let admitted ← admitAll plan payload verdicts
  startAll plan admitted
  let executions ← executeAll plan exec admitted
  recordNext plan (completionOrder executions) n

def recordAt (plan : Plan) (exec : Executor) (payload : Value) (k n : Nat) : RunM Unit := do
  recordPending plan.nodes
  match ← runStages plan exec payload (plan.graph.staging.stages.take k) with
  | some _ => return ()
  | none => recordIn plan exec payload (plan.graph.staging.stages.getD k []) n

variable {plan : Plan} {exec : Executor} {payload : Value} {done stage : List String}
  {p q : Progress}

/-- A run makes of an outcome what `recordNext` makes of it, and keeps its stop back. -/
theorem consume_split (first rest : List (String × Execution)) (x : String × Execution)
    (p : Progress) :
    (consume plan (first ++ x :: rest)).on p =
      (do
        let before ← consume plan first
        modify fun p => p.heard x.2
        let now ← recording (complete plan x.1 x.2.outcome)
        let others ← consume plan rest
        return before.or ((now.map (x.1, ·)).or others) : RunM _).on p := by
  induction first generalizing p with
  | nil =>
      change (consume plan (x :: rest)).on p = _
      rw [consume_heard]
      simp only [consume, pure_bind, Option.none_or]
      rfl
  | cons y first ih =>
      change (consume plan (y :: (first ++ x :: rest))).on p = _
      rw [consume_heard, RunM.on_bind, RunM.on_bind, consume_heard, RunM.on_bind]
      cases (recording (complete plan y.1 y.2.outcome)).on (p.heard y.2) with
      | mk result q =>
          cases result with
          | error stop => rfl
          | ok trouble =>
              dsimp only
              rw [RunM.on_bind, ih, RunM.on_bind, RunM.on_bind]
              cases (consume plan first).on q with
              | mk result r =>
                  cases result with
                  | error stop => rfl
                  | ok before =>
                      dsimp only
                      simp only [RunM.on_bind, RunM.on_pure, RunM.on_modify]
                      cases (recording (complete plan x.1 x.2.outcome)).on (r.heard x.2) with
                      | mk result s =>
                          cases result with
                          | error stop => rfl
                          | ok now =>
                              dsimp only
                              cases (consume plan rest).on s with
                              | mk result t =>
                                  cases result with
                                  | error stop => rfl
                                  | ok others => simp only [Option.or_assoc]

theorem not_mem_take {order : List (String × Execution)} {x : String × Execution} {n : Nat}
    (nodup : (order.map Prod.fst).Nodup) (next : order[n]? = some x) :
    x.1 ∉ (order.take n).map Prod.fst := by
  intro mem
  rw [← List.take_append_drop n order, List.map_append] at nodup
  have behind : x ∈ order.drop n := List.mem_of_getElem? (i := 0) (by simpa using next)
  exact (List.nodup_append.mp nodup).2.2 x.1 mem x.1 (List.mem_map_of_mem behind) rfl

/-- The consumption of some outcomes leaves the other nodes, and the trace open. -/
theorem consume_keeps {order : List (String × Execution)} (made : ∀ x ∈ order, Made plan exec x)
    (unsealed : p.trace.sealedTrace = none)
    {result : Except Stop (Option (String × Stop))}
    (ran : (consume plan order).on p = (result, q)) :
    q.trace.sealedTrace = none ∧
      ∀ id ∉ order.map Prod.fst, q.state.get? id = p.state.get? id := by
  have edits : p.Edits plan exec (fun id _ => id ∈ order.map Prod.fst)
      ((consume plan order).on p).2 :=
    consume_edits made fun x mem => ⟨List.mem_map_of_mem mem, List.mem_map_of_mem mem⟩
  rw [ran] at edits
  exact ⟨edits.unsealed unsealed, fun id apart => edits.others fun _ => apart⟩

/-- An outcome is recorded at a running node, whatever became of the outcomes in front of it. -/
theorem recordNext_stop {order : List (String × Execution)} (nodup : (order.map Prod.fst).Nodup)
    (unsealed : p.trace.sealedTrace = none) (made : ∀ x ∈ order, Made plan exec x)
    (running : ∀ x ∈ order, p.Has plan .running x.1 ∧ p.state.output x.1 = .null) (n : Nat)
    {stop : Stop} (stopped : (recordNext plan order n).on p = (.error stop, q)) :
    stop.isInternal = false := by
  have front : ∀ x ∈ order.take n, x ∈ order := fun x mem => List.mem_of_mem_take mem
  have consumed : Consumed p (order.take n) ((consume plan (order.take n)).on p) :=
    consume_cases (nodup.sublist ((List.take_sublist n order).map Prod.fst)) unsealed
      fun x mem => running x (front x mem)
  unfold recordNext at stopped
  rw [RunM.on_bind] at stopped
  cases ran : (consume plan (order.take n)).on p with
  | mk result r =>
      rw [ran] at consumed stopped
      cases result with
      | error stop =>
          cases consumed with
          | cancelled _ _ =>
              cases stopped
              rfl
      | ok trouble =>
          dsimp only at stopped
          cases next : order[n]? with
          | none =>
              rw [next] at stopped
              cases stopped
          | some x =>
              -- The node of this outcome is none of those in front, so it is as it was.
              obtain ⟨unsealed', others⟩ :=
                consume_keeps (fun x mem => made x (front x mem)) unsealed ran
              have same := others x.1 (not_mem_take nodup next)
              obtain ⟨has, blank⟩ := running x (List.mem_of_getElem? next)
              have blank' : (r.heard x.2).state.output x.1 = .null := by
                rw [← blank]
                unfold RunState.output Progress.heard
                rw [same]
              have completed := complete_cases (p := r.heard x.2) (has.congr same) unsealed' blank'
                x.2.outcome
              rw [next] at stopped
              dsimp only at stopped
              rw [RunM.on_bind, RunM.on_modify] at stopped
              dsimp only at stopped
              rw [stopped] at completed
              cases completed <;> rfl

theorem recordIn_stop (payload : Value) (h : Reached plan exec done p)
    (follows : plan.Follows done stage) (n : Nat) {stop : Stop}
    (stopped : (recordIn plan exec payload stage n).on p = (.error stop, q)) :
    stop.isInternal = false := by
  have judged := judgeAll_on h follows
  unfold recordIn at stopped
  rw [RunM.on_bind] at stopped
  generalize (judgeAll plan stage).on p = result at judged stopped
  cases judged with
  | failed _ _ _ _ =>
      cases stopped
      rfl
  | judged _ marked =>
      obtain ⟨admitted, executions, r, s, t, enter, -, start, execute, opened⟩ :=
        open_stage exec payload h follows fun i new => by
          rw [marked, if_neg fun now => new now.1]
      replace opened := opened.perm (completionOrder_perm executions)
      dsimp only at stopped
      rw [RunM.on_bind_ok enter, RunM.on_bind_ok start, RunM.on_bind_ok execute] at stopped
      have made : ∀ x ∈ completionOrder executions, Made plan exec x := by
        intro x mem
        obtain ⟨m, inputs, node, -, same⟩ := opened.made x mem
        exact ⟨m, inputs, node, same⟩
      refine recordNext_stop opened.nodup opened.moved.unsealed made (fun x mem => ?_) n stopped
      exact ⟨opened.running x mem, opened.blank x.1 (opened.chosen.mp (List.mem_map_of_mem mem)).1⟩

theorem recordNext_edits {order : List (String × Execution)} {may : String → NodeStatus → Prop}
    (made : ∀ x ∈ order, Made plan exec x)
    (allowed : ∀ x ∈ order, may x.1 .succeeded ∧ may x.1 .failed) (n : Nat) :
    p.Edits plan exec may ((recordNext plan order n).on p).2 := by
  refine .bind (consume_edits (fun x mem => made x (List.mem_of_mem_take mem))
    fun x mem => allowed x (List.mem_of_mem_take mem)) fun _ q _ => ?_
  cases next : order[n]? with
  | none => exact .refl
  | some x =>
      have mem := List.mem_of_getElem? next
      rw [RunM.on_bind, RunM.on_modify]
      exact (heard_edits x.2).trans (complete_edits (made x mem) (allowed x mem))

theorem recordIn_edits (payload : Value) (h : Reached plan exec done p)
    (follows : plan.Follows done stage) (n : Nat) :
    p.Edits plan exec (fun _ _ => True) ((recordIn plan exec payload stage n).on p).2 := by
  refine .bind (judgeAll_edits stage) fun verdicts q ran => ?_
  have judged := judgeAll_verdicts h follows ran
  refine .bind (admitAll_edits (fun x mem => follows.known x.1 (judged x mem).1)
    fun _ _ _ => trivial) fun admitted r enter => ?_
  have known : ∀ x ∈ admitted, x.1 ∈ plan.nodes.keys := fun x mem =>
    follows.known x.1 (judged _ (admitAll_ready enter x mem)).1
  refine .bind (startAll_edits known fun _ _ => trivial) fun _ s _ => ?_
  refine .bind (executeAll_edits known fun _ _ => trivial) fun executions t execute => ?_
  exact recordNext_edits (fun x mem => (executeAll_made known execute x (mem_ranked.mp mem)).1)
    (fun _ _ => ⟨trivial, trivial⟩) n

variable {g : Graph}

/-- The first stages of a graph may be run by themselves, and then the one behind them. -/
theorem layered_take (g : Graph) (k : Nat) :
    (Plan.ofGraph g).Layered [] ((Plan.ofGraph g).graph.staging.stages.take k) ∧
      (Plan.ofGraph g).Follows ([] ++ ((Plan.ofGraph g).graph.staging.stages.take k).flatten)
        ((Plan.ofGraph g).graph.staging.stages.getD k []) :=
  (Plan.layered_ofGraph g).take k

theorem recordAt_stop (exec : Executor) (setup : Setup) (k n : Nat) {stop : Stop}
    (stopped : (recordAt (.ofGraph g) exec setup.payload k n).on (.start (.ofGraph g) setup) =
      (.error stop, q)) : stop.isInternal = false := by
  obtain ⟨p, run, reached, -⟩ := start_edits g exec setup
  obtain ⟨layered, follows⟩ := layered_take g k
  have course := runStages_course setup.payload reached layered
  unfold recordAt at stopped
  rw [RunM.on_bind_ok run, RunM.on_bind] at stopped
  generalize (runStages _ _ _ ((Plan.ofGraph g).graph.staging.stages.take k)).on p = result
    at course stopped
  obtain ⟨result, r⟩ := result
  cases result with
  | error stop' =>
      cases stopped
      rcases course.stop_cases with ⟨message, rfl⟩ | ⟨id, cause, rfl, -⟩
      · rfl
      · rfl
  | ok reason =>
      cases reason with
      | some reason => cases stopped
      | none => exact recordIn_stop setup.payload course.reached follows n stopped

theorem recordAt_edits (exec : Executor) (setup : Setup) (k n : Nat) :
    (Progress.start (.ofGraph g) setup).Edits (.ofGraph g) exec (fun _ _ => True)
      ((recordAt (.ofGraph g) exec setup.payload k n).on (.start (.ofGraph g) setup)).2 := by
  obtain ⟨p, run, reached, edits⟩ := start_edits g exec setup
  obtain ⟨layered, follows⟩ := layered_take g k
  have course := runStages_course setup.payload reached layered
  unfold recordAt
  rw [RunM.on_bind_ok run]
  refine (edits.mono fun _ _ _ => trivial).trans
    (Progress.Edits.bind ?_ fun reason q ran => ?_)
  · exact (runStages_edits setup.payload reached layered).mono fun _ _ _ => trivial
  · rw [ran] at course
    cases reason with
    | some reason => exact .refl
    | none => exact recordIn_edits setup.payload course.reached follows n

theorem RunEnd.stop {ended : Except Stop (Option (Option String)) × Progress} {stop : Stop}
    (h : RunEnd plan ended (.error stop, q)) : stop.isInternal = false := by
  cases h <;> rfl

theorem RunEnd.keyed {ended : Except Stop (Option (Option String)) × Progress}
    {result : Except Stop RunResult × Progress} (h : RunEnd plan ended result)
    (keyed : ended.2.Keyed plan) : result.2.Keyed plan := by
  refine h.carries (I := fun q => q.Keyed plan) (fun _ keyed => ?_) keyed
  exact ⟨keyed.states, keyed.completed, keyed.blamed, keyed.caused⟩

/-- In a graph without a cycle, valid or not, the scheduler never trips over its own records. A run
does not stop since a node may not move, since something is not to be found, or since an edge is
read before its source has ended; nor does any stop of that kind come up while an outcome is
recorded, where a run keeps it back. At every outcome and at the end, all that a run looks up is
there, as are the ends of edges and the nodes of stages in the tables of its plan. -/
theorem no_internal_stop (acyclic : g.Acyclic) (exec : Executor) (setup : Setup) :
    (∀ stop q, runFrom (.ofGraph g) exec setup = (.error stop, q) → stop.isInternal = false) ∧
      (∀ k n stop q, (recordAt (.ofGraph g) exec setup.payload k n).on
        (.start (.ofGraph g) setup) = (.error stop, q) → stop.isInternal = false) ∧
      (runFrom (.ofGraph g) exec setup).2.Keyed (.ofGraph g) ∧
      (∀ k n, ((recordAt (.ofGraph g) exec setup.payload k n).on
        (.start (.ofGraph g) setup)).2.Keyed (.ofGraph g)) ∧
      (∀ e ∈ (Plan.ofGraph g).edges,
        e.source ∈ (Plan.ofGraph g).nodes.keys ∧ e.target ∈ (Plan.ofGraph g).nodes.keys) ∧
      ∀ stage ∈ g.staging.stages, ∀ id ∈ stage, id ∈ (Plan.ofGraph g).nodes.keys := by
  obtain ⟨p, -, -, -, -, -, end'⟩ := runFrom_cases_of_staged acyclic.staging_held exec setup
  have sound := Plan.sound_ofGraph g
  have keyed := Progress.start_keyed sound.distinct setup
  refine ⟨?_, ?_, ?_, ?_, sound.joined, ?_⟩
  · intro stop q stopped
    rw [stopped] at end'
    exact end'.stop
  · exact fun k n stop q stopped => recordAt_stop exec setup k n stopped
  · exact end'.keyed ((courseFrom_edits g exec setup).keyed keyed)
  · exact fun k n => (recordAt_edits exec setup k n).keyed keyed
  · intro stage mem id here
    have all := (Graph.staging_perm g).mem_iff.mp
      (List.mem_append_left _ (List.mem_flatten.mpr ⟨stage, mem, here⟩))
    exact Plan.mem_keys_ofGraph.mpr all

/-- A graph without a cycle and with many flaws: two nodes share an id, an edge leads nowhere and
another comes from nowhere, a condition is left through a port that it does not have, and an edge
leaves an output node. -/
def frayed : Graph where
  id := none
  name := none
  nodes :=
    [⟨"in", none, [], .input ⟨none, []⟩⟩,
     ⟨"choice", none, [], .condition ⟨⟨"true", [], .all⟩, [], "false"⟩⟩,
     ⟨"work", none, [], .template ⟨""⟩⟩,
     ⟨"work", none, [], .tool ⟨"server", "tool", []⟩⟩,
     ⟨"out", none, [], .output ⟨[]⟩⟩,
     ⟨"late", none, [], .template ⟨""⟩⟩]
  edges :=
    [⟨"in", "choice", none, none, none⟩, ⟨"choice", "work", some "maybe", none, none⟩,
     ⟨"in", "work", none, none, none⟩, ⟨"work", "out", none, none, none⟩,
     ⟨"work", "nowhere", none, none, none⟩, ⟨"nowhere", "out", none, none, none⟩,
     ⟨"out", "late", none, none, none⟩]
  metadata := []

theorem no_internal_stop_frayed :
    frayed.check.valid = false ∧
      ∀ k n, ((recordAt (.ofGraph frayed) (failingTool "true" evenly) .null k n).on
        (.start (.ofGraph frayed) plainSetup)).2.Keyed (.ofGraph frayed) := by
  have acyclic : frayed.Acyclic := by
    refine Graph.acyclic_of_rank ["in", "choice", "work", "out", "late"].idxOf ?_
    decide +kernel
  obtain ⟨-, -, -, keyed, -, -⟩ := no_internal_stop acyclic (failingTool "true" evenly) plainSetup
  exact ⟨by decide +kernel, keyed⟩

end Scheduler

end Workflow
