import Mathlib.Order.Bounds.Basic
import Workflow.Proofs.Run.Cut
import Workflow.Proofs.Run.Reordering
import Workflow.Proofs.Run.Reporting

/-! The least set that a failure closes. It is described by the edges of the plan and the statuses
of the conditions, and the search for a doomed failure decides whether it holds an output node,
whatever node of its frontier it takes next and in whatever order it looks at the edges. -/

namespace Workflow

namespace Plan

def Leads (plan : Plan) (source target : String) : Prop :=
  ∃ e ∈ plan.edges, e.source = source ∧ e.target = target

/-- A condition lets a node be: it has failed or is skipped, or it has succeeded and leads into the
node through the port that it selected. -/
def LetsBe (plan : Plan) (state : RunState) (condition target : String) : Prop :=
  state.hasStatus condition .failed = true ∨ state.hasStatus condition .skipped = true ∨
    ∃ s, state.get? condition = some s ∧ s.status = .succeeded ∧
      ∃ e ∈ plan.edges, e.source = condition ∧ e.target = target ∧
        e.sourcePort = s.selectedPort?

/-- A set holds a failed node, and every node behind one of its own all of whose conditions are in
the set or let it be. -/
structure Closed (plan : Plan) (state : RunState) (failed : String) (S : Set String) : Prop where
  start : failed ∈ S
  next : ∀ {source target : String}, plan.Leads source target → source ∈ S →
    (∀ condition, plan.isCondition condition = true → plan.Leads condition target →
      condition ∈ S ∨ plan.LetsBe state condition target) →
    target ∈ S

variable {plan : Plan} {p : Progress} {failed : String}

/-- A condition lets a node be where none of its edges may spare the node. -/
theorem letsBe_iff {d : Edge} (edge : d ∈ plan.edges) (condition : plan.isCondition d.source = true)
    (tells : plan.Tells p) :
    plan.LetsBe p.state d.source d.target ↔ plan.spares p.standing d = false := by
  obtain ⟨s, found⟩ := tells d edge
  have status : ∀ status, p.state.hasStatus d.source status = true ↔ s.status = status := by
    intro status
    rw [RunState.hasStatus_iff, found]
    exact ⟨fun ⟨_, same, h⟩ => Option.some.inj same ▸ h, fun h => ⟨s, rfl, h⟩⟩
  have feeds : (∃ e ∈ plan.edges, e.source = d.source ∧ e.target = d.target ∧
      e.sourcePort = s.selectedPort?) ↔
      plan.feeds d.source d.target s.selectedPort? = true := by
    rw [Plan.feeds_iff]
  simp only [LetsBe, status, found, Option.some.injEq, exists_eq_left', feeds]
  simp only [Plan.spares, condition, Bool.true_and, Plan.isPruned, Progress.standing, found]
  cases s.status with
  | skipped => by_cases marked : p.blockedBy.contains d.source = true <;> simp [marked]
  | _ => simp

/-- What a failure drags along is the least set that it closes. -/
theorem drags_isLeast (tells : plan.Tells p) :
    IsLeast {S | plan.Closed p.state failed S} {id | plan.Drags p.standing failed id} := by
  refine ⟨⟨.self, ?_⟩, fun S closed id drags => ?_⟩
  · rintro source target ⟨e, edge, rfl, rfl⟩ before certain
    refine .next edge before fun d hd spares => ?_
    obtain ⟨edge', target⟩ := Plan.mem_incoming.mp hd
    have condition : plan.isCondition d.source = true := (Bool.and_eq_true_iff.mp spares).1
    refine (certain d.source condition ⟨d, edge', rfl, target⟩).resolve_right fun free => ?_
    rw [← target, letsBe_iff edge' condition tells, spares] at free
    cases free
  · induction drags with
    | self => exact closed.start
    | @next e edge _ _ source certain =>
        refine closed.next ⟨e, edge, rfl, rfl⟩ source fun c condition leads => ?_
        obtain ⟨d, edge', rfl, target⟩ := leads
        cases spares : plan.spares p.standing d with
        | true => exact .inl (certain d (Plan.mem_incoming.mpr ⟨edge', target⟩) spares)
        | false => exact .inr (target ▸ (letsBe_iff edge' condition tells).mpr spares)

end Plan

namespace Scheduler

variable {g : Graph} {plan : Plan} {exec : Executor} {payload : Value} {done stage : List String}
  {before after : List (List String)} {p q : Progress} {failed : String}

/-- A node that has failed where a run has come to has done so by its execution. -/
theorem failed_of_reached (h : Reached plan exec done p)
    (ended : p.state.hasStatus failed .failed = true) :
    ∃ n inputs, plan.nodes.get? failed = some n ∧ (exec n inputs).outcome.standing = .failed := by
  have standing := Progress.standing_eq_failed_iff.mpr (RunState.hasStatus_iff.mp ended)
  have placed := h.placed failed (h.mem_done (by rw [standing]; exact Standing.noConfusion))
  unfold Progress.Placed at placed
  split at placed
  · obtain ⟨n, inputs, node, shown⟩ := placed
    exact ⟨n, inputs, node, shown.standing.symm.trans standing⟩
  all_goals
    rw [standing] at placed
    cases placed

/-- So has one that has failed once a stage was run, however the stage ended. -/
theorem failed_after_stage {result : Except Stop Unit} (h : Reached plan exec done p)
    (follows : plan.Follows done stage)
    (ran : (runStage plan exec payload stage).on p = (result, q))
    (kept : ∀ message, result ≠ .error (.cancelled message))
    (ended : q.state.hasStatus failed .failed = true) :
    ∃ n inputs, plan.nodes.get? failed = some n ∧ (exec n inputs).outcome.standing = .failed := by
  have run := runStage_run payload h follows
  rw [ran] at run
  generalize step : (result, q) = last at run
  cases run with
  | blocked _ _ _ _ =>
      obtain ⟨-, rfl⟩ := Prod.mk.inj step
      exact failed_of_reached h ended
  | @opened _ _ executions r opens =>
      have end' := opens.concluded step.symm kept
      by_cases mem : failed ∈ executions.map Prod.fst
      · obtain ⟨x, among, rfl⟩ := List.mem_map.mp mem
        obtain ⟨n, inputs, node, -, made⟩ := opens.opened.made x among
        have standing := Progress.standing_eq_failed_iff.mpr (RunState.hasStatus_iff.mp ended)
        exact ⟨n, inputs, node, made ▸ (end'.shown x among).standing.symm.trans standing⟩
      · have same := end'.others failed mem
        by_cases now : failed ∈ stage
        · have unfit := fun fit => mem (opens.opened.chosen.mpr ⟨now, fit⟩)
          obtain ⟨-, s, found, skipped⟩ := (opens.opened.skipped failed now unfit).congr same
          obtain ⟨t, found', status⟩ := RunState.hasStatus_iff.mp ended
          cases found.symm.trans found'
          rw [skipped] at status
          cases status
        · refine failed_of_reached h ?_
          rwa [RunState.hasStatus_iff, same.trans (opens.opened.moved.others failed now),
            ← RunState.hasStatus_iff] at ended

theorem failed_after_stages {stages : List (List String)}
    {result : Except Stop (Option (Option String))} (h : Reached plan exec done p)
    (layered : plan.Layered done stages)
    (ran : (runStages plan exec payload stages).on p = (result, q))
    (kept : ∀ message, result ≠ .error (.cancelled message))
    (ended : q.state.hasStatus failed .failed = true) :
    ∃ n inputs, plan.nodes.get? failed = some n ∧ (exec n inputs).outcome.standing = .failed := by
  rcases runStages_ends payload h layered ran with
    ⟨_, _, -, reached⟩ | ⟨stop, _, _, t, rfl, reached, follows, step⟩
  · exact failed_of_reached reached ended
  · refine failed_after_stage reached follows step ?_ ended
    rintro message same
    exact kept message (congrArg Except.error (Except.error.inj same))

theorem executor_output_ne_failed (caps : Capabilities) {n : Node} (kind : n.kind = .output)
    (inputs : Inputs) : (caps.executor n inputs).outcome.standing ≠ .failed := by
  obtain ⟨v, outcome⟩ : ∃ v, (n.execute inputs caps).outcome = .value v := Node.execute_output kind
  rw [Capabilities.executor, outcome]
  exact Standing.noConfusion

/-- In a run of some stages all edges know where their sources stand. -/
theorem courseThrough_tells (g : Graph) (exec : Executor) (setup : Setup)
    {stages : List (List String)} (layered : (Plan.ofGraph g).Layered [] stages)
    {result : Except Stop (Option (Option String))}
    (ran : courseThrough (.ofGraph g) exec setup stages = (result, q)) :
    (Plan.ofGraph g).Tells q := by
  have sound := Plan.sound_ofGraph g
  obtain ⟨p, start, reached, edits⟩ := start_edits g exec setup
  rw [courseThrough, RunM.on_bind_ok start] at ran
  have later := runStages_edits setup.payload reached layered
  rw [ran] at later
  have keyed := later.keyed (edits.keyed (Progress.start_keyed sound.distinct setup))
  exact fun e edge => keyed.states e.source (sound.joined e edge).1

/-- The search comes to the same answer with the edges in another order. -/
theorem isDoomed_reordered (sound : plan.Sound) (tells : plan.Tells q)
    (known : failed ∈ plan.nodes.keys) {edges : List Edge} (perm : edges.Perm plan.edges) :
    isDoomed { plan with edges } q failed = isDoomed plan q failed := by
  have alike : ({ plan with edges } : Plan).Alike plan := ⟨fun _ => rfl, fun _ => perm.mem_iff⟩
  have sound' : ({ plan with edges } : Plan).Sound :=
    ⟨sound.distinct, sound.named, fun e edge => sound.joined e (perm.mem_iff.mp edge)⟩
  have tells' : ({ plan with edges } : Plan).Tells q := fun e edge =>
    tells e (perm.mem_iff.mp edge)
  rw [Bool.eq_iff_iff, isDoomed_iff sound' tells' known, isDoomed_iff sound tells known,
    alike.doomed]

/-- After every stage of a run, however the stage ends, a failure of one of its nodes is doomed just
when the least set that the failure closes holds an output node. Every search comes to that answer,
in no more rounds than there are nodes, and so it does with the edges in another order. Output nodes
do not fail, whatever the capabilities are, by `executor_output_ne_failed`. -/
theorem isDoomed_isLeast (valid : g.check.valid = true) (exec : Executor) (setup : Setup)
    (outputs : ∀ n ∈ g.functionalNodes, n.kind = .output → ∀ inputs : Inputs,
      (exec n inputs).outcome.standing ≠ .failed)
    (staged : g.staging.stages = before ++ stage :: after)
    {result : Except Stop (Option (Option String))}
    (ran : courseThrough (.ofGraph g) exec setup (before ++ [stage]) = (result, q))
    (kept : ∀ message, result ≠ .error (.cancelled message)) (now : failed ∈ stage)
    (ended : q.state.hasStatus failed .failed = true) :
    (∃ R, IsLeast {S | (Plan.ofGraph g).Closed q.state failed S} R ∧
      (isDoomed (.ofGraph g) q failed = true ↔ ∃ id ∈ R, (Plan.ofGraph g).isOutput id = true)) ∧
    (∀ rounds reached frontier, Searched (.ofGraph g) q failed rounds reached frontier →
      rounds ≤ g.functionalNodes.length) ∧
    (∀ answer, Answers (.ofGraph g) q failed answer ↔ answer = isDoomed (.ofGraph g) q failed) ∧
    ∀ edges, edges.Perm (Plan.ofGraph g).edges →
      isDoomed { Plan.ofGraph g with edges } q failed = isDoomed (.ofGraph g) q failed := by
  have sound := Plan.sound_ofGraph g
  have layered := Plan.layered_ofGraph g
  rw [staged, List.append_cons] at layered
  have layered := layered.append.1
  have known := layered.known failed (by simp [now])
  have tells := courseThrough_tells g exec setup layered ran
  have doomed := isDoomed_iff sound tells known
  obtain ⟨p, start, reached, -⟩ := start_edits g exec setup
  rw [courseThrough, RunM.on_bind_ok start] at ran
  obtain ⟨n, inputs, node, standing⟩ := failed_after_stages reached layered ran kept ended
  have inner : (Plan.ofGraph g).isOutput failed = false := by
    rw [← Bool.not_eq_true, Plan.isOutput_iff]
    rintro ⟨m, node', kind⟩
    cases node.symm.trans node'
    exact outputs n (Plan.mem_functionalNodes_of_get? node).1 kind inputs standing
  refine ⟨⟨_, Plan.drags_isLeast tells, doomed.trans ?_⟩, ?_, fun answer => ⟨fun found => ?_, ?_⟩,
    fun _ perm => isDoomed_reordered sound tells known perm⟩
  · refine exists_congr fun id => ?_
    constructor
    · rintro ⟨-, output, drags⟩
      exact ⟨drags, output⟩
    · rintro ⟨drags, output⟩
      refine ⟨?_, output, drags⟩
      rintro rfl
      rw [inner] at output
      cases output
  · intro rounds reached frontier searched
    have keys := congrArg List.length (Plan.keys_ofGraph (Graph.runnable_of_valid valid))
    rw [List.length_map] at keys
    exact keys ▸ searched.bounded sound tells known
  · rw [Bool.eq_iff_iff, found.iff sound tells known, doomed]
  · rintro rfl
    exact isDoomed_answers sound tells known

/-- A graph in which the search first passes over the output node, and comes back to it once it has
reached the condition that might spare it. -/
def retreat : Graph where
  id := none
  name := none
  nodes :=
    [⟨"in", none, [], .input ⟨none, []⟩⟩,
     ⟨"risk", none, [], .tool ⟨"server", "tool", []⟩⟩,
     ⟨"choice", none, [], .condition ⟨⟨"true", [], .all⟩, [], "false"⟩⟩,
     ⟨"aside", none, [], .template ⟨""⟩⟩,
     ⟨"out", none, [], .output ⟨[]⟩⟩]
  edges :=
    [⟨"in", "risk", none, none, none⟩, ⟨"risk", "out", none, none, none⟩,
     ⟨"risk", "choice", none, none, none⟩, ⟨"choice", "out", some "true", none, none⟩,
     ⟨"choice", "aside", some "false", none, none⟩, ⟨"aside", "out", none, none, none⟩]
  metadata := []

def failedAt? {α : Type} : Except Stop α → Option String
  | .error (.failed id _) => id
  | _ => none

/-- The failure of the tool is doomed, though its condition has yet to decide. -/
theorem isDoomed_isLeast_retreat :
    ∃ cause q, courseThrough (.ofGraph retreat) Capabilities.none.executor plainSetup
        [["in"], ["risk"]] = (.error (.failed (some "risk") cause), q) ∧
      isDoomed (.ofGraph retreat) q "risk" = true ∧
      ∃ R, IsLeast {S | (Plan.ofGraph retreat).Closed q.state "risk" S} R ∧
        ∃ id ∈ R, (Plan.ofGraph retreat).isOutput id = true := by
  have valid : retreat.check.valid = true := by decide +kernel
  have staged : retreat.staging.stages =
      [["in"]] ++ ["risk"] :: [["choice"], ["aside"], ["out"]] := by decide +kernel
  have stopped : failedAt? (courseThrough (.ofGraph retreat) Capabilities.none.executor plainSetup
      [["in"], ["risk"]]).1 = some "risk" := by decide +kernel
  have failed : (courseThrough (.ofGraph retreat) Capabilities.none.executor plainSetup
      [["in"], ["risk"]]).2.state.hasStatus "risk" .failed = true := by decide +kernel
  have doomed : isDoomed (.ofGraph retreat) (courseThrough (.ofGraph retreat)
      Capabilities.none.executor plainSetup [["in"], ["risk"]]).2 "risk" = true := by decide +kernel
  cases ran : courseThrough (.ofGraph retreat) Capabilities.none.executor plainSetup
      [["in"], ["risk"]] with
  | mk result q =>
      rw [ran] at stopped failed doomed
      cases result with
      | ok _ => cases stopped
      | error stop =>
          cases stop with
          | failed id cause =>
              obtain rfl : id = some "risk" := stopped
              have decided := isDoomed_isLeast valid _ plainSetup
                (fun _ _ kind => executor_output_ne_failed .none kind) staged ran
                (fun message => by simp) (List.mem_singleton_self "risk") failed
              obtain ⟨R, least, decides⟩ := decided.1
              exact ⟨cause, q, rfl, doomed, R, least, decides.mp doomed⟩
          | _ => cases stopped

end Scheduler

end Workflow
