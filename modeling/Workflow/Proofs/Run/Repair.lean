import Workflow.Proofs.Run.Order

/-! Runs in which a failure is repaired. A node that the failure had not blocked stands where it
stood before; so a run that got by with the failure gets by without it as well. -/

namespace Workflow

/-- Two fates of the nodes of a graph that part at one node only: it fails by the first, and
succeeds by the second. -/
structure Graph.Repairs (g : Graph) (fate fate' : String → Standing) (mended : String) : Prop where
  failed : fate mended = .failed
  succeeded : ∃ port, fate' mended = .succeeded port
  others : ∀ id ∈ g.functionalIds, id ≠ mended → fate' id = fate id

namespace Plan

variable {plan : Plan} {g : Graph} {fate fate' σ σ' : String → Standing}
  {done order : List String} {mended : String}

/-- What holds of a node once it holds of the sources of its edges holds of every node. -/
theorem Sorted.forall {P : String → Prop} (sorted : plan.Sorted done order)
    (start : ∀ id ∈ done, P id)
    (step : ∀ id ∈ order, (∀ e ∈ plan.incoming id, P e.source) → P id) :
    ∀ id ∈ done ++ order, P id := by
  induction order generalizing done with
  | nil => simpa using start
  | cons id rest ih =>
      obtain ⟨-, fed, sorted⟩ := sorted
      obtain ⟨first, step⟩ := List.forall_mem_cons.mp step
      have now : P id := first fun e he => start e.source (fed e he)
      rw [List.append_cons]
      refine ih sorted ?_ step
      intro i mem
      rcases List.mem_append.mp mem with old | new
      · exact start i old
      · exact List.mem_singleton.mp new ▸ now

/-- A node that neither is blocked nor is the one that failed. -/
def Unhurt (σ : String → Standing) (mended id : String) : Prop :=
  σ id ≠ .blocked ∧ (σ id = .failed → id ≠ mended)

theorem unhurt_of_sound {id : String} (h : (σ id).isFault = false) : Unhurt σ mended id := by
  constructor
  · intro blocked
    rw [blocked] at h
    cases h
  · intro failed
    rw [failed] at h
    cases h

/-- One node: if the unhurt ones among the sources of its edges stand where they stood before the
repair, it does so as well, unless it was hurt itself. -/
theorem standing_of_sources {id : String} (known : id ∈ g.functionalIds)
    (repairs : g.Repairs fate fate' mended) (consistent : (ofGraph g).Consistent fate σ)
    (consistent' : (ofGraph g).Consistent fate' σ')
    (sources : ∀ e ∈ (ofGraph g).incoming id, Unhurt σ mended e.source → σ' e.source = σ e.source)
    (unhurt : Unhurt σ mended id) : σ' id = σ id := by
  have placed := consistent id (mem_keys_ofGraph.mpr known)
  have placed' := consistent' id (mem_keys_ofGraph.mpr known)
  -- A node without a failure behind its edges is judged as before.
  have judged : (∀ e ∈ (ofGraph g).incoming id, (σ e.source).isFault = false) →
      (ofGraph g).admission σ' id = (ofGraph g).admission σ id := fun sound =>
    admission_congr fun e he => sources e he (unhurt_of_sound (sound e he))
  have sound : (ofGraph g).admission σ id ≠ .pruned → (ofGraph g).admission σ id ≠ .blocked →
      ∀ e ∈ (ofGraph g).incoming id, (σ e.source).isFault = false := by
    intro spared free e he
    rw [← Bool.not_eq_true]
    intro fault
    refine free (admission_eq_blocked_iff.mpr ⟨fun d hd => ?_, e, he, fault⟩)
    rw [← Bool.not_eq_true]
    exact fun pruned => spared (admission_eq_pruned_iff.mpr ⟨d, hd, pruned⟩)
  unfold place at placed placed'
  cases admission : (ofGraph g).admission σ id with
  | executed =>
      have same := judged (sound (by simp [admission]) (by simp [admission]))
      rw [same, admission] at placed'
      rw [admission] at placed
      dsimp only at placed placed'
      have other : id ≠ mended := by
        rintro rfl
        exact unhurt.2 (placed.trans repairs.failed) rfl
      rw [placed', placed, repairs.others id known other]
  | pruned =>
      -- The condition that rules the node out has succeeded, so it decides as before.
      obtain ⟨e, he, pruned⟩ := admission_eq_pruned_iff.mp admission
      obtain ⟨port, selected, condition, unfed⟩ := isPruned_iff.mp pruned
      have kept := sources e he (unhurt_of_sound (by rw [selected]; rfl))
      have pruned' : (ofGraph g).admission σ' id = .pruned :=
        admission_eq_pruned_iff.mpr
          ⟨e, he, isPruned_iff.mpr ⟨port, kept.trans selected, condition, unfed⟩⟩
      rw [admission] at placed
      rw [pruned'] at placed'
      rw [placed', placed]
  | blocked =>
      rw [admission] at placed
      exact absurd placed unhurt.1
  | starved =>
      have same := judged (sound (by simp [admission]) (by simp [admission]))
      rw [admission] at placed
      rw [same, admission] at placed'
      rw [placed', placed]

/-- A node that is not hurt by the failure stands where it stood before the repair. -/
theorem standing_of_repairs (runnable : g.Runnable) (repairs : g.Repairs fate fate' mended)
    (consistent : (ofGraph g).Consistent fate σ) (consistent' : (ofGraph g).Consistent fate' σ')
    {id : String} (known : id ∈ g.functionalIds) (unhurt : Unhurt σ mended id) : σ' id = σ id := by
  have all := (layered_ofGraph g).sorted.forall (P := fun id => Unhurt σ mended id → σ' id = σ id)
    (fun _ mem => absurd mem List.not_mem_nil) fun id mem sources =>
      standing_of_sources (runnable.stages_perm.mem_iff.mp mem) repairs consistent consistent'
        sources
  exact all id (runnable.stages_perm.mem_iff.mpr known) unhurt

end Plan

variable {g : Graph} {exec exec' : Executor} {setup setup' : Setup}
  {fate fate' σ σ' : String → Standing} {mended : String} {done : List String} {p q : Progress}

theorem Fated.status (h : Fated g exec setup σ done p) {id : String} (mem : id ∈ done) :
    ∃ s, p.state.get? id = some s ∧ s.status = (σ id).status := by
  obtain ⟨s, found, status⟩ := h.reached.status (h.reached.within id mem)
  refine ⟨s, found, ?_⟩
  rw [status, h.standing, revealed_of_mem mem]

theorem Fated.skipped_of_blocked (h : Fated g exec setup σ done p) {id : String} (mem : id ∈ done)
    (blocked : σ id = .blocked) :
    p.state.hasStatus id .skipped = true ∧ p.blockedBy.contains id = true := by
  obtain ⟨s, found, status⟩ := h.status mem
  rw [blocked] at status
  refine ⟨RunState.hasStatus_iff.mpr ⟨s, found, status⟩, ?_⟩
  rw [h.reached.marked id mem, h.standing, revealed_of_mem mem, blocked]
  rfl

theorem Reports.fated_of_succeeded {ending : Ending} {r : RunResult}
    (h : Reports g exec setup σ ending r q) (succeeded : r.status = .succeeded) :
    (∃ done, Fated g exec setup σ done q ∧ ∀ id ∈ g.functionalIds, id ∈ done) ∧
      (Plan.ofGraph g).executedOutputs σ ≠ [] := by
  cases h with
  | succeeded fated all found =>
      refine ⟨⟨_, fated, all⟩, fun none' => ?_⟩
      rw [Plan.gather_eq_none_iff.mpr none'] at found
      cases found
  | unreached _ _ _ => cases succeeded
  | failed _ => cases succeeded

/-- A run succeeds that neither blocks an output node nor leaves all of them unexecuted. -/
theorem Reports.succeeded_of_outputs {ending : Ending} {r : RunResult}
    (h : Reports g exec setup σ ending r q) (consistent : (Plan.ofGraph g).Consistent fate σ)
    (unblocked : ¬(Plan.ofGraph g).BlocksOutput σ)
    (executed : (Plan.ofGraph g).executedOutputs σ ≠ []) : r.status = .succeeded := by
  cases h with
  | succeeded _ _ _ => rfl
  | unreached _ _ none' => exact absurd none' executed
  | failed concludes => exact absurd (concludes.blocksOutput consistent) unblocked

theorem Executor.Settles.standing_output (settles : exec.Settles g setup fate)
    (consistent : (Plan.ofGraph g).Consistent fate σ) {id : String}
    (output : (Plan.ofGraph g).isOutput id = true) :
    fate id = .succeeded none ∧
      (σ id = .succeeded none ↔ (Plan.ofGraph g).admission σ id = .executed) := by
  obtain ⟨n, node, kind⟩ := Plan.isOutput_iff.mp output
  obtain ⟨functional, rfl⟩ := Plan.mem_functionalNodes_of_get? node
  have fated := settles.outputs n functional kind
  have placed := consistent n.id (Plan.mem_keys_ofGraph.mpr (known_of_isOutput output))
  refine ⟨fated, ?_⟩
  rw [placed, Plan.place]
  cases (Plan.ofGraph g).admission σ n.id <;> simp [fated]

/-- A failure that blocks no output node hurts none: an output node does not fail by itself. -/
theorem Executor.Settles.unhurt_output (settles : exec.Settles g setup fate)
    (consistent : (Plan.ofGraph g).Consistent fate σ) (failed : fate mended = .failed)
    (unblocked : ¬(Plan.ofGraph g).BlocksOutput σ) {id : String}
    (output : (Plan.ofGraph g).isOutput id = true) : Plan.Unhurt σ mended id := by
  refine ⟨fun blocked => unblocked ⟨id, mem_outputIds.mpr output, blocked⟩, fun _ same => ?_⟩
  have fated := (settles.standing_output consistent output).1
  rw [same, failed] at fated
  cases fated

/-- Where the output nodes keep their places, one that is executed is executed again. -/
theorem executedOutputs_ne_nil_of_kept (settles : exec.Settles g setup fate)
    (settles' : exec'.Settles g setup' fate') (consistent : (Plan.ofGraph g).Consistent fate σ)
    (consistent' : (Plan.ofGraph g).Consistent fate' σ')
    (kept : ∀ {id}, (Plan.ofGraph g).isOutput id = true → σ' id = σ id)
    (executed : (Plan.ofGraph g).executedOutputs σ ≠ []) :
    (Plan.ofGraph g).executedOutputs σ' ≠ [] := by
  obtain ⟨id, mem⟩ := List.exists_mem_of_ne_nil _ executed
  obtain ⟨mem, fit⟩ := List.mem_filter.mp mem
  have output := mem_outputIds.mp mem
  have stands := (settles.standing_output consistent output).2.mpr (of_decide_eq_true fit)
  rw [← kept output] at stands
  have fit' := (settles'.standing_output consistent' output).2.mp stands
  exact List.ne_nil_of_mem (List.mem_filter.mpr ⟨mem, decide_eq_true fit'⟩)

theorem RunState.hasStatus_congr {state state' : RunState} {id : String} {status : NodeStatus}
    (h : (state.get? id).map NodeState.status = (state'.get? id).map NodeState.status) :
    state.hasStatus id status = state'.hasStatus id status := by
  have seen : ∀ state : RunState, state.hasStatus id status =
      ((state.get? id).map NodeState.status).any fun s => s = status := by
    intro state
    rw [Option.any_map]
    rfl
  rw [seen, seen, h]

/-- A node that stands in one place at the end of two runs has the same status in both. -/
theorem Fated.status_congr (h : Fated g exec setup σ done p) {done' : List String}
    (h' : Fated g exec' setup' σ' done' q) {id : String} (mem : id ∈ done) (mem' : id ∈ done')
    (same : σ' id = σ id) :
    (p.state.get? id).map NodeState.status = (q.state.get? id).map NodeState.status := by
  obtain ⟨s, found, status⟩ := h.status mem
  obtain ⟨s', found', status'⟩ := h'.status mem'
  rw [found, found', Option.map_some, Option.map_some, status, status', same]

def mendedOutcome (port : String) (n : Node) : Outcome :=
  if n.kind = .tool then .value (.text "up") else failingOutcome port n

def mendedTool (port : String) (delay : String → Nat) : Executor := fun n _ =>
  ⟨none, delay n.id, none, mendedOutcome port n⟩

/-- What the executions of the nodes of `detour` come to when its tool works again. -/
def mendedFate (port : String) (id : String) : Standing :=
  if id = "risk" then .succeeded none else detourFate port id

theorem mendedTool_settles (delay : String → Nat)
    (within : ∀ n ∈ g.functionalNodes, n ∈ detour.nodes) :
    (mendedTool "false" delay).Settles g plainSetup (mendedFate "false") := by
  refine settles_of_fixed (mendedOutcome "false") delay within ?_ ?_ ?_ ?_ ?_
  · decide +kernel
  · decide +kernel
  · decide +kernel
  · simp only [detour, List.forall_mem_cons, List.not_mem_nil, false_imp_iff, implies_true,
      and_true]
    exact ⟨⟨_, rfl⟩, ⟨_, rfl⟩, ⟨_, rfl⟩, ⟨_, rfl⟩, ⟨_, rfl⟩⟩
  · simp only [detour, List.forall_mem_cons, List.not_mem_nil, false_imp_iff, implies_true,
      and_true]
    exact ⟨⟨⟨_, rfl⟩, rfl⟩, ⟨⟨_, rfl⟩, rfl⟩, ⟨⟨_, rfl⟩, rfl⟩, ⟨⟨_, rfl⟩, rfl⟩, ⟨⟨_, rfl⟩, rfl⟩⟩

end Workflow
