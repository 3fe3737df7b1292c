import Workflow.Proofs.Run.Reference
import Workflow.Proofs.Run.Reordering

/-! The verdict of a run does not depend on the order of nodes and edges in its graph, nor on the
order in which the tasks of a stage complete. -/

namespace Workflow

def Value.SameMapping (v w : Value) : Prop :=
  v = w ∨ ∃ ms ms' : Table Value, v = .object ms ∧ w = .object ms' ∧
    ∀ key, ms.get? key = ms'.get? key

def Executor.Yields (exec : Executor) (g : Graph) (setup : Setup) (value : String → Value) : Prop :=
  ∀ n ∈ g.functionalNodes, n.kind = .output → ∀ inputs : Inputs,
    inputs.Arises g exec setup.payload → (exec n inputs).outcome = .value (value n.id)

def Standing.life : Standing → List NodeStatus
  | waiting => NodeStatus.pending.life
  | succeeded _ => NodeStatus.succeeded.life
  | failed => NodeStatus.failed.life
  | skipped | blocked => NodeStatus.skipped.life

def Ending.standing (σ : String → Standing) : Ending → String → Standing
  | completed => σ
  | blocked done _ => revealed σ done
  | doomed done stage => revealed σ (done ++ stage)

theorem Plan.gather_sameMapping {value value' : String → Value} {ids ids' : List String}
    {v w : Value} (perm : ids.Perm ids') (nodup : ids.Nodup)
    (same : ∀ id ∈ ids, value id = value' id) (h : gather value ids = some v)
    (h' : gather value' ids' = some w) : v.SameMapping w := by
  match ids, ids', perm.length_eq with
  | [], _, _ => cases h
  | [id], [id'], _ =>
      obtain rfl : id = id' := List.mem_singleton.mp (perm.mem_iff.mp (List.mem_singleton_self id))
      cases h
      cases h'
      exact .inl (same id List.mem_cons_self)
  | id :: other :: rest, id' :: other' :: rest', _ =>
      cases h
      cases h'
      refine .inr ⟨_, _, rfl, rfl, fun key => ?_⟩
      rw [Table.get?_map, Table.get?_map]
      by_cases mem : key ∈ id :: other :: rest
      · rw [if_pos mem, if_pos (perm.mem_iff.mp mem), same key mem]
      · rw [if_neg mem, if_neg fun mem' => mem (perm.mem_iff.mpr mem')]

variable {g g' : Graph} {exec exec' : Executor} {setup setup' : Setup}
  {fate σ : String → Standing} {value : String → Value} {done : List String} {p q q' : Progress}

theorem Standing.life_eq (s : Standing) : s.life = s.status.life := by
  cases s <;> rfl

theorem Fated.history (h : Fated g exec setup σ done p) (id : String) :
    p.trace.history id = if id ∈ g.functionalIds then (revealed σ done id).life else [] := by
  rw [h.reached.history, h.standing, Standing.life_eq]
  simp only [Plan.mem_keys_ofGraph]

theorem Concludes.history {ending : Ending} {result : Except Stop (Option (Option String))}
    (h : Concludes g exec setup σ ending (result, q)) (id : String) :
    q.trace.history id =
      if id ∈ g.functionalIds then (ending.standing σ id).life else [] := by
  generalize whole : ((result, q) : Except Stop (Option (Option String)) × Progress) = r at h
  cases h with
  | completed fated all =>
      cases whole
      rw [fated.history]
      by_cases known : id ∈ g.functionalIds
      · rw [if_pos known, if_pos known, revealed_of_mem (all id known)]
        rfl
      · rw [if_neg known, if_neg known]
  | blocked fated _ _ _ _ =>
      cases whole
      exact fated.history id
  | doomed fated _ _ _ =>
      cases whole
      exact fated.history id

theorem Reports.statuses {ending : Ending} {r : RunResult}
    (h : Reports g exec setup σ ending r q) (id : String) :
    r.trace.statuses id =
      if id ∈ g.functionalIds then (ending.standing σ id).life else [] := by
  cases h with
  | succeeded fated all _ => exact (Concludes.completed fated all).history id
  | unreached fated all _ => exact (Concludes.completed fated all).history id
  | failed concludes => exact concludes.history id

/-- The node that a blocked output node blames follows from where the nodes stand. -/
theorem Concludes.blames {stage : List String} {origin cause : String}
    (h : Concludes g exec setup σ (.blocked done stage) (.error (.failed (some origin) cause), q)) :
    ∃ id e, stage.find? ((Plan.ofGraph g).failsAt (revealed σ done)) = some id ∧
      (Plan.ofGraph g).blocker? (revealed σ done) id = some e ∧
      (Plan.ofGraph g).Blames (revealed σ done) e.source origin := by
  cases h with
  | blocked fated _ first blame _ =>
      unfold Plan.origin? at blame
      obtain ⟨e, found, blame⟩ := Option.bind_eq_some_iff.mp blame
      rw [fated.standing] at first found
      exact ⟨_, e, first, found, fated.standing ▸ fated.reached.blamed blame⟩

/-- A run that a doomed failure ends names a node that failed in its last stage. -/
theorem Concludes.doomed_failed {stage : List String} {id cause : String}
    (h : Concludes g exec setup σ (.doomed done stage) (.error (.failed (some id) cause), q))
    (t : Trace) :
    id ∈ stage ∧ q.state.hasStatus id .failed = true ∧
      Scheduler.isDoomed (.ofGraph g) (q.close t) id = true := by
  cases h with
  | doomed fated mem failed doom =>
      refine ⟨mem, ?_, ?_⟩
      · exact RunState.hasStatus_iff.mpr (Progress.standing_eq_failed_iff.mp failed)
      · have sound := Plan.sound_ofGraph g
        have now := List.mem_append_right done mem
        have tells : (Plan.ofGraph g).Tells (q.close t) := fun e edge =>
          fated.reached.found (sound.joined e edge).1
        refine (Scheduler.isDoomed_iff sound tells (fated.reached.within id now)).mpr ?_
        have doomed := (fated.isDoomed_iff now).mp doom
        rw [← fated.standing] at doomed
        exact doomed

theorem Plan.Ends.stage_mem {plan : Plan} {stages : List (List String)} {before stage : List String}
    (h : plan.Ends σ done stages (.doomed before stage)) : stage ∈ stages := by
  generalize same : Ending.doomed before stage = ending at h
  induction h with
  | completed => cases same
  | blocked _ => cases same
  | doomed _ _ =>
      cases same
      exact List.mem_cons_self
  | next _ _ _ ih => exact List.mem_cons_of_mem _ (ih same)

theorem Plan.Alike.executedOutputs {plan plan' : Plan} (h : plan.Alike plan') (sound : plan.Sound)
    (sound' : plan'.Sound) (σ : String → Standing) :
    (plan.executedOutputs σ).Perm (plan'.executedOutputs σ) := by
  have keys : plan.nodes.keys.Perm plan'.nodes.keys :=
    (List.perm_ext_iff_of_nodup sound.distinct sound'.distinct).mpr fun _ => h.mem_keys
  have outputs : plan.isOutput = plan'.isOutput := funext h.isOutput
  have fit : (fun id => decide (plan.admission σ id = .executed)) =
      fun id => decide (plan'.admission σ id = .executed) := by
    funext id
    rw [h.admission]
  unfold Plan.executedOutputs Plan.outputIds
  rw [outputs, fit]
  exact (keys.filter _).filter _

theorem Fated.output_eq (h : Fated g exec setup σ done p) (settles : exec.Settles g setup fate)
    (yields : exec.Yields g setup value) (all : ∀ id ∈ g.functionalIds, id ∈ done) {id : String}
    (mem : id ∈ (Plan.ofGraph g).executedOutputs σ) : p.state.output id = value id := by
  obtain ⟨n, functional, rfl, kind, inputs, arises, outcome⟩ := h.executed_value settles all mem
  rw [yields n functional kind inputs arises, Outcome.value.injEq] at outcome
  exact outcome.symm

/-- Runs that end in one place have the same status, the same output, and a failing node both or
neither. -/
theorem Reports.agree {ending : Ending} {r r' : RunResult}
    (alike : (Plan.ofGraph g).Alike (.ofGraph g')) (settles : exec.Settles g setup fate)
    (settles' : exec'.Settles g' setup' fate) (yields : exec.Yields g setup value)
    (yields' : exec'.Yields g' setup' value) (h : Reports g exec setup σ ending r q)
    (h' : Reports g' exec' setup' σ ending r' q') :
    r.status = r'.status ∧ r.output.SameMapping r'.output ∧
      (r.failingNodeId = none ↔ r'.failingNodeId = none) := by
  have perm := alike.executedOutputs (Plan.sound_ofGraph g) (Plan.sound_ofGraph g') σ
  have nodup : ((Plan.ofGraph g).executedOutputs σ).Nodup :=
    ((Plan.sound_ofGraph g).distinct.filter _).filter _
  cases h with
  | succeeded fated all found =>
      cases h' with
      | succeeded fated' all' found' =>
          refine ⟨rfl, Plan.gather_sameMapping perm nodup (fun id mem => ?_) found found', Iff.rfl⟩
          rw [fated.output_eq settles yields all mem,
            fated'.output_eq settles' yields' all' (perm.mem_iff.mp mem)]
      | unreached _ _ none' =>
          rw [none'] at perm
          rw [Plan.gather_eq_none_iff.mpr perm.eq_nil] at found
          cases found
      | failed concludes => cases concludes
  | unreached _ _ none' =>
      cases h' with
      | succeeded _ _ found' =>
          rw [none'] at perm
          rw [Plan.gather_eq_none_iff.mpr perm.symm.eq_nil] at found'
          cases found'
      | unreached _ _ _ => exact ⟨rfl, .inl rfl, Iff.rfl⟩
      | failed concludes => cases concludes
  | failed concludes =>
      cases h' with
      | succeeded _ _ _ => cases concludes
      | unreached _ _ _ => cases concludes
      | failed _ => exact ⟨rfl, .inl rfl, ⟨fun h => (nomatch h), fun h => (nomatch h)⟩⟩

def detourBackwards : Graph :=
  { detour with nodes := detour.nodes.reverse, edges := detour.edges.reverse }

theorem failingTool_yields (g : Graph) (port : String) (delay : String → Nat) :
    (failingTool port delay).Yields g plainSetup .text :=
  fun _ _ kind _ _ => failingOutcome_output port kind

end Workflow
