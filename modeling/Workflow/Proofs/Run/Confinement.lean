import Workflow.Proofs.Graph.Ancestry
import Workflow.Proofs.Run.Lockstep
import Workflow.Proofs.Run.Repair

/-! What feeds no output node. However such nodes are executed, a run comes to the same result, and
tells the same of all other nodes. -/

namespace Workflow

variable {g : Graph} {exec exec' : Executor} {setup setup' : Setup} {id a : String}

namespace Graph

/-- Some way, perhaps an empty one, leads from a node to an output node. -/
def Feeds (g : Graph) (id : String) : Prop :=
  ∃ n ∈ g.functionalNodes, n.kind = .output ∧ (n.id = id ∨ g.Precedes id n.id)

instance : Decidable (g.Feeds id) :=
  decidable_of_iff
    (∃ n ∈ g.functionalNodes, n.kind = .output ∧ (n.id = id ∨ id ∈ g.ancestors n.id)) <| by
      simp only [Feeds, mem_ancestors_iff]

theorem Feeds.of_precedes (h : g.Feeds id) (before : g.Precedes a id) : g.Feeds a := by
  obtain ⟨way, some', leads⟩ := before
  obtain ⟨n, mem, output, rfl | ⟨rest, -, leads'⟩⟩ := h
  · exact ⟨n, mem, output, .inr ⟨way, some', leads⟩⟩
  · refine ⟨n, mem, output, .inr ⟨way ++ rest, fun none' => ?_, leads.append leads'⟩⟩
    exact some' (List.append_eq_nil_iff.mp none').1

end Graph

theorem Plan.precedes_of_isAncestor (h : (ofGraph g).isAncestor a id = true) :
    g.Precedes a id := by
  by_cases known : id ∈ g.functionalIds
  · exact (isAncestor_iff known).mp h
  · have absent : (ofGraph g).ancestors.get? id = none := by
      change Table.get? (g.functionalIds.map fun id => (id, g.ancestors id)) id = _
      rw [Table.get?_map, if_neg known]
    rw [isAncestor, absent] at h
    cases h

/-- The nodes that feed an output node are seen, and no numbers of events. -/
def View.feeding (g : Graph) : View := .only fun id => decide (g.Feeds id)

theorem View.feeding_shows : (View.feeding g).shows id = true ↔ g.Feeds id := decide_eq_true_iff

theorem View.closed_feeding (g : Graph) : (View.feeding g).Closed (.ofGraph g) where
  sources e edge shown := by
    rw [feeding_shows] at shown ⊢
    exact shown.of_precedes ⟨[e], List.cons_ne_nil _ _, edge, rfl, rfl⟩
  ancestors before shown := by
    rw [feeding_shows] at shown ⊢
    exact shown.of_precedes (Plan.precedes_of_isAncestor before)
  outputs output := by
    rw [feeding_shows]
    obtain ⟨n, node, kind⟩ := Plan.isOutput_iff.mp output
    obtain ⟨functional, named⟩ := Plan.mem_functionalNodes_of_get? node
    exact ⟨n, functional, kind, .inl named⟩

/-- Nothing is cancelled, and every outcome can be recorded. -/
structure Executor.Calm (exec : Executor) (g : Graph) (setup : Setup) : Prop where
  unasked : setup.cancelled = none
  quiet : ∀ n ∈ g.functionalNodes, ∀ inputs : Inputs, inputs.Arises g exec setup.payload →
    (exec n inputs).cancels = none
  undisturbed : ∀ n ∈ g.functionalNodes, ∀ inputs : Inputs, inputs.Arises g exec setup.payload →
    ∀ message, (exec n inputs).outcome ≠ .cancelled message
  recordable : setup.snapshotOutputs = true → ∀ n ∈ g.functionalNodes, ∀ inputs : Inputs,
    inputs.Arises g exec setup.payload → (exec n inputs).outcome.shown.Copyable
  deliverable : exec.Deliverable g setup.payload

namespace Executor.Calm

variable {stage : List String} {p q : Progress}

theorem quiet_of_drawn (calm : exec.Calm g setup) (drawn : p.Drawn g exec setup) :
    ∀ id ∈ stage, ∀ n inputs, (Plan.ofGraph g).nodes.get? id = some n →
      inputs.Gathered setup.payload p → (exec n inputs).cancels = none :=
  fun _ _ n inputs node gathered =>
    calm.quiet n (Plan.mem_functionalNodes_of_get? node).1 inputs (drawn.arises gathered)

theorem records (calm : exec.Calm g setup) (drawn : p.Drawn g exec setup) :
    exec.Records (.ofGraph g) setup.payload stage p := by
  intro id _ n inputs node gathered
  have functional := (Plan.mem_functionalNodes_of_get? node).1
  have arises := drawn.arises gathered
  refine ⟨calm.undisturbed n functional inputs arises, ?_⟩
  unfold Recorder.copied
  rw [drawn.copying]
  split
  · rename_i copies
    exact calm.recordable copies n functional inputs arises
  · exact ⟨.null, rfl⟩

theorem delivers (drawn : p.Drawn g exec setup)
    (adv : Advance (.ofGraph g) exec setup.payload stage p q)
    (before : ∀ id, (Plan.ofGraph g).isOutput id = true → p.state.hasStatus id .succeeded = true →
      g.Delivers exec setup.payload id (p.state.output id)) :
    ∀ id, (Plan.ofGraph g).isOutput id = true → q.state.hasStatus id .succeeded = true →
      g.Delivers exec setup.payload id (q.state.output id) := by
  intro id output succeeded
  by_cases now : id ∈ stage
  · by_cases fit : (Plan.ofGraph g).admission p.standing id = .executed
    · obtain ⟨n, inputs, node, gathered, shown⟩ := adv.executed id now fit
      obtain ⟨m, node', kind⟩ := Plan.isOutput_iff.mp output
      cases node.symm.trans node'
      obtain ⟨functional, named⟩ := Plan.mem_functionalNodes_of_get? node
      exact ⟨n, functional, named, kind, inputs, drawn.arises gathered, shown.output.symm⟩
    · obtain ⟨-, s, found, skipped⟩ := adv.skipped id now fit
      obtain ⟨t, found', status⟩ := RunState.hasStatus_iff.mp succeeded
      cases found.symm.trans found'
      cases skipped.symm.trans status
  · rw [RunState.hasStatus_iff, adv.others id now, ← RunState.hasStatus_iff] at succeeded
    rw [adv.output_others now]
    exact before id output succeeded

open Scheduler in
theorem returns (runnable : g.Runnable) (calm : exec.Calm g setup) :
    ∃ r q, runFrom (.ofGraph g) exec setup = (.ok r, q) := by
  obtain ⟨p, reached, signal, copying, blank, course, end'⟩ := runFrom_cases runnable exec setup
  have start : p.Drawn g exec setup := by
    refine ⟨fun id => ?_, copying⟩
    rw [blank]
    exact .null
  generalize courseFrom (.ofGraph g) exec setup = ended at course end'
  generalize runFrom (.ofGraph g) exec setup = result at end'
  cases end' with
  | @uncopied _ output _ found copied =>
      have unborn : ∀ id, (Plan.ofGraph g).isOutput id = true →
          p.state.hasStatus id .succeeded = true →
            g.Delivers exec setup.payload id (p.state.output id) := by
        intro id _ succeeded
        obtain ⟨s, found, status⟩ := RunState.hasStatus_iff.mp succeeded
        have waits : p.standing id = .waiting := reached.waiting List.not_mem_nil
        simp [Progress.standing, found, status] at waits
      obtain ⟨-, delivered⟩ := course.keeps (I := fun q => q.Drawn g exec setup ∧
          ∀ id, (Plan.ofGraph g).isOutput id = true → q.state.hasStatus id .succeeded = true →
            g.Delivers exec setup.payload id (q.state.output id))
        (fun adv held => ⟨held.1.advance adv, delivers held.1 adv held.2⟩)
        ⟨start, unborn⟩
      rw [finishedOutput?_eq_gather] at found
      obtain ⟨copy, copied'⟩ := calm.deliverable _ _ output (fun id mem => by
        obtain ⟨known, succeeded⟩ := List.mem_filter.mp mem
        exact delivered id (mem_outputIds.mp known) succeeded) found
      cases copied.symm.trans copied'
  | aborted =>
      obtain ⟨done, stage, r, -, -, drawn, last⟩ :=
        course.last (I := fun q => q.Drawn g exec setup) (fun adv drawn => drawn.advance adv) start
      cases last with
      | cancelled mem node gathered outcome =>
          exact absurd outcome (calm.undisturbed _ (Plan.mem_functionalNodes_of_get? node).1 _
            (drawn.arises gathered) _)
  | _ => exact ⟨_, _, rfl⟩

end Executor.Calm

theorem Executor.likewise_feeding
    (outcomes : ∀ n ∈ g.functionalNodes, g.Feeds n.id → ∀ inputs,
      (exec n inputs).outcome = (exec' n inputs).outcome)
    (orders : ∀ n ∈ g.functionalNodes, g.Feeds n.id → ∀ m ∈ g.functionalNodes, g.Feeds m.id →
      ∀ i j, ((exec n i).delay < (exec m j).delay ↔ (exec' n i).delay < (exec' m j).delay)) :
    exec.Likewise exec' (.ofGraph g) (.feeding g) where
  outcome node shown := by
    obtain ⟨functional, named⟩ := Plan.mem_functionalNodes_of_get? node
    exact outcomes _ functional (named ▸ View.feeding_shows.mp shown)
  order node shown node' shown' := by
    obtain ⟨functional, named⟩ := Plan.mem_functionalNodes_of_get? node
    obtain ⟨functional', named'⟩ := Plan.mem_functionalNodes_of_get? node'
    exact orders _ functional (named ▸ View.feeding_shows.mp shown) _ functional'
      (named' ▸ View.feeding_shows.mp shown')

theorem Executor.Settles.calm {fate : String → Standing} (settles : exec.Settles g setup fate) :
    exec.Calm g setup where
  unasked := settles.unasked
  quiet := settles.quiet
  undisturbed n mem inputs arises message cancelled := by
    have ends := settles.ends n mem inputs arises
    rw [cancelled] at ends
    exact settles.ended n mem ends.symm
  recordable := settles.recordable
  deliverable := settles.deliverable

/-- The graph `detour` without the edge that leads from its tool to its output node. -/
def siding : Graph :=
  { detour with
    edges :=
      [⟨"in", "choice", none, none, none⟩, ⟨"in", "risk", none, none, none⟩,
       ⟨"risk", "join", none, none, none⟩, ⟨"choice", "join", some "true", none, none⟩,
       ⟨"choice", "out", some "false", none, none⟩] }

def toolLate (id : String) : Nat := if id = "risk" then 1 else 0

end Workflow
