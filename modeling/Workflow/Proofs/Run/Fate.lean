import Workflow.Proofs.Run.Doom
import Workflow.Proofs.Run.Result
import Workflow.Proofs.Value.Copy

/-! Runs in which it is settled beforehand what the execution of each node would come to. The
places of the nodes then follow from the rule of admission, and with them the stage in which the
run ends. -/

namespace Workflow

/-- A value stands in one of the tables of some inputs. -/
def Inputs.Holds (inputs : Inputs) (v : Value) : Prop :=
  v ∈ inputs.predecessors.values ∨ v ∈ inputs.ports.values ∨ v ∈ inputs.ancestors.values

/-- The values that go round in the runs of a graph: null, and the outputs of nodes that are given
the payload and such values. -/
inductive Graph.Circulates (g : Graph) (exec : Executor) (payload : Value) : Value → Prop where
  | null : Circulates g exec payload .null
  | output {n : Node} {inputs : Inputs} (node : n ∈ g.functionalNodes)
      (given : inputs.payload = payload)
      (drawn : ∀ v, inputs.Holds v → Circulates g exec payload v) :
      Circulates g exec payload (exec n inputs).outcome.output

/-- Inputs that may come up in a run: the payload, and values that go round. -/
def Inputs.Arises (inputs : Inputs) (g : Graph) (exec : Executor) (payload : Value) : Prop :=
  inputs.payload = payload ∧ ∀ v, inputs.Holds v → g.Circulates exec payload v

/-- What an output node delivers on inputs that may come up. -/
def Graph.Delivers (g : Graph) (exec : Executor) (payload : Value) (id : String) (v : Value) :
    Prop :=
  ∃ n ∈ g.functionalNodes, n.id = id ∧ n.kind = .output ∧ ∃ inputs : Inputs,
    inputs.Arises g exec payload ∧ (exec n inputs).outcome.output = v

/-- What output nodes deliver can be recorded as the output of a run, be it of one node or of
several together. -/
def Executor.Deliverable (exec : Executor) (g : Graph) (payload : Value) : Prop :=
  ∀ ids value output, (∀ id ∈ ids, g.Delivers exec payload id (value id)) →
    Plan.gather value ids = some output → output.Copyable

/-- It is settled whether the execution of each node would succeed, and through which port, or
fail; outputs always succeed. Every outcome can be recorded, and nothing is cancelled. -/
structure Executor.Settles (exec : Executor) (g : Graph) (setup : Setup)
    (fate : String → Standing) : Prop where
  ends : ∀ n ∈ g.functionalNodes, ∀ inputs : Inputs, inputs.Arises g exec setup.payload →
    (exec n inputs).outcome.standing = fate n.id
  ended : ∀ n ∈ g.functionalNodes, fate n.id ≠ .waiting
  outputs : ∀ n ∈ g.functionalNodes, n.kind = .output → fate n.id = .succeeded none
  recordable : setup.snapshotOutputs = true → ∀ n ∈ g.functionalNodes, ∀ inputs : Inputs,
    inputs.Arises g exec setup.payload → (exec n inputs).outcome.shown.Copyable
  deliverable : exec.Deliverable g setup.payload
  unasked : setup.cancelled = none
  quiet : ∀ n ∈ g.functionalNodes, ∀ inputs : Inputs, inputs.Arises g exec setup.payload →
    (exec n inputs).cancels = none

theorem Executor.deliverable_of_short {g : Graph} {exec : Executor} {payload : Value}
    (each : ∀ n ∈ g.functionalNodes, n.kind = .output → ∀ inputs : Inputs,
      inputs.Arises g exec payload →
        (exec n inputs).outcome.output.Copyable ∧ (exec n inputs).outcome.output.hasLong = false) :
    exec.Deliverable g payload := by
  intro ids value output delivered found
  have good : ∀ id ∈ ids, (value id).Copyable ∧ (value id).hasLong = false := by
    intro id mem
    obtain ⟨n, functional, -, kind, inputs, arises, same⟩ := delivered id mem
    exact same ▸ each n functional kind inputs arises
  cases copied : output.snapshot with
  | ok copy => exact ⟨copy, copied⟩
  | error f =>
      have long := (Plan.gather_fault found (fun id mem => (good id mem).1) copied).2
      exact nomatch long.symm.trans (Plan.gather_short found fun id mem => (good id mem).2)

namespace Plan

/-- Where the rule of admission puts a node whose execution would come to its fate. -/
def place (plan : Plan) (fate σ : String → Standing) (id : String) : Standing :=
  match plan.admission σ id with
  | .executed => fate id
  | .pruned | .starved => .skipped
  | .blocked => .blocked

def Consistent (plan : Plan) (fate σ : String → Standing) : Prop :=
  ∀ id ∈ plan.nodes.keys, σ id = plan.place fate σ id

theorem place_congr {plan : Plan} {fate σ τ : String → Standing} {id : String}
    (h : ∀ e ∈ plan.incoming id, σ e.source = τ e.source) :
    plan.place fate σ id = plan.place fate τ id := by
  rw [place, place, admission_congr h]

end Plan

def revealed (σ : String → Standing) (done : List String) (id : String) : Standing :=
  if id ∈ done then σ id else .waiting

/-- A run has come through some nodes, and they stand where they should. -/
structure Fated (g : Graph) (exec : Executor) (setup : Setup) (σ : String → Standing)
    (done : List String) (p : Progress) : Prop where
  reached : Reached (.ofGraph g) exec done p
  standing : p.standing = revealed σ done
  outputs : ∀ id, g.Circulates exec setup.payload (p.state.output id)
  executed : ∀ id ∈ done, (Plan.ofGraph g).admission p.standing id = .executed →
    ∃ n inputs, (Plan.ofGraph g).nodes.get? id = some n ∧
      inputs.Arises g exec setup.payload ∧ p.Shows id (exec n inputs).outcome
  unasked : p.signal = none
  copying : p.trace.snapshotOutputs = setup.snapshotOutputs

variable {g : Graph} {exec : Executor} {setup : Setup} {fate σ : String → Standing}
  {done stage : List String} {p q : Progress}

/-- The outputs of a run are values that go round, and it copies as it is set up to. -/
structure Progress.Drawn (p : Progress) (g : Graph) (exec : Executor) (setup : Setup) : Prop where
  outputs : ∀ id, g.Circulates exec setup.payload (p.state.output id)
  copying : p.trace.snapshotOutputs = setup.snapshotOutputs

theorem Progress.Drawn.arises (h : p.Drawn g exec setup) {inputs : Inputs}
    (gathered : inputs.Gathered setup.payload p) : inputs.Arises g exec setup.payload := by
  have drawn : ∀ {t : Table Value}, (∀ x ∈ t, ∃ id, x.2 = p.state.output id) →
      ∀ v ∈ t.values, g.Circulates exec setup.payload v := by
    intro t all v hv
    obtain ⟨x, hx, rfl⟩ := List.mem_map.mp hv
    obtain ⟨id, same⟩ := all x hx
    exact same ▸ h.outputs id
  refine ⟨gathered.payload, ?_⟩
  rintro v (hv | hv | hv)
  · exact drawn gathered.predecessors v hv
  · exact drawn gathered.ports v hv
  · exact drawn gathered.ancestors v hv

theorem Progress.Drawn.advance (h : p.Drawn g exec setup)
    (adv : Advance (.ofGraph g) exec setup.payload stage p q) : q.Drawn g exec setup where
  outputs id := by
    by_cases now : id ∈ stage
    · by_cases fit : (Plan.ofGraph g).admission p.standing id = .executed
      · obtain ⟨n, inputs, node, gathered, shown⟩ := adv.executed id now fit
        have arises := h.arises gathered
        rw [shown.output]
        exact .output (Plan.mem_functionalNodes_of_get? node).1 arises.1 arises.2
      · rw [adv.blank id now fit]
        exact .null
    · rw [adv.output_others now]
      exact h.outputs id
  copying := adv.copying.trans h.copying

theorem Fated.drawn (h : Fated g exec setup σ done p) : p.Drawn g exec setup :=
  ⟨h.outputs, h.copying⟩

theorem Fated.arises (h : Fated g exec setup σ done p) {inputs : Inputs}
    (gathered : inputs.Gathered setup.payload p) : inputs.Arises g exec setup.payload :=
  h.drawn.arises gathered

theorem revealed_of_mem {id : String} (h : id ∈ done) : revealed σ done id = σ id := if_pos h

theorem Fated.place_eq (h : Fated g exec setup σ done p)
    (follows : (Plan.ofGraph g).Follows done stage)
    (consistent : (Plan.ofGraph g).Consistent fate σ) {id : String} (now : id ∈ stage) :
    σ id = (Plan.ofGraph g).place fate p.standing id := by
  rw [consistent id (follows.known id now)]
  refine Plan.place_congr fun e he => ?_
  rw [h.standing, revealed_of_mem (follows.fed id now e he)]

theorem Fated.advance (h : Fated g exec setup σ done p)
    (follows : (Plan.ofGraph g).Follows done stage) (settles : exec.Settles g setup fate)
    (consistent : (Plan.ofGraph g).Consistent fate σ)
    (adv : Advance (.ofGraph g) exec setup.payload stage p q) :
    Fated g exec setup σ (done ++ stage) q where
  reached := h.reached.advance follows adv
  standing := by
    funext id
    by_cases now : id ∈ stage
    · rw [revealed_of_mem (List.mem_append_right _ now), h.place_eq follows consistent now,
        Plan.place]
      by_cases fit : (Plan.ofGraph g).admission p.standing id = .executed
      · obtain ⟨n, inputs, node, gathered, shown⟩ := adv.executed id now fit
        obtain ⟨functional, rfl⟩ := Plan.mem_functionalNodes_of_get? node
        rw [fit, shown.standing, settles.ends n functional inputs (h.arises gathered)]
      · rw [adv.standing_unfit h.reached follows now fit]
        cases admission : (Plan.ofGraph g).admission p.standing id
        · exact absurd admission fit
        all_goals rfl
    · rw [adv.standing_others now, h.standing]
      simp only [revealed, List.mem_append, now, or_false]
  outputs := (h.drawn.advance adv).outputs
  executed id mem fit := by
    rw [adv.admission_done h.reached follows mem] at fit
    rcases List.mem_append.mp mem with old | now
    · obtain ⟨n, inputs, node, arises, shown⟩ := h.executed id old fit
      exact ⟨n, inputs, node, arises, shown.congr
        (adv.others id fun now => follows.fresh id now old)⟩
    · obtain ⟨n, inputs, node, gathered, shown⟩ := adv.executed id now fit
      exact ⟨n, inputs, node, h.arises gathered, shown⟩
  unasked := by
    rw [adv.signal, h.unasked]
    intro id _ n inputs node gathered
    exact settles.quiet n (Plan.mem_functionalNodes_of_get? node).1 inputs (h.arises gathered)
  copying := (h.drawn.advance adv).copying

/-- Where a run comes to its end: after all stages, or in a stage that it reaches after some
nodes. -/
inductive Ending where
  | completed
  | blocked (done stage : List String)
  | doomed (done stage : List String)

/-- Where the runs end that put the nodes where they stand here: in front of the first stage with a
blocked output node, or after the first one with a doomed failure. -/
inductive Plan.Ends (plan : Plan) (σ : String → Standing) :
    List String → List (List String) → Ending → Prop where
  | completed {done : List String} : Ends plan σ done [] .completed
  | blocked {done stage : List String} {rest : List (List String)}
      (blocked : ∃ id ∈ stage, plan.failsAt (revealed σ done) id = true) :
      Ends plan σ done (stage :: rest) (.blocked done stage)
  | doomed {done stage : List String} {rest : List (List String)}
      (clear : ∀ id ∈ stage, plan.failsAt (revealed σ done) id = false)
      (doom : ∃ id ∈ stage, σ id = .failed ∧ plan.Doomed (revealed σ (done ++ stage)) id) :
      Ends plan σ done (stage :: rest) (.doomed done stage)
  | next {done stage : List String} {rest : List (List String)} {ending : Ending}
      (clear : ∀ id ∈ stage, plan.failsAt (revealed σ done) id = false)
      (free : ∀ id ∈ stage, σ id = .failed → ¬plan.Doomed (revealed σ (done ++ stage)) id)
      (later : Ends plan σ (done ++ stage) rest ending) :
      Ends plan σ done (stage :: rest) ending

inductive Concludes (g : Graph) (exec : Executor) (setup : Setup) (σ : String → Standing) :
    Ending → Except Stop (Option (Option String)) × Progress → Prop where
  | completed {done : List String} {q : Progress} (fated : Fated g exec setup σ done q)
      (all : ∀ id ∈ g.functionalIds, id ∈ done) :
      Concludes g exec setup σ .completed (.ok none, q)
  | blocked {done stage : List String} {p : Progress} {id origin cause : String}
      {marks : Table String} (fated : Fated g exec setup σ done p)
      (follows : (Plan.ofGraph g).Follows done stage)
      (first : stage.find? ((Plan.ofGraph g).failsAt p.standing) = some id)
      (blame : (Plan.ofGraph g).origin? p id = some origin)
      (kept : ∀ i ∉ stage, marks.get? i = p.blockedBy.get? i) :
      Concludes g exec setup σ (.blocked done stage)
        (.error (.failed (some origin) cause), p.marked marks)
  | doomed {done stage : List String} {q : Progress} {id cause : String}
      (fated : Fated g exec setup σ (done ++ stage) q) (mem : id ∈ stage)
      (failed : q.standing id = .failed) (doom : Scheduler.isDoomed (.ofGraph g) q id = true) :
      Concludes g exec setup σ (.doomed done stage) (.error (.failed (some id) cause), q)

/-- The search for an output node finds out which failures are doomed. -/
theorem Fated.isDoomed_iff (h : Fated g exec setup σ done p) {id : String} (mem : id ∈ done) :
    Scheduler.isDoomed (.ofGraph g) p id = true ↔
      (Plan.ofGraph g).Doomed (revealed σ done) id := by
  rw [← h.standing]
  have sound := Plan.sound_ofGraph g
  exact Scheduler.isDoomed_iff sound (fun e edge => h.reached.found (sound.joined e edge).1)
    (h.reached.within id mem)

/-- A stage that stops a run whose outcomes are settled does so where their places say. -/
theorem Fated.stopped (settles : exec.Settles g setup fate)
    (consistent : (Plan.ofGraph g).Consistent fate σ) (h : Fated g exec setup σ done p)
    (follows : (Plan.ofGraph g).Follows done stage) (rest : List (List String)) {stop : Stop}
    (last : Scheduler.StageEnd (.ofGraph g) exec setup.payload stage p (.error stop, q)) :
    ∃ ending, (Plan.ofGraph g).Ends σ done (stage :: rest) ending ∧
      Concludes g exec setup σ ending (.error stop, q) := by
  have functional : ∀ {id : String} {n : Node}, (Plan.ofGraph g).nodes.get? id = some n →
      n ∈ g.functionalNodes := fun node => (Plan.mem_functionalNodes_of_get? node).1
  cases last with
  | blocked first blame kept =>
      have fails := List.find?_some first
      rw [h.standing] at fails
      exact ⟨_, .blocked ⟨_, List.mem_of_find?_eq_some first, fails⟩,
        .blocked h follows first blame kept⟩
  | @cancelled _ _ n inputs _ mem node gathered outcome =>
      have ends := settles.ends n (functional node) inputs (h.arises gathered)
      rw [outcome] at ends
      exact absurd ends.symm (settles.ended n (functional node))
  | @refused id n inputs f _ mem node gathered copied unsealed =>
      -- Nothing is copied while events keep no outputs.
      unfold Recorder.copied at copied
      rw [h.copying] at copied
      split at copied
      · rename_i snapshots
        obtain ⟨copy, copied'⟩ := settles.recordable snapshots n (functional node) inputs
          (h.arises gathered)
        rw [copied'] at copied
        cases copied
      · cases copied
  | doomed adv mem failed doom =>
      have fated := h.advance follows settles consistent adv
      have clear := adv.clear
      have now := List.mem_append_right done mem
      rw [h.standing] at clear
      refine ⟨_, .doomed clear ⟨_, mem, ?_, (fated.isDoomed_iff now).mp doom⟩,
        .doomed fated mem failed doom⟩
      rw [fated.standing, revealed_of_mem now] at failed
      exact failed

theorem Fated.free (h : Fated g exec setup σ (done ++ stage) q)
    (free : ∀ id ∈ stage, q.standing id = .failed → Scheduler.isDoomed (.ofGraph g) q id = false) :
    ∀ id ∈ stage, σ id = .failed → ¬(Plan.ofGraph g).Doomed (revealed σ (done ++ stage)) id := by
  intro id mem failed doomed
  have now := List.mem_append_right done mem
  have found := (h.isDoomed_iff now).mpr doomed
  rw [free id mem (by rw [h.standing, revealed_of_mem now, failed])] at found
  cases found

/-- A run whose outcomes are settled ends where their places say. -/
theorem Fated.concludes {stages : List (List String)}
    {result : Except Stop (Option (Option String)) × Progress} (settles : exec.Settles g setup fate)
    (consistent : (Plan.ofGraph g).Consistent fate σ) (h : Fated g exec setup σ done p)
    (all : ∀ id ∈ g.functionalIds, id ∈ done ++ stages.flatten)
    (course : Scheduler.Course (.ofGraph g) exec setup.payload done stages p result) :
    ∃ ending, (Plan.ofGraph g).Ends σ done stages ending ∧
      Concludes g exec setup σ ending result := by
  induction course with
  | completed _ => exact ⟨.completed, .completed, .completed h (by simpa using all)⟩
  | cancelled _ signal =>
      rw [h.unasked] at signal
      cases signal
  | stopped _ follows _ last => exact h.stopped settles consistent follows _ last
  | @next done stage rest p q result _ follows _ adv free _ ih =>
      have fated := h.advance follows settles consistent adv
      have clear := adv.clear
      rw [h.standing] at clear
      obtain ⟨ending, ends, concludes⟩ := ih fated (by simpa using all)
      exact ⟨ending, .next clear (fated.free free) ends, concludes⟩

end Workflow
