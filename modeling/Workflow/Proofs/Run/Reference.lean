import Mathlib.Logic.Function.Basic
import Workflow.Proofs.Run.Absorption
import Workflow.Proofs.Run.Settlement

/-! The reference for a run: the nodes are placed one by one, in any topological order, by the rule
of admission alone. A run comes to the verdict of its reference, however early it ends. -/

namespace Workflow

def Graph.Orders (g : Graph) (order : List String) : Prop :=
  order.Perm g.functionalIds ∧
    ∀ e ∈ g.functionalEdges, order.idxOf e.source < order.idxOf e.target

instance (g : Graph) (order : List String) : Decidable (g.Orders order) :=
  inferInstanceAs (Decidable (_ ∧ _))

namespace Plan

def Sorted (plan : Plan) : List String → List String → Prop
  | _, [] => True
  | done, id :: rest =>
    id ∉ done ∧ (∀ e ∈ plan.incoming id, e.source ∈ done) ∧ plan.Sorted (done ++ [id]) rest

def evaluateFrom (plan : Plan) (fate : String → Standing) :
    (String → Standing) → List String → String → Standing
  | σ, [] => σ
  | σ, id :: rest =>
    plan.evaluateFrom fate (Function.update σ id (plan.place fate σ id)) rest

/-- The reference: every node is placed by the rule of admission, on the nodes in front of it. -/
def evaluate (plan : Plan) (fate : String → Standing) (order : List String) :
    String → Standing :=
  plan.evaluateFrom fate (fun _ => .waiting) order

def BlocksOutput (plan : Plan) (σ : String → Standing) : Prop :=
  ∃ id ∈ plan.outputIds, σ id = .blocked

instance (plan : Plan) (σ : String → Standing) : Decidable (plan.BlocksOutput σ) :=
  inferInstanceAs (Decidable (∃ id ∈ plan.outputIds, σ id = .blocked))

variable {plan : Plan} {fate σ : String → Standing} {done order : List String} {g : Graph}

theorem evaluateFrom_consistent (sorted : plan.Sorted done order)
    (closed : ∀ id ∈ done, ∀ e ∈ plan.incoming id, e.source ∈ done)
    (placed : ∀ id ∈ done, σ id = plan.place fate σ id) :
    ∀ id ∈ done ++ order,
      plan.evaluateFrom fate σ order id = plan.place fate (plan.evaluateFrom fate σ order) id := by
  induction order generalizing done σ with
  | nil =>
      intro id mem
      rw [List.append_nil] at mem
      exact placed id mem
  | cons id rest ih =>
      obtain ⟨fresh, fed, sorted⟩ := sorted
      have kept : ∀ i ∈ done, Function.update σ id (plan.place fate σ id) i = σ i := by
        intro i old
        refine Function.update_of_ne ?_ _ _
        rintro rfl
        exact fresh old
      have same : ∀ i, (∀ e ∈ plan.incoming i, e.source ∈ done) →
          plan.place fate σ i =
            plan.place fate (Function.update σ id (plan.place fate σ id)) i :=
        fun i sources => place_congr fun e he => (kept e.source (sources e he)).symm
      intro i mem
      refine ih sorted ?_ ?_ i (by simpa using mem)
      · intro j mem e he
        rcases List.mem_append.mp mem with old | now
        · exact List.mem_append_left _ (closed j old e he)
        · obtain rfl := List.mem_singleton.mp now
          exact List.mem_append_left _ (fed e he)
      · intro j mem
        rcases List.mem_append.mp mem with old | now
        · rw [kept j old, placed j old]
          exact same j (closed j old)
        · obtain rfl := List.mem_singleton.mp now
          rw [Function.update_self]
          exact same j fed

theorem sorted_of_orders (orders : g.Orders order) : (ofGraph g).Sorted [] order := by
  obtain ⟨perm, before⟩ := orders
  have nodup : order.Nodup := perm.nodup_iff.mpr (nodup_distinct _)
  have rest : ∀ done later, order = done ++ later → (ofGraph g).Sorted done later := by
    intro done later split
    induction later generalizing done with
    | nil => trivial
    | cons id later ih =>
        have fresh : id ∉ done := by
          rw [split] at nodup
          exact fun old => (List.nodup_append.mp nodup).2.2 id old id List.mem_cons_self rfl
        refine ⟨fresh, ?_, ih (done ++ [id]) (by simpa using split)⟩
        intro e he
        obtain ⟨edge, rfl⟩ := mem_incoming.mp he
        have lt := before e edge
        rw [split, List.idxOf_append, List.idxOf_append, if_neg fresh] at lt
        by_cases old : e.source ∈ done
        · exact old
        · rw [if_neg old, List.idxOf_cons_self] at lt
          omega
  exact rest [] order rfl

theorem sorted_append {more : List String} (first : plan.Sorted done order)
    (second : plan.Sorted (done ++ order) more) : plan.Sorted done (order ++ more) := by
  induction order generalizing done with
  | nil => simpa using second
  | cons id rest ih => exact ⟨first.1, first.2.1, ih first.2.2 (by simpa using second)⟩

theorem Follows.sorted (h : plan.Follows done order) : plan.Sorted done order := by
  obtain ⟨nodup, fresh, -, fed⟩ := h
  induction order generalizing done with
  | nil => trivial
  | cons id rest ih =>
      obtain ⟨new, nodup⟩ := List.nodup_cons.mp nodup
      refine ⟨fresh id List.mem_cons_self, fed id List.mem_cons_self, ih nodup ?_ ?_⟩
      · intro i mem old
        rcases List.mem_append.mp old with old | now
        · exact fresh i (List.mem_cons_of_mem _ mem) old
        · exact new (List.mem_singleton.mp now ▸ mem)
      · exact fun i mem e he => List.mem_append_left _ (fed i (List.mem_cons_of_mem _ mem) e he)

theorem Layered.sorted {stages : List (List String)} (h : plan.Layered done stages) :
    plan.Sorted done stages.flatten := by
  induction stages generalizing done with
  | nil => trivial
  | cons stage rest ih => exact sorted_append h.1.sorted (ih h.2)

/-- There are places for the nodes, whatever their executions would come to. -/
theorem exists_consistent (runnable : g.Runnable) (fate : String → Standing) :
    ∃ σ, (ofGraph g).Consistent fate σ := by
  refine ⟨(ofGraph g).evaluate fate g.staging.stages.flatten, fun id known => ?_⟩
  refine evaluateFrom_consistent (layered_ofGraph g).sorted ?_ ?_ id ?_
  · exact fun _ h => absurd h List.not_mem_nil
  · exact fun _ h => absurd h List.not_mem_nil
  · exact runnable.stages_perm.mem_iff.mpr (mem_keys_ofGraph.mp known)

theorem evaluate_consistent (fate : String → Standing) (orders : g.Orders order) :
    (ofGraph g).Consistent fate ((ofGraph g).evaluate fate order) := by
  intro id known
  refine evaluateFrom_consistent (sorted_of_orders orders) ?_ ?_ id ?_
  · exact fun _ h => absurd h List.not_mem_nil
  · exact fun _ h => absurd h List.not_mem_nil
  · exact orders.1.mem_iff.mpr (mem_keys_ofGraph.mp known)

/-- What a failure drags along comes to be blocked, whatever is not yet known. -/
theorem Drags.blocked (sound : plan.Sound) (consistent : plan.Consistent fate σ)
    {failed id : String} (start : σ failed = .failed)
    (drags : plan.Drags (revealed σ done) failed id) :
    id = failed ∨ σ id = .blocked := by
  induction drags with
  | self => exact .inl rfl
  | @next e edge _ certain source sources =>
      have fault : ∀ {i}, i = failed ∨ σ i = .blocked → (σ i).isFault = true := by
        rintro i (rfl | blocked)
        · rw [start]
          rfl
        · rw [blocked]
          rfl
      have admission : plan.admission σ e.target = .blocked := by
        refine admission_eq_blocked_iff.mpr
          ⟨fun d hd => ?_, e, mem_incoming.mpr ⟨edge, rfl⟩, fault source⟩
        rw [← Bool.not_eq_true]
        intro pruned
        obtain ⟨port, selected, condition, unfed⟩ := isPruned_iff.mp pruned
        -- Known or not, a condition that rules the target out may spare it.
        have spares : plan.spares (revealed σ done) d = true := by
          by_cases known : d.source ∈ done
          · have revealed : revealed σ done d.source = .succeeded port := by
              rw [revealed_of_mem known, selected]
            simp [Plan.spares, condition, isPruned, revealed, unfed]
          · simp [Plan.spares, condition, revealed, known]
        have blocked := fault (sources d hd spares)
        rw [selected] at blocked
        cases blocked
      right
      rw [consistent e.target (sound.joined e edge).2, place, admission]

end Plan

variable {g : Graph} {exec : Executor} {setup : Setup} {fate σ : String → Standing}
  {done order : List String} {p q : Progress}

/-- A run that a node fails would have come to a blocked output node. -/
theorem Concludes.blocksOutput {ending : Ending} {id cause : String}
    (consistent : (Plan.ofGraph g).Consistent fate σ)
    (h : Concludes g exec setup σ ending (.error (.failed (some id) cause), q)) :
    (Plan.ofGraph g).BlocksOutput σ := by
  generalize result : ((.error (.failed (some id) cause), q) :
    Except Stop (Option (Option String)) × Progress) = r at h
  cases h with
  | completed _ _ => cases result
  | @blocked done stage p id _ _ _ fated follows first _ _ =>
      have fails := List.find?_some first
      have now := List.mem_of_find?_eq_some first
      simp only [Plan.failsAt, Bool.and_eq_true, decide_eq_true_eq] at fails
      refine ⟨id, mem_outputIds.mpr fails.1, ?_⟩
      rw [fated.place_eq follows consistent now, Plan.place, fails.2]
  | @doomed done stage t id _ fated mem failed doom =>
      have now := List.mem_append_right done mem
      obtain ⟨output, other, isOutput, drags⟩ := (fated.isDoomed_iff now).mp doom
      rw [fated.standing, revealed_of_mem now] at failed
      exact ⟨output, mem_outputIds.mpr isOutput,
        (drags.blocked (Plan.sound_ofGraph g) consistent failed).resolve_left other⟩

theorem Fated.not_blocksOutput (h : Fated g exec setup σ done p)
    (settles : exec.Settles g setup fate) (consistent : (Plan.ofGraph g).Consistent fate σ)
    (all : ∀ id ∈ g.functionalIds, id ∈ done) : ¬(Plan.ofGraph g).BlocksOutput σ := by
  rintro ⟨id, mem, blocked⟩
  have output := mem_outputIds.mp mem
  have known := known_of_isOutput output
  obtain ⟨n, node, kind⟩ := Plan.isOutput_iff.mp output
  obtain ⟨functional, rfl⟩ := Plan.mem_functionalNodes_of_get? node
  have spared := h.reached.spared n.id (all n.id known)
  rw [consistent n.id (Plan.mem_keys_ofGraph.mpr known), Plan.place,
    ← h.admission_eq (all n.id known)] at blocked
  rw [Plan.failsAt, output] at spared
  cases admission : (Plan.ofGraph g).admission p.standing n.id <;> rw [admission] at blocked spared
  · dsimp only at blocked
    rw [settles.outputs n functional kind] at blocked
    cases blocked
  · cases blocked
  · cases spared
  · cases blocked

/-- What the executions of the nodes of `detour` come to when its tool fails. -/
def detourFate (port : String) (id : String) : Standing :=
  if id = "risk" then .failed
  else if id = "choice" then .succeeded (some port)
  else .succeeded none

theorem settles_of_fixed (outcome : Node → Outcome) {nodes : List Node} (delay : String → Nat)
    (within : ∀ n ∈ g.functionalNodes, n ∈ nodes)
    (ends : ∀ n ∈ nodes, (outcome n).standing = fate n.id)
    (ended : ∀ n ∈ nodes, fate n.id ≠ .waiting)
    (outputs : ∀ n ∈ nodes, n.kind = .output → fate n.id = .succeeded none)
    (copied : ∀ n ∈ nodes, (outcome n).shown.Copyable)
    (delivered : ∀ n ∈ nodes, (outcome n).output.Copyable ∧ (outcome n).output.hasLong = false) :
    Executor.Settles (fun n _ => ⟨none, delay n.id, none, outcome n⟩) g plainSetup fate where
  ends n mem _ _ := ends n (within n mem)
  ended n mem := ended n (within n mem)
  outputs n mem := outputs n (within n mem)
  recordable _ n mem _ _ := copied n (within n mem)
  deliverable := Executor.deliverable_of_short fun n mem _ _ _ => delivered n (within n mem)
  unasked := rfl
  quiet _ _ _ _ := rfl

theorem failingTool_settles (port : String) (delay : String → Nat)
    (within : ∀ n ∈ g.functionalNodes, n ∈ detour.nodes) :
    (failingTool port delay).Settles g plainSetup (detourFate port) := by
  refine settles_of_fixed (failingOutcome port) delay within ?_ ?_ ?_ ?_ ?_ <;>
    simp only [detour, List.forall_mem_cons, List.not_mem_nil, false_imp_iff, implies_true,
      and_true]
  · exact ⟨rfl, rfl, rfl, rfl, rfl⟩
  · exact ⟨Standing.noConfusion, Standing.noConfusion, Standing.noConfusion, Standing.noConfusion,
      Standing.noConfusion⟩
  · exact ⟨fun _ => rfl, fun h => (nomatch h), fun h => (nomatch h), fun _ => rfl, fun _ => rfl⟩
  · exact ⟨⟨_, rfl⟩, ⟨_, rfl⟩, ⟨_, rfl⟩, ⟨_, rfl⟩, ⟨_, rfl⟩⟩
  · exact ⟨⟨⟨_, rfl⟩, rfl⟩, ⟨⟨_, rfl⟩, rfl⟩, ⟨⟨_, rfl⟩, rfl⟩, ⟨⟨_, rfl⟩, rfl⟩, ⟨⟨_, rfl⟩, rfl⟩⟩

theorem failingOutcome_output {n : Node} (port : String) (h : n.kind = .output) :
    failingOutcome port n = .value (.text n.id) := by
  unfold failingOutcome
  rw [h]

end Workflow
