import Workflow.Proofs.Run.Result

/-! No failure gets lost. It blocks all nodes downstream, up to a node that a condition has ruled
out; so where a run succeeds there is such a node on every way from a failed node to an output
node. -/

namespace Workflow

namespace Graph

def Leads (g : Graph) (source target : String) : Prop :=
  ∃ e ∈ g.functionalEdges, e.source = source ∧ e.target = target

instance (g : Graph) (source target : String) : Decidable (g.Leads source target) :=
  inferInstanceAs (Decidable (∃ e ∈ g.functionalEdges, e.source = source ∧ e.target = target))

/-- A condition that succeeded has an edge into a node, but none through the port that it
selected. -/
def RulesOut (g : Graph) (state : RunState) (condition id : String) : Prop :=
  (∃ n ∈ g.functionalNodes, n.id = condition ∧ n.kind = .condition) ∧ g.Leads condition id ∧
    ∃ s, state.get? condition = some s ∧ s.status = .succeeded ∧
      ∀ e ∈ g.functionalEdges, e.source = condition → e.target = id →
        e.sourcePort ≠ s.selectedPort?

end Graph

variable {g : Graph} {exec : Executor} {done : List String} {q : Progress}

/-- A node with a failure behind one of its edges is pruned, or it is blocked itself. -/
theorem Reached.pruned_or_blocked (h : Reached (.ofGraph g) exec done q) {source id : String}
    (fault : (q.standing source).isFault = true) (leads : g.Leads source id) (mem : id ∈ done) :
    (Plan.ofGraph g).admission q.standing id = .pruned ∨
      ((Plan.ofGraph g).admission q.standing id = .blocked ∧
        (q.standing id).isFault = true) := by
  obtain ⟨e, edge, rfl, rfl⟩ := leads
  have incoming : e ∈ (Plan.ofGraph g).incoming e.target := Plan.mem_incoming.mpr ⟨edge, rfl⟩
  by_cases pruned : ∃ d ∈ (Plan.ofGraph g).incoming e.target,
      (Plan.ofGraph g).isPruned q.standing d = true
  · exact .inl (Plan.admission_eq_pruned_iff.mpr pruned)
  · push Not at pruned
    have blocked : (Plan.ofGraph g).admission q.standing e.target = .blocked :=
      Plan.admission_eq_blocked_iff.mpr
        ⟨fun d hd => Bool.eq_false_iff.mpr (pruned d hd), e, incoming, fault⟩
    have placed := h.placed e.target mem
    unfold Progress.Placed at placed
    rw [blocked] at placed
    exact .inr ⟨blocked, by rw [placed]; rfl⟩

/-- On every way from a node with a failure behind it to an output node some node is pruned. -/
theorem Reached.pruned_on_way (h : Reached (.ofGraph g) exec done q)
    (all : ∀ id ∈ g.functionalIds, id ∈ done) {path : List String} {source output : String}
    (fault : (q.standing source).isFault = true) (chain : List.IsChain g.Leads (source :: path))
    (last : path.getLast? = some output) (ends : (Plan.ofGraph g).isOutput output = true) :
    ∃ id ∈ path, id ∈ done ∧ (Plan.ofGraph g).admission q.standing id = .pruned := by
  induction path generalizing source with
  | nil => cases last
  | cons id rest ih =>
      obtain ⟨leads, chain⟩ := List.isChain_cons_cons.mp chain
      have known : id ∈ done := by
        obtain ⟨e, edge, -, rfl⟩ := leads
        exact all e.target (Graph.target_mem_functionalIds edge)
      rcases h.pruned_or_blocked fault leads known with pruned | ⟨blocked, fault'⟩
      · exact ⟨id, List.mem_cons_self, known, pruned⟩
      · cases rest with
        | nil =>
            -- A blocked output node would have failed the run.
            obtain rfl : id = output := by simpa using last
            have spared := h.spared id known
            rw [Plan.failsAt, ends, blocked] at spared
            cases spared
        | cons next rest =>
            rw [List.getLast?_cons_cons] at last
            obtain ⟨i, mem, found⟩ := ih fault' chain last
            exact ⟨i, List.mem_cons_of_mem _ mem, found⟩

theorem Reached.ruled_out (h : Reached (.ofGraph g) exec done q) {id : String} (mem : id ∈ done)
    (pruned : (Plan.ofGraph g).admission q.standing id = .pruned) :
    q.state.hasStatus id .skipped = true ∧
      ∃ condition, g.RulesOut q.state condition id := by
  have placed := h.placed id mem
  unfold Progress.Placed at placed
  rw [pruned] at placed
  refine ⟨Progress.hasStatus_skipped placed, ?_⟩
  obtain ⟨e, he, prunes⟩ := Plan.admission_eq_pruned_iff.mp pruned
  obtain ⟨edge, rfl⟩ := Plan.mem_incoming.mp he
  obtain ⟨port, selected, condition, unfed⟩ := Plan.isPruned_iff.mp prunes
  obtain ⟨s, found, status, rfl⟩ := Progress.standing_eq_succeeded selected
  obtain ⟨n, node, kind⟩ := Plan.isCondition_iff.mp condition
  obtain ⟨functional, name⟩ := Plan.mem_functionalNodes_of_get? node
  refine ⟨e.source, ⟨n, functional, name, kind⟩, ⟨e, edge, rfl, rfl⟩, s, found, status, ?_⟩
  intro d hd source target through
  rw [← Bool.not_eq_true, Plan.feeds_iff] at unfed
  exact unfed ⟨d, hd, source, target, through⟩

open Scheduler in
/-- Where a run succeeds, a condition has ruled out some node on every way from a failed node to an
output node. -/
theorem failure_absorbed {setup : Setup} {r : RunResult} {q : Progress}
    (valid : g.check.valid = true) (run : runFrom (.ofGraph g) exec setup = (.ok r, q))
    (succeeded : r.status = .succeeded) {failed output : String} {path : List String}
    (ended : q.state.hasStatus failed .failed = true)
    (chain : List.IsChain g.Leads (failed :: path)) (last : path.getLast? = some output)
    (ends : ∃ n ∈ g.functionalNodes, n.id = output ∧ n.kind = .output) :
    ∃ id ∈ path, q.state.hasStatus id .skipped = true ∧
      ∃ condition, g.RulesOut q.state condition id := by
  have runnable := Graph.runnable_of_valid valid
  obtain ⟨p, -, -, -, -, course, end'⟩ := runFrom_cases runnable exec setup
  rw [run] at end'
  obtain ⟨t, reached, state⟩ : ∃ t : Progress,
      Reached (.ofGraph g) exec g.staging.stages.flatten t ∧ q.state = t.state := by
    generalize courseFrom (.ofGraph g) exec setup = ended at course end'
    cases end' with
    | succeeded found copied => exact ⟨_, course.reached, rfl⟩
    | unreached _ => cases succeeded
    | cancelled => cases succeeded
    | failed => cases succeeded
  have all : ∀ id ∈ g.functionalIds, id ∈ g.staging.stages.flatten := fun id mem =>
    runnable.stages_perm.mem_iff.mpr mem
  rw [state] at ended ⊢
  have fault : (t.standing failed).isFault = true := by
    rw [Progress.standing_eq_failed_iff.mpr (RunState.hasStatus_iff.mp ended)]
    rfl
  have isOutput : (Plan.ofGraph g).isOutput output = true := by
    obtain ⟨n, functional, rfl, kind⟩ := ends
    exact Plan.isOutput_iff.mpr ⟨n, Plan.get?_ofGraph runnable functional, kind⟩
  obtain ⟨id, mem, known, pruned⟩ := reached.pruned_on_way all fault chain last isOutput
  exact ⟨id, mem, reached.ruled_out known pruned⟩

/-- A graph in which a condition decides whether a node is run that needs a tool. -/
def detour : Graph where
  id := none
  name := none
  nodes :=
    [⟨"in", none, [], .input ⟨none, []⟩⟩,
     ⟨"choice", none, [], .condition ⟨⟨"true", [], .all⟩, [], "false"⟩⟩,
     ⟨"risk", none, [], .tool ⟨"server", "tool", []⟩⟩,
     ⟨"join", none, [], .template ⟨""⟩⟩,
     ⟨"out", none, [], .output ⟨[]⟩⟩]
  edges :=
    [⟨"in", "choice", none, none, none⟩, ⟨"in", "risk", none, none, none⟩,
     ⟨"risk", "join", none, none, none⟩, ⟨"choice", "join", some "true", none, none⟩,
     ⟨"choice", "out", some "false", none, none⟩, ⟨"join", "out", none, none, none⟩]
  metadata := []

/-- What becomes of a node where tools fail and conditions select a given port. -/
def failingOutcome (port : String) (n : Node) : Outcome :=
  match n.kind with
  | .condition => .decision ⟨port, none, []⟩
  | .tool => .failure ⟨n.id, n.kind.name, .said "down", true⟩
  | _ => .value (.text n.id)

def failingTool (port : String) (delay : String → Nat) : Executor := fun n _ =>
  ⟨none, delay n.id, none, failingOutcome port n⟩

def evenly : String → Nat := fun _ => 0

def plainSetup : Setup := ⟨"run", .null, none, true, fun _ => ""⟩

open Scheduler in
theorem failure_absorbed_detour :
    ∃ r q, runFrom (.ofGraph detour) (failingTool "false" evenly) plainSetup = (.ok r, q) ∧
      ∃ id ∈ ["join", "out"], q.state.hasStatus id .skipped = true ∧
        ∃ condition, detour.RulesOut q.state condition id := by
  have valid : detour.check.valid = true := by decide +kernel
  have chain : List.IsChain detour.Leads ["risk", "join", "out"] := by decide +kernel
  have ends : ∃ n ∈ detour.functionalNodes, n.id = "out" ∧ n.kind = .output := by decide +kernel
  have status : (runFrom (.ofGraph detour) (failingTool "false" evenly)
      plainSetup).1.toOption.map RunResult.status = some .succeeded := by decide +kernel
  have failed : (runFrom (.ofGraph detour) (failingTool "false" evenly)
      plainSetup).2.state.hasStatus "risk" .failed = true := by decide +kernel
  cases run : runFrom (.ofGraph detour) (failingTool "false" evenly) plainSetup with
  | mk result q =>
      rw [run] at status failed
      cases result with
      | error stop => cases status
      | ok r =>
          have succeeded : r.status = .succeeded := by simpa [Except.toOption] using status
          exact ⟨r, q, rfl, failure_absorbed valid run succeeded failed chain rfl ends⟩

end Workflow
