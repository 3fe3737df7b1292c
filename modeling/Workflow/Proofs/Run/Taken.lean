import Workflow.Proofs.Graph.Way
import Workflow.Proofs.Run.Absorption
import Workflow.Proofs.Run.Passage

/-! A branch that is not taken never runs. Whatever is started lies at the end of a way from the
input node that was taken edge by edge. -/

namespace Workflow

/-- An edge was taken: its source had succeeded by some events, and if that is a condition, the edge
leaves it through the port that it selected. -/
structure Progress.Took (q : Progress) (g : Graph) (before : List TraceEvent) (d : Edge) :
    Prop where
  succeeded : ∃ e ∈ before, e.nodeId = d.source ∧ e.status = .succeeded
  selected : ∃ s, q.state.get? d.source = some s ∧ s.status = .succeeded ∧
    ((Plan.ofGraph g).isCondition d.source = true → d.sourcePort = s.selectedPort?)

/-- No run goes along an edge: its source failed or was skipped, or it is a condition that selected
another port. -/
def Progress.Closed (q : Progress) (g : Graph) (d : Edge) : Prop :=
  ∃ s, q.state.get? d.source = some s ∧
    (s.status = .failed ∨ s.status = .skipped ∨
      (s.status = .succeeded ∧ (Plan.ofGraph g).isCondition d.source = true ∧
        d.sourcePort ≠ s.selectedPort?))

def Progress.Led (q : Progress) (g : Graph) (before : List TraceEvent) (id : String) : Prop :=
  ∃ input ∈ g.functionalNodes, input.kind = .input ∧
    ∃ way, g.Way input.id way id ∧ ∀ d ∈ way, q.Took g before d

/-- Edges that were taken lead to every node that was started, in front of its first event that
tells so, and to every node that made a call. -/
structure Progress.Sourced (q : Progress) (g : Graph) : Prop where
  events : ∀ before e after, q.trace.events = before ++ e :: after →
    e.status ≠ .pending → e.status ≠ .skipped → q.Led g before e.nodeId
  calls : ∀ c ∈ q.calls, q.Led g q.trace.events c.1

variable {g : Graph} {exec : Executor} {may : String → NodeStatus → Prop}
  {done stage : List String} {p q : Progress} {before after : List TraceEvent} {id : String}

theorem Progress.Led.mono (h : p.Led g before id) (more : ∀ e ∈ before, e ∈ after) :
    p.Led g after id := by
  obtain ⟨input, functional, kind, way, leads, taken⟩ := h
  refine ⟨input, functional, kind, way, leads, fun d mem => ?_⟩
  obtain ⟨⟨e, old, node, status⟩, selected⟩ := taken d mem
  exact ⟨⟨e, more e old, node, status⟩, selected⟩

/-- What was taken stays taken where the nodes that succeeded stay as they are. -/
theorem Progress.Led.of_kept (h : p.Led g before id)
    (kept : ∀ {i s}, p.state.get? i = some s → s.status = .succeeded → q.state.get? i = some s) :
    q.Led g before id := by
  obtain ⟨input, functional, kind, way, leads, taken⟩ := h
  refine ⟨input, functional, kind, way, leads, fun d mem => ?_⟩
  obtain ⟨succeeded, s, found, ended, port⟩ := taken d mem
  exact ⟨succeeded, s, kept found ended, ended, port⟩

theorem Progress.Led.later (h : p.Led g before id) (edits : p.Edits (.ofGraph g) exec may q) :
    q.Led g before id :=
  h.of_kept fun found ended => edits.ended found (by rw [ended]; rfl)

theorem Progress.Took.not_closed {d : Edge} (h : q.Took g before d) : ¬q.Closed g d := by
  rintro ⟨s, found, closed⟩
  obtain ⟨s', found', ended, port⟩ := h.selected
  obtain rfl : s = s' := Option.some.inj (found.symm.trans found')
  rcases closed with failed | skipped | ⟨-, condition, other⟩
  · rw [ended] at failed
    cases failed
  · rw [ended] at skipped
    cases skipped
  · exact other (port condition)

/-- The trace of a node that succeeded tells of its start and of its success. -/
theorem Reached.history_of_succeeded (h : Reached (.ofGraph g) exec done p) {port : Option String}
    (stands : p.standing id = .succeeded port) :
    p.trace.history id = [.pending, .ready, .running, .succeeded] := by
  have known := h.within id (h.mem_done (by simp [stands]))
  rw [h.history, if_pos known, stands]
  rfl

namespace Progress.Sourced

theorem led_of_succeeded (h : p.Sourced g) (reached : Reached (.ofGraph g) exec done p)
    {port : Option String} (stands : p.standing id = .succeeded port) :
    p.Led g p.trace.events id := by
  have started : NodeStatus.ready ∈ p.trace.history id := by
    rw [reached.history_of_succeeded stands]
    simp
  obtain ⟨e, mem, rfl, status⟩ := Recorder.mem_history.mp started
  obtain ⟨before, after, split⟩ := List.append_of_mem mem
  refine (h.events before e after split (by simp [status]) (by simp [status])).mono fun d old => ?_
  rw [split]
  exact List.mem_append_left _ old

/-- Taken edges lead to a node that the rule of admission executes. -/
theorem led_of_executed (h : p.Sourced g) (reached : Reached (.ofGraph g) exec done p)
    (valid : g.check.valid = true) (known : id ∈ g.functionalIds)
    (executed : (Plan.ofGraph g).admission p.standing id = .executed) :
    p.Led g p.trace.events id := by
  rcases Plan.live_of_executed executed with alone | ⟨d, mem, live⟩
  · obtain ⟨n, functional, rfl⟩ := Graph.mem_functionalIds.mp known
    have input : n.kind = .input := by
      by_contra other
      obtain ⟨e, edge, target⟩ := Graph.fed_of_valid valid functional other
      have fed : e ∈ (Plan.ofGraph g).incoming n.id := Plan.mem_incoming.mpr ⟨edge, target⟩
      rw [alone] at fed
      exact absurd fed List.not_mem_nil
    exact ⟨n, functional, input, [], rfl, fun _ mem => absurd mem List.not_mem_nil⟩
  · obtain ⟨edge, rfl⟩ := Plan.mem_incoming.mp mem
    obtain ⟨port, stands, through⟩ := Plan.isLive_iff.mp live
    obtain ⟨input, functional, kind, way, leads, taken⟩ := h.led_of_succeeded reached stands
    have ended : NodeStatus.succeeded ∈ p.trace.history d.source := by
      rw [reached.history_of_succeeded stands]
      simp
    obtain ⟨s, found, status, rfl⟩ := Progress.standing_eq_succeeded stands
    have now : p.Took g p.trace.events d :=
      ⟨Recorder.mem_history.mp ended, s, found, status, through⟩
    refine ⟨input, functional, kind, way ++ [d], leads.concat edge, fun e mem => ?_⟩
    rcases List.mem_append.mp mem with old | new
    · exact taken e old
    · exact List.mem_singleton.mp new ▸ now

/-- One more stage starts nodes that taken edges lead to, and no others. -/
theorem advance (h : p.Sourced g) (reached : Reached (.ofGraph g) exec done p)
    (follows : (Plan.ofGraph g).Follows done stage) (valid : g.check.valid = true)
    (edits : p.Edits (.ofGraph g) exec ((Plan.ofGraph g).Allows p.standing stage) q) :
    q.Sourced g := by
  obtain ⟨new, grown, told⟩ := edits.events
  obtain ⟨made, more, noted⟩ := edits.calls
  have led : ∀ {id status}, (Plan.ofGraph g).Allows p.standing stage id status →
      status ≠ .skipped → q.Led g p.trace.events id := by
    rintro id status ⟨mem, executed | skipped⟩ other
    · have known := Plan.mem_keys_ofGraph.mp (follows.known id mem)
      exact (h.led_of_executed reached valid known executed).later edits
    · exact absurd skipped other
  constructor
  · intro before e after split announced skipped
    rw [grown] at split
    rcases List.append_eq_append_iff.mp split with ⟨rest, rfl, later⟩ | ⟨rest, old, later⟩
    · have mem : e ∈ new := by simp [later]
      exact (led (told e mem) skipped).mono fun d old => List.mem_append_left _ old
    · cases rest with
      | nil =>
          have same : e :: after = new := later
          have mem : e ∈ new := same ▸ List.mem_cons_self
          rw [List.append_nil] at old
          exact old ▸ led (told e mem) skipped
      | cons d rest =>
          obtain ⟨rfl, -⟩ := List.cons_eq_cons.mp later
          exact (h.events before e rest old announced skipped).later edits
  · intro c mem
    rw [grown]
    rw [more] at mem
    rcases List.mem_append.mp mem with old | now
    · exact ((h.calls c old).later edits).mono fun d old => List.mem_append_left _ old
    · exact (led (noted c now) (by decide)).mono fun d old => List.mem_append_left _ old

theorem close (h : q.Sourced g) (t : Trace) : (q.close t).Sourced g where
  events before e after split announced skipped :=
    (h.events before e after split announced skipped).of_kept fun found _ => found
  calls c mem := (h.calls c mem).of_kept fun found _ => found

theorem start {setup : Setup} (edits : (Progress.start (.ofGraph g) setup).Edits (.ofGraph g) exec
    (fun _ status => status = .pending) p) : p.Sourced g := by
  obtain ⟨new, grown, told⟩ := edits.events
  obtain ⟨made, more, noted⟩ := edits.calls
  constructor
  · intro before e after split announced
    have mem : e ∈ p.trace.events := by simp [split]
    rw [grown] at mem
    exact absurd (told e mem) announced
  · intro c mem
    rw [more] at mem
    cases noted c mem

end Progress.Sourced

open Scheduler in
/-- Whatever becomes of a run of a valid graph: edges that were taken lead from the input node to
every node that becomes ready, in front of that event. Where an edge of every way to a node is
closed, the node never starts and makes no call. -/
theorem branch_not_taken (valid : g.check.valid = true) {setup : Setup}
    {result : Except Stop RunResult} (run : runFrom (.ofGraph g) exec setup = (result, q)) :
    (∀ r, result = .ok r → r.trace.events = q.trace.events) ∧
      (∀ before e after, q.trace.events = before ++ e :: after → e.status = .ready →
        ∃ input ∈ g.functionalNodes, input.kind = .input ∧
          ∃ way, g.Way input.id way e.nodeId ∧ ∀ d ∈ way, q.Took g before d) ∧
      ∀ id, (∀ input ∈ g.functionalNodes, input.kind = .input →
          ∀ way, g.Way input.id way id → ∃ d ∈ way, q.Closed g d) →
        (∀ e ∈ q.trace.events, e.nodeId = id → e.status = .pending ∨ e.status = .skipped) ∧
          ∀ c ∈ q.calls, c.1 ≠ id := by
  obtain ⟨p, -, -, -, -, -, end'⟩ :=
    runFrom_cases (Graph.runnable_of_valid valid) exec setup
  have sourced : (courseFrom (.ofGraph g) exec setup).2.Sourced g :=
    courseFrom_keeps (I := fun q => q.Sourced g)
      (fun reached follows edits sourced => sourced.advance reached follows valid edits)
      fun _ edits => .start edits
  rw [run] at end'
  replace sourced : q.Sourced g := by
    rcases end'.closes with same | ⟨t, same⟩
    · obtain rfl : q = _ := same
      exact sourced
    · obtain rfl : q = _ := same
      exact sourced.close t
  have unled : ∀ {id before}, (∀ input ∈ g.functionalNodes, input.kind = .input →
      ∀ way, g.Way input.id way id → ∃ d ∈ way, q.Closed g d) → ¬q.Led g before id := by
    rintro id before closed ⟨input, functional, kind, way, leads, taken⟩
    obtain ⟨d, mem, shut⟩ := closed input functional kind way leads
    exact (taken d mem).not_closed shut
  refine ⟨?_, ?_, fun id closed => ⟨?_, ?_⟩⟩
  · rintro r rfl
    exact end'.events
  · intro before e after split ready
    exact sourced.events before e after split (by simp [ready]) (by simp [ready])
  · rintro e mem rfl
    by_contra other
    rw [not_or] at other
    obtain ⟨before, after, split⟩ := List.append_of_mem mem
    exact unled closed (sourced.events before e after split other.1 other.2)
  · rintro c mem rfl
    exact unled closed (sourced.calls c mem)

open Scheduler in
theorem branch_not_taken_detour :
    ∃ result q, runFrom (.ofGraph detour) (failingTool "false" evenly) plainSetup = (result, q) ∧
      (∀ e ∈ q.trace.events, e.nodeId = "join" → e.status = .pending ∨ e.status = .skipped) ∧
      ∀ c ∈ q.calls, c.1 ≠ "join" := by
  have valid : detour.check.valid = true := by decide +kernel
  have edges : ∀ d ∈ detour.functionalEdges, d.target = "join" →
      d.source = "risk" ∨ d.source = "choice" ∧ d.sourcePort = some "true" := by decide +kernel
  have inputs : ∀ n ∈ detour.functionalNodes, n.kind = .input → n.id ≠ "join" := by decide +kernel
  have failed : (runFrom (.ofGraph detour) (failingTool "false" evenly)
      plainSetup).2.state.hasStatus "risk" .failed = true := by decide +kernel
  have decided : ((runFrom (.ofGraph detour) (failingTool "false" evenly)
      plainSetup).2.state.get? "choice").any (fun s => s.status = .succeeded &&
        s.selectedPort? = some "false") = true := by decide +kernel
  cases run : runFrom (.ofGraph detour) (failingTool "false" evenly) plainSetup with
  | mk result q =>
      rw [run] at failed decided
      obtain ⟨-, -, unstarted⟩ := branch_not_taken valid run
      refine ⟨result, q, rfl, unstarted "join" ?_⟩
      intro input functional kind way leads
      obtain ⟨d, mem, edge, target⟩ := leads.exists_last (inputs input functional kind)
      refine ⟨d, mem, ?_⟩
      rcases edges d edge target with risk | ⟨choice, port⟩
      · obtain ⟨s, found, status⟩ := RunState.hasStatus_iff.mp failed
        exact ⟨s, risk ▸ found, .inl status⟩
      · obtain ⟨s, found, selected⟩ := Option.any_eq_true _ _ |>.mp decided
        simp only [Bool.and_eq_true, decide_eq_true_eq] at selected
        refine ⟨s, choice ▸ found, .inr (.inr ⟨selected.1, ?_, ?_⟩)⟩
        · rw [choice]
          decide +kernel
        · rw [port, selected.2]
          decide

end Workflow
