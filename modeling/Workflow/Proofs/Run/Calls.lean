import Workflow.Proofs.Run.Barrier
import Workflow.Proofs.Run.Reporting

/-! The calls of a run. A node that runs calls out when all that its call needs is there, and then
once; nothing else calls out. The calls are made stage by stage. -/

namespace Workflow

/-- A node calls out: it asks for a completion, invokes a registered tool or sends a request, with a
capability for it at hand and all parts of the call rendered from what the node sees. -/
def Node.CallsOut (n : Node) (caps : Capabilities) (inputs : Inputs) (call : Call) : Prop :=
  match n.config with
  | .llm c => caps.completion.isSome = true ∧ ∃ prompt options,
      Node.completionRequest c inputs = .ok (prompt, options) ∧
        call = .complete prompt c.model options
  | .tool c => ∃ registry, caps.tools = some registry ∧
      (∃ tool ∈ registry.tools, tool.server = c.server ∧ tool.name = c.tool) ∧ ∃ arguments,
        Node.renderTable inputs c.arguments = .ok arguments ∧
          call = .invoke c.server c.tool arguments
  | .http c => caps.http.isSome = true ∧ ∃ url headers body,
      Node.httpRequest c inputs = .ok (url, headers, body) ∧
        call = .request c.method url headers body
  | _ => False

section

variable {n : Node} {caps : Capabilities} {inputs : Inputs} {call : Call}

theorem ToolRegistry.find_isOk_iff {registry : ToolRegistry} {server name : String} :
    (∃ tool, registry.find server name = .ok tool) ↔
      ∃ tool ∈ registry.tools, tool.server = server ∧ tool.name = name := by
  unfold find
  cases found : registry.tools.find? fun t => t.server == server && t.name == name with
  | some tool =>
      refine ⟨fun _ => ⟨tool, List.mem_of_find?_eq_some found, ?_⟩, fun _ => ⟨tool, rfl⟩⟩
      simpa using List.find?_some found
  | none =>
      constructor
      · rintro ⟨tool, ok⟩
        dsimp only at ok
        split at ok <;> cases ok
      · rintro ⟨tool, mem, rfl, rfl⟩
        exact absurd (List.find?_eq_none.mp found tool mem) (by simp)

theorem Node.runLlm_call {c : LlmConfig} :
    (n.runLlm c inputs caps).call = some call ↔ caps.completion.isSome = true ∧
      ∃ prompt options, completionRequest c inputs = .ok (prompt, options) ∧
        call = .complete prompt c.model options := by
  unfold runLlm
  cases caps.completion with
  | none => simp [Execution.immediate]
  | some complete =>
      cases completionRequest c inputs with
      | error f => simp [rendered, Execution.immediate]
      | ok request =>
          obtain ⟨prompt, options⟩ := request
          simp [rendered, Execution.calling, eq_comm]

theorem Node.runTool_call {c : ToolConfig} :
    (n.runTool c inputs caps).call = some call ↔ ∃ registry, caps.tools = some registry ∧
      (∃ tool ∈ registry.tools, tool.server = c.server ∧ tool.name = c.tool) ∧
        ∃ arguments, renderTable inputs c.arguments = .ok arguments ∧
          call = .invoke c.server c.tool arguments := by
  unfold runTool
  cases caps.tools with
  | none => simp [Execution.immediate]
  | some registry =>
      simp only [Option.some.injEq, exists_eq_left', ← ToolRegistry.find_isOk_iff]
      cases renderTable inputs c.arguments with
      | error f => simp [rendered, Execution.immediate]
      | ok arguments =>
          cases registry.find c.server c.tool with
          | error f => simp [rendered, Execution.immediate]
          | ok tool => simp [rendered, Execution.calling, eq_comm]

theorem Node.runHttp_call {c : HttpConfig} :
    (n.runHttp c inputs caps).call = some call ↔ caps.http.isSome = true ∧
      ∃ url headers body, httpRequest c inputs = .ok (url, headers, body) ∧
        call = .request c.method url headers body := by
  unfold runHttp
  cases caps.http with
  | none => simp [Execution.immediate]
  | some request =>
      cases httpRequest c inputs with
      | error f => simp [rendered, Execution.immediate]
      | ok made =>
          obtain ⟨url, headers, body⟩ := made
          simp [rendered, Execution.calling, eq_comm]

theorem Node.execute_call_iff :
    (n.execute inputs caps).call = some call ↔ n.CallsOut caps inputs call := by
  have still : ∀ {α : Type} (x : Except Fault α) (f : α → Outcome),
      (rendered x fun a => .immediate (f a)).call = none := by
    intro α x f
    cases x <;> rfl
  unfold execute CallsOut
  cases n.config with
  | llm c => exact runLlm_call
  | tool c => exact runTool_call
  | http c => exact runHttp_call
  | condition c => simp [still]
  | template c => simp [still]
  | input c => simp [Execution.immediate]
  | output c => simp [Execution.immediate]
  | note c => simp [Execution.immediate]

theorem Node.not_callsOut (mute : n.kind ∈ [.input, .output, .condition, .template]) :
    ¬ n.CallsOut caps inputs call := by
  unfold Node.kind at mute
  unfold CallsOut
  cases config : n.config <;> simp [config, NodeConfig.kind] at mute ⊢

end

namespace Scheduler

variable {g : Graph} {plan : Plan} {exec : Executor} {payload : Value} {setup : Setup}
  {stage : List String} {stages : List (List String)} {p q : Progress}
  {told : List (String × NodeStatus)} {calls : List (String × Call)} {id : String}

theorem called_fst {x : String × Inputs} {c : String × Call}
    (h : called plan exec x = some c) : c.1 = x.1 := by
  obtain ⟨n, -, made⟩ := Option.bind_eq_some_iff.mp h
  obtain ⟨call, -, rfl⟩ := Option.map_eq_some_iff.mp made
  rfl

/-- The calls are those of admitted nodes, in the order in which these start. -/
theorem called_sublist (admitted : List (String × Inputs)) :
    ((admitted.filterMap (called plan exec)).map fun c => (c.1, NodeStatus.running)).Sublist
      (admitted.map fun x => (x.1, .running)) := by
  induction admitted with
  | nil => exact .slnil
  | cons x rest ih =>
      rw [List.filterMap_cons, List.map_cons]
      cases made : called plan exec x with
      | none => exact ih.cons _
      | some c =>
          dsimp only
          rw [List.map_cons, called_fst made]
          exact ih.cons_cons _

theorem filter_called {admitted : List (String × Inputs)} (nodup : (admitted.map Prod.fst).Nodup)
    {x : String × Inputs} (mem : x ∈ admitted) :
    ((admitted.filterMap (called plan exec)).filter fun c => c.1 = x.1) =
      (called plan exec x).toList := by
  have others : ∀ {l : List (String × Inputs)}, x.1 ∉ l.map Prod.fst →
      ((l.filterMap (called plan exec)).filter fun c => c.1 = x.1) = [] := by
    intro l apart
    refine List.filter_eq_nil_iff.mpr ?_
    intro c made same
    obtain ⟨y, here, call⟩ := List.mem_filterMap.mp made
    exact apart (of_decide_eq_true same ▸ called_fst call ▸ List.mem_map_of_mem here)
  induction admitted with
  | nil => cases mem
  | cons y rest ih =>
      obtain ⟨fresh, nodup⟩ := List.nodup_cons.mp nodup
      rw [List.filterMap_cons]
      rcases List.mem_cons.mp mem with rfl | later
      · cases made : called plan exec x with
        | none => exact others fresh
        | some c =>
            dsimp only
            rw [List.filter_cons, if_pos (decide_eq_true (called_fst made)), others fresh]
            rfl
      · have apart : y.1 ≠ x.1 := fun same => fresh (same ▸ List.mem_map_of_mem later)
        cases made : called plan exec y with
        | none => exact ih nodup later
        | some c =>
            dsimp only
            have other : ¬ decide (c.1 = x.1) = true := by
              rw [decide_eq_true_iff, called_fst made]
              exact apart
            rw [List.filter_cons, if_neg other]
            exact ih nodup later

theorem Page.calls_sublist (h : Page plan exec payload p stage told calls) :
    (calls.map fun c => (c.1, NodeStatus.running)).Sublist told := by
  cases h with
  | shut => exact .slnil
  | opened enters nodup within entered ended =>
      exact (called_sublist _).trans
        ((List.sublist_append_right _ _).trans (List.sublist_append_left _ _))

/-- Each call comes with the start of its node, and calls come in the order of these starts. -/
theorem Chronicle.calls_sublist (h : Chronicle plan exec payload p stages told calls) :
    (calls.map fun c => (c.1, NodeStatus.running)).Sublist told := by
  induction h with
  | blank => exact .slnil
  | last unasked page => exact page.calls_sublist
  | next unasked page ran whole goesOn ih =>
      rw [List.map_append]
      exact page.calls_sublist.append ih

theorem Chronicle.running_of_call (h : Chronicle plan exec payload p stages told calls) :
    ∀ c ∈ calls, (c.1, .running) ∈ told := fun _ mem =>
  h.calls_sublist.subset (List.mem_map_of_mem mem)

theorem Page.enters (h : Page plan exec payload p stage told calls)
    (running : (id, .running) ∈ told) :
    ∃ admitted s inputs, (enter plan payload stage).on p = (.ok admitted, s) ∧
      (id, inputs) ∈ admitted ∧
      (calls.filter fun c => c.1 = id) = (called plan exec (id, inputs)).toList := by
  cases h with
  | shut => exact absurd running List.not_mem_nil
  | @opened admitted s entries ends enters nodup within entered ended =>
      obtain ⟨⟨_, inputs⟩, chosen, rfl⟩ :=
        List.mem_map.mp ((running_mem_iff entered ended).mp running)
      exact ⟨admitted, s, inputs, enters, chosen, filter_called nodup chosen⟩

/-- A node that runs has entered its stage, and its calls are those of its execution with what it
saw then. -/
theorem Chronicle.enters (h : Chronicle plan exec payload p stages told calls)
    (nodup : stages.flatten.Nodup) (running : (id, .running) ∈ told) :
    ∃ k r admitted s inputs,
      (runStages plan exec payload (stages.take k)).on p = (.ok none, r) ∧ r.signal = none ∧
      (enter plan payload (stages.getD k [])).on r = (.ok admitted, s) ∧
      (id, inputs) ∈ admitted ∧
      (calls.filter fun c => c.1 = id) = (called plan exec (id, inputs)).toList := by
  induction h with
  | blank => exact absurd running List.not_mem_nil
  | @last p stage rest told calls unasked page =>
      obtain ⟨admitted, s, inputs, enters, mem, made⟩ := page.enters running
      exact ⟨0, p, admitted, s, inputs, rfl, unasked, enters, mem, made⟩
  | @next p q stage rest told later calls others unasked page ran whole goesOn ih =>
      rw [List.flatten_cons] at nodup
      obtain ⟨-, nodup, apart⟩ := List.nodup_append.mp nodup
      rw [List.filter_append]
      -- The node stands in one of the two parts, and all calls of the other are of other nodes.
      rcases List.mem_append.mp running with now | behind
      · obtain ⟨admitted, s, inputs, enters, mem, made⟩ := page.enters now
        have none' : (others.filter fun c => c.1 = id) = [] := by
          refine List.filter_eq_nil_iff.mpr ?_
          intro c call same
          have here := (goesOn.within _ (goesOn.running_of_call c call)).1
          exact apart id (page.within _ now).1 c.1 here (of_decide_eq_true same).symm
        rw [none', List.append_nil]
        exact ⟨0, p, admitted, s, inputs, rfl, unasked, enters, mem, made⟩
      · obtain ⟨k, r, admitted, s, inputs, first, unasked', enters, mem, made⟩ := ih nodup behind
        have none' : (calls.filter fun c => c.1 = id) = [] := by
          refine List.filter_eq_nil_iff.mpr ?_
          intro c call same
          have here := (page.within _ (page.calls_sublist.subset (List.mem_map_of_mem call))).1
          exact apart c.1 here id (goesOn.within _ behind).1 (of_decide_eq_true same)
        rw [none', List.nil_append]
        refine ⟨k + 1, r, admitted, s, inputs, ?_, unasked', enters, mem, made⟩
        rw [List.take_succ_cons, runStages_cons, unasked]
        dsimp only
        rw [RunM.on_bind_ok ran]
        exact first

theorem Chronicle.calls_nodup (h : Chronicle plan exec payload p stages told calls)
    (nodup : stages.flatten.Nodup) : (calls.map Prod.fst).Nodup := by
  refine List.nodup_iff_count_le_one.mpr ?_
  intro id
  by_cases made : id ∈ calls.map Prod.fst
  · obtain ⟨c, mem, rfl⟩ := List.mem_map.mp made
    obtain ⟨-, -, -, -, inputs, -, -, -, -, only⟩ := h.enters nodup (h.running_of_call c mem)
    have length : (calls.map Prod.fst).count c.1 = (calls.filter fun d => d.1 = c.1).length := by
      rw [List.count, List.countP_map, List.countP_eq_length_filter]
      rfl
    rw [length, only]
    cases called plan exec (c.1, inputs) <;> simp
  · rw [List.count_eq_zero_of_not_mem made]
    exact Nat.zero_le 1

/-- In a run the node enters its stage, and this is what it sees then. -/
def EntersWith (plan : Plan) (exec : Executor) (setup : Setup) (id : String) (inputs : Inputs) :
    Prop :=
  ∃ k admitted s, (enterAt plan exec setup.payload k).on (.start plan setup) = (.ok admitted, s) ∧
    (id, inputs) ∈ admitted

theorem entersWith_of_enters {r s : Progress} {admitted : List (String × Inputs)} {inputs : Inputs}
    {k : Nat}
    (start : (recordPending (Plan.ofGraph g).nodes).on (.start (.ofGraph g) setup) = (.ok (), p))
    (first : (runStages (.ofGraph g) exec setup.payload (g.staging.stages.take k)).on p =
      (.ok none, r))
    (unasked : r.signal = none)
    (enters : (enter (.ofGraph g) setup.payload (g.staging.stages.getD k [])).on r =
      (.ok admitted, s))
    (mem : (id, inputs) ∈ admitted) : EntersWith (.ofGraph g) exec setup id inputs := by
  refine ⟨k, admitted, s, ?_, mem⟩
  have staged : (runStages (.ofGraph g) exec setup.payload
      ((Plan.ofGraph g).graph.staging.stages.take k)).on p = (.ok none, r) := first
  rw [enterAt, RunM.on_bind_ok start, RunM.on_bind_ok staged]
  dsimp only
  rw [RunM.on_bind, RunM.on_get]
  dsimp only
  rw [unasked]
  exact enters

end Scheduler

theorem Trace.mem_statuses {t : Trace} {id : String} {status : NodeStatus} :
    status ∈ t.statuses id ↔ (id, status) ∈ t.events.map fun e => (e.nodeId, e.status) := by
  simp [statuses, and_assoc]

namespace Engine

open Scheduler

/-- What a log of calls says of a run and its trace: a node calls at most once and only where it
runs, so that nodes of some kinds never do; a node that runs makes the call that what it sees lets
it make; and the calls of a stage stand in front of those of a later one. -/
structure CallLog (caps : Capabilities) (g : Graph) (setup : Setup) (trace : Trace)
    (calls : List (String × Call)) : Prop where
  once : (calls.map Prod.fst).Nodup
  running : ∀ c ∈ calls, (∃ n ∈ g.functionalNodes, n.id = c.1) ∧ .running ∈ trace.statuses c.1
  mute : ∀ n ∈ g.functionalNodes, n.kind ∈ [.input, .output, .condition, .template] →
    ∀ c ∈ calls, c.1 ≠ n.id
  made : ∀ n ∈ g.functionalNodes, .running ∈ trace.statuses n.id →
    ∃ inputs, EntersWith (.ofGraph g) caps.executor setup n.id inputs ∧
      ∀ call, (calls.filter fun c => c.1 = n.id) = [(n.id, call)] ↔ n.CallsOut caps inputs call
  staged : ∀ m n, m < n → InFront (fun c => InStage g.staging.stages m c.1)
    (fun c => InStage g.staging.stages n c.1) calls

variable {caps : Capabilities} {g : Graph} {setup : Setup} {res : RunResult}
  {calls : List (String × Call)}

theorem run_ok (ran : run caps g setup = (.ok res, calls)) :
    g.check.valid = true ∧ (runFrom (.ofGraph g) caps.executor setup).1 = .ok res ∧
      (runFrom (.ofGraph g) caps.executor setup).2.calls = calls := by
  have valid : g.check.valid = true := by
    by_contra refused
    rw [run_refused (fun clear => refused (List.isEmpty_iff.mpr clear))] at ran
    cases ran
  rw [run_accepted valid] at ran
  obtain ⟨answer, made⟩ := Prod.mk.inj ran
  refine ⟨valid, ?_, made⟩
  cases result : (runFrom (.ofGraph g) caps.executor setup).1 with
  | error stop =>
      rw [result] at answer
      cases answer
  | ok r =>
      rw [result] at answer
      cases answer
      rfl

/-- In every run that returns, each node that runs calls out at most once, just where all that its
call needs is there, and nothing else calls out. -/
theorem run_calls_once (ran : run caps g setup = (.ok res, calls)) :
    CallLog caps g setup res.trace calls := by
  obtain ⟨valid, returned, logged⟩ := run_ok ran
  have runnable := Graph.runnable_of_valid valid
  have nodup := g.staging_nodup
  obtain ⟨p, starts, told, start, pending, split, chronicle⟩ :=
    courseFrom_chronicle g caps.executor setup
  obtain ⟨-, same, reported⟩ := runFrom_tells g caps.executor setup
  rw [same] at logged
  rw [logged] at chronicle
  -- What stands in front of the stages in the trace is that the nodes are pending.
  have told_iff : ∀ id, .running ∈ res.trace.statuses id ↔ (id, .running) ∈ told := by
    intro id
    rw [Trace.mem_statuses, reported res returned]
    change (id, .running) ∈ (courseFrom (.ofGraph g) caps.executor setup).2.trace.told ↔ _
    rw [split, List.mem_append]
    exact or_iff_right fun old => NodeStatus.noConfusion (pending _ old)
  have makes : ∀ n ∈ g.functionalNodes, .running ∈ res.trace.statuses n.id →
      ∃ inputs, EntersWith (.ofGraph g) caps.executor setup n.id inputs ∧
        (calls.filter fun c => c.1 = n.id) =
          ((n.execute inputs caps).call.map (n.id, ·)).toList := by
    intro n functional running
    obtain ⟨k, r, admitted, s, inputs, first, unasked, enters, mem, only⟩ :=
      chronicle.enters nodup ((told_iff n.id).mp running)
    refine ⟨inputs, entersWith_of_enters start first unasked enters mem, ?_⟩
    rw [only, called, Plan.get?_ofGraph runnable functional]
    rfl
  have running : ∀ c ∈ calls, .running ∈ res.trace.statuses c.1 := fun c mem =>
    (told_iff c.1).mpr (chronicle.running_of_call c mem)
  refine ⟨chronicle.calls_nodup nodup, ?_, ?_, ?_, ?_⟩
  · intro c mem
    have staged := (chronicle.within _ (chronicle.running_of_call c mem)).1
    exact ⟨Graph.mem_functionalIds.mp (runnable.stages_perm.mem_iff.mp staged), running c mem⟩
  · rintro n functional kind c mem same
    obtain ⟨inputs, -, only⟩ := makes n functional (same ▸ running c mem)
    have here : c ∈ calls.filter fun c => c.1 = n.id := List.mem_filter.mpr ⟨mem, by simp [same]⟩
    rw [only] at here
    obtain ⟨call, made, -⟩ := Option.map_eq_some_iff.mp (Option.mem_toList.mp here)
    exact Node.not_callsOut kind (Node.execute_call_iff.mp made)
  · intro n functional running
    obtain ⟨inputs, enters, only⟩ := makes n functional running
    refine ⟨inputs, enters, fun call => ?_⟩
    rw [only, ← Node.execute_call_iff]
    cases (n.execute inputs caps).call <;> simp
  · intro m n less
    have sorted := List.pairwise_map.mp ((chronicle.sorted nodup).sublist chronicle.calls_sublist)
    refine inFront_of_sorted sorted ?_
    intro c _ d _ first second
    rw [moment_of_inStage nodup NodeStatus.noConfusion first,
      moment_of_inStage nodup NodeStatus.noConfusion second]
    dsimp only
    omega

def echoingTool : Capabilities :=
  { Capabilities.none with
    tools := some ⟨[⟨"server", "tool", fun _ arguments => .now (.value (.object arguments)), "", []⟩]⟩ }

theorem run_calls_once_relay :
    ∃ res call, run echoingTool relay plainSetup = (.ok res, [("hold", call)]) ∧
      CallLog echoingTool relay plainSetup res.trace [("hold", call)] := by
  have returned : (run echoingTool relay plainSetup).1.toOption.isSome = true := by decide +kernel
  have called : (run echoingTool relay plainSetup).2.map Prod.fst = ["hold"] := by decide +kernel
  cases ran : run echoingTool relay plainSetup with
  | mk result calls =>
      rw [ran] at returned called
      cases result with
      | error e => cases returned
      | ok res =>
          obtain ⟨⟨id, call⟩, rfl, same⟩ := List.map_eq_singleton_iff.mp called
          obtain rfl : id = "hold" := same
          exact ⟨res, call, rfl, run_calls_once ran⟩

end Engine

end Workflow
