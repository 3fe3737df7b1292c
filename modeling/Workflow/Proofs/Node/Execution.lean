import Workflow.Node.Execution

/-! The execution of a node is cancelled only by a call that it makes, and that of an input or
output node always succeeds. -/

namespace Workflow

structure Capabilities.Ordinary (caps : Capabilities) : Prop where
  completion : ∀ complete, caps.completion = some complete →
    ∀ caller prompt model options message,
      (complete caller prompt model options).answer ≠ .cancelled message
  tools : ∀ registry, caps.tools = some registry → ∀ tool ∈ registry.tools,
    ∀ caller arguments message, (tool.handler caller arguments).answer ≠ .cancelled message
  http : ∀ request, caps.http = some request → ∀ caller method url headers body message,
    (request caller method url headers body).answer ≠ .cancelled message

theorem ToolRegistry.mem_of_find {r : ToolRegistry} {server name : String} {tool : ToolDefinition}
    (h : r.find server name = .ok tool) : tool ∈ r.tools := by
  unfold find at h
  split at h
  · rename_i found
    cases h
    exact List.mem_of_find?_eq_some found
  · split at h <;> cases h

namespace Node

variable {n : Node} {inputs : Inputs} {caps : Capabilities} {message : String}

theorem callFailure_ne_cancelled (n : Node) (f : Fault) :
    n.callFailure f ≠ .cancelled message := by
  unfold callFailure
  split <;> exact Outcome.noConfusion

theorem ofAnswer_ne_cancelled {α : Type} {finish : α → Outcome} {answer : Answer α}
    (called : answer ≠ .cancelled message) (finished : ∀ a, finish a ≠ .cancelled message) :
    n.ofAnswer finish answer ≠ .cancelled message := by
  cases answer with
  | value a => exact finished a
  | fault f => exact callFailure_ne_cancelled n f
  | cancelled other =>
      intro same
      cases same
      exact called rfl

theorem rendered_ne_cancelled {α : Type} {x : Except Fault α} {continue' : α → Execution}
    (h : ∀ a, (continue' a).outcome ≠ .cancelled message) :
    (rendered x continue').outcome ≠ .cancelled message := by
  cases x with
  | ok a => exact h a
  | error f => exact Outcome.noConfusion

theorem readCompletion_ne_cancelled (format : ResponseFormat) (v : Value) :
    n.readCompletion format v ≠ .cancelled message := by
  cases v with
  | text s =>
      cases format with
      | text => exact Outcome.noConfusion
      | json =>
          unfold readCompletion
          dsimp only
          split
          · exact Outcome.noConfusion
          · split <;> exact Outcome.noConfusion
  | _ => exact Outcome.noConfusion

theorem readResponse_ne_cancelled (c : HttpConfig) (url : String) (r : HttpResponse) :
    n.readResponse c url r ≠ .cancelled message := by
  unfold readResponse
  split
  · split <;> exact Outcome.noConfusion
  · exact Outcome.noConfusion

theorem readHttpAnswer_ne_cancelled (c : HttpConfig) (url : String) (a : HttpAnswer) :
    n.readHttpAnswer c url a ≠ .cancelled message := by
  unfold readHttpAnswer
  split
  · exact readResponse_ne_cancelled c url _
  · split
    · exact readResponse_ne_cancelled c url _
    · exact Outcome.noConfusion

theorem runLlm_ne_cancelled (ordinary : caps.Ordinary) (c : LlmConfig) :
    (n.runLlm c inputs caps).outcome ≠ .cancelled message := by
  unfold runLlm
  split
  · exact Outcome.noConfusion
  · rename_i complete given
    refine rendered_ne_cancelled fun request => ?_
    exact ofAnswer_ne_cancelled (ordinary.completion complete given _ _ _ _ _)
      (readCompletion_ne_cancelled _)

theorem runTool_ne_cancelled (ordinary : caps.Ordinary) (c : ToolConfig) :
    (n.runTool c inputs caps).outcome ≠ .cancelled message := by
  unfold runTool
  split
  · exact Outcome.noConfusion
  · rename_i registry given
    refine rendered_ne_cancelled fun arguments => ?_
    split
    · exact callFailure_ne_cancelled n _
    · rename_i tool found
      exact ofAnswer_ne_cancelled
        (ordinary.tools registry given tool (ToolRegistry.mem_of_find found) _ _ _)
        fun _ => Outcome.noConfusion

theorem runHttp_ne_cancelled (ordinary : caps.Ordinary) (c : HttpConfig) :
    (n.runHttp c inputs caps).outcome ≠ .cancelled message := by
  unfold runHttp
  split
  · exact Outcome.noConfusion
  · rename_i request given
    refine rendered_ne_cancelled fun parts => ?_
    exact ofAnswer_ne_cancelled (ordinary.http request given _ _ _ _ _ _)
      (readHttpAnswer_ne_cancelled c _)

theorem execute_ne_cancelled (ordinary : caps.Ordinary) (n : Node) (inputs : Inputs)
    (message : String) : (n.execute inputs caps).outcome ≠ .cancelled message := by
  unfold execute
  split
  · exact Outcome.noConfusion
  · exact Outcome.noConfusion
  · exact runLlm_ne_cancelled ordinary _
  · exact runTool_ne_cancelled ordinary _
  · exact rendered_ne_cancelled fun _ => Outcome.noConfusion
  · exact runHttp_ne_cancelled ordinary _
  · exact rendered_ne_cancelled fun _ => Outcome.noConfusion
  · exact Outcome.noConfusion

/-- An input node always comes to a value, and so does an output node. -/
theorem execute_input (h : n.kind = .input) :
    ∃ v, (n.execute inputs caps).outcome = .value v := by
  unfold kind at h
  unfold execute
  cases config : n.config <;> rw [config] at h <;> first | exact ⟨_, rfl⟩ | cases h

theorem execute_output (h : n.kind = .output) :
    ∃ v, (n.execute inputs caps).outcome = .value v := by
  unfold kind at h
  unfold execute
  cases config : n.config <;> rw [config] at h <;> first | exact ⟨_, rfl⟩ | cases h

end Node

end Workflow
