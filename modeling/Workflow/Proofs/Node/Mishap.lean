import Mathlib
import Workflow.Proofs.Node.Execution
import Workflow.Run.Scheduler

/-! What goes wrong in the execution of a node is reported against that node, and laid to the
outside just if the call itself raised or its response tells of an error. Where there is no text to
say so, because an integer in it is too long, that is a failure of the node. -/

namespace Workflow

open Schema (Checked)

/-- What a registry makes of a call: a tool that is not registered is a fault of the call. -/
def ToolRegistry.invoke (r : ToolRegistry) (caller server name : String)
    (arguments : Table Value) : Answer Value :=
  match r.find server name with
  | .ok tool => (tool.handler caller arguments).answer
  | .error f => .fault f

theorem HttpResponse.isOk_iff (r : HttpResponse) :
    r.isOk = true ↔ 200 ≤ r.status ∧ r.status ≤ 299 := by
  rw [isOk, Bool.and_eq_true, decide_eq_true_iff, decide_eq_true_iff]
  omega

def HttpAnswer.read : HttpAnswer → Checked HttpResponse
  | .response r => .good r
  | .data v => HttpResponse.read v

namespace NodeFailure

variable {f : NodeFailure}

theorem typeName_external : f.typeName = "ExternalCallError" ↔ f.isExternal = true := by
  unfold typeName
  cases f.isExternal <;> decide

theorem typeName_cases (f : NodeFailure) :
    f.typeName = "ExternalCallError" ∨ f.typeName = "NodeExecutionError" := by
  unfold typeName
  cases f.isExternal <;> decide

end NodeFailure

/-- What goes wrong in an execution. -/
inductive Mishap where
  /-- The capability that the node calls through is missing. -/
  | unconfigured (capability : String)
  /-- The node cannot work out its output, or what it asks for. -/
  | unprepared (f : Fault)
  /-- The call raised. -/
  | raised (f : Fault)
  /-- The answer is no JSON document. -/
  | unreadable (e : Json.ReadError)
  /-- The answer is no response. -/
  | invalid (issues : List Schema.Issue)
  /-- The response tells of an error. -/
  | refused (method : Method) (url : String) (status : Int)

namespace Mishap

def untold? : Mishap → Option Json.Refusal
  | raised f => f.refusal?
  | refused _ _ status => if Text.isLong status then some .longInteger else none
  | _ => none

def cause (m : Mishap) : Cause :=
  match m.untold? with
  | some r => .fault (.unwritable r)
  | none =>
    match m with
    | unconfigured capability => .said ("no " ++ capability ++ " capability configured")
    | unprepared f => .fault f
    | raised f => .fault f
    | unreadable e =>
      if e.problem.isOfSyntax then .said ("completion is not valid JSON: " ++ e.message)
      else .fault (.unreadable e)
    | invalid issues => .fault (.invalidRecord issues)
    | refused method url status =>
      .said (method.name ++ " " ++ url ++ " returned status " ++ (Value.int status).layout)

def isExternal (m : Mishap) : Bool :=
  match m with
  | raised _ | refused .. => m.untold?.isNone
  | _ => false

def failure (n : Node) (m : Mishap) : NodeFailure := ⟨n.id, n.kind.name, m.cause, m.isExternal⟩

variable {f : Fault} {method : Method} {url : String} {status : Int}

theorem cause_raised (told : f.refusal? = none) : (raised f).cause = .fault f := by
  simp only [cause, untold?, told]

theorem refused_isExternal :
    (refused method url status).isExternal = true ↔ Text.isLong status = false := by
  simp only [isExternal, untold?]
  cases Text.isLong status <;> simp

theorem failure_of_untold (m : Mishap) {n : Node} {r : Json.Refusal} (untold : m.untold? = some r) :
    m.failure n = ⟨n.id, n.kind.name, .fault (.unwritable r), false⟩ := by
  have inside : m.isExternal = false := by
    cases m with
    | raised | refused => rw [isExternal, untold, Option.isNone_some]
    | _ => rfl
  rw [failure, inside, cause.eq_def, untold]

end Mishap

namespace Node

/-- The outcome of the execution of a node as it is reported: no fault is left in it. -/
def reported (n : Node) (inputs : Inputs) (caps : Capabilities) : Outcome :=
  Scheduler.settled n (n.execute inputs caps).outcome

inductive Completed (n : Node) (inputs : Inputs) (caps : Capabilities) :
    LlmConfig → Answer Value → Prop where
  | intro {c complete prompt options} (config : n.config = .llm c)
      (given : caps.completion = some complete)
      (asked : completionRequest c inputs = .ok (prompt, options)) :
      Completed n inputs caps c (complete n.id prompt c.model options).answer

inductive Invoked (n : Node) (inputs : Inputs) (caps : Capabilities) : Answer Value → Prop where
  | intro {c registry arguments} (config : n.config = .tool c) (given : caps.tools = some registry)
      (asked : renderTable inputs c.arguments = .ok arguments) :
      Invoked n inputs caps (registry.invoke n.id c.server c.tool arguments)

inductive Requested (n : Node) (inputs : Inputs) (caps : Capabilities) :
    HttpConfig → String → Answer HttpAnswer → Prop where
  | intro {c request url headers body} (config : n.config = .http c)
      (given : caps.http = some request)
      (asked : httpRequest c inputs = .ok (url, headers, body)) :
      Requested n inputs caps c url (request n.id c.method url headers body).answer

/-- A mishap happens in the execution of a node. -/
inductive Meets (n : Node) (inputs : Inputs) (caps : Capabilities) : Mishap → Prop where
  | noCompletion {c} (config : n.config = .llm c) (none' : caps.completion = none) :
      Meets n inputs caps (.unconfigured "completion")
  | noTools {c} (config : n.config = .tool c) (none' : caps.tools = none) :
      Meets n inputs caps (.unconfigured "tool")
  | noHttp {c} (config : n.config = .http c) (none' : caps.http = none) :
      Meets n inputs caps (.unconfigured "http")
  | prompt {c complete f} (config : n.config = .llm c) (given : caps.completion = some complete)
      (refused : completionRequest c inputs = .error f) : Meets n inputs caps (.unprepared f)
  | arguments {c registry f} (config : n.config = .tool c) (given : caps.tools = some registry)
      (refused : renderTable inputs c.arguments = .error f) : Meets n inputs caps (.unprepared f)
  | request {c request f} (config : n.config = .http c) (given : caps.http = some request)
      (refused : httpRequest c inputs = .error f) : Meets n inputs caps (.unprepared f)
  | decision {c f} (config : n.config = .condition c) (refused : c.select inputs = .error f) :
      Meets n inputs caps (.unprepared f)
  | text {c f} (config : n.config = .template c)
      (refused : renderText inputs c.template = .error f) : Meets n inputs caps (.unprepared f)
  | completionRaised {c f} (answered : n.Completed inputs caps c (.fault f)) :
      Meets n inputs caps (.raised f)
  | toolRaised {f} (answered : n.Invoked inputs caps (.fault f)) : Meets n inputs caps (.raised f)
  | requestRaised {c url f} (answered : n.Requested inputs caps c url (.fault f)) :
      Meets n inputs caps (.raised f)
  | noDocument {c s e} (answered : n.Completed inputs caps c (.value (.text s)))
      (format : c.responseFormat = .json) (unreadable : Json.read (stripFence s) = .error e) :
      Meets n inputs caps (.unreadable e)
  | noResponse {c url a issues} (answered : n.Requested inputs caps c url (.value a))
      (invalid : a.read = .faulty issues) : Meets n inputs caps (.invalid issues)
  | badStatus {c url a r} (answered : n.Requested inputs caps c url (.value a))
      (response : a.read = .good r) (counts : c.failOnNon2xx = true)
      (bad : ¬(200 ≤ r.status ∧ r.status ≤ 299)) :
      Meets n inputs caps (.refused c.method url r.status)

variable {n : Node} {inputs : Inputs} {caps : Capabilities} {m : Mishap}

theorem outcome_of_completed {c : LlmConfig} {answer : Answer Value}
    (answered : n.Completed inputs caps c answer) :
    (n.execute inputs caps).outcome = n.ofAnswer (n.readCompletion c.responseFormat) answer := by
  cases answered with
  | intro config given asked =>
      simp only [execute, config, runLlm, given, rendered, asked, Execution.calling]

theorem outcome_of_invoked {answer : Answer Value} (answered : n.Invoked inputs caps answer) :
    (n.execute inputs caps).outcome = n.ofAnswer .value answer := by
  cases answered with
  | @intro c registry arguments config given asked =>
      simp only [execute, config, runTool, given, rendered, asked, ToolRegistry.invoke]
      cases registry.find c.server c.tool <;> rfl

theorem outcome_of_requested {c : HttpConfig} {url : String} {answer : Answer HttpAnswer}
    (answered : n.Requested inputs caps c url answer) :
    (n.execute inputs caps).outcome = n.ofAnswer (n.readHttpAnswer c url) answer := by
  cases answered with
  | intro config given asked =>
      simp only [execute, config, runHttp, given, rendered, asked, Execution.calling]

theorem readHttpAnswer_eq (c : HttpConfig) (url : String) (a : HttpAnswer) :
    n.readHttpAnswer c url a =
      match a.read with
      | .good r => n.readResponse c url r
      | .faulty issues => .fault (.invalidRecord issues) := by
  cases a with
  | response r => rfl
  | data v =>
      unfold readHttpAnswer HttpAnswer.read
      cases HttpResponse.read v <;> rfl

theorem settled_callFailure (n : Node) (f : Fault) :
    Scheduler.settled n (n.callFailure f) = .failure ((Mishap.raised f).failure n) := by
  cases told : f.refusal? with
  | none => simp only [callFailure, told, Mishap.failure, Mishap.cause, Mishap.isExternal,
      Mishap.untold?]; rfl
  | some r =>
      rw [Mishap.failure_of_untold (.raised f) told, callFailure, told]
      rfl

theorem settled_unreadable (n : Node) (s : String) {e : Json.ReadError}
    (unreadable : Json.read (stripFence s) = .error e) :
    Scheduler.settled n (n.readCompletion .json (.text s)) =
      .failure ((Mishap.unreadable e).failure n) := by
  simp only [readCompletion, unreadable, Mishap.failure, Mishap.cause, Mishap.isExternal,
    Mishap.untold?]
  split <;> rfl

theorem settled_readResponse (n : Node) {c : HttpConfig} (url : String) {r : HttpResponse}
    (counts : c.failOnNon2xx = true) (bad : ¬(200 ≤ r.status ∧ r.status ≤ 299)) :
    Scheduler.settled n (n.readResponse c url r) =
      .failure ((Mishap.refused c.method url r.status).failure n) := by
  have outside : r.isOk = false := Bool.eq_false_iff.mpr ((not_congr r.isOk_iff).mpr bad)
  simp only [readResponse, counts, outside]
  cases long : Text.isLong r.status with
  | false =>
      have text : (Value.int r.status).shown = .ok (Value.int r.status).layout :=
        Value.written_of_short (by rwa [Value.hasLong, Value.hasInteger])
      simp only [text, Mishap.failure, Mishap.cause, Mishap.isExternal, Mishap.untold?, long]
      rfl
  | true =>
      have untold : (Mishap.refused c.method url r.status).untold? = some .longInteger := by
        rw [Mishap.untold?, long, if_pos rfl]
      have silent : (Value.int r.status).shown = .error .longInteger :=
        Value.shown_of_long (by rwa [Value.hasLong, Value.hasInteger])
      rw [Mishap.failure_of_untold _ untold, silent]
      rfl

theorem reported_of_meets (h : n.Meets inputs caps m) :
    n.reported inputs caps = .failure (m.failure n) := by
  unfold reported
  cases h with
  | noCompletion config none' => simp only [execute, config, runLlm, none']; rfl
  | noTools config none' => simp only [execute, config, runTool, none']; rfl
  | noHttp config none' => simp only [execute, config, runHttp, none']; rfl
  | prompt config given refused => simp only [execute, config, runLlm, given, refused]; rfl
  | arguments config given refused => simp only [execute, config, runTool, given, refused]; rfl
  | request config given refused => simp only [execute, config, runHttp, given, refused]; rfl
  | decision config refused => simp only [execute, config, refused]; rfl
  | text config refused => simp only [execute, config, refused]; rfl
  | completionRaised answered =>
      rw [outcome_of_completed answered]
      exact n.settled_callFailure _
  | toolRaised answered =>
      rw [outcome_of_invoked answered]
      exact n.settled_callFailure _
  | requestRaised answered =>
      rw [outcome_of_requested answered]
      exact n.settled_callFailure _
  | noDocument answered format unreadable =>
      rw [outcome_of_completed answered, format, ofAnswer]
      exact n.settled_unreadable _ unreadable
  | noResponse answered invalid =>
      rw [outcome_of_requested answered]
      simp only [ofAnswer, readHttpAnswer_eq, invalid]
      rfl
  | @badStatus c url a r answered response counts bad =>
      rw [outcome_of_requested answered]
      simp only [ofAnswer, readHttpAnswer_eq, response]
      exact n.settled_readResponse url counts bad

/-- How the execution of a node may end: with an output, with a decision, or with a mishap. -/
inductive Ends (n : Node) (inputs : Inputs) (caps : Capabilities) : Outcome → Prop where
  | value (v : Value) : Ends n inputs caps (.value v)
  | decision (d : Decision) : Ends n inputs caps (.decision d)
  | mishap {m : Mishap} (met : n.Meets inputs caps m) (o : Outcome) : Ends n inputs caps o

/-- A call that is not cancelled ends well if its answer does and a fault in it is a mishap. -/
theorem ends_ofAnswer {α : Type} {finish : α → Outcome} {answer : Answer α}
    (called : ∀ message, answer ≠ .cancelled message)
    (raised : ∀ f, answer = .fault f → n.Meets inputs caps (.raised f))
    (finished : ∀ a, answer = .value a → n.Ends inputs caps (finish a)) :
    n.Ends inputs caps (n.ofAnswer finish answer) := by
  cases answer with
  | value a => exact finished a rfl
  | fault f => exact .mishap (raised f rfl) _
  | cancelled message => exact absurd rfl (called message)

theorem ends_readCompletion {c : LlmConfig} {v : Value}
    (answered : n.Completed inputs caps c (.value v)) :
    n.Ends inputs caps (n.readCompletion c.responseFormat v) := by
  cases v with
  | text s =>
      cases format : c.responseFormat with
      | text => exact .value _
      | json =>
          cases document : Json.read (stripFence s) with
          | ok v =>
              rw [readCompletion, document]
              exact .value v
          | error e => exact .mishap (.noDocument answered format document) _
  | _ => exact .value _

theorem ends_readHttpAnswer {c : HttpConfig} {url : String} {a : HttpAnswer}
    (answered : n.Requested inputs caps c url (.value a)) :
    n.Ends inputs caps (n.readHttpAnswer c url a) := by
  rw [readHttpAnswer_eq]
  cases response : a.read with
  | faulty issues => exact .mishap (.noResponse answered response) _
  | good r =>
      simp only [readResponse]
      split
      · rename_i counts
        rw [Bool.and_eq_true, Bool.not_eq_true'] at counts
        have bad := (not_congr r.isOk_iff).mp (Bool.eq_false_iff.mp counts.2)
        exact .mishap (.badStatus answered response counts.1 bad) _
      · exact .value _

theorem ends_llm (ordinary : caps.Ordinary) {c : LlmConfig} (config : n.config = .llm c) :
    n.Ends inputs caps (n.execute inputs caps).outcome := by
  cases given : caps.completion with
  | none => exact .mishap (.noCompletion config given) _
  | some complete =>
      cases asked : completionRequest c inputs with
      | error f => exact .mishap (.prompt config given asked) _
      | ok request =>
          have answered : n.Completed inputs caps c _ := .intro config given asked
          rw [outcome_of_completed answered]
          apply ends_ofAnswer
          · exact ordinary.completion complete given _ _ _ _
          · exact fun f raised => .completionRaised (raised ▸ answered)
          · exact fun v replied => ends_readCompletion (replied ▸ answered)

theorem invoke_ne_cancelled (ordinary : caps.Ordinary) {registry : ToolRegistry}
    (given : caps.tools = some registry) (caller server name : String)
    (arguments : Table Value) (message : String) :
    registry.invoke caller server name arguments ≠ .cancelled message := by
  unfold ToolRegistry.invoke
  split
  · rename_i tool found
    exact ordinary.tools registry given tool (ToolRegistry.mem_of_find found) caller arguments message
  · intro cancelled
    cases cancelled

theorem ends_tool (ordinary : caps.Ordinary) {c : ToolConfig} (config : n.config = .tool c) :
    n.Ends inputs caps (n.execute inputs caps).outcome := by
  cases given : caps.tools with
  | none => exact .mishap (.noTools config given) _
  | some registry =>
      cases asked : renderTable inputs c.arguments with
      | error f => exact .mishap (.arguments config given asked) _
      | ok arguments =>
          have answered : n.Invoked inputs caps _ := .intro config given asked
          rw [outcome_of_invoked answered]
          apply ends_ofAnswer
          · exact invoke_ne_cancelled ordinary given n.id c.server c.tool arguments
          · exact fun f raised => .toolRaised (raised ▸ answered)
          · exact fun v _ => .value v

theorem ends_http (ordinary : caps.Ordinary) {c : HttpConfig} (config : n.config = .http c) :
    n.Ends inputs caps (n.execute inputs caps).outcome := by
  cases given : caps.http with
  | none => exact .mishap (.noHttp config given) _
  | some request =>
      cases asked : httpRequest c inputs with
      | error f => exact .mishap (.request config given asked) _
      | ok parts =>
          have answered : n.Requested inputs caps c _ _ := .intro config given asked
          rw [outcome_of_requested answered]
          apply ends_ofAnswer
          · exact ordinary.http request given _ _ _ _ _
          · exact fun f raised => .requestRaised (raised ▸ answered)
          · exact fun a replied => ends_readHttpAnswer (replied ▸ answered)

/-- No execution ends in any other way, unless the node is a note, which is never executed. -/
theorem ends_execute (ordinary : caps.Ordinary) (functional : n.kind ≠ .note) (inputs : Inputs) :
    n.Ends inputs caps (n.execute inputs caps).outcome := by
  cases config : n.config with
  | input c =>
      simp only [execute, config]
      exact .value _
  | output c =>
      simp only [execute, config]
      exact .value _
  | llm c => exact ends_llm ordinary config
  | tool c => exact ends_tool ordinary config
  | condition c =>
      cases chosen : c.select inputs with
      | error f => exact .mishap (.decision config chosen) _
      | ok d =>
          simp only [execute, config, rendered, chosen]
          exact .decision d
  | http c => exact ends_http ordinary config
  | template c =>
      cases text : renderText inputs c.template with
      | error f => exact .mishap (.text config text) _
      | ok s =>
          simp only [execute, config, rendered, text]
          exact .value _
  | note c =>
      rw [kind, config] at functional
      exact absurd rfl functional

theorem reported_of_value (h : ∃ v, (n.execute inputs caps).outcome = .value v) :
    ∃ v, n.reported inputs caps = .value v := by
  obtain ⟨v, value⟩ := h
  refine ⟨v, ?_⟩
  rw [reported, value]
  rfl

theorem reported_cases (ordinary : caps.Ordinary) (functional : n.kind ≠ .note)
    (inputs : Inputs) :
    (∃ v, n.reported inputs caps = .value v) ∨ (∃ d, n.reported inputs caps = .decision d) ∨
      ∃ m, n.Meets inputs caps m := by
  have ends := ends_execute ordinary functional inputs
  unfold reported
  generalize (n.execute inputs caps).outcome = o at ends ⊢
  cases ends with
  | value v => exact .inl ⟨v, rfl⟩
  | decision d => exact .inr (.inl ⟨d, rfl⟩)
  | mishap met => exact .inr (.inr ⟨_, met⟩)

/-- Every failure that is reported is that of a mishap. -/
theorem mishap_of_failure (ordinary : caps.Ordinary) (functional : n.kind ≠ .note)
    {f : NodeFailure} (failed : n.reported inputs caps = .failure f) :
    ∃ m, n.Meets inputs caps m ∧ f = m.failure n := by
  rcases reported_cases ordinary functional inputs with ⟨v, value⟩ | ⟨d, decision⟩ | ⟨m, met⟩
  · rw [value] at failed
    cases failed
  · rw [decision] at failed
    cases failed
  · have same := failed.symm.trans (reported_of_meets met)
    exact ⟨m, met, Outcome.failure.inj same⟩

def probe : Node where
  id := "probe"
  name := none
  display := []
  config := .http ⟨.get, "http://host/a?b=1", [], [("q", .int 2)], .null, true⟩

/-- Every request is answered by the data of a response that tells of an error. -/
def unwell : Capabilities :=
  ⟨none, none, some fun _ _ _ _ _ => .now (.value (.data (.object [("status", .int 503)])))⟩

def unfed : Inputs := ⟨.null, [], [], []⟩

theorem probe_refused :
    Meets probe unfed unwell (.refused .get "http://host/a?b=1&q=2" 503) := by
  have answered : Requested probe unfed unwell _ "http://host/a?b=1&q=2" _ :=
    .intro rfl rfl (by cbv)
  exact .badStatus answered rfl rfl (by decide)

end Node

end Workflow
