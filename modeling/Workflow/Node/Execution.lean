import Workflow.Capability
import Workflow.Condition
import Workflow.Fault
import Workflow.Template
import Workflow.Text.Blank
import Workflow.Url.Query

/-! The execution of one node: what it calls, and how it ends. It depends on the node, its inputs
and the capabilities alone. -/

namespace Workflow

namespace Node

def fence : List Char := ['\x60', '\x60', '\x60']

/-- What follows the first line of a text; nothing, if it has one line only. -/
def afterLine (cs : List Char) : List Char := (cs.dropWhile (· ≠ '\n')).drop 1

/-- A text without the fence at its end, if there is one. -/
def dropClosing (cs : List Char) : List Char :=
  let trimmed := Text.dropBack Text.isBlank cs
  if fence.isSuffixOf trimmed then trimmed.take (trimmed.length - 3) else cs

/-- A text without the fence around it: without the line that opens it and the marks that close
it. -/
def stripFence (s : String) : String :=
  let cs := Text.trimBlank s.toList
  let cs := if fence.isPrefixOf cs then dropClosing (afterLine cs) else cs
  String.ofList (Text.trimBlank cs)

end Node

/-- How the execution of a node ends. A fault is an exception that is not yet reported against
the node. -/
inductive Outcome where
  | value (v : Value)
  | decision (d : Decision)
  | failure (f : NodeFailure)
  | fault (f : Fault)
  | cancelled (message : String)

/-- An execution: the call that it makes, if any, the rounds that it takes, the reason with which
it cancels the run, if it does, and its outcome. -/
structure Execution where
  call : Option Call
  delay : Nat
  cancels : Option (Option String)
  outcome : Outcome

namespace Execution

/-- An execution without a call. -/
def immediate (outcome : Outcome) : Execution := ⟨none, 0, none, outcome⟩

/-- An execution that makes a call and makes an outcome from the answer. -/
def calling {α : Type} (call : Call) (reply : Reply α) (finish : Answer α → Outcome) : Execution :=
  ⟨some call, reply.delay, reply.cancels, finish reply.answer⟩

end Execution

namespace Node

/-- A failure of the node itself. -/
def internalFailure (n : Node) (text : String) : Outcome :=
  .failure ⟨n.id, n.kind.name, .said text, false⟩

/-- The failure of a call. A cause that has no text is not told, and that is a fault by itself. -/
def callFailure (n : Node) (f : Fault) : Outcome :=
  match f.refusal? with
  | none => .failure ⟨n.id, n.kind.name, .fault f, true⟩
  | some r => .fault (.unwritable r)

/-- The outcome of a call whose answer is the output. -/
def ofAnswer {α : Type} (n : Node) (finish : α → Outcome) : Answer α → Outcome
  | .value a => finish a
  | .fault f => n.callFailure f
  | .cancelled message => .cancelled message

/-- An execution that goes on from what was rendered; a refusal is its fault. -/
def rendered {α : Type} (x : Except Fault α) (continue' : α → Execution) : Execution :=
  match x with
  | .ok a => continue' a
  | .error f => .immediate (.fault f)

def renderText (inputs : Inputs) (template : String) : Except Fault String :=
  (Template.render inputs template).mapError .unwritable

def renderTable (inputs : Inputs) (t : Table Value) : Except Fault (Table Value) :=
  (Template.renderMembers inputs t).mapError .unwritable

/-- The outputs of the predecessors, or the declared fields, null for those that do not
resolve. -/
def collect (c : OutputConfig) (inputs : Inputs) : Value :=
  if c.fields.isEmpty then .object inputs.predecessors
  else
    .object <| Table.ofList <| c.fields.map fun f =>
      (f.key, (inputs.resolve? f.source).getD .null)

/-- The prompt and the options of a completion. -/
def completionRequest (c : LlmConfig) (inputs : Inputs) : Except Fault (String × Table Value) := do
  let prompt ← renderText inputs c.prompt
  let system ← match c.systemPrompt with
    | some template =>
      if template.isEmpty then pure []
      else do
        let text ← renderText inputs template
        pure [("system_prompt", Value.text text)]
    | none => pure []
  let temperature := (c.temperature.map fun x => ("temperature", Value.double x)).toList
  let maxTokens := (c.maxTokens.map fun n => ("max_tokens", Value.int n)).toList
  return (prompt,
    ("response_format", .text c.responseFormat.name) :: system ++ temperature ++ maxTokens)

/-- The output of a completion: a text in JSON format is read as a document. Only a text that is
none is a failure of the node itself. -/
def readCompletion (n : Node) (format : ResponseFormat) : Value → Outcome
  | .text s =>
    match format with
    | .text => .value (.text s)
    | .json =>
      match Json.read (stripFence s) with
      | .ok v => .value v
      | .error e =>
        if e.problem.isOfSyntax then
          n.internalFailure ("completion is not valid JSON: " ++ e.message)
        else .fault (.unreadable e)
  | v => .value v

def runLlm (n : Node) (c : LlmConfig) (inputs : Inputs) (caps : Capabilities) : Execution :=
  match caps.completion with
  | none => .immediate (n.internalFailure "no completion capability configured")
  | some complete =>
    rendered (completionRequest c inputs) fun (prompt, options) =>
      .calling (.complete prompt c.model options) (complete n.id prompt c.model options)
        (n.ofAnswer (n.readCompletion c.responseFormat))

def runTool (n : Node) (c : ToolConfig) (inputs : Inputs) (caps : Capabilities) : Execution :=
  match caps.tools with
  | none => .immediate (n.internalFailure "no tool capability configured")
  | some registry =>
    rendered (renderTable inputs c.arguments) fun arguments =>
      match registry.find c.server c.tool with
      | .error f => .immediate (n.callFailure f)
      | .ok tool =>
        .calling (.invoke c.server c.tool arguments) (tool.handler n.id arguments)
          (n.ofAnswer .value)

def renderHeaders (inputs : Inputs) : Table String → Except Fault (Table String)
  | [] => .ok []
  | (k, template) :: rest => do
    let text ← renderText inputs template
    let rest ← renderHeaders inputs rest
    return (k, text) :: rest

/-- Address, headers and body of a request. -/
def httpRequest (c : HttpConfig) (inputs : Inputs) :
    Except Fault (String × Table String × Value) := do
  let base ← renderText inputs c.url
  let query ← renderTable inputs c.query
  let url ← (Url.withQuery base query).mapError .address
  let headers ← renderHeaders inputs c.headers
  let body ← (Template.renderValue inputs c.body).mapError .unwritable
  return (url, headers, body)

/-- The output of a request: its response, unless its status tells of an error that counts as a
failure. -/
def readResponse (n : Node) (c : HttpConfig) (url : String) (r : HttpResponse) : Outcome :=
  if c.failOnNon2xx && !r.isOk then
    match (Value.int r.status).shown with
    | .ok status =>
      let text := c.method.name ++ " " ++ url ++ " returned status " ++ status
      .failure ⟨n.id, n.kind.name, .said text, true⟩
    | .error refusal => .fault (.unwritable refusal)
  else .value r.toValue

def readHttpAnswer (n : Node) (c : HttpConfig) (url : String) : HttpAnswer → Outcome
  | .response r => n.readResponse c url r
  | .data v =>
    match HttpResponse.read v with
    | .good r => n.readResponse c url r
    | .faulty issues => .fault (.invalidRecord issues)

def runHttp (n : Node) (c : HttpConfig) (inputs : Inputs) (caps : Capabilities) : Execution :=
  match caps.http with
  | none => .immediate (n.internalFailure "no http capability configured")
  | some request =>
    rendered (httpRequest c inputs) fun (url, headers, body) =>
      .calling (.request c.method url headers body) (request n.id c.method url headers body)
        (n.ofAnswer (n.readHttpAnswer c url))

/-- Executes a node. -/
def execute (n : Node) (inputs : Inputs) (caps : Capabilities) : Execution :=
  match n.config with
  | .input _ => .immediate (.value inputs.payload)
  | .output c => .immediate (.value (collect c inputs))
  | .llm c => n.runLlm c inputs caps
  | .tool c => n.runTool c inputs caps
  | .condition c =>
    rendered (c.select inputs) fun d => .immediate (.decision d)
  | .http c => n.runHttp c inputs caps
  | .template c =>
    rendered (renderText inputs c.template) fun text => .immediate (.value (.text text))
  | .note _ => .immediate (n.internalFailure "node kind is not executable")

end Node

end Workflow
