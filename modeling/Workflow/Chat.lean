import Workflow.Capability
import Workflow.Config

/-! Completion by a chat model: the messages that a prompt becomes, the content of an answer, and
the settings of the client that a model is reached with. -/

namespace Workflow

open Schema

namespace Chat

inductive Role where
  | system
  | human
  deriving DecidableEq

def Role.name : Role → String
  | .system => "system"
  | .human => "human"

/-- A message. Its content is a text or a list of texts and objects. -/
structure Message where
  role : Role
  content : Value

/-- A chat model answers messages. -/
abbrev Model := List Message → Answer Value

def contentKey : Field := .plain "content"

/-- The names of the forms of a content and of its elements in the place of an issue. -/
def textForm : String := "str"
def objectForm : String := "dict[any,any]"
def listForm : String := "list[union[str,dict[any,any]]]"

/-- An element of the content of a message. -/
def readElement : Value → Checked Value
  | .text s => .good (.text s)
  | v =>
    match v.members? with
    | some ms => .good (.object ms)
    | none =>
      .faulty [⟨.stringType, [.key textForm]⟩, ⟨.dictType, [.key objectForm]⟩]

/-- The elements of a list; a value that is no list has none. -/
def readElements : Value → Checked Value
  | .list vs => .list <$> Checked.each readElement 0 vs
  | _ => .fail .listType

/-- The content of a message. What is wrong with it is told for each form that it might have. -/
def readContent : Value → Checked Value
  | .text s => .good (.text s)
  | v =>
    match (readElements v).within (.key listForm) with
    | .good content => .good content
    | .faulty issues => .faulty (⟨.stringType, [.key textForm]⟩ :: issues)

/-- A message with some content. -/
def Message.read (role : Role) (content : Value) : Checked Message :=
  ((readContent content).within (.key contentKey.name)).map (⟨role, ·⟩)

/-- The messages for a prompt: a system message, unless the option for it is missing or empty, and
the prompt. What is wrong with the system message is told before the prompt is looked at. -/
def messages (prompt : Value) (options : Table Value) : Checked (List Message) :=
  match (options.get? "system_prompt").filter Value.isTruthy with
  | none => ([·]) <$> Message.read .human prompt
  | some v =>
    match Message.read .system v with
    | .faulty issues => .faulty issues
    | .good system => ([system, ·]) <$> Message.read .human prompt

/-- The text of a block of content: that of a text, or of an object that says it is one. -/
def blockText (block : Value) : Except Json.Refusal String :=
  match block with
  | .text s => .ok s
  | block =>
    let ms := block.members?.getD []
    match ms.get? "type" with
    | some (.text "text") => ((ms.get? "text").getD (.text "")).shown
    | _ => .ok ""

/-- The content of an answer: the texts of its blocks in one, if it is a list of blocks. -/
def content : Value → Except Json.Refusal Value
  | .list blocks => (blocks.mapM blockText).map fun texts => .text (String.join texts)
  | v => .ok v

/-- Completes a prompt. -/
def complete (model : Model) (prompt : Value) (options : Table Value) : Answer Value :=
  match messages prompt options with
  | .faulty issues => .fault (.invalidRecord issues)
  | .good ms =>
    match model ms with
    | .value v =>
      match content v with
      | .ok v => .value v
      | .error refusal => .fault (.unwritable refusal)
    | answer => answer

/-- What a client is built with, as it is given. -/
structure Settings where
  model : Value
  temperature : Value
  maxTokens : Value
  region : Value

namespace Settings

def defaultModel : String := "us.anthropic.claude-sonnet-4-20250514-v1:0"

/-- The settings for a model. An empty region gives way to that of the environment. -/
def of (env : Environment) (model region temperature maxTokens : Value) : Settings :=
  ⟨model, temperature, maxTokens, if region.isTruthy then region else .ofText? env.region?⟩

/-- The settings that are given, under their names, and the model. -/
def toValue (s : Settings) : Value :=
  .object <| ("model", s.model) ::
    [("temperature", s.temperature), ("max_tokens", s.maxTokens),
     ("region_name", s.region)].filter fun entry => !entry.2.isNull

end Settings

/-- The names of the one provider that is known, in any case. -/
def providers : List String := ["bedrock", "aws", "anthropic-bedrock"]

/-- The settings for a model that a node refers to. -/
def settingsFor (env : Environment) (region : Value) (model : ModelRef)
    (options : Table Value) : Except Fault Settings :=
  if providers.contains (Text.lower model.provider) then
    .ok <| .of env (.text model.model) region ((options.get? "temperature").getD .null)
      ((options.get? "max_tokens").getD .null)
  else .error (.noModelFactory model.provider)

/-- The capability to complete prompts with the models that settings lead to. -/
def capability (env : Environment) (region : Option String) (connect : Settings → Model)
    (_ prompt : String) (model : ModelRef) (options : Table Value) : Reply Value :=
  match settingsFor env (.ofText? region) model options with
  | .ok settings => .now (complete (connect settings) (.text prompt) options)
  | .error f => .now (.fault f)

end Chat

end Workflow
