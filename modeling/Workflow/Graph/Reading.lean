import Workflow.Graph.Basic
import Workflow.Json.Reader
import Workflow.Schema.Record
import Workflow.Text.Blank
import Workflow.Text.Split

/-! Reading graphs from data. Every field has a name in lower case with underscores, and in
documents a name as the visual editor writes it. -/

namespace Workflow

open Schema

namespace Clause

def fieldKey : Field := .plain "field"
def operatorKey : Field := ⟨"operator", "op"⟩
def valueKey : Field := .plain "value"

def fields : List Field := [fieldKey, operatorKey, valueKey]

/-- An operator by name, symbol or short word, in any case, with dashes for underscores. -/
def operatorOfWord? (s : String) : Option Operator :=
  let word := (Text.lower (Text.strip s)).map fun c => if c = '-' then '_' else c
  (Operator.shortNames.get? word).or (Operator.ofName? word)

def read : Value → Checked Clause :=
  strictRecord fields fun ms =>
    Clause.mk <$> fieldKey.required ms readString
      <*> operatorKey.required ms (readWord .enumError operatorOfWord?)
      <*> valueKey.withDefault ms .null readAny

end Clause

namespace Branch

def portKey : Field := .plain "port"
def clausesKey : Field := .plain "clauses"
def joinerKey : Field := ⟨"logical_operator", "logicalOperator"⟩

def fields : List Field := [portKey, clausesKey, joinerKey]

def joinerOfWord? (s : String) : Option Joiner :=
  if s = "and" then some .all else if s = "or" then some .any else none

def read : Value → Checked Branch :=
  strictRecord fields fun ms =>
    Branch.mk <$> portKey.required ms readString
      <*> clausesKey.withDefault ms [] (readList Clause.read)
      <*> joinerKey.withDefault ms .all (readWord .literalError joinerOfWord?)

end Branch

namespace ModelRef

def providerKey : Field := .plain "provider"
def modelKey : Field := .plain "model"

def fields : List Field := [providerKey, modelKey]

def defaultProvider : String := "bedrock"

/-- A reference from its text: a provider and a model with a slash between them, or a model
alone. -/
def ofText (s : String) : ModelRef :=
  let (provider, model) := Text.cutAt '/' s.toList
  if provider.isEmpty || model.isEmpty then ⟨defaultProvider, s⟩
  else ⟨String.ofList provider, String.ofList model⟩

def read : Value → Checked ModelRef
  | .text s => .good (ofText s)
  | v =>
    strictRecord fields (fun ms =>
      ModelRef.mk <$> providerKey.withDefault ms defaultProvider readString
        <*> modelKey.required ms readString) v

end ModelRef

namespace InputConfig

def descriptionKey : Field := .plain "description"
def fieldsKey : Field := .plain "fields"

def read : Value → Checked InputConfig :=
  strictRecord [descriptionKey, fieldsKey] fun ms =>
    InputConfig.mk <$> descriptionKey.withDefault ms none (orNull readString)
      <*> fieldsKey.withDefault ms [] (readList readString)

end InputConfig

namespace OutputField

def keyKey : Field := .plain "key"
def sourceKey : Field := .plain "source"

def read : Value → Checked OutputField :=
  strictRecord [keyKey, sourceKey] fun ms =>
    OutputField.mk <$> keyKey.required ms readString <*> sourceKey.required ms readString

end OutputField

namespace OutputConfig

def fieldsKey : Field := .plain "fields"

def read : Value → Checked OutputConfig :=
  strictRecord [fieldsKey] fun ms =>
    OutputConfig.mk <$> fieldsKey.withDefault ms [] (readList OutputField.read)

end OutputConfig

namespace LlmConfig

def modelKey : Field := .plain "model"
def promptKey : Field := .plain "prompt"
def systemPromptKey : Field := ⟨"system_prompt", "systemPrompt"⟩
def temperatureKey : Field := .plain "temperature"
def maxTokensKey : Field := ⟨"max_tokens", "maxTokens"⟩
def responseFormatKey : Field := ⟨"response_format", "responseFormat"⟩

def fields : List Field :=
  [modelKey, promptKey, systemPromptKey, temperatureKey, maxTokensKey, responseFormatKey]

/-- The largest temperature. -/
def hottest : Double := .ofDecimal false 2 0

/-- A temperature from zero to two. The upper bound is tested first, and what is not a number
fails it. -/
def readTemperature (origin : Origin) (v : Value) : Checked Double :=
  (readDouble origin v).andThen fun x =>
    if !x.lessEq hottest then .fail .lessThanEqual
    else if x.less .zero then .fail .greaterThanEqual
    else .good x

def readMaxTokens (v : Value) : Checked Int :=
  (readInt v).andThen fun n => if 1 ≤ n then .good n else .fail .greaterThanEqual

def formatOfWord? (s : String) : Option ResponseFormat :=
  if s = "text" then some .text else if s = "json" then some .json else none

def read (origin : Origin) : Value → Checked LlmConfig :=
  strictRecord fields fun ms =>
    LlmConfig.mk <$> modelKey.required ms ModelRef.read
      <*> promptKey.required ms readString
      <*> systemPromptKey.withDefault ms none (orNull readString)
      <*> temperatureKey.withDefault ms none (orNull (readTemperature origin))
      <*> maxTokensKey.withDefault ms none (orNull readMaxTokens)
      <*> responseFormatKey.withDefault ms .text (readWord .literalError formatOfWord?)

end LlmConfig

namespace ToolConfig

def serverKey : Field := .plain "server"
def toolKey : Field := .plain "tool"
def argumentsKey : Field := .plain "arguments"

def fields : List Field := [serverKey, toolKey, argumentsKey]

def read : Value → Checked ToolConfig :=
  strictRecord fields fun ms =>
    ToolConfig.mk <$> serverKey.required ms readString
      <*> toolKey.required ms readString
      <*> argumentsKey.withDefault ms [] (readTable readAny)

end ToolConfig

namespace ConditionConfig

def ifBranchKey : Field := ⟨"if_branch", "ifBranch"⟩
def elseIfKey : Field := ⟨"else_if", "elseIf"⟩
def elsePortKey : Field := ⟨"else_port", "elsePort"⟩

def fields : List Field := [ifBranchKey, elseIfKey, elsePortKey]

def read : Value → Checked ConditionConfig :=
  strictRecord fields fun ms =>
    ConditionConfig.mk <$> ifBranchKey.withDefault ms ⟨ifPort, [], .all⟩ Branch.read
      <*> elseIfKey.withDefault ms [] (readList Branch.read)
      <*> elsePortKey.withDefault ms Workflow.elsePort readString

end ConditionConfig

namespace HttpConfig

def methodKey : Field := .plain "method"
def urlKey : Field := .plain "url"
def headersKey : Field := .plain "headers"
def queryKey : Field := .plain "query"
def bodyKey : Field := .plain "body"
def failOnNon2xxKey : Field := ⟨"fail_on_non_2xx", "failOnNon2Xx"⟩

def fields : List Field :=
  [methodKey, urlKey, headersKey, queryKey, bodyKey, failOnNon2xxKey]

def read : Value → Checked HttpConfig :=
  strictRecord fields fun ms =>
    HttpConfig.mk
      <$> methodKey.withDefault ms .get
        (readWord .literalError fun s => Method.ofName? (Text.upper s))
      <*> urlKey.required ms readString
      <*> headersKey.withDefault ms [] (readTable readString)
      <*> queryKey.withDefault ms [] (readTable readAny)
      <*> bodyKey.withDefault ms .null readAny
      <*> failOnNon2xxKey.withDefault ms true readBool

end HttpConfig

namespace TemplateConfig

def templateKey : Field := .plain "template"

def read : Value → Checked TemplateConfig :=
  strictRecord [templateKey] fun ms =>
    TemplateConfig.mk <$> templateKey.withDefault ms "" readString

end TemplateConfig

namespace NoteConfig

def textKey : Field := .plain "text"

def read : Value → Checked NoteConfig :=
  strictRecord [textKey] fun ms => NoteConfig.mk <$> textKey.withDefault ms "" readString

end NoteConfig

namespace NodeHeader

def idKey : Field := .plain "id"
def nameKey : Field := .plain "name"
def displayKey : Field := .plain "display"

def fields : List Field := [idKey, nameKey, displayKey]

def readMembers (ms : Table Value) : Checked NodeHeader :=
  NodeHeader.mk <$> idKey.required ms readString
    <*> nameKey.withDefault ms none (orNull readString)
    <*> displayKey.withDefault ms [] (readTable readAny)

def read : Value → Checked NodeHeader := strictRecord fields readMembers

end NodeHeader

namespace Node

def kindKey : Field := .plain "kind"
def configKey : Field := .plain "config"

def fields : List Field := NodeHeader.fields ++ [kindKey, configKey]

/-- The configuration of a node of a kind. Three kinds have no default. -/
def readConfig (origin : Origin) (ms : Table Value) : NodeKind → Checked NodeConfig
  | .input => .input <$> configKey.withDefault ms ⟨none, []⟩ InputConfig.read
  | .output => .output <$> configKey.withDefault ms ⟨[]⟩ OutputConfig.read
  | .llm => .llm <$> configKey.required ms (LlmConfig.read origin)
  | .tool => .tool <$> configKey.required ms ToolConfig.read
  | .condition =>
    .condition <$>
      configKey.withDefault ms ⟨⟨ifPort, [], .all⟩, [], elsePort⟩ ConditionConfig.read
  | .http => .http <$> configKey.required ms HttpConfig.read
  | .template => .template <$> configKey.withDefault ms ⟨""⟩ TemplateConfig.read
  | .note => .note <$> configKey.withDefault ms ⟨""⟩ NoteConfig.read

/-- The kind that a node gives has to be the expected one, if it gives one. -/
def readKind (kind : NodeKind) (ms : Table Value) : Checked Unit :=
  kindKey.withDefault ms ()
    (readWord .literalError fun s => if s = kind.name then some () else none)

/-- A node of a given kind. -/
def readOfKind (origin : Origin) (kind : NodeKind) : Value → Checked Node :=
  strictRecord fields fun ms =>
    (fun header _ config => Node.mk header.id header.name header.display config)
      <$> NodeHeader.readMembers ms
      <*> readKind kind ms
      <*> readConfig origin ms kind

/-- The issue of a node that is not even an object. A live object might have a kind, but tells
none. -/
def shapeIssue : Origin → Value → IssueKind
  | .memory, .handle _ => .unionTagNotFound
  | .memory, _ => .modelAttributesType
  | .document, _ => .dictType

/-- A node, read by the kind that it gives. -/
def read (origin : Origin) (v : Value) : Checked Node :=
  match v.members? with
  | none => .fail (shapeIssue origin v)
  | some ms =>
    match ms.last? kindKey.name with
    | none => .fail .unionTagNotFound
    | some (.text word) =>
      match NodeKind.ofName? word with
      | some kind => (readOfKind origin kind v).within (.key kind.name)
      | none => .fail .unionTagInvalid
    | some _ => .fail .unionTagInvalid

end Node

namespace Edge

def sourceKey : Field := ⟨"source_node_id", "sourceNodeId"⟩
def targetKey : Field := ⟨"target_node_id", "targetNodeId"⟩
def sourcePortKey : Field := ⟨"source_port_id", "sourcePortId"⟩
def targetPortKey : Field := ⟨"target_port_id", "targetPortId"⟩
def idKey : Field := .plain "id"

def fields : List Field := [sourceKey, targetKey, sourcePortKey, targetPortKey, idKey]

def read : Value → Checked Edge :=
  strictRecord fields fun ms =>
    Edge.mk <$> sourceKey.required ms readString
      <*> targetKey.required ms readString
      <*> sourcePortKey.withDefault ms none (orNull readString)
      <*> targetPortKey.withDefault ms none (orNull readString)
      <*> idKey.withDefault ms none (orNull readString)

end Edge

namespace Graph

def idKey : Field := .plain "id"
def nameKey : Field := .plain "name"
def nodesKey : Field := .plain "nodes"
def edgesKey : Field := .plain "edges"
def metadataKey : Field := .plain "metadata"

def fields : List Field := [idKey, nameKey, nodesKey, edgesKey, metadataKey]

def read (origin : Origin) : Value → Checked Graph :=
  strictRecord fields fun ms =>
    Graph.mk <$> idKey.withDefault ms none (orNull readString)
      <*> nameKey.withDefault ms none (orNull readString)
      <*> nodesKey.withDefault ms [] (readList (Node.read origin))
      <*> edgesKey.withDefault ms [] (readList Edge.read)
      <*> metadataKey.withDefault ms [] (readTable readAny)

/-- A graph from the text of a document. -/
def readText (text : String) : Checked Graph :=
  match Json.readStrict? text with
  | some v => read .document v
  | none => .fail .jsonInvalid

end Graph

end Workflow
