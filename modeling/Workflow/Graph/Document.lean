import Workflow.Graph.Reading
import Workflow.Json.Writer

/-! Graphs as data, and the text of a graph document. -/

namespace Workflow

namespace Schema

/-- How a record is laid out as an object: under which of the two names its fields stand, and
whether those that are null are kept. -/
structure Form where
  documentNames : Bool
  nulls : Bool

/-- Every field under its own name. -/
def Form.full : Form := ⟨false, true⟩

/-- As in a document: every field under its name there, and no field that is null. -/
def Form.document : Form := ⟨true, false⟩

/-- The member for a field, if it is kept. -/
def Field.entry (form : Form) (f : Field) (v : Value) : List (String × Value) :=
  if v.isNull && !form.nulls then []
  else [(if form.documentNames then f.documentName else f.name, v)]

def record (form : Form) (entries : List (Field × Value)) : Value :=
  .object (entries.flatMap fun (f, v) => f.entry form v)

end Schema

open Schema

def Clause.toValue (form : Form) (c : Clause) : Value :=
  record form
    [(Clause.fieldKey, .text c.field), (Clause.operatorKey, .text c.operator.name),
     (Clause.valueKey, c.value.opened)]

def Branch.toValue (form : Form) (b : Branch) : Value :=
  record form
    [(Branch.portKey, .text b.port), (Branch.clausesKey, .list (b.clauses.map (·.toValue form))),
     (Branch.joinerKey, .text b.joiner.name)]

def ModelRef.toValue (form : Form) (m : ModelRef) : Value :=
  record form [(ModelRef.providerKey, .text m.provider), (ModelRef.modelKey, .text m.model)]

def InputConfig.toValue (form : Form) (c : InputConfig) : Value :=
  record form
    [(InputConfig.descriptionKey, .ofText? c.description),
     (InputConfig.fieldsKey, .ofTexts c.fields)]

def OutputField.toValue (form : Form) (f : OutputField) : Value :=
  record form [(OutputField.keyKey, .text f.key), (OutputField.sourceKey, .text f.source)]

def OutputConfig.toValue (form : Form) (c : OutputConfig) : Value :=
  record form [(OutputConfig.fieldsKey, .list (c.fields.map (·.toValue form)))]

def LlmConfig.toValue (form : Form) (c : LlmConfig) : Value :=
  record form
    [(LlmConfig.modelKey, c.model.toValue form), (LlmConfig.promptKey, .text c.prompt),
     (LlmConfig.systemPromptKey, .ofText? c.systemPrompt),
     (LlmConfig.temperatureKey, (c.temperature.map Value.double).getD .null),
     (LlmConfig.maxTokensKey, (c.maxTokens.map Value.int).getD .null),
     (LlmConfig.responseFormatKey, .text c.responseFormat.name)]

def ToolConfig.toValue (form : Form) (c : ToolConfig) : Value :=
  record form
    [(ToolConfig.serverKey, .text c.server), (ToolConfig.toolKey, .text c.tool),
     (ToolConfig.argumentsKey, .openedTable c.arguments)]

def ConditionConfig.toValue (form : Form) (c : ConditionConfig) : Value :=
  record form
    [(ConditionConfig.ifBranchKey, c.ifBranch.toValue form),
     (ConditionConfig.elseIfKey, .list (c.elseIf.map (·.toValue form))),
     (ConditionConfig.elsePortKey, .text c.elsePort)]

def HttpConfig.toValue (form : Form) (c : HttpConfig) : Value :=
  record form
    [(HttpConfig.methodKey, .text c.method.name), (HttpConfig.urlKey, .text c.url),
     (HttpConfig.headersKey, .object (c.headers.mapValues .text)),
     (HttpConfig.queryKey, .openedTable c.query), (HttpConfig.bodyKey, c.body.opened),
     (HttpConfig.failOnNon2xxKey, .bool c.failOnNon2xx)]

def TemplateConfig.toValue (form : Form) (c : TemplateConfig) : Value :=
  record form [(TemplateConfig.templateKey, .text c.template)]

def NoteConfig.toValue (form : Form) (c : NoteConfig) : Value :=
  record form [(NoteConfig.textKey, .text c.text)]

def NodeConfig.toValue (form : Form) : NodeConfig → Value
  | .input c => c.toValue form
  | .output c => c.toValue form
  | .llm c => c.toValue form
  | .tool c => c.toValue form
  | .condition c => c.toValue form
  | .http c => c.toValue form
  | .template c => c.toValue form
  | .note c => c.toValue form

def NodeHeader.entries (h : NodeHeader) : List (Field × Value) :=
  [(NodeHeader.idKey, .text h.id), (NodeHeader.nameKey, .ofText? h.name),
   (NodeHeader.displayKey, .openedTable h.display)]

def NodeHeader.toValue (form : Form) (h : NodeHeader) : Value := record form h.entries

def Node.toValue (form : Form) (n : Node) : Value :=
  record form <| n.header.entries ++
    [(Node.kindKey, .text n.kind.name), (Node.configKey, n.config.toValue form)]

def Edge.toValue (form : Form) (e : Edge) : Value :=
  record form
    [(Edge.sourceKey, .text e.source), (Edge.targetKey, .text e.target),
     (Edge.sourcePortKey, .ofText? e.sourcePort), (Edge.targetPortKey, .ofText? e.targetPort),
     (Edge.idKey, .ofText? e.id)]

def Graph.toValue (form : Form) (g : Graph) : Value :=
  record form
    [(Graph.idKey, .ofText? g.id), (Graph.nameKey, .ofText? g.name),
     (Graph.nodesKey, .list (g.nodes.map (·.toValue form))),
     (Graph.edgesKey, .list (g.edges.map (·.toValue form))),
     (Graph.metadataKey, .openedTable g.metadata)]

namespace Value

mutual

/-- The same value with null for each number that is not finite. -/
def finite : Value → Value
  | .double x => if x.isFinite then .double x else .null
  | .list vs => .list (finiteItems vs)
  | .object ms => .object (finiteMembers ms)
  | .cyclic ms self => .cyclic (finiteMembers ms) self
  | v => v

def finiteItems : List Value → List Value
  | [] => []
  | v :: rest => finite v :: finiteItems rest

def finiteMembers : List (String × Value) → List (String × Value)
  | [] => []
  | (k, v) :: rest => (k, finite v) :: finiteMembers rest

end

end Value

/-- What keeps a graph from being a document: a live object in it or an object that contains itself,
and after these an integer that is too long. -/
def Graph.refusal? (g : Graph) : Option Json.Refusal :=
  (Json.refusal? .data (g.toValue .document)).or (Json.refusal? .line (g.toValue .document))

/-- The text of a graph document, with keys in order. -/
def Graph.toJson (style : Json.Style) (g : Graph) : String :=
  String.ofList (Json.render { style with sortKeys := true } 0 (g.toValue .document).finite)

end Workflow
