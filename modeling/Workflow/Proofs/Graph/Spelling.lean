import Workflow.Proofs.Schema.Spelling
import Workflow.Run.Engine

/-! Graphs in two spellings: a document means the same graph whichever names its fields are given
under. -/

namespace Workflow

open Schema Spelling

/-! Texts, numbers and free data hold no names of fields. -/

namespace Clause

def parts : List (Field × Spelling) :=
  [(fieldKey, .free), (operatorKey, .free), (valueKey, .free)]

theorem indifferent_read : (ofParts parts).Indifferent read := by
  apply Indifferent.ofParts rfl (by decide)
  refine ((Follows.map ?field Clause.mk).seq ?operator).seq ?value
  case field => exact .required (by simp [parts]) .free
  case operator => exact .required (by simp [parts]) .free
  case value => exact .withDefault (by simp [parts]) .free

end Clause

namespace Branch

def parts : List (Field × Spelling) :=
  [(portKey, .free), (clausesKey, .list (ofParts Clause.parts)), (joinerKey, .free)]

theorem indifferent_read : (ofParts parts).Indifferent read := by
  apply Indifferent.ofParts rfl (by decide)
  refine ((Follows.map ?port Branch.mk).seq ?clauses).seq ?joiner
  case port => exact .required (by simp [parts]) .free
  case clauses => exact .withDefault (by simp [parts]) (.list Clause.indifferent_read)
  case joiner => exact .withDefault (by simp [parts]) .free

end Branch

namespace ModelRef

def parts : List (Field × Spelling) := [(providerKey, .free), (modelKey, .free)]

/-- A reference may also be given as a text, which is spelled in one way only. -/
theorem indifferent_read : (ofParts parts).Indifferent read := by
  have whole : (ofParts parts).Indifferent (strictRecord fields fun ms =>
      ModelRef.mk <$> providerKey.withDefault ms defaultProvider readString
        <*> modelKey.required ms readString) := by
    apply Indifferent.ofParts rfl (by decide)
    refine (Follows.map ?provider ModelRef.mk).seq ?model
    case provider => exact .withDefault (by simp [parts]) .free
    case model => exact .required (by simp [parts]) .free
  intro v w once switched m
  rcases switched with rfl | ⟨ms, ns, names, rfl, rfl, respelled⟩
  · exact Iff.rfl
  · exact whole _ _ once (.inr ⟨ms, ns, names, rfl, rfl, respelled⟩) m

end ModelRef

namespace InputConfig

def parts : List (Field × Spelling) := [(descriptionKey, .free), (fieldsKey, .free)]

theorem indifferent_read : (ofParts parts).Indifferent read := by
  apply Indifferent.ofParts rfl (by decide)
  refine (Follows.map ?description InputConfig.mk).seq ?fields
  case description => exact .withDefault (by simp [parts]) .free
  case fields => exact .withDefault (by simp [parts]) .free

end InputConfig

namespace OutputField

def parts : List (Field × Spelling) := [(keyKey, .free), (sourceKey, .free)]

theorem indifferent_read : (ofParts parts).Indifferent read := by
  apply Indifferent.ofParts rfl (by decide)
  refine (Follows.map ?key OutputField.mk).seq ?source
  case key => exact .required (by simp [parts]) .free
  case source => exact .required (by simp [parts]) .free

end OutputField

namespace OutputConfig

def parts : List (Field × Spelling) := [(fieldsKey, .list (ofParts OutputField.parts))]

theorem indifferent_read : (ofParts parts).Indifferent read := by
  apply Indifferent.ofParts rfl (by decide)
  refine Follows.map ?fields OutputConfig.mk
  case fields => exact .withDefault (by simp [parts]) (.list OutputField.indifferent_read)

end OutputConfig

namespace LlmConfig

def parts : List (Field × Spelling) :=
  [(modelKey, ofParts ModelRef.parts), (promptKey, .free), (systemPromptKey, .free),
   (temperatureKey, .free), (maxTokensKey, .free), (responseFormatKey, .free)]

theorem indifferent_read (origin : Origin) : (ofParts parts).Indifferent (read origin) := by
  apply Indifferent.ofParts rfl (by decide)
  refine ((((Follows.map ?model LlmConfig.mk).seq ?prompt).seq ?systemPrompt).seq
    ?temperature).seq ?maxTokens |>.seq ?responseFormat
  case model => exact .required (by simp [parts]) ModelRef.indifferent_read
  case prompt => exact .required (by simp [parts]) .free
  case systemPrompt => exact .withDefault (by simp [parts]) .free
  case temperature => exact .withDefault (by simp [parts]) .free
  case maxTokens => exact .withDefault (by simp [parts]) .free
  case responseFormat => exact .withDefault (by simp [parts]) .free

end LlmConfig

namespace ToolConfig

def parts : List (Field × Spelling) :=
  [(serverKey, .free), (toolKey, .free), (argumentsKey, .free)]

theorem indifferent_read : (ofParts parts).Indifferent read := by
  apply Indifferent.ofParts rfl (by decide)
  refine ((Follows.map ?server ToolConfig.mk).seq ?tool).seq ?arguments
  case server => exact .required (by simp [parts]) .free
  case tool => exact .required (by simp [parts]) .free
  case arguments => exact .withDefault (by simp [parts]) .free

end ToolConfig

namespace ConditionConfig

def parts : List (Field × Spelling) :=
  [(ifBranchKey, ofParts Branch.parts), (elseIfKey, .list (ofParts Branch.parts)),
   (elsePortKey, .free)]

theorem indifferent_read : (ofParts parts).Indifferent read := by
  apply Indifferent.ofParts rfl (by decide)
  refine ((Follows.map ?ifBranch ConditionConfig.mk).seq ?elseIf).seq ?elsePort
  case ifBranch => exact .withDefault (by simp [parts]) Branch.indifferent_read
  case elseIf => exact .withDefault (by simp [parts]) (.list Branch.indifferent_read)
  case elsePort => exact .withDefault (by simp [parts]) .free

end ConditionConfig

namespace HttpConfig

def parts : List (Field × Spelling) :=
  [(methodKey, .free), (urlKey, .free), (headersKey, .free), (queryKey, .free), (bodyKey, .free),
   (failOnNon2xxKey, .free)]

theorem indifferent_read : (ofParts parts).Indifferent read := by
  apply Indifferent.ofParts rfl (by decide)
  refine ((((Follows.map ?method HttpConfig.mk).seq ?url).seq ?headers).seq ?query).seq ?body
    |>.seq ?failOnNon2xx
  case method => exact .withDefault (by simp [parts]) .free
  case url => exact .required (by simp [parts]) .free
  case headers => exact .withDefault (by simp [parts]) .free
  case query => exact .withDefault (by simp [parts]) .free
  case body => exact .withDefault (by simp [parts]) .free
  case failOnNon2xx => exact .withDefault (by simp [parts]) .free

end HttpConfig

namespace TemplateConfig

def parts : List (Field × Spelling) := [(templateKey, .free)]

theorem indifferent_read : (ofParts parts).Indifferent read := by
  apply Indifferent.ofParts rfl (by decide)
  refine Follows.map ?template TemplateConfig.mk
  case template => exact .withDefault (by simp [parts]) .free

end TemplateConfig

namespace NoteConfig

def parts : List (Field × Spelling) := [(textKey, .free)]

theorem indifferent_read : (ofParts parts).Indifferent read := by
  apply Indifferent.ofParts rfl (by decide)
  refine Follows.map ?text NoteConfig.mk
  case text => exact .withDefault (by simp [parts]) .free

end NoteConfig

namespace NodeHeader

def parts : List (Field × Spelling) := [(idKey, .free), (nameKey, .free), (displayKey, .free)]

theorem follows_readMembers {more : List (Field × Spelling)} :
    Follows (parts ++ more) readMembers := by
  refine ((Follows.map ?id NodeHeader.mk).seq ?name).seq ?display
  case id => exact .required (by simp [parts]) .free
  case name => exact .withDefault (by simp [parts]) .free
  case display => exact .withDefault (by simp [parts]) .free

end NodeHeader

namespace Node

variable {origin : Origin} {kind : NodeKind} {v w : Value} {n : Node}

def configParts : NodeKind → List (Field × Spelling)
  | .input => InputConfig.parts
  | .output => OutputConfig.parts
  | .llm => LlmConfig.parts
  | .tool => ToolConfig.parts
  | .condition => ConditionConfig.parts
  | .http => HttpConfig.parts
  | .template => TemplateConfig.parts
  | .note => NoteConfig.parts

def parts (kind : NodeKind) : List (Field × Spelling) :=
  NodeHeader.parts ++ [(kindKey, .free), (configKey, ofParts (configParts kind))]

def givenKind? (v : Value) : Option NodeKind :=
  match v.members?.bind fun ms => ms.last? kindKey.name with
  | some (.text word) => NodeKind.ofName? word
  | _ => none

/-- Nodes are spelled by their kind. What is no node of any kind has no fields. -/
def spelling : Spelling :=
  .told fun v => ((givenKind? v).map fun kind => ofParts (parts kind)).getD .free

theorem follows_readConfig (origin : Origin) (kind : NodeKind) :
    Follows (parts kind) fun ms => readConfig origin ms kind := by
  have mem : (configKey, ofParts (configParts kind)) ∈ parts kind := by simp [parts]
  cases kind with
  | input => exact .map (.withDefault mem InputConfig.indifferent_read) _
  | output => exact .map (.withDefault mem OutputConfig.indifferent_read) _
  | llm => exact .map (.required mem (LlmConfig.indifferent_read origin)) _
  | tool => exact .map (.required mem ToolConfig.indifferent_read) _
  | condition => exact .map (.withDefault mem ConditionConfig.indifferent_read) _
  | http => exact .map (.required mem HttpConfig.indifferent_read) _
  | template => exact .map (.withDefault mem TemplateConfig.indifferent_read) _
  | note => exact .map (.withDefault mem NoteConfig.indifferent_read) _

theorem indifferent_readOfKind (origin : Origin) (kind : NodeKind) :
    (ofParts (parts kind)).Indifferent (readOfKind origin kind) := by
  have declared : (parts kind).map Prod.fst = fields := rfl
  apply Indifferent.ofParts declared (by decide)
  refine (Follows.map ?header _).seq ?kind |>.seq ?config
  case header => exact NodeHeader.follows_readMembers
  case kind => exact .withDefault (by simp [parts]) .free
  case config => exact follows_readConfig origin kind

theorem read_eq_good_iff : read origin v = .good n ↔
    ∃ kind, givenKind? v = some kind ∧ readOfKind origin kind v = .good n := by
  rw [read, givenKind?]
  cases v.members? with
  | none => simp [Checked.fail]
  | some ms =>
      cases given : ms.last? kindKey.name with
      | none => simp [given, Checked.fail]
      | some word =>
          cases word with
          | text word =>
              cases kind : NodeKind.ofName? word with
              | none => simp [given, kind, Checked.fail]
              | some kind => simp [given, kind, Checked.within_eq_good]
          | _ => simp [given, Checked.fail]

theorem find?_kindKey (ms : Table Value) :
    kindKey.find? ms = (ms.last? kindKey.name).map (kindKey.name, ·) := by
  have same : kindKey.documentName = kindKey.name := rfl
  rw [Field.find?, same]
  cases ms.last? kindKey.name <;> rfl

/-- Whichever names its fields are given under, a node gives the same kind. -/
theorem givenKind?_switched (once : (ofParts (parts kind)).once v)
    (switched : (ofParts (parts kind)).switched v w) : givenKind? w = givenKind? v := by
  rcases switched with rfl | ⟨ms, ns, names, rfl, rfl, switches, respelled⟩
  · rfl
  have strange : ((parts kind).map Prod.fst).Pairwise Field.Stranger := by
    change fields.Pairwise Field.Stranger
    decide
  have mem : (kindKey, Spelling.free) ∈ parts kind := by simp [parts]
  have same : ns.last? kindKey.name = ms.last? kindKey.name := by
    rcases find?_respelled (once ms rfl) switches strange mem respelled with
      ⟨none', none''⟩ | ⟨k, x, k', y, found, found', -, rfl⟩
    · rw [find?_kindKey, Option.map_eq_none_iff] at none' none''
      rw [none', none'']
    · rw [find?_kindKey, Option.map_eq_some_iff] at found found'
      obtain ⟨x', given, pair⟩ := found
      obtain ⟨y', given', pair'⟩ := found'
      rw [given, given', (Prod.mk.inj pair).2, (Prod.mk.inj pair').2]
  change (match ns.last? kindKey.name with
    | some (.text word) => NodeKind.ofName? word
    | _ => none) = _
  rw [same]
  rfl

theorem indifferent_read (origin : Origin) : spelling.Indifferent (read origin) := by
  intro v w once switched n
  change (((givenKind? v).map fun kind => ofParts (parts kind)).getD .free).once v at once
  change (((givenKind? v).map fun kind => ofParts (parts kind)).getD .free).switched v w
    at switched
  rw [read_eq_good_iff, read_eq_good_iff]
  cases given : givenKind? v with
  | none =>
      rw [given] at switched
      obtain rfl : w = v := switched
      rw [given]
  | some kind =>
      rw [given] at once switched
      have given' : givenKind? w = some kind := (givenKind?_switched once switched).trans given
      have reads := indifferent_readOfKind origin kind v w once switched n
      simp only [given', Option.some.injEq, exists_eq_left', reads]

end Node

namespace Edge

def parts : List (Field × Spelling) :=
  [(sourceKey, .free), (targetKey, .free), (sourcePortKey, .free), (targetPortKey, .free),
   (idKey, .free)]

theorem indifferent_read : (ofParts parts).Indifferent read := by
  apply Indifferent.ofParts rfl (by decide)
  refine (((Follows.map ?source Edge.mk).seq ?target).seq ?sourcePort).seq ?targetPort |>.seq ?id
  case source => exact .required (by simp [parts]) .free
  case target => exact .required (by simp [parts]) .free
  case sourcePort => exact .withDefault (by simp [parts]) .free
  case targetPort => exact .withDefault (by simp [parts]) .free
  case id => exact .withDefault (by simp [parts]) .free

end Edge

namespace Graph

def parts : List (Field × Spelling) :=
  [(idKey, .free), (nameKey, .free), (nodesKey, .list Node.spelling),
   (edgesKey, .list (ofParts Edge.parts)), (metadataKey, .free)]

def spelling : Spelling := .ofParts parts

theorem indifferent_read (origin : Origin) : spelling.Indifferent (read origin) := by
  apply Indifferent.ofParts rfl (by decide)
  refine (((Follows.map ?id Graph.mk).seq ?name).seq ?nodes).seq ?edges |>.seq ?metadata
  case id => exact .withDefault (by simp [parts]) .free
  case name => exact .withDefault (by simp [parts]) .free
  case nodes => exact .withDefault (by simp [parts]) (.list (Node.indifferent_read origin))
  case edges => exact .withDefault (by simp [parts]) (.list Edge.indifferent_read)
  case metadata => exact .withDefault (by simp [parts]) .free

/-- What a graph may be loaded from, with the document that it gives: data in memory, the text of a
document, or the path of a file with such a text. -/
inductive Gives (files : Files) : Value → Origin → Value → Prop where
  | data {v : Value} {ms : Table Value} (object : v.members? = some ms) :
      Gives files v .memory v
  | text {s : String} {v : Value}
      (opens : (Text.dropFront Text.isBlank s.toList).head? = some '{')
      (reads : Json.readStrict? s = some v) : Gives files (.text s) .document v
  | file {path s : String} {v : Value}
      (names : ¬(Text.dropFront Text.isBlank path.toList).head? = some '{')
      (content : files.read path = .ok s) (reads : Json.readStrict? s = some v) :
      Gives files (.text path) .document v

variable {files : Files} {origin : Origin} {source source' v w : Value} {g : Graph}

theorem mapError_toExcept_eq_ok_iff {α ε : Type} {x : Checked α} {a : α} (f : List Issue → ε) :
    x.toExcept.mapError f = .ok a ↔ x = .good a := by
  cases x <;> simp [Checked.toExcept, Except.mapError]

theorem ofText_of_reads {s : String} (reads : Json.readStrict? s = some v) :
    ofText s = .ok g ↔ read .document v = .good g := by
  rw [ofText, readText, reads]
  exact mapError_toExcept_eq_ok_iff _

theorem loadFrom_text {s : String}
    (opens : (Text.dropFront Text.isBlank s.toList).head? = some '{') :
    loadFrom files (.text s) = ofText s := if_pos opens

theorem loadFrom_path {path : String}
    (names : ¬(Text.dropFront Text.isBlank path.toList).head? = some '{') :
    loadFrom files (.text path) = ofFile files path := if_neg names

theorem ofFile_of_read {path s : String} (content : files.read path = .ok s) :
    ofFile files path = ofText s := by
  delta ofFile
  rw [content]

theorem Gives.loadFrom_eq_ok_iff (h : Gives files source origin v) :
    loadFrom files source = .ok g ↔ read origin v = .good g := by
  cases h with
  | data object =>
      have loads : loadFrom files source = ofValue source := by simp only [loadFrom, object]
      rw [loads]
      exact mapError_toExcept_eq_ok_iff _
  | text opens reads => rw [loadFrom_text opens, ofText_of_reads reads]
  | file names content reads =>
      rw [loadFrom_path names, ofFile_of_read content, ofText_of_reads reads]

/-- When no object of a document gives a field under both its names, the document and every other
that comes of switching names of fields are both refused or mean the same graph, wherever they are
loaded from. -/
theorem spellings_agree (gives : Gives files source origin v)
    (gives' : Gives files source' origin w) (once : spelling.once v)
    (switched : spelling.switched v w) :
    loadFrom files source = .ok g ↔ loadFrom files source' = .ok g := by
  rw [gives.loadFrom_eq_ok_iff, gives'.loadFrom_eq_ok_iff]
  exact indifferent_read origin v w once switched g

/-! A graph with one condition, with some names for five of its fields. -/

def tieredClause (operator : String) : Value :=
  .object
    [("field", .text "in.score"), (operator, .text ">="), ("value", .object [("op", .int 5)])]

def tieredNode (branch joiner operator : String) : Value :=
  .object
    [("id", .text "tiers"), ("kind", .text "condition"),
     ("config", .object
       [(branch, .object
          [("port", .text "hot"), (joiner, .text "or"),
           ("clauses", .list [tieredClause operator])])])]

def tieredEdge (source target : String) : Value :=
  .object [(source, .text "in"), (target, .text "tiers")]

def tieredDocument : Value :=
  .object
    [("nodes", .list [tieredNode "ifBranch" "logicalOperator" "op"]),
     ("edges", .list [tieredEdge "source_node_id" "targetNodeId"])]

def tieredData : Value :=
  .object
    [("nodes", .list [tieredNode "if_branch" "logical_operator" "operator"]),
     ("edges", .list [tieredEdge "sourceNodeId" "target_node_id"])]

theorem once_tieredNode : Node.spelling.once (tieredNode "ifBranch" "logicalOperator" "op") := by
  have clause : (ofParts Clause.parts).once (tieredClause "op") := by
    apply once_ofParts ⟨by decide, ?_⟩
    simp only [List.forall_mem_cons]
    exact ⟨trivial, trivial, trivial, nofun⟩
  change (ofParts (Node.parts .condition)).once _
  apply once_ofParts ⟨by decide, ?_⟩
  simp only [List.forall_mem_cons]
  refine ⟨trivial, trivial, ?_, nofun⟩
  apply once_ofParts ⟨by decide, List.forall_mem_singleton.mpr ?_⟩
  apply once_ofParts ⟨by decide, ?_⟩
  simp only [List.forall_mem_cons]
  exact ⟨trivial, trivial, once_list (List.forall_mem_singleton.mpr clause), nofun⟩

theorem switched_tieredNode :
    Node.spelling.switched (tieredNode "ifBranch" "logicalOperator" "op")
      (tieredNode "if_branch" "logical_operator" "operator") := by
  have clause : (ofParts Clause.parts).switched (tieredClause "op") (tieredClause "operator") := by
    apply switched_ofParts [("op", "operator")] (by decide)
    exact .cons ⟨rfl, rfl⟩ (.cons ⟨rfl, rfl⟩ (.cons ⟨rfl, rfl⟩ .nil))
  change (ofParts (Node.parts .condition)).switched _ _
  apply switched_ofParts [] (by decide)
  refine .cons ⟨rfl, rfl⟩ (.cons ⟨rfl, rfl⟩ (.cons ⟨rfl, ?_⟩ .nil))
  apply switched_ofParts [("ifBranch", "if_branch")] (by decide)
  refine .cons ⟨rfl, ?_⟩ .nil
  apply switched_ofParts [("logicalOperator", "logical_operator")] (by decide)
  exact .cons ⟨rfl, rfl⟩ (.cons ⟨rfl, rfl⟩ (.cons ⟨rfl, switched_list (.cons clause .nil)⟩ .nil))

theorem spellings_agree_tiered : ∃ g,
    loadFrom (.ofTexts []) tieredDocument = .ok g ∧
      loadFrom (.ofTexts []) tieredData = .ok g := by
  have once : spelling.once tieredDocument := by
    have edge : (ofParts Edge.parts).once (tieredEdge "source_node_id" "targetNodeId") := by
      apply once_ofParts ⟨by decide, ?_⟩
      simp only [List.forall_mem_cons]
      exact ⟨trivial, trivial, nofun⟩
    apply once_ofParts ⟨by decide, ?_⟩
    simp only [List.forall_mem_cons]
    exact ⟨once_list (List.forall_mem_singleton.mpr once_tieredNode),
      once_list (List.forall_mem_singleton.mpr edge), nofun⟩
  have switched : spelling.switched tieredDocument tieredData := by
    have edge : (ofParts Edge.parts).switched (tieredEdge "source_node_id" "targetNodeId")
        (tieredEdge "sourceNodeId" "target_node_id") := by
      apply switched_ofParts
        [("source_node_id", "sourceNodeId"), ("targetNodeId", "target_node_id")] (by decide)
      exact .cons ⟨rfl, rfl⟩ (.cons ⟨rfl, rfl⟩ .nil)
    apply switched_ofParts [] (by decide)
    exact .cons ⟨rfl, switched_list (.cons switched_tieredNode .nil)⟩
      (.cons ⟨rfl, switched_list (.cons edge .nil)⟩ .nil)
  have loaded : (loadFrom (.ofTexts []) tieredDocument).isOk = true := by decide +kernel
  cases found : loadFrom (.ofTexts []) tieredDocument with
  | error e =>
      rw [found] at loaded
      cases loaded
  | ok g => exact ⟨g, rfl, (spellings_agree (.data rfl) (.data rfl) once switched).mp found⟩

end Graph

end Workflow
