import Workflow.Proofs.Graph.Reading
import Workflow.Proofs.Schema.Record

/-! The records of a graph are read back from documents: each as it was, with the members of its
tables in order. -/

namespace Workflow

open Schema

/-! The same records with the members of their tables in order. -/

def Clause.ordered (c : Clause) : Clause := { c with value := c.value.ordered }

def Branch.ordered (b : Branch) : Branch := { b with clauses := b.clauses.map Clause.ordered }

def ToolConfig.ordered (c : ToolConfig) : ToolConfig :=
  { c with arguments := Value.orderedTable c.arguments }

def ConditionConfig.ordered (c : ConditionConfig) : ConditionConfig :=
  { c with ifBranch := c.ifBranch.ordered, elseIf := c.elseIf.map Branch.ordered }

def HttpConfig.ordered (c : HttpConfig) : HttpConfig :=
  { c with
    headers := c.headers.sorted
    query := Value.orderedTable c.query
    body := c.body.ordered }

def NodeConfig.ordered : NodeConfig → NodeConfig
  | .tool c => .tool c.ordered
  | .condition c => .condition c.ordered
  | .http c => .http c.ordered
  | c => c

def NodeHeader.ordered (h : NodeHeader) : NodeHeader :=
  { h with display := Value.orderedTable h.display }

def Node.ordered (n : Node) : Node :=
  { n with display := Value.orderedTable n.display, config := n.config.ordered }

def Graph.ordered (g : Graph) : Graph :=
  { g with nodes := g.nodes.map Node.ordered, metadata := Value.orderedTable g.metadata }

namespace Value

variable {v : Value} {t : Table Value}

theorem openedItems_eq (vs : List Value) : openedItems vs = vs.map opened := by
  induction vs with
  | nil => rfl
  | cons v vs ih => rw [openedItems, ih, List.map_cons]

theorem openedMembers_eq (ms : Table Value) : openedMembers ms = ms.mapValues opened := by
  induction ms with
  | nil => rfl
  | cons m ms ih =>
      rw [openedMembers, ih]
      rfl

/-- What a document can hold contains no object that would have to be opened. -/
theorem IsJson.opened (h : v.IsJson) : v.opened = v := by
  refine h.unchanged ?_ ?_ ?_
  · intro v atom json
    cases json <;> first | rfl | cases atom
  · exact fun vs => by rw [Value.opened, openedItems_eq]
  · exact fun ms => by rw [Value.opened, openedMembers_eq]

theorem IsJson.openedTable (h : IsJson (.object t)) : openedTable t = .object t := h.opened

theorem IsJson.orderedTable (h : IsJson (.object t)) : IsJson (.object (orderedTable t)) :=
  ordered_object t ▸ h.ordered

end Value

/-! Words are read back whatever their case. -/

theorem Operator.ofWord (op : Operator) : Clause.operatorOfWord? op.name = some op := by
  cases op <;> decide +kernel

theorem Joiner.ofWord (j : Joiner) : Branch.joinerOfWord? j.name = some j := by cases j <;> rfl

theorem ResponseFormat.ofWord (f : ResponseFormat) : LlmConfig.formatOfWord? f.name = some f := by
  cases f <;> rfl

theorem Method.ofWord (m : Method) : Method.ofName? (Text.upper m.name) = some m := by
  cases m <;> decide +kernel

theorem NodeKind.ofWord (k : NodeKind) : NodeKind.ofName? k.name = some k := by
  cases k <;> decide

theorem Clause.saves {c : Clause} (json : c.value.IsJson) (settled : c.value.Settled) :
    Saves Clause.read (c.toValue .document) (c.ordered.toValue .document) c.ordered := by
  rw [toValue, toValue, json.opened, ordered, json.ordered.opened]
  exact ((((Saves.text c.field).required rfl).map Clause.mk).seq
    ((Saves.word c.operator.ofWord).required rfl)).seq (.any json settled)
    |>.record rfl (by decide)

theorem Branch.saves {b : Branch} (json : ∀ v ∈ b.loose, v.IsJson)
    (settled : ∀ v ∈ b.loose, v.Settled) :
    Saves Branch.read (b.toValue .document) (b.ordered.toValue .document) b.ordered := by
  have clauses : ∀ c ∈ b.clauses,
      Saves Clause.read (c.toValue .document) (c.ordered.toValue .document) c.ordered :=
    fun c mem => Clause.saves (json _ (List.mem_map_of_mem mem))
      (settled _ (List.mem_map_of_mem mem))
  exact ((((Saves.text b.port).required rfl).map Branch.mk).seq
    ((Saves.list clauses).withDefault rfl)).seq ((Saves.word b.joiner.ofWord).withDefault rfl)
    |>.record rfl (by decide)

theorem ModelRef.saves (m : ModelRef) :
    Saves ModelRef.read (m.toValue .document) (m.toValue .document) m := by
  have fields : Saves (strictRecord fields fun ms =>
      ModelRef.mk <$> providerKey.withDefault ms defaultProvider readString
        <*> modelKey.required ms readString) (m.toValue .document) (m.toValue .document) m :=
    (((Saves.text m.provider).withDefault rfl).map ModelRef.mk).seq
      ((Saves.text m.model).required rfl) |>.record rfl (by decide)
  exact ⟨fields.json, fields.reads, fields.again⟩

theorem InputConfig.saves (c : InputConfig) :
    Saves InputConfig.read (c.toValue .document) (c.toValue .document) c :=
  ((Builds.text? c.description).map InputConfig.mk).seq
    ((Saves.items fun s _ => .text s).withDefault rfl) |>.record rfl (by decide)

theorem OutputField.saves (f : OutputField) :
    Saves OutputField.read (f.toValue .document) (f.toValue .document) f :=
  (((Saves.text f.key).required rfl).map OutputField.mk).seq ((Saves.text f.source).required rfl)
    |>.record rfl (by decide)

theorem OutputConfig.saves (c : OutputConfig) :
    Saves OutputConfig.read (c.toValue .document) (c.toValue .document) c :=
  ((Saves.items fun f _ => OutputField.saves f).withDefault rfl).map OutputConfig.mk
    |>.record rfl (by decide)

theorem Double.finite_of_bounds {x y : Double} (cool : x.lessEq y = true)
    (finite : y.isFinite = true) (warm : x.less .zero = false) : x.isFinite = true := by
  cases x with
  | finite negative units fits => rfl
  | nan => cases y <;> cases cool
  | infinite negative =>
      cases negative with
      | true => cases warm
      | false =>
          cases y with
          | finite negative units fits => cases cool
          | _ => cases finite

theorem LlmConfig.saves {c : LlmConfig} (bounded : c.Bounded) :
    Saves (LlmConfig.read .document) (c.toValue .document) (c.toValue .document) c := by
  have heat : ∀ x ∈ c.temperature,
      Saves (readTemperature .document) (.double x) (.double x) x ∧
        (Value.double x).isNull = false := by
    intro x mem
    obtain ⟨cool, warm⟩ := bounded.heat x mem
    have finite := Double.finite_of_bounds cool (by decide +kernel) warm
    exact ⟨⟨.double finite, readTemperature_eq_good.mpr ⟨rfl, cool, warm⟩, rfl⟩, rfl⟩
  have tokens : ∀ n ∈ c.maxTokens,
      Saves readMaxTokens (.int n) (.int n) n ∧ (Value.int n).isNull = false := fun n mem =>
    ⟨⟨.int n, readMaxTokens_eq_good.mpr ⟨rfl, bounded.tokens n mem⟩, rfl⟩, rfl⟩
  exact ((((((((ModelRef.saves c.model).required rfl).map LlmConfig.mk).seq
    ((Saves.text c.prompt).required rfl)).seq (.text? c.systemPrompt)).seq (.option heat)).seq
    (.option tokens)).seq ((Saves.word c.responseFormat.ofWord).withDefault rfl))
    |>.record rfl (by decide)

theorem ToolConfig.saves {c : ToolConfig} (json : Value.IsJson (.object c.arguments))
    (settled : Value.Settled (.object c.arguments)) :
    Saves ToolConfig.read (c.toValue .document) (c.ordered.toValue .document) c.ordered := by
  rw [toValue, toValue, json.openedTable, ordered, json.orderedTable.openedTable]
  exact ((((Saves.text c.server).required rfl).map ToolConfig.mk).seq
    ((Saves.text c.tool).required rfl)).seq ((Saves.table json settled).withDefault rfl)
    |>.record rfl (by decide)

theorem ConditionConfig.saves {c : ConditionConfig}
    (json : ∀ b ∈ c.branches, ∀ v ∈ b.loose, v.IsJson)
    (settled : ∀ b ∈ c.branches, ∀ v ∈ b.loose, v.Settled) :
    Saves ConditionConfig.read (c.toValue .document) (c.ordered.toValue .document) c.ordered := by
  have branch : ∀ b ∈ c.branches,
      Saves Branch.read (b.toValue .document) (b.ordered.toValue .document) b.ordered :=
    fun b mem => Branch.saves (json b mem) (settled b mem)
  obtain ⟨first, others⟩ := List.forall_mem_cons.mp branch
  exact (((first.withDefault rfl).map ConditionConfig.mk).seq
    ((Saves.list others).withDefault rfl)).seq ((Saves.text c.elsePort).withDefault rfl)
    |>.record rfl (by decide)

theorem HttpConfig.saves {c : HttpConfig} (distinct : c.headers.Distinct)
    (json : Value.IsJson (.object c.query)) (settled : Value.Settled (.object c.query))
    (json' : c.body.IsJson) (settled' : c.body.Settled) :
    Saves HttpConfig.read (c.toValue .document) (c.ordered.toValue .document) c.ordered := by
  rw [toValue, toValue, json.openedTable, json'.opened, ordered, json.orderedTable.openedTable,
    json'.ordered.opened]
  have method : Saves (readWord .literalError fun s => Method.ofName? (Text.upper s))
      (.text c.method.name) (.text c.method.name) c.method := .word c.method.ofWord
  exact ((((((method.withDefault rfl).map HttpConfig.mk).seq
    ((Saves.text c.url).required rfl)).seq ((Saves.texts distinct).withDefault rfl)).seq
    ((Saves.table json settled).withDefault rfl)).seq (.any json' settled')).seq
    ((Saves.bool c.failOnNon2xx).withDefault rfl) |>.record rfl (by decide)

theorem TemplateConfig.saves (c : TemplateConfig) :
    Saves TemplateConfig.read (c.toValue .document) (c.toValue .document) c :=
  ((Saves.text c.template).withDefault rfl).map TemplateConfig.mk |>.record rfl (by decide)

theorem NoteConfig.saves (c : NoteConfig) :
    Saves NoteConfig.read (c.toValue .document) (c.toValue .document) c :=
  ((Saves.text c.text).withDefault rfl).map NoteConfig.mk |>.record rfl (by decide)

theorem NodeConfig.builds {c : NodeConfig} (json : ∀ v ∈ c.loose, v.IsJson)
    (settled : ∀ v ∈ c.loose, v.Settled) (sound : c.Sound) :
    Builds (fun ms => Node.readConfig .document ms c.kind) [(Node.configKey, c.toValue .document)]
      [(Node.configKey, c.ordered.toValue .document)] c.ordered := by
  cases c with
  | input c => exact (c.saves.withDefault rfl).map _
  | output c => exact (c.saves.withDefault rfl).map _
  | llm c => exact ((LlmConfig.saves sound).required rfl).map _
  | tool c =>
      rw [loose, List.forall_mem_singleton] at json settled
      exact ((ToolConfig.saves json settled).required rfl).map _
  | condition c =>
      have parts : ∀ b ∈ c.branches, ∀ v ∈ b.loose, v ∈ loose (.condition c) :=
        fun b mem v here => List.mem_flatMap.mpr ⟨b, mem, here⟩
      exact ((ConditionConfig.saves (fun b mem v here => json v (parts b mem v here))
        fun b mem v here => settled v (parts b mem v here)).withDefault rfl).map _
  | http c =>
      rw [loose, List.forall_mem_cons, List.forall_mem_singleton] at json settled
      exact ((HttpConfig.saves sound json.1 settled.1 json.2 settled.2).required rfl).map _
  | template c => exact (c.saves.withDefault rfl).map _
  | note c => exact (c.saves.withDefault rfl).map _

theorem NodeHeader.builds {h : NodeHeader} (json : Value.IsJson (.object h.display))
    (settled : Value.Settled (.object h.display)) :
    Builds readMembers h.entries h.ordered.entries h.ordered := by
  rw [entries, entries, json.openedTable, ordered, json.orderedTable.openedTable]
  exact ((((Saves.text h.id).required rfl).map NodeHeader.mk).seq (.text? h.name)).seq
    ((Saves.table json settled).withDefault rfl)

theorem NodeConfig.kind_ordered (c : NodeConfig) : c.ordered.kind = c.kind := by cases c <;> rfl

theorem Node.saves {n : Node} (json : ∀ v ∈ n.loose, v.IsJson) (settled : ∀ v ∈ n.loose, v.Settled)
    (sound : n.config.Sound) :
    Saves (Node.read .document) (n.toValue .document) (n.ordered.toValue .document) n.ordered := by
  obtain ⟨display, config⟩ := List.forall_mem_cons.mp json
  obtain ⟨display', config'⟩ := List.forall_mem_cons.mp settled
  have kind : Saves (readWord .literalError fun s => if s = n.kind.name then some () else none)
      (.text n.kind.name) (.text n.kind.name) () := .word (if_pos rfl)
  have header := NodeHeader.builds (h := n.header) display display'
  have separate : Separate fields := by decide
  have same : n.ordered.kind = n.kind := n.config.kind_ordered
  have whole : Saves (readOfKind .document n.kind) (n.toValue .document)
      (n.ordered.toValue .document) n.ordered := by
    rw [toValue, toValue, same]
    exact ((header.map fun header (_ : Unit) config =>
      Node.mk header.id header.name header.display config).seq (kind.withDefault rfl)).seq
        (NodeConfig.builds config config' sound) |>.record rfl separate
  refine ⟨whole.json, ?_, whole.again⟩
  have named : (written (n.header.entries ++ [(kindKey, .text n.kind.name),
      (configKey, n.config.toValue .document)])).last? kindKey.name = some (.text n.kind.name) :=
    Separate.last?_of_mem (e := (kindKey, .text n.kind.name)) separate (by simp) rfl
  have found := whole.reads
  rw [toValue, ordered_record] at found ⊢
  simp only [read, Value.members?, named, n.kind.ofWord, found]
  rfl

theorem Edge.saves (e : Edge) : Saves Edge.read (e.toValue .document) (e.toValue .document) e :=
  ((((((Saves.text e.source).required rfl).map Edge.mk).seq
    ((Saves.text e.target).required rfl)).seq (.text? e.sourcePort)).seq
    (.text? e.targetPort)).seq (.text? e.id) |>.record rfl (by decide)

theorem Graph.saves {g : Graph} (sound : g.Sound) (json : ∀ v ∈ g.loose, v.IsJson) :
    Saves (Graph.read .document) (g.toValue .document) (g.ordered.toValue .document) g.ordered := by
  obtain ⟨metadata, nodes⟩ := List.forall_mem_cons.mp json
  obtain ⟨metadata', nodes'⟩ := List.forall_mem_cons.mp sound.settled
  have each : ∀ n ∈ g.nodes, Saves (Node.read .document) (n.toValue .document)
      (n.ordered.toValue .document) n.ordered := fun n mem =>
    Node.saves (fun v here => nodes v (List.mem_flatMap.mpr ⟨n, mem, here⟩))
      (fun v here => nodes' v (List.mem_flatMap.mpr ⟨n, mem, here⟩)) (sound.configs n mem)
  rw [toValue, toValue, metadata.openedTable, ordered, metadata.orderedTable.openedTable]
  exact (((((Builds.text? g.id).map Graph.mk).seq (.text? g.name)).seq
    ((Saves.list each).withDefault rfl)).seq
    ((Saves.items fun e _ => Edge.saves e).withDefault rfl)).seq
    ((Saves.table metadata metadata').withDefault rfl) |>.record rfl (by decide)

end Workflow
