import Workflow.Proofs.Graph.Saving
import Workflow.Proofs.Json.Document
import Workflow.Run.Engine

/-! A graph is loaded again from the document that it was saved as, equal to what it was, unless
the document is nested deeper than a reader of documents goes. -/

namespace Workflow

open Schema

/-! Records that are equal, with tables compared whatever their order. -/

structure Clause.Equal (c d : Clause) : Prop where
  field : c.field = d.field
  operator : c.operator = d.operator
  value : c.value.equals d.value = true

structure Branch.Equal (b c : Branch) : Prop where
  port : b.port = c.port
  clauses : List.Forall₂ Clause.Equal b.clauses c.clauses
  joiner : b.joiner = c.joiner

structure ToolConfig.Equal (c d : ToolConfig) : Prop where
  server : c.server = d.server
  tool : c.tool = d.tool
  arguments : (Value.object c.arguments).equals (.object d.arguments) = true

structure ConditionConfig.Equal (c d : ConditionConfig) : Prop where
  branches : List.Forall₂ Branch.Equal c.branches d.branches
  elsePort : c.elsePort = d.elsePort

structure HttpConfig.Equal (c d : HttpConfig) : Prop where
  method : c.method = d.method
  url : c.url = d.url
  headers : ∀ name, c.headers.get? name = d.headers.get? name
  query : (Value.object c.query).equals (.object d.query) = true
  body : c.body.equals d.body = true
  failOnNon2xx : c.failOnNon2xx = d.failOnNon2xx

inductive NodeConfig.Equal : NodeConfig → NodeConfig → Prop where
  | tool {c d} (h : c.Equal d) : Equal (.tool c) (.tool d)
  | condition {c d} (h : c.Equal d) : Equal (.condition c) (.condition d)
  | http {c d} (h : c.Equal d) : Equal (.http c) (.http d)
  | refl (c) : Equal c c

structure Node.Equal (m n : Node) : Prop where
  id : m.id = n.id
  name : m.name = n.name
  display : (Value.object m.display).equals (.object n.display) = true
  config : m.config.Equal n.config

structure Graph.Equal (g h : Graph) : Prop where
  id : g.id = h.id
  name : g.name = h.name
  nodes : List.Forall₂ Node.Equal g.nodes h.nodes
  edges : g.edges = h.edges
  metadata : (Value.object g.metadata).equals (.object h.metadata) = true

theorem Value.ordered_equals {v : Value} (json : v.IsJson) (settled : v.Settled) :
    v.ordered.equals v = true :=
  equals_of_ordered json.ordered settled (ordered_ordered v)

theorem Value.orderedTable_equals {t : Table Value} (json : IsJson (.object t))
    (settled : Settled (.object t)) : (Value.object (orderedTable t)).equals (.object t) = true :=
  ordered_object t ▸ ordered_equals json settled

theorem Branch.ordered_equal {b : Branch} (json : ∀ v ∈ b.loose, v.IsJson)
    (settled : ∀ v ∈ b.loose, v.Settled) : b.ordered.Equal b where
  port := rfl
  clauses := by
    rw [ordered, List.forall₂_map_left_iff, List.forall₂_same]
    intro c mem
    have here := List.mem_map_of_mem (f := Clause.value) mem
    exact ⟨rfl, rfl, Value.ordered_equals (json _ here) (settled _ here)⟩
  joiner := rfl

theorem NodeConfig.ordered_equal {c : NodeConfig} (json : ∀ v ∈ c.loose, v.IsJson)
    (settled : ∀ v ∈ c.loose, v.Settled) (sound : c.Sound) : c.ordered.Equal c := by
  cases c with
  | tool c =>
      rw [loose, List.forall_mem_singleton] at json settled
      exact .tool ⟨rfl, rfl, Value.orderedTable_equals json settled⟩
  | condition c =>
      have parts : ∀ b ∈ c.branches, ∀ v ∈ b.loose, v ∈ loose (.condition c) :=
        fun b mem v here => List.mem_flatMap.mpr ⟨b, mem, here⟩
      refine .condition ⟨?_, rfl⟩
      change List.Forall₂ _ (c.branches.map Branch.ordered) c.branches
      rw [List.forall₂_map_left_iff, List.forall₂_same]
      exact fun b mem => Branch.ordered_equal (fun v here => json v (parts b mem v here))
        fun v here => settled v (parts b mem v here)
  | http c =>
      rw [loose, List.forall_mem_cons, List.forall_mem_singleton] at json settled
      exact .http ⟨rfl, rfl, Table.get?_of_perm (Table.sorted_perm _) sound,
        Value.orderedTable_equals json.1 settled.1, Value.ordered_equals json.2 settled.2, rfl⟩
  | _ => exact .refl _

theorem Graph.ordered_equal {g : Graph} (sound : g.Sound) (json : ∀ v ∈ g.loose, v.IsJson) :
    g.ordered.Equal g := by
  obtain ⟨metadata, nodes⟩ := List.forall_mem_cons.mp json
  obtain ⟨metadata', nodes'⟩ := List.forall_mem_cons.mp sound.settled
  refine ⟨rfl, rfl, ?_, rfl, Value.orderedTable_equals metadata metadata'⟩
  rw [ordered, List.forall₂_map_left_iff, List.forall₂_same]
  intro n mem
  have here : ∀ v ∈ n.loose, v ∈ g.nodes.flatMap Node.loose := fun v here =>
    List.mem_flatMap.mpr ⟨n, mem, here⟩
  obtain ⟨display, config⟩ := List.forall_mem_cons.mp fun v mem => nodes v (here v mem)
  obtain ⟨display', config'⟩ := List.forall_mem_cons.mp fun v mem => nodes' v (here v mem)
  exact ⟨rfl, rfl, Value.orderedTable_equals display display',
    NodeConfig.ordered_equal config config' (sound.configs n mem)⟩

/-! The text of a graph that holds only what documents can hold. -/

namespace Json

variable {style : Style} {v : Value}

def Style.ofIndent : Option Int → Style
  | none => .line
  | some width => .indented width.toNat

def Style.saved (indent : Option Int) : Style := { ofIndent indent with sortKeys := true }

theorem Style.legible_saved (indent : Option Int) : (saved indent).Legible := by
  have comma : ",".toList = [','] := rfl
  cases indent with
  | none => exact ⟨legible_line.comma, legible_line.colon⟩
  | some width => exact ⟨⟨[], comma, List.forall_mem_nil _⟩, legible_line.colon⟩

end Json

namespace Value

theorem finiteItems_eq (vs : List Value) : finiteItems vs = vs.map finite := by
  induction vs with
  | nil => rfl
  | cons v vs ih => rw [finiteItems, ih, List.map_cons]

theorem finiteMembers_eq (ms : Table Value) : finiteMembers ms = ms.mapValues finite := by
  induction ms with
  | nil => rfl
  | cons m ms ih =>
      rw [finiteMembers, ih]
      rfl

theorem IsJson.finite {v : Value} (h : v.IsJson) : v.finite = v := by
  refine h.unchanged ?_ ?_ ?_
  · intro v atom json
    cases json with
    | double finite => rw [Value.finite, if_pos finite]
    | _ => first | rfl | cases atom
  · exact fun vs => by rw [Value.finite, finiteItems_eq]
  · exact fun ms => by rw [Value.finite, finiteMembers_eq]

end Value

namespace Graph

variable {g : Graph}

theorem toJson_eq (json : (g.toValue .document).IsJson) (indent : Option Int) :
    g.toJson (.ofIndent indent) =
      String.ofList (Json.render (.saved indent) 0 (g.toValue .document)) := by
  rw [toJson, json.finite]
  rfl

theorem toJson_congr {h : Graph} (json : (g.toValue .document).IsJson)
    (same : (h.toValue .document).ordered = (g.toValue .document).ordered) (indent : Option Int) :
    h.toJson (.ofIndent indent) = g.toJson (.ofIndent indent) := by
  have json' : (h.toValue .document).IsJson := Value.isJson_of_ordered (same ▸ json.ordered)
  rw [toJson_eq json, toJson_eq json', Json.render_sorted rfl json, Json.render_sorted rfl json',
    same]

/-- The document of a graph is within the limits of what is loaded: it is nested at most two hundred
deep, and its integers are short. -/
def Fits (g : Graph) : Prop :=
  (g.toValue .document).depth ≤ 200 ∧
    (g.toValue .document).hasInteger Json.Rules.strict.isLong = false

instance (g : Graph) : Decidable g.Fits := inferInstanceAs (Decidable (_ ∧ _))

/-- A saved graph that fits is loaded with the members of its tables in order; no other one is. -/
theorem load_toJson (sound : g.Sound) (json : ∀ v ∈ g.loose, v.IsJson) (files : Files)
    (indent : Option Int) :
    load files (g.toJson (.ofIndent indent)) =
      if g.Fits then .ok g.ordered
      else .error (.invalid [⟨.jsonInvalid, []⟩]) := by
  have saves := Graph.saves sound json
  obtain ⟨ms, shape⟩ : ∃ ms, g.toValue .document = .object ms := ⟨_, rfl⟩
  have found := Json.readStrict?_render (Json.Style.legible_saved indent) rfl (shape ▸ saves.json)
  have start : (Text.dropFront Text.isBlank (g.toJson (.ofIndent indent)).toList).head? =
      some '\x7b' := by
    obtain ⟨cs, front⟩ := List.head?_eq_some_iff.mp (Json.head_render_object (.saved indent) 0 ms)
    rw [toJson_eq saves.json, shape, String.toList_ofList, front]
    rfl
  rw [load, if_pos start, ofText, readText, toJson_eq saves.json, shape, found, ← shape]
  by_cases fits : g.Fits
  · rw [if_pos fits, if_pos (show _ ∧ _ from fits)]
    dsimp only
    rw [saves.reads]
    rfl
  · rw [if_neg fits, if_neg (show ¬(_ ∧ _) from fits)]
    rfl

/-- A graph that was read, that holds only what documents can hold and that fits is saved in every
layout. Loaded again it is the same but for the order in its tables, and so equal to what it was,
and it is saved alike. -/
theorem saved_loads {origin : Origin} {data : Value} (made : read origin data = .good g)
    (json : ∀ v ∈ g.loose, v.IsJson) (fits : g.Fits) (files : Files) (indent : Option Int) :
    g.refusal? = none ∧ load files (g.toJson (.ofIndent indent)) = .ok g.ordered ∧
      g.ordered.Equal g ∧ g.ordered.toJson (.ofIndent indent) = g.toJson (.ofIndent indent) := by
  have sound := sound_of_read made
  have saves := Graph.saves sound json
  have loads := load_toJson sound json files indent
  rw [if_pos fits] at loads
  have short : (g.toValue .document).hasLong = false :=
    Value.hasInteger_eq_false_of_imp (fun _ => Json.Rules.isLong_of_isLong .strict) fits.2
  have accepted : g.refusal? = none := by
    rw [refusal?, Json.refusal?_eq_none saves.json short, Json.refusal?_eq_none saves.json short]
    rfl
  exact ⟨accepted, loads, ordered_equal sound json, toJson_congr saves.json saves.again indent⟩

/-- The data of a graph with a node of every kind, some with defaults only. -/
def assortmentData : Value :=
  .object
    [("name", .text "assortment"),
     ("nodes", .list
       [.object [("id", .text "in"), ("kind", .text "input")],
        .object [("id", .text "out"), ("kind", .text "output"), ("name", .null)],
        .object
          [("id", .text "ask"), ("kind", .text "llm"),
           ("config", .object
             [("model", .text "small"), ("prompt", .text "?"), ("maxTokens", .text "9")])],
        .object
          [("id", .text "tool"), ("kind", .text "tool"),
           ("config", .object
             [("server", .text "s"), ("tool", .text "t"),
              ("arguments", .object [("b", .null), ("a", .int 1)])])],
        .object [("id", .text "check"), ("kind", .text "condition"), ("config", .object [])],
        .object
          [("id", .text "fetch"), ("kind", .text "http"),
           ("config", .object
             [("method", .text "post"), ("url", .text "u"),
              ("headers", .object [("b", .text "2"), ("a", .text "1")])])],
        .object [("id", .text "fill"), ("kind", .text "template")],
        .object [("id", .text "note"), ("kind", .text "note")]]),
     ("edges", .list
       [.object [("sourceNodeId", .text "in"), ("target_node_id", .text "out")]])]

def assortment : Graph where
  id := none
  name := some "assortment"
  nodes :=
    [⟨"in", none, [], .input ⟨none, []⟩⟩,
     ⟨"out", none, [], .output ⟨[]⟩⟩,
     ⟨"ask", none, [], .llm ⟨⟨"bedrock", "small"⟩, "?", none, none, some 9, .text⟩⟩,
     ⟨"tool", none, [], .tool ⟨"s", "t", [("b", .null), ("a", .int 1)]⟩⟩,
     ⟨"check", none, [], .condition ⟨⟨"true", [], .all⟩, [], "false"⟩⟩,
     ⟨"fetch", none, [], .http ⟨.post, "u", [("b", "2"), ("a", "1")], [], .null, true⟩⟩,
     ⟨"fill", none, [], .template ⟨""⟩⟩,
     ⟨"note", none, [], .note ⟨""⟩⟩]
  edges := [⟨"in", "out", none, none, none⟩]
  metadata := []

theorem saved_loads_assortment :
    assortment.nodes.map Node.kind = NodeKind.all ∧
      load ⟨[], []⟩ (assortment.toJson (.ofIndent (some 2))) = .ok assortment.ordered ∧
      assortment.ordered.Equal assortment ∧
      assortment.ordered.toJson (.ofIndent (some 2)) = assortment.toJson (.ofIndent (some 2)) := by
  have made : read .memory assortmentData = .good assortment := rfl
  have empty : Value.IsJson (.object []) := .object (List.forall_mem_nil _)
  have arguments : Value.IsJson (.object [("b", .null), ("a", .int 1)]) :=
    .object (List.forall_mem_cons.mpr ⟨.null, List.forall_mem_singleton.mpr (.int 1)⟩)
  have json : ∀ v ∈ assortment.loose, v.IsJson := by
    simp [assortment, loose, Node.loose, NodeConfig.loose, ConditionConfig.branches, Branch.loose,
      empty, arguments, Value.IsJson.null]
  have fits : assortment.Fits := ⟨by decide +kernel, by decide +kernel⟩
  exact ⟨rfl, (saved_loads made json fits _ _).2⟩

def nested : Nat → Value
  | 0 => .null
  | n + 1 => .list [nested n]

theorem nested_isJson (n : Nat) : (nested n).IsJson := by
  induction n with
  | zero => exact .null
  | succ n ih => exact .list (List.forall_mem_singleton.mpr ih)

theorem nested_settled (n : Nat) : (nested n).Settled := by
  induction n with
  | zero => rfl
  | succ n ih => exact Value.settled_list_iff.mpr (List.forall_mem_singleton.mpr ih)

theorem nested_short (n : Nat) : (nested n).hasLong = false := by
  induction n with
  | zero => rfl
  | succ n ih => exact Value.anyHasInteger_eq_false_iff.mpr (List.forall_mem_singleton.mpr ih)

def noted (v : Value) : Graph := ⟨none, none, [], [], [("notes", v)]⟩

theorem read_noted {v : Value} (settled : v.Settled) :
    read .memory (.object [("metadata", .object [("notes", v)])]) = .good (noted v) := by
  have read : read .memory (.object [("metadata", .object [("notes", v)])]) =
      .good ⟨none, none, [], [], [("notes", v.merged)]⟩ := rfl
  rw [read, settled]
  rfl

theorem noted_isJson {v : Value} (json : v.IsJson) : ∀ w ∈ (noted v).loose, w.IsJson :=
  List.forall_mem_singleton.mpr (.object (List.forall_mem_singleton.mpr json))

theorem refusal?_noted {v : Value} (json : v.IsJson) :
    (noted v).refusal? = if v.hasLong then some .longInteger else none := by
  have notes : Value.IsJson (.object [("notes", v)]) := .object (List.forall_mem_singleton.mpr json)
  have document : (noted v).toValue .document =
      .object [("nodes", .list []), ("edges", .list []), ("metadata", .object [("notes", v)])] := by
    rw [toValue, noted, notes.openedTable]
    rfl
  have whole : Value.IsJson ((noted v).toValue .document) := by
    rw [document]
    refine .object ?_
    simp only [List.forall_mem_cons]
    exact ⟨.list (List.forall_mem_nil _), .list (List.forall_mem_nil _), notes,
      List.forall_mem_nil _⟩
  have long : ((noted v).toValue .document).hasLong = v.hasLong := by
    simp [document, Value.hasLong, Value.hasInteger, Value.anyHasInteger,
      Value.anyMemberHasInteger]
  rw [refusal?, Json.refusal?_eq (Json.refusal?_lenient_eq_none whole),
    Json.refusal?_eq (Json.refusal?_lenient_eq_none whole), long]
  cases v.hasLong <;> rfl

/-- Notes that are nested too deep are saved but not loaded; a long integer is not even saved. -/
theorem deep_not_loaded :
    (read .memory (.object [("metadata", .object [("notes", nested 199)])]) =
        .good (noted (nested 199)) ∧
      (∀ v ∈ (noted (nested 199)).loose, v.IsJson) ∧ (noted (nested 199)).refusal? = none ∧
      load ⟨[], []⟩ ((noted (nested 199)).toJson (.ofIndent (some 2))) =
        .error (.invalid [⟨.jsonInvalid, []⟩])) ∧
    read .memory (.object [("metadata", .object [("notes", .int Text.firstLong)])]) =
        .good (noted (.int Text.firstLong)) ∧
      (∀ v ∈ (noted (.int Text.firstLong)).loose, v.IsJson) ∧
      (noted (.int Text.firstLong)).refusal? = some .longInteger := by
  refine ⟨?_, read_noted rfl, noted_isJson (.int _), ?_⟩
  · have made := read_noted (nested_settled 199)
    have json := noted_isJson (nested_isJson 199)
    have loads := load_toJson (sound_of_read made) json ⟨[], []⟩ (some 2)
    have deep : ¬(noted (nested 199)).Fits := fun fits => absurd fits.1 (by decide +kernel)
    rw [if_neg deep] at loads
    refine ⟨made, json, ?_, loads⟩
    rw [refusal?_noted (nested_isJson 199), nested_short]
    rfl
  · rw [refusal?_noted (.int _), Value.hasLong, Value.hasInteger, Text.isLong_firstLong]
    rfl

end Graph

end Workflow
