import Workflow.Value.Basic

/-! Workflow graphs: nodes of eight kinds, each with a configuration of its own, and edges that
refer to nodes by id. -/

namespace Workflow

/-- What a clause asks of a value. -/
inductive Operator where
  | equals
  | notEquals
  | contains
  | notContains
  | startsWith
  | endsWith
  | greaterThan
  | greaterThanOrEqual
  | lessThan
  | lessThanOrEqual
  | isEmpty
  | isNotEmpty
  deriving DecidableEq

namespace Operator

def all : List Operator :=
  [equals, notEquals, contains, notContains, startsWith, endsWith, greaterThan,
   greaterThanOrEqual, lessThan, lessThanOrEqual, isEmpty, isNotEmpty]

def name : Operator → String
  | equals => "equals"
  | notEquals => "not_equals"
  | contains => "contains"
  | notContains => "not_contains"
  | startsWith => "starts_with"
  | endsWith => "ends_with"
  | greaterThan => "greater_than"
  | greaterThanOrEqual => "greater_than_or_equal"
  | lessThan => "less_than"
  | lessThanOrEqual => "less_than_or_equal"
  | isEmpty => "is_empty"
  | isNotEmpty => "is_not_empty"

/-- Symbols and short words for operators. -/
def shortNames : Table Operator :=
  [("==", equals), ("!=", notEquals), (">", greaterThan), (">=", greaterThanOrEqual),
   ("<", lessThan), ("<=", lessThanOrEqual), ("eq", equals), ("ne", notEquals),
   ("gt", greaterThan), ("gte", greaterThanOrEqual), ("lt", lessThan), ("lte", lessThanOrEqual)]

def ofName? (s : String) : Option Operator := all.find? fun op => op.name == s

end Operator

structure Clause where
  field : String
  operator : Operator
  value : Value

/-- How the clauses of a branch are joined. -/
inductive Joiner where
  | all
  | any
  deriving DecidableEq

def Joiner.name : Joiner → String
  | .all => "and"
  | .any => "or"

structure Branch where
  port : String
  clauses : List Clause
  joiner : Joiner

/-- The names of the two ports that a condition has of its own. -/
def ifPort : String := "true"

def elsePort : String := "false"

structure ModelRef where
  provider : String
  model : String
  deriving DecidableEq

def ModelRef.text (m : ModelRef) : String := m.provider ++ "/" ++ m.model

inductive ResponseFormat where
  | text
  | json
  deriving DecidableEq

def ResponseFormat.name : ResponseFormat → String
  | .text => "text"
  | .json => "json"

inductive Method where
  | get
  | post
  | put
  | patch
  | delete
  | head
  | options
  deriving DecidableEq

namespace Method

def all : List Method := [get, post, put, patch, delete, head, options]

def name : Method → String
  | get => "GET"
  | post => "POST"
  | put => "PUT"
  | patch => "PATCH"
  | delete => "DELETE"
  | head => "HEAD"
  | options => "OPTIONS"

def ofName? (s : String) : Option Method := all.find? fun m => m.name == s

end Method

structure InputConfig where
  description : Option String
  fields : List String

/-- A field of a result: its key and the reference that it is read from. -/
structure OutputField where
  key : String
  source : String
  deriving DecidableEq

structure OutputConfig where
  fields : List OutputField

structure LlmConfig where
  model : ModelRef
  prompt : String
  systemPrompt : Option String
  temperature : Option Double
  maxTokens : Option Int
  responseFormat : ResponseFormat

structure ToolConfig where
  server : String
  tool : String
  arguments : Table Value

structure ConditionConfig where
  ifBranch : Branch
  elseIf : List Branch
  elsePort : String

namespace ConditionConfig

/-- The branches in the order in which they are tried. -/
def branches (c : ConditionConfig) : List Branch := c.ifBranch :: c.elseIf

/-- The ports in declared order, the else port last. -/
def ports (c : ConditionConfig) : List String := c.branches.map Branch.port ++ [c.elsePort]

end ConditionConfig

structure HttpConfig where
  method : Method
  url : String
  headers : Table String
  query : Table Value
  body : Value
  failOnNon2xx : Bool

structure TemplateConfig where
  template : String

structure NoteConfig where
  text : String

inductive NodeKind where
  | input
  | output
  | llm
  | tool
  | condition
  | http
  | template
  | note
  deriving DecidableEq

namespace NodeKind

def all : List NodeKind := [input, output, llm, tool, condition, http, template, note]

def name : NodeKind → String
  | input => "input"
  | output => "output"
  | llm => "llm"
  | tool => "tool"
  | condition => "condition"
  | http => "http"
  | template => "template"
  | note => "note"

def ofName? (s : String) : Option NodeKind := all.find? fun k => k.name == s

end NodeKind

/-- What a node does, by its kind. -/
inductive NodeConfig where
  | input (c : InputConfig)
  | output (c : OutputConfig)
  | llm (c : LlmConfig)
  | tool (c : ToolConfig)
  | condition (c : ConditionConfig)
  | http (c : HttpConfig)
  | template (c : TemplateConfig)
  | note (c : NoteConfig)

def NodeConfig.kind : NodeConfig → NodeKind
  | .input _ => .input
  | .output _ => .output
  | .llm _ => .llm
  | .tool _ => .tool
  | .condition _ => .condition
  | .http _ => .http
  | .template _ => .template
  | .note _ => .note

/-- What every node has, whatever its kind. -/
structure NodeHeader where
  id : String
  name : Option String
  display : Table Value

structure Node where
  id : String
  name : Option String
  display : Table Value
  config : NodeConfig

def Node.kind (n : Node) : NodeKind := n.config.kind

def Node.header (n : Node) : NodeHeader := ⟨n.id, n.name, n.display⟩

structure Edge where
  source : String
  target : String
  sourcePort : Option String
  targetPort : Option String
  id : Option String
  deriving DecidableEq

namespace Edge

/-- A node id with a port, unless that is missing or empty. -/
def endpoint (node : String) : Option String → String
  | some port => if port.isEmpty then node else node ++ ":" ++ port
  | none => node

/-- The text of an edge in messages. -/
def describe (e : Edge) : String :=
  endpoint e.source e.sourcePort ++ " -> " ++ endpoint e.target e.targetPort

end Edge

structure Graph where
  id : Option String
  name : Option String
  nodes : List Node
  edges : List Edge
  metadata : Table Value

namespace Graph

def nodeIds (g : Graph) : List String := g.nodes.map Node.id

/-- Nodes under their ids; the last of several under one id counts. -/
def indexNodes (nodes : List Node) : Table Node := Table.ofList (nodes.map fun n => (n.id, n))

def nodeMap (g : Graph) : Table Node := indexNodes g.nodes

/-- The nodes that take part in a run: all but the notes. -/
def functionalNodes (g : Graph) : List Node := g.nodes.filter fun n => n.kind ≠ .note

/-- The edges between functional nodes. -/
def functionalEdges (g : Graph) : List Edge :=
  let ids := g.functionalNodes.map Node.id
  g.edges.filter fun e => ids.contains e.source && ids.contains e.target

def nodesOfKind (g : Graph) (kind : NodeKind) : List Node := g.nodes.filter fun n => n.kind = kind

end Graph

end Workflow
