import Workflow.Fault
import Workflow.Graph.Document

/-! The capabilities that nodes call through: completion, tools and requests. A capability is a
function from who asks and what is asked to a reply, so that nodes which ask the same may be
answered differently. -/

namespace Workflow

open Schema

/-- The answer to a request. -/
structure HttpResponse where
  status : Int
  headers : Table String
  body : Value

namespace HttpResponse

def statusKey : Field := .plain "status"
def headersKey : Field := .plain "headers"
def bodyKey : Field := .plain "body"

def read : Value → Checked HttpResponse :=
  openRecord fun ms =>
    HttpResponse.mk <$> statusKey.required ms readInt
      <*> headersKey.withDefault ms [] (readTable readString)
      <*> bodyKey.withDefault ms .null readAny

def toValue (r : HttpResponse) : Value :=
  record .full
    [(statusKey, .int r.status), (headersKey, .object (r.headers.mapValues .text)),
     (bodyKey, r.body.opened)]

/-- A status from 200 to 299 tells of success. -/
def isOk (r : HttpResponse) : Bool := 200 ≤ r.status && r.status < 300

end HttpResponse

/-- A call out of a run. -/
inductive Call where
  | complete (prompt : String) (model : ModelRef) (options : Table Value)
  | request (method : Method) (url : String) (headers : Table String) (body : Value)
  | invoke (server tool : String) (arguments : Table Value)

/-- How a call ends: with an answer, with a fault, or by the cancellation of its task, of which
something may be said. -/
inductive Answer (α : Type) where
  | value (a : α)
  | fault (f : Fault)
  | cancelled (message : String)

/-- A reply: its answer, the number of rounds that pass before it is there, and the reason with
which the call cancels the run on the way, if it does. -/
structure Reply (α : Type) where
  delay : Nat
  cancels : Option (Option String)
  answer : Answer α

def Reply.now {α : Type} (answer : Answer α) : Reply α := ⟨0, none, answer⟩

/-- What comes back from a request: a response, or data that has yet to be read as one. -/
inductive HttpAnswer where
  | response (r : HttpResponse)
  | data (v : Value)

/-- A tool on a server. Its handler is given the id of the node that calls, and the arguments. -/
structure ToolDefinition where
  server : String
  name : String
  handler : String → Table Value → Reply Value
  description : String
  inputSchema : Table Value

/-- Registered tools, at most one for each pair of server and name. -/
structure ToolRegistry where
  tools : List ToolDefinition

namespace ToolRegistry

def empty : ToolRegistry := ⟨[]⟩

/-- Replaces the tool of the same server and name where it stands, or appends a new one. -/
def registerIn (tool : ToolDefinition) : List ToolDefinition → List ToolDefinition
  | [] => [tool]
  | t :: rest =>
    if t.server = tool.server ∧ t.name = tool.name then tool :: rest
    else t :: registerIn tool rest

def register (r : ToolRegistry) (tool : ToolDefinition) : ToolRegistry :=
  ⟨registerIn tool r.tools⟩

def ofList (tools : List ToolDefinition) : ToolRegistry := tools.foldl register empty

def find (r : ToolRegistry) (server name : String) : Except Fault ToolDefinition :=
  match r.tools.find? fun t => t.server == server && t.name == name with
  | some tool => .ok tool
  | none =>
    if r.tools.any fun t => t.server == server then .error (.unknownTool server name)
    else .error (.unknownServer server)

/-- Whether one tool is listed before another: by server, then by name. -/
def listedBefore (a b : ToolDefinition) : Bool :=
  decide (a.server < b.server) || (a.server == b.server && decide (a.name < b.name))

/-- All tools, or those of one server, in order. -/
def list (r : ToolRegistry) (server : Option String) : List ToolDefinition :=
  ranked listedBefore <| r.tools.filter fun t =>
    match server with
    | some s => t.server == s
    | none => true

end ToolRegistry

/-- The capabilities of a run; each may be missing. What each is given first is the id of the node
that calls. -/
structure Capabilities where
  completion : Option (String → String → ModelRef → Table Value → Reply Value)
  tools : Option ToolRegistry
  http : Option (String → Method → String → Table String → Value → Reply HttpAnswer)

def Capabilities.none : Capabilities := ⟨.none, .none, .none⟩

end Workflow
