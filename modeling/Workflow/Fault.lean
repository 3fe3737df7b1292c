import Workflow.Http.Address
import Workflow.Http.ContentType
import Workflow.Http.Packing
import Workflow.Json.Reader
import Workflow.Json.Writer
import Workflow.Schema.Checked
import Workflow.Text.Encoding
import Workflow.Url.Basic
import Workflow.Value.Text

/-! Faults: the ordinary exceptions that a capability or an evaluation raises, by cause; and the
failures of nodes and of runs that they cause. -/

namespace Workflow

inductive Fault where
  /-- Raised by a capability, with the name of its kind and its arguments. -/
  | thrown (kind : String) (args : List Value)
  | missingKey (args : List Value)
  | unknownServer (server : String)
  | unknownTool (server tool : String)
  | unwritable (refusal : Json.Refusal)
  | unreadable (error : Json.ReadError)
  | undecodable (fault : Text.ByteFault)
  /-- A text that has to be in ASCII is not. -/
  | notAscii (text : String)
  /-- An integer past the range of floating-point numbers was compared as a number. -/
  | integerTooLarge
  | address (problem : Url.Problem)
  /-- A request is made to an address that is refused. -/
  | target (problem : Http.AddressProblem)
  /-- An answer tells an address that is refused. -/
  | location (problem : Http.AddressProblem)
  /-- A request is made to an address that does not tell where it goes. -/
  | unknownTarget (address : String)
  | unsupported (scheme : String)
  | domain (problem : Domain.Problem)
  | compressed (flaw : Http.PackingFlaw)
  | parameter (flaw : Http.ParameterFlaw)
  | charset (refusal : Text.CharsetRefusal)
  | invalidRecord (issues : List Schema.Issue)
  | noModelFactory (provider : String)
  | traceSealed (runId : String)

namespace Fault

/-- The text of an exception with some arguments: nothing, the text of a single one, or all of
them in parentheses. -/
def argsText : List Value → Except Json.Refusal String
  | [] => .ok ""
  | [v] => v.shown
  | vs => (vs.mapM Value.written).map (Value.enclosed "(" ")")

/-- The text of a missing key: a single argument stands as it is written. -/
def keyText : List Value → Except Json.Refusal String
  | [v] => v.written
  | vs => argsText vs

/-- The kinds of exception that take a number, a text and up to two paths from the system. -/
def systemKinds : List String := ["ConnectionError", "TimeoutError"]

/-- The text of an exception of the system with a number and a text, and with the paths that are
not null. Of five arguments the fourth is passed over. -/
def systemText (number text : Value) (paths : List Value) : Except Json.Refusal String := do
  let head := "[Errno " ++ (← number.shown) ++ "] " ++ (← text.shown)
  match paths with
  | [] | .null :: _ => return head
  | [path] | [path, _] | [path, _, .null] => return head ++ ": " ++ (← path.written)
  | path :: _ :: other :: _ =>
    return head ++ ": " ++ (← path.written) ++ " -> " ++ (← other.written)

/-- The text of an exception of some kind that was raised with some arguments. -/
def thrownText (kind : String) (args : List Value) : Except Json.Refusal String :=
  match args with
  | number :: text :: paths =>
    if systemKinds.contains kind && paths.length ≤ 3 then systemText number text paths
    else argsText args
  | _ => argsText args

def refusalMessage : Json.Refusal → String
  | .circular => "Circular reference detected"
  | .repeated => "Circular reference detected (id repeated)"
  | .endless => "maximum recursion depth exceeded"
  | .tooDeep => "Maximum serialization depth exceeded"
  | .longInteger => Text.longMessage none
  | .nonFinite => "Out of range float values are not JSON compliant"
  | .handle sort => "Object of type " ++ sort.capitalize ++ " is not JSON serializable"

/-- The codes and places of issues, one on each line. -/
def issuesMessage (issues : List Schema.Issue) : String :=
  String.intercalate "\n" (issues.map fun issue =>
    String.intercalate "." (issue.location.map fun
      | .key name => name
      | .index i => toString i) ++ ": " ++ issue.kind.code)

/-- The text of a fault; nothing, if it was raised with arguments that have no text. -/
def message : Fault → String
  | thrown kind args => (thrownText kind args).toOption.getD ""
  | missingKey args => (keyText args).toOption.getD ""
  | unknownServer server =>
    Text.quoted ("Tool server '" ++ server ++ "' is not registered")
  | unknownTool server tool =>
    Text.quoted ("Tool '" ++ tool ++ "' is not registered on server '" ++ server ++ "'")
  | unwritable refusal => refusalMessage refusal
  | unreadable error => error.message
  | undecodable fault => fault.message
  | notAscii text => Text.notAsciiMessage text
  | integerTooLarge => "int too large to convert to float"
  | address problem => problem.message
  | target problem => problem.message
  | location problem => "Invalid URL in location header: " ++ problem.message ++ "."
  | unknownTarget text => "unknown url type: " ++ Text.quoted text
  | unsupported "" => "Request URL is missing an 'http://' or 'https://' protocol."
  | unsupported scheme => "Request URL has an unsupported protocol '" ++ scheme ++ "://'."
  | domain problem => problem.message
  | compressed flaw => flaw.message
  | parameter flaw => flaw.message
  | charset refusal => refusal.message
  | invalidRecord issues => issuesMessage issues
  | noModelFactory provider =>
    "No chat model factory configured for provider '" ++ provider ++ "'"
  | traceSealed runId => "Trace for run '" ++ runId ++ "' is sealed"

/-- Why a fault has no text. -/
def refusal? (f : Fault) : Option Json.Refusal :=
  let told := match f with
    | thrown kind args => thrownText kind args
    | missingKey args => keyText args
    | f => .ok f.message
  match told with
  | .ok _ => none
  | .error r => some r

/-- The name of the kind of an exception. -/
def name : Fault → String
  | thrown kind _ => kind
  | missingKey _ => "KeyError"
  | unknownServer _ | unknownTool .. => "ToolNotFoundError"
  | unwritable (.handle _) => "TypeError"
  | unwritable .endless => "RecursionError"
  | unwritable _ => "ValueError"
  | unreadable error => error.name
  | undecodable _ => "UnicodeDecodeError"
  | notAscii _ => "UnicodeEncodeError"
  | integerTooLarge => "OverflowError"
  | address _ => "ValueError"
  | target _ => "InvalidURL"
  | location _ => "RemoteProtocolError"
  | unknownTarget _ => "ValueError"
  | unsupported _ => "UnsupportedProtocol"
  | domain problem => problem.name
  | compressed _ => "DecodingError"
  | parameter flaw => flaw.name
  | charset refusal => refusal.name
  | invalidRecord _ => "ValidationError"
  | noModelFactory _ => "ValueError"
  | traceSealed _ => "TraceSealedError"

end Fault

/-- What caused a failure: something said of it, or a fault. -/
inductive Cause where
  | said (text : String)
  | fault (f : Fault)

def Cause.text : Cause → String
  | .said text => text
  | .fault f => f.message

/-- The name of the kind of a cause. -/
def Cause.name : Cause → String
  | .said text => (Value.text text).sortName
  | .fault f => f.name

/-- The message of a failed node. -/
def nodeFailureMessage (nodeId kind cause : String) : String :=
  kind ++ " node '" ++ nodeId ++ "' failed: " ++ cause

/-- The failure of a node. It is external when a call to a capability failed. -/
structure NodeFailure where
  nodeId : String
  kind : String
  cause : Cause
  isExternal : Bool

namespace NodeFailure

def typeName (f : NodeFailure) : String :=
  if f.isExternal then "ExternalCallError" else "NodeExecutionError"

def message (f : NodeFailure) : String := nodeFailureMessage f.nodeId f.kind f.cause.text

end NodeFailure

/-- The message of a failed run: it names the failing node if there is one. -/
def runFailureMessage (failingNodeId : Option String) (cause : String) : String :=
  match failingNodeId with
  | some id => if id.isEmpty then "Workflow failed: " ++ cause
    else "Workflow failed at node '" ++ id ++ "': " ++ cause
  | none => "Workflow failed: " ++ cause

/-- The reasons of an invalid graph in one line. -/
def structureMessage (reasons : List String) : String :=
  let text := String.intercalate "; " reasons
  if text.isEmpty then "Invalid workflow graph." else text

end Workflow
