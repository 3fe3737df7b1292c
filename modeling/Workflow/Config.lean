import Workflow.Fault
import Workflow.Graph.Document

/-! The settings of an engine, and the environment variables that change them. -/

namespace Workflow

open Schema

/-- Variables of the environment under their names. -/
abbrev Environment := Table String

/-- The value of a variable; an empty one counts as not set. -/
def Environment.setting? (env : Environment) (name : String) : Option String :=
  (env.get? name).filter fun s => !s.isEmpty

/-- The region of the environment: the first of two variables that is set. -/
def Environment.region? (env : Environment) : Option String :=
  (env.setting? "AWS_REGION").or (env.setting? "AWS_DEFAULT_REGION")

structure Config where
  logLevel : String
  httpTimeout : Double
  httpConnectTimeout : Double
  defaultRegion : Option String
  snapshotOutputs : Bool

namespace Config

def logLevelKey : Field := .plain "log_level"
def httpTimeoutKey : Field := .plain "http_timeout_seconds"
def httpConnectTimeoutKey : Field := .plain "http_connect_timeout_seconds"
def defaultRegionKey : Field := .plain "default_region"
def snapshotOutputsKey : Field := .plain "snapshot_outputs"

/-- The settings of an engine that is told nothing. -/
def standard : Config :=
  ⟨"INFO", .ofDecimal false 30 0, .ofDecimal false 10 0, none, true⟩

/-- A number of seconds above zero; what is not a number is not above zero. -/
def readSeconds (v : Value) : Checked Double :=
  (readDouble .memory v).andThen fun x =>
    if Double.zero.less x then .good x else .fail .greaterThan

def read : Value → Checked Config :=
  openRecord fun ms =>
    Config.mk <$> logLevelKey.withDefault ms standard.logLevel readString
      <*> httpTimeoutKey.withDefault ms standard.httpTimeout readSeconds
      <*> httpConnectTimeoutKey.withDefault ms standard.httpConnectTimeout readSeconds
      <*> defaultRegionKey.withDefault ms standard.defaultRegion (orNull readString)
      <*> snapshotOutputsKey.withDefault ms standard.snapshotOutputs readBool

def toValue (c : Config) : Value :=
  record .full
    [(logLevelKey, .text c.logLevel), (httpTimeoutKey, .double c.httpTimeout),
     (httpConnectTimeoutKey, .double c.httpConnectTimeout),
     (defaultRegionKey, .ofText? c.defaultRegion),
     (snapshotOutputsKey, .bool c.snapshotOutputs)]

/-- Why the environment gives no settings. -/
inductive Problem where
  | notANumber (text : String)
  | invalid (issues : List Issue)

def Problem.message : Problem → String
  | .notANumber text => "could not convert string to float: " ++ Text.quoted text
  | .invalid issues => Fault.issuesMessage issues

/-- The words that switch a setting on; any other word switches it off. -/
def onWords : List String := ["1", "true", "yes", "on"]

def readSwitch (text : String) : Bool := onWords.contains (Text.lower (Text.strip text))

/-- A number from the environment. -/
def readNumber (text : String) : Except Problem Value :=
  match Double.read? text with
  | some x => .ok (.double x)
  | none => .error (.notANumber text)

/-- The member that a variable gives, if it is set. -/
def member (env : Environment) (name : String) (key : Field)
    (read : String → Except Problem Value) : Except Problem (Table Value) :=
  match env.setting? name with
  | none => .ok []
  | some text => (read text).map fun v => [(key.name, v)]

/-- The settings that the environment asks for, before they are checked. -/
def settings (env : Environment) : Except Problem (Table Value) := do
  let level ← member env "WFENGINE_LOG_LEVEL" logLevelKey fun s => .ok (.text (Text.upper s))
  let timeout ← member env "WFENGINE_HTTP_TIMEOUT_SECONDS" httpTimeoutKey readNumber
  let connect ← member env "WFENGINE_HTTP_CONNECT_TIMEOUT_SECONDS" httpConnectTimeoutKey readNumber
  let snapshots ← member env "WFENGINE_SNAPSHOT_OUTPUTS" snapshotOutputsKey fun s =>
    .ok (.bool (readSwitch s))
  let region := env.region?.toList.map fun s => (defaultRegionKey.name, .text s)
  return level ++ timeout ++ connect ++ snapshots ++ region

/-- The settings of an engine in an environment. Texts that are no numbers are refused before
numbers out of bounds are. -/
def ofEnvironment (env : Environment) : Except Problem Config := do
  let ms ← settings env
  (read (.object ms)).toExcept.mapError .invalid

end Config

end Workflow
