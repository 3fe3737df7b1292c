import Workflow.Chat
import Workflow.File
import Workflow.Http.Exchange
import Workflow.Run.Engine

/-! What a host lends to the engine: its environment, its files, its connections, a clock and a
mark that no other run has. -/

namespace Workflow

structure Host where
  environment : Environment
  files : Files
  connect : Chat.Settings → Chat.Model
  transport : Http.Timeouts → Http.Transport
  clock : Nat → String
  mark : String

namespace Host

/-- The capabilities of a run on a host: models and requests, and a registry without tools. -/
def capabilities (h : Host) (c : Config) : Capabilities where
  completion := some (Chat.capability h.environment c.defaultRegion h.connect)
  tools := some .empty
  http := some <| Http.capability <| Http.overNetwork <| h.transport <|
    .of (.double c.httpTimeout) (.double c.httpConnectTimeout)

/-- The setup of a run of a graph on a host. -/
def setup (h : Host) (c : Config) (g : Graph) (payload : Value) : Setup :=
  ⟨g.runId none h.mark, payload, none, c.snapshotOutputs, h.clock⟩

end Host

end Workflow
