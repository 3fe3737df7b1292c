import Workflow.Main
import Workflow.Raised
import Workflow.Service
import Workflow.Proofs.Graph.Acceptance
import Workflow.Proofs.Graph.Rooted
import Workflow.Proofs.Graph.Way
import Workflow.Proofs.Plan
import Workflow.Proofs.Node.Execution
import Workflow.Proofs.Run.Absorption
import Workflow.Proofs.Run.Blame
import Workflow.Proofs.Run.Doom
import Workflow.Proofs.Run.Fixpoint
import Workflow.Proofs.Run.Agreement
import Workflow.Proofs.Run.Numbering
import Workflow.Proofs.Run.Unrecorded
import Workflow.Proofs.Run.Edits
import Workflow.Proofs.Run.Fate
import Workflow.Proofs.Run.Keeping
import Workflow.Proofs.Run.Order
import Workflow.Proofs.Run.Passage
import Workflow.Proofs.Run.Repair
import Workflow.Proofs.Run.Reporting
import Workflow.Proofs.Run.Safety
import Workflow.Proofs.Run.Taken
import Workflow.Proofs.Graph.Ancestry
import Workflow.Proofs.Run.Abreast
import Workflow.Proofs.Run.Confinement
import Workflow.Proofs.Run.Cut
import Workflow.Proofs.Run.Sequence
import Workflow.Proofs.Run.Chronicle
import Workflow.Proofs.Run.Barrier
import Workflow.Proofs.Run.Calls
import Workflow.Proofs.Graph.Countdown
import Workflow.Proofs.Graph.Levels
import Workflow.Proofs.Graph.Traversal
import Workflow.Proofs.Run.Notes
import Workflow.Proofs.Double.Rounding
import Workflow.Proofs.Double.Shortest
import Workflow.Proofs.Json.Number
import Workflow.Proofs.Json.Text
import Workflow.Proofs.Json.Document
import Workflow.Proofs.Schema.Record
import Workflow.Proofs.Graph.Document
import Workflow.Proofs.Double.Integer
import Workflow.Proofs.Condition.Evaluation
import Workflow.Proofs.Condition.Selection
import Workflow.Proofs.Condition.Failure
import Workflow.Proofs.Condition.Integers
import Workflow.Proofs.Template
import Workflow.Proofs.Text.Blank
import Workflow.Proofs.Text.Split
import Workflow.Proofs.Text.Utf8
import Workflow.Proofs.Url.Query
import Workflow.Proofs.Url.Whole
import Workflow.Proofs.Schema.Spelling
import Workflow.Proofs.Graph.Spelling
import Workflow.Proofs.Template.Nested
import Workflow.Proofs.Node.Mishap
import Workflow.Proofs.Run.Naming
import Workflow.Proofs.Run.Trace
import Workflow.Proofs.Node.Fence
import Workflow.Proofs.Run.Machine
import Workflow.Proofs.Graph.Views
import Workflow.Proofs.Http.Answer
