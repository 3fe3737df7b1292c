import Workflow.Node.Execution
import Workflow.Plan
import Workflow.Run.Trace

/-! The scheduler. It takes the stages of a plan one by one: it admits the nodes of a stage that a
live edge reaches and skips the others, executes the admitted ones, and records their outcomes in
the order in which they complete. A failure ends the run as soon as an output node is certain to
need it. -/

namespace Workflow

/-- What puts an end to a run. -/
inductive Stop where
  /-- The run has failed, at a node if one is to blame. -/
  | failed (nodeId : Option String) (cause : String)
  /-- The task of a node was cancelled. -/
  | cancelled (message : String)
  /-- The graph has no stages past some point. -/
  | structural (message : String)
  | fault (f : Fault)
  | transition (e : TransitionError)
  | unknownNode (id : String)
  | unsettledEdge (edge : Edge) (status : NodeStatus)

/-- The text of a stop, where it is the cause of a failed run. -/
def Stop.message : Stop → String
  | .failed id cause => runFailureMessage id cause
  | .cancelled message => message
  | .structural message => message
  | .fault f => f.message
  | .transition e => e.message
  | .unknownNode id => Text.quoted id
  | .unsettledEdge edge status =>
    "Edge " ++ edge.describe ++ " evaluated while '" ++ edge.source ++ "' is " ++ status.name

/-- How a node is executed. -/
abbrev Executor := Node → Inputs → Execution

/-- What a run is given, apart from its plan. -/
structure Setup where
  runId : String
  payload : Value
  /-- The reason of a cancellation that was asked for before the run. -/
  cancelled : Option (Option String)
  snapshotOutputs : Bool
  clock : Nat → String

/-- How far a run has come. -/
structure Progress where
  state : RunState
  trace : Recorder
  /-- The failures of the failed nodes. -/
  errors : Table NodeFailure
  /-- The failed nodes, in the order in which they failed. -/
  failures : List String
  /-- The failed nodes and the nodes that they block, each with the failed node. -/
  blockedBy : Table String
  /-- The reason of a cancellation, once one is asked for. -/
  signal : Option (Option String)
  /-- The calls that were made, each with the node that made it. -/
  calls : List (String × Call)

/-- Steps of a run. The progress is kept when a step stops the run. -/
abbrev RunM := ExceptT Stop (StateM Progress)

def Progress.start (plan : Plan) (setup : Setup) : Progress where
  state := .start setup.runId (plan.nodes.map fun (id, n) => (id, n.kind.name))
  trace := .start setup.runId plan.graph.id setup.snapshotOutputs setup.clock
  errors := []
  failures := []
  blockedBy := []
  signal := setup.cancelled
  calls := []

namespace Scheduler

/-- What an edge tells of its source: a live value, a decision against this edge, a failure, or
nothing since the source was skipped. -/
inductive EdgeState where
  | live
  | dead
  | pruned
  | blocked
  deriving DecidableEq

inductive Verdict where
  | ready
  | skipped
  deriving DecidableEq

/-- The state of an edge whose source is settled. -/
def edgeState (plan : Plan) (p : Progress) (e : Edge) : Except Stop EdgeState :=
  match p.state.get? e.source with
  | none => .error (.unknownNode e.source)
  | some source =>
    if p.blockedBy.contains e.source then .ok .blocked
    else
      match source.status with
      | .succeeded =>
        if plan.isCondition e.source && e.sourcePort != source.selectedPort? then .ok .pruned
        else .ok .live
      | .skipped => .ok .dead
      | status => .error (.unsettledEdge e status)

def edgeStates (plan : Plan) (p : Progress) : List Edge → Except Stop (List (Edge × EdgeState))
  | [] => .ok []
  | e :: rest => do
    let state ← edgeState plan p e
    let others ← edgeStates plan p rest
    return (e, state) :: others

/-- Whether a condition has decided against a node: one of its edges into the node is pruned and
none is live. -/
def isPruned (states : List (Edge × EdgeState)) : Bool :=
  let liveSources := (states.filter fun s => s.2 = .live).map fun s => s.1.source
  states.any fun s => s.2 = .pruned && !liveSources.contains s.1.source

def firstBlocked? (states : List (Edge × EdgeState)) : Option Edge :=
  (states.find? fun s => s.2 = .blocked).map Prod.fst

/-- The cause that the failure of a node gives to the run. -/
def failureCause (p : Progress) (id : String) : Except Stop String :=
  match p.errors.get? id with
  | some f => .ok f.message
  | none => .error (.unknownNode id)

/-- The verdict on a node of a stage, and the failed node that blocks it, if one does. A blocked
output node fails the run. -/
def judge (plan : Plan) (p : Progress) (id : String) : Except Stop (Verdict × Option String) :=
  match plan.incoming id with
  | [] => .ok (.ready, none)
  | edges => do
    let states ← edgeStates plan p edges
    if isPruned states then return (.skipped, none)
    match firstBlocked? states with
    | some e =>
      match p.blockedBy.get? e.source with
      | none => throw (.unknownNode e.source)
      | some origin =>
        if plan.isOutput id then
          let cause ← failureCause p origin
          throw (.failed (some origin) cause)
        return (.skipped, some origin)
    | none =>
      if states.any fun s => s.2 = .live then return (.ready, none)
      return (.skipped, none)

/-- Judges the nodes of a stage in order and notes which of them are blocked. -/
def judgeAll (plan : Plan) : List String → RunM (List (String × Verdict))
  | [] => return []
  | id :: rest => do
    let (verdict, origin) ← judge plan (← get) id
    if let some origin := origin then
      modify fun p => { p with blockedBy := p.blockedBy.put id origin }
    let others ← judgeAll plan rest
    return (id, verdict) :: others

/-- Moves a node to another status and records the event. The state keeps the move even when the
event cannot be recorded. -/
def transition (plan : Plan) (id : String) (status : NodeStatus) (change : Change) :
    RunM Unit := do
  let p ← get
  match p.state.transition id status change with
  | .error e => throw (.transition e)
  | .ok state =>
    set { p with state }
    match plan.nodes.get? id with
    | none => throw (.unknownNode id)
    | some n =>
      let output := (change.decision.map Value.object).getD change.output
      let (trace, result) := p.trace.record id n.kind.name status output change.error
      set { p with state, trace }
      match result with
      | .ok _ => return ()
      | .error f => throw (.fault f)

/-- The values that the live edges of a node other than those from conditions deliver: outputs
under the ids of their nodes, and under port ids, the first of each. -/
def delivered (plan : Plan) (p : Progress) :
    List Edge → Table Value × Table Value → Except Stop (Table Value × Table Value)
  | [], tables => .ok tables
  | e :: rest, (predecessors, ports) => do
    let state ← edgeState plan p e
    if state = .live && !plan.isCondition e.source then
      let v := p.state.output e.source
      let ports := match e.targetPort with
        | some port => if port.isEmpty then ports else ports.putNew port v
        | none => ports
      delivered plan p rest (predecessors.putNew e.source v, ports)
    else delivered plan p rest (predecessors, ports)

/-- The outputs of the ancestors of a node that succeeded, conditions apart; the one that
completed last stands first. -/
def ancestorOutputs (plan : Plan) (p : Progress) (id : String) : Table Value :=
  (p.state.succeededInOrder.reverse.filter fun a =>
    plan.isAncestor a id && !plan.isCondition a).map fun a => (a, p.state.output a)

/-- What a node sees when it is admitted. -/
def resolveInputs (plan : Plan) (payload : Value) (p : Progress) (id : String) :
    Except Stop Inputs := do
  let (predecessors, ports) ← delivered plan p (plan.incoming id) ([], [])
  return ⟨payload, predecessors, ports, ancestorOutputs plan p id⟩

/-- Skips and admits the judged nodes of a stage in order; the answer is the admitted ones. -/
def admitAll (plan : Plan) (payload : Value) :
    List (String × Verdict) → RunM (List (String × Inputs))
  | [] => return []
  | (id, .skipped) :: rest => do
    transition plan id .skipped .none
    admitAll plan payload rest
  | (id, .ready) :: rest => do
    let inputs ← resolveInputs plan payload (← get) id
    transition plan id .ready (.withInputs inputs.kept)
    let others ← admitAll plan payload rest
    return (id, inputs) :: others

/-- Starts the admitted nodes in order and then executes them; each call is noted. -/
def startAll (plan : Plan) : List (String × Inputs) → RunM Unit
  | [] => return ()
  | (id, _) :: rest => do
    transition plan id .running .none
    startAll plan rest

/-- The execution of an admitted node. -/
def executionOf (plan : Plan) (exec : Executor) (id : String) (inputs : Inputs) :
    Except Stop Execution :=
  match plan.nodes.get? id with
  | some n => .ok (exec n inputs)
  | none => .error (.unknownNode id)

def executeAll (plan : Plan) (exec : Executor) :
    List (String × Inputs) → RunM (List (String × Execution))
  | [] => return []
  | (id, inputs) :: rest => do
    let execution ← executionOf plan exec id inputs
    modify fun p => { p with calls := p.calls ++ execution.call.toList.map (id, ·) }
    let others ← executeAll plan exec rest
    return (id, execution) :: others

/-- The executions of a stage in the order in which they complete: by rounds, and in one round in
the order in which they started. -/
def completionOrder (executions : List (String × Execution)) : List (String × Execution) :=
  ranked (fun a b => decide (a.2.delay < b.2.delay)) executions

/-- An outcome with its fault, if it is one, reported against the node. -/
def settled (n : Node) : Outcome → Outcome
  | .fault f => .failure ⟨n.id, n.kind.name, .fault f, false⟩
  | outcome => outcome

/-- Records the outcome of a node. -/
def complete (plan : Plan) (id : String) (outcome : Outcome) : RunM Unit := do
  match plan.nodes.get? id with
  | none => throw (.unknownNode id)
  | some n =>
    match settled n outcome with
    | .value v => transition plan id .succeeded (.withOutput v)
    | .decision d =>
      match d.toValue with
      | .object t => transition plan id .succeeded (.withDecision t)
      | _ => transition plan id .succeeded .none
    | .failure f =>
      modify fun p => { p with errors := p.errors.put id f, failures := p.failures ++ [id] }
      transition plan id .failed
        (.withError ⟨f.typeName, f.cause.text, some n.kind.name⟩)
    | .fault f => throw (.fault f)
    | .cancelled message => throw (.cancelled message)

/-- Keeps a stop that came while an outcome was recorded; a cancelled task ends the run at once. -/
def recording (action : RunM Unit) : RunM (Option Stop) := do
  try
    action
    return none
  catch
    | .cancelled message => throw (.cancelled message)
    | stop => return some stop

/-- Consumes the executions of a stage in order. The answer is the first outcome that could not be
recorded, if there is one. -/
def consume (plan : Plan) : List (String × Execution) → RunM (Option (String × Stop))
  | [] => return none
  | (id, execution) :: rest => do
    if let some reason := execution.cancels then
      modify fun p => { p with signal := some reason }
    let trouble ← recording (complete plan id execution.outcome)
    let others ← consume plan rest
    return (trouble.map (id, ·)).or others

/-- Executes the admitted nodes of a stage. A run fails when an outcome cannot be recorded, but
not before the others are. -/
def dispatch (plan : Plan) (exec : Executor) (admitted : List (String × Inputs)) :
    RunM Unit := do
  startAll plan admitted
  let executions ← executeAll plan exec admitted
  match ← consume plan (completionOrder executions) with
  | some (id, stop) => throw (.failed (some id) stop.message)
  | none => return ()

/-- Whether a node is certain to be blocked once the reached nodes are: no condition into it, other
than a reached one, is undecided or has decided against it. -/
def certainlyBlocked (plan : Plan) (p : Progress) (reached : List String) (id : String) : Bool :=
  let edges := plan.incoming id
  edges.all fun e =>
    if reached.contains e.source || !plan.isCondition e.source then true
    else
      match p.state.get? e.source with
      | none => true
      | some source =>
        if !source.status.isTerminal then false
        else if source.status ≠ .succeeded then true
        else
          e.sourcePort == source.selectedPort? ||
            edges.any fun other =>
              other.source == e.source && other.sourcePort == source.selectedPort?

/-- Reaches the targets that are certain to be blocked and puts them in front of the frontier.
There is no answer when one of them is an output node. -/
def reach (plan : Plan) (p : Progress) :
    List String → List String → List String → Option (List String × List String)
  | [], reached, frontier => some (reached, frontier)
  | target :: rest, reached, frontier =>
    if reached.contains target || !certainlyBlocked plan p reached target then
      reach plan p rest reached frontier
    else if plan.isOutput target then none
    else reach plan p rest (target :: reached) (target :: frontier)

/-- Follows a failure downstream; each round takes one node from the frontier. -/
def reachesOutput (plan : Plan) (p : Progress) : Nat → List String → List String → Bool
  | 0, _, _ => false
  | _, _, [] => false
  | rounds + 1, reached, node :: frontier =>
    match reach plan p (plan.successors node) reached frontier with
    | none => true
    | some (reached, frontier) => reachesOutput plan p rounds reached frontier

/-- Whether the failure of a node already reaches an output node. -/
def isDoomed (plan : Plan) (p : Progress) (id : String) : Bool :=
  reachesOutput plan p (plan.nodes.length + 1) [id] [id]

/-- Fails the run for the first failed node that dooms it. -/
def failDoomed (plan : Plan) : List String → RunM Unit
  | [] => return ()
  | id :: rest => do
    let p ← get
    if isDoomed plan p id then
      let cause ← failureCause p id
      throw (.failed (some id) cause)
    failDoomed plan rest

/-- Takes note of the nodes that failed in a stage. -/
def escalate (plan : Plan) (failed : List String) : RunM Unit := do
  modify fun p => { p with blockedBy := failed.foldl (fun t id => t.put id id) p.blockedBy }
  failDoomed plan failed

/-- Runs one stage. -/
def runStage (plan : Plan) (exec : Executor) (payload : Value) (stage : List String) :
    RunM Unit := do
  let verdicts ← judgeAll plan stage
  let admitted ← admitAll plan payload verdicts
  if !admitted.isEmpty then
    let before := (← get).failures.length
    dispatch plan exec admitted
    escalate plan ((← get).failures.drop before)

/-- Runs stages in order. The answer is the reason of a cancellation, if one ends the run before a
stage. -/
def runStages (plan : Plan) (exec : Executor) (payload : Value) :
    List (List String) → RunM (Option (Option String))
  | [] => return none
  | stage :: rest => do
    match (← get).signal with
    | some reason => return some reason
    | none =>
      runStage plan exec payload stage
      runStages plan exec payload rest

/-- The outputs of the output nodes that succeeded: that of the only one, or all under the ids of
their nodes. -/
def finishedOutput? (plan : Plan) (p : Progress) : Option Value :=
  match plan.outputIds.filter fun id => p.state.hasStatus id .succeeded with
  | [] => none
  | [id] => some (p.state.output id)
  | ids => some (.object (ids.map fun id => (id, p.state.output id)))

end Scheduler

/-- The result of a run. -/
structure RunResult where
  runId : String
  status : RunStatus
  output : Value
  failingNodeId : Option String
  cause : Option String
  trace : Trace

namespace RunResult

def succeeded (r : RunResult) : Bool := r.status = .succeeded

/-- The error that a failed run is reported with. -/
def failure? (r : RunResult) : Option String :=
  if r.status = .failed then
    some (runFailureMessage r.failingNodeId (r.cause.getD Value.spelling.null))
  else none

end RunResult

namespace Scheduler

/-- Seals the trace and makes the result. -/
def finish (status : RunStatus) (output : Value) (failingNodeId cause : Option String) :
    RunM RunResult := do
  let p ← get
  let (trace, result) := p.trace.sealAs status output failingNodeId cause
  set { p with trace }
  match result with
  | .ok t => return ⟨p.state.runId, status, output, failingNodeId, cause, t⟩
  | .error f => throw (.fault f)

/-- Records that every node is pending. -/
def recordPending : List (String × Node) → RunM Unit
  | [] => return ()
  | (id, n) :: rest => do
    let p ← get
    let (trace, result) := p.trace.record id n.kind.name .pending .null none
    set { p with trace }
    match result with
    | .ok _ => recordPending rest
    | .error f => throw (.fault f)

/-- Runs the stages of a plan up to the end, a cancellation or a failure. -/
def runPlan (plan : Plan) (exec : Executor) (payload : Value) : RunM RunResult := do
  match ← runStages plan exec payload plan.graph.staging.stages with
  | some reason => finish .cancelled .null none reason
  | none =>
    if let some message := plan.graph.stagingError? then throw (.structural message)
    match finishedOutput? plan (← get) with
    | some output => finish .succeeded output none none
    | none => throw (.failed none "no output node was reached")

/-- A run. A failure of the run is a result; any other stop is an error. -/
def run (plan : Plan) (exec : Executor) (payload : Value) : RunM RunResult := do
  recordPending plan.nodes
  try runPlan plan exec payload
  catch
    | .failed id cause => finish .failed .null id (some cause)
    | stop => throw stop

/-- Runs a plan from the start. -/
def runFrom (plan : Plan) (exec : Executor) (setup : Setup) :
    Except Stop RunResult × Progress :=
  (run plan exec setup.payload).run.run (.start plan setup)

end Scheduler

end Workflow
