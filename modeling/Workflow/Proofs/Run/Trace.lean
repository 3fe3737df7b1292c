import Workflow.Proofs.Graph.Document
import Workflow.Proofs.Run.Numbering
import Workflow.Proofs.Text.Split
import Workflow.Proofs.Value.Copy

/-! What a trace keeps and what its text tells. A recorder keeps outputs as they are, with texts in
place of live objects, and what it has kept can be recorded again. The text of a trace has one line
for each event, in order, and each line is read as an object that tells of its event, unless an
output is nested too deep to be written. -/

namespace Workflow

namespace Recorder

variable {r : Recorder} {v w : Value}

/-- A recorder whose trace is open records a value that is a copy already. -/
theorem record_copy (opened : r.sealedTrace = none) (same : w.snapshot = .ok w)
    (nodeId kind : String) (status : NodeStatus) (error : Option NodeError) :
    ∃ e, (r.record nodeId kind status w error).2 = .ok e ∧
      e.output = if r.snapshotOutputs then w else .null := by
  have copied : r.copied w = .ok (if r.snapshotOutputs then w else .null) := by
    unfold copied
    split
    · exact same
    · rfl
  obtain ⟨e, -, output, step⟩ := record_copied opened copied nodeId kind status error
  exact ⟨e, by rw [step], output⟩

/-- A recorder whose trace is open seals it with a value that is a copy already. -/
theorem sealAs_copy (opened : r.sealedTrace = none) (same : w.snapshot = .ok w)
    (status : RunStatus) (failingNodeId cause : Option String) :
    ∃ t, (r.sealAs status w failingNodeId cause).2 = .ok t ∧ t.output = w := by
  simp only [sealAs, opened, same]
  exact ⟨_, rfl, rfl⟩

end Recorder

namespace Value

variable {v w : Value}

theorem snapshot_of_tolerated (laden : v.IsLaden) (settled : v.Settled) {h : Handle}
    (first : v.handles.head? = some h) (tolerated : h.fault.isTolerated = true)
    (short : v.hasLong = false) : v.snapshot = .ok v.handlesAsText := by
  rw [snapshot, copyFault?_eq, first, Option.map_some]
  exact (if_pos tolerated).trans (retold_eq laden settled short)

theorem snapshot_of_long {h : Handle} (first : v.handles.head? = some h)
    (tolerated : h.fault.isTolerated = true) (long : v.hasLong = true) :
    v.snapshot = .error (.unwritable .longInteger) := by
  rw [snapshot, copyFault?_eq, first, Option.map_some]
  exact (if_pos tolerated).trans (retold_of_long long)

theorem snapshot_of_raising {h : Handle} (first : v.handles.head? = some h)
    (raising : h.fault.isTolerated = false) :
    v.snapshot = .error (.thrown h.fault.kind [.text h.fault.message]) := by
  rw [snapshot, copyFault?_eq, first, Option.map_some]
  exact if_neg (Bool.not_eq_true _ ▸ raising)

theorem isJson_of_snapshot (laden : v.IsLaden) (settled : v.Settled) (copy : v.snapshot = .ok w) :
    w.IsJson := by
  cases first : v.handles.head? with
  | none =>
      have json := laden.isJson (List.head?_eq_none_iff.mp first)
      cases json.snapshot_eq.symm.trans copy
      exact json
  | some h =>
      cases tolerated : h.fault.isTolerated with
      | false => cases (snapshot_of_raising first tolerated).symm.trans copy
      | true =>
          cases long : v.hasLong with
          | true => cases (snapshot_of_long first tolerated long).symm.trans copy
          | false =>
              cases (snapshot_of_tolerated laden settled first tolerated long).symm.trans copy
              exact laden.handlesAsText

/-- Two live objects among data, one in a list in front of the other. -/
def crowded (first second : Handle) : Value :=
  .object
    [("held", .list [.int 1, .handle first]), ("name", .text "\u00e9\n"), ("free", .handle second)]

theorem laden_crowded (first second : Handle) : (crowded first second).IsLaden := by
  refine .object ?_
  simp only [List.forall_mem_cons]
  refine ⟨.list ?_, .json (.text _), .handle second, List.forall_mem_nil _⟩
  simp only [List.forall_mem_cons]
  exact ⟨.json (.int 1), .handle first, List.forall_mem_nil _⟩

end Value

namespace TraceEvent

variable {e : TraceEvent}

theorem isJson_errorValue (e : TraceEvent) : e.errorValue.IsJson := by
  unfold errorValue
  cases e.error with
  | none => exact .null
  | some error =>
      have kind : (Value.ofText? error.kind).IsJson := by
        cases error.kind with
        | none => exact .null
        | some kind => exact .text kind
      refine .object ?_
      simp only [List.forall_mem_cons]
      exact ⟨.text _, .text _, kind, List.forall_mem_nil _⟩

theorem settled_errorValue (e : TraceEvent) : e.errorValue.Settled := by
  unfold errorValue
  cases e.error with
  | none => rfl
  | some error =>
      have kind : (Value.ofText? error.kind).Settled := by cases error.kind <;> rfl
      refine Value.settled_object_iff.mpr ⟨(by decide : ["type", "message", "kind"].Nodup), ?_⟩
      simp only [List.forall_mem_cons]
      exact ⟨rfl, rfl, kind, List.forall_mem_nil _⟩

def members (e : TraceEvent) : Table Value :=
  [("sequence", .int e.sequence), ("node_id", .text e.nodeId), ("kind", .text e.kind),
   ("status", .text e.status.name), ("timestamp", .text e.timestamp), ("output", e.output),
   ("error", e.errorValue)]

theorem toValue_eq (json : e.output.IsJson) : e.toValue = .object e.members := by
  rw [toValue, json.finite, members]

theorem distinct_members (e : TraceEvent) : e.members.Distinct := by
  have keys : e.members.keys =
      ["sequence", "node_id", "kind", "status", "timestamp", "output", "error"] := rfl
  rw [Table.Distinct, keys]
  decide

theorem isJson_members (json : e.output.IsJson) : Value.IsJson (.object e.members) := by
  refine .object ?_
  simp only [members, List.forall_mem_cons]
  exact ⟨.int _, .text _, .text _, .text _, .text _, json, e.isJson_errorValue,
    List.forall_mem_nil _⟩

theorem settled_members (settled : e.output.Settled) : Value.Settled (.object e.members) := by
  refine Value.settled_object_iff.mpr ⟨e.distinct_members, ?_⟩
  simp only [members, List.forall_mem_cons]
  exact ⟨rfl, rfl, rfl, rfl, rfl, settled, e.settled_errorValue, List.forall_mem_nil _⟩

/-- An integer of an event is too long: its number, or one in its output. -/
def isLong (e : TraceEvent) : Bool := Text.isLong e.sequence || e.output.hasLong

theorem hasLong_members (e : TraceEvent) : Value.hasLong (.object e.members) = e.isLong := by
  have error : e.errorValue.hasLong = false := by
    unfold errorValue
    cases e.error with
    | none => rfl
    | some error =>
        cases kind : error.kind <;>
          simp [NodeError.toValue, kind, Value.ofText?, Value.hasLong, Value.hasInteger,
            Value.anyMemberHasInteger]
  rw [Value.hasLong] at error
  simp [members, Value.hasLong, Value.hasInteger, Value.anyMemberHasInteger, error, isLong]

theorem refusal?_eq (json : e.output.IsJson) : e.refusal? =
    if nestingLimit < e.output.depth then some .tooDeep
    else if e.isLong then some .longInteger else none := by
  have tree : e.output.isTree = true := (Value.IsLaden.json json).isTree
  have written : Json.refusal? .sortedLine e.toValue =
      if e.isLong then some .longInteger else none := by
    rw [toValue_eq json, Json.refusal?_eq (Json.refusal?_lenient_eq_none (isJson_members json)),
      hasLong_members]
    rfl
  rw [refusal?, dumpRefusal?, tree, written]
  by_cases deep : nestingLimit < e.output.depth <;> simp [deep]

/-- The line of an event is read as its members in the order of their keys. -/
theorem read_line (json : e.output.IsJson) (settled : e.output.Settled)
    (short : e.isLong = false) :
    Json.read (String.ofList e.line) = .ok (.object (Value.orderedTable e.members)) := by
  have data := isJson_members json
  have read := Json.read_line data.ordered (settled_members settled).ordered
    ((Value.hasInteger_ordered _).trans (e.hasLong_members.trans short))
  rw [line, toValue_eq json, Json.render_sorted rfl data]
  rwa [Value.ordered_object] at read ⊢

/-- The value stands under the key, but for the order of the members of objects. -/
def Tells (ms : Table Value) (key : String) (v : Value) : Prop :=
  ∃ w, ms.get? key = some w ∧ w.ordered = v.ordered ∧ w.equals v = true

structure ToldBy (e : TraceEvent) (ms : Table Value) : Prop where
  sequence : ms.get? "sequence" = some (.int e.sequence)
  nodeId : ms.get? "node_id" = some (.text e.nodeId)
  kind : ms.get? "kind" = some (.text e.kind)
  status : ms.get? "status" = some (.text e.status.name)
  timestamp : ms.get? "timestamp" = some (.text e.timestamp)
  output : Tells ms "output" e.output
  error : Tells ms "error" e.errorValue
  size : ms.length = 7

theorem toldBy_ordered (json : e.output.IsJson) (settled : e.output.Settled) :
    e.ToldBy (Value.orderedTable e.members) := by
  have found : ∀ key, (Value.orderedTable e.members).get? key =
      (e.members.get? key).map Value.ordered := by
    intro key
    rw [Value.orderedTable, Table.get?_of_perm (Table.sorted_perm _)
      (Table.distinct_mapValues.mpr e.distinct_members), Table.get?_mapValues]
  have tells : ∀ {key v}, e.members.get? key = some v → v.IsJson → v.Settled →
      Tells (Value.orderedTable e.members) key v := by
    intro key v there json settled
    have same := Value.ordered_ordered v
    refine ⟨v.ordered, by rw [found, there, Option.map_some], same, ?_⟩
    exact Value.equals_of_ordered json.ordered settled same
  exact
    { sequence := found _
      nodeId := found _
      kind := found _
      status := found _
      timestamp := found _
      output := tells rfl json settled
      error := tells rfl e.isJson_errorValue e.settled_errorValue
      size := by
        rw [Value.orderedTable, (Table.sorted_perm _).length_eq]
        rfl }

end TraceEvent

namespace Trace

variable {t : Trace}

/-- The lines of the text are those of the events, whatever the events hold. -/
theorem lines_toLines (t : Trace) :
    Text.lines t.toLines = t.events.map fun e => String.ofList e.line := by
  have plain : ∀ l ∈ t.events.map TraceEvent.line, ∀ c ∈ l, Text.isLineEnd c = false :=
    List.forall_mem_map.mpr fun e _ =>
      (Json.printable_render Json.oneLine_sortedLine e.toValue 0).not_lineEnd
  have lines := Text.lines_flatMap plain
  rw [List.flatMap_map, List.map_map] at lines
  exact lines

theorem refusal?_eq (json : ∀ e ∈ t.events, e.output.IsJson) :
    t.refusal? = t.events.findSome? fun e =>
      if 254 < e.output.depth then some .tooDeep
      else if e.isLong then some .longInteger else none := by
  rw [refusal?]
  generalize t.events = events at json
  induction events with
  | nil => rfl
  | cons e events ih =>
      obtain ⟨first, others⟩ := List.forall_mem_cons.mp json
      rw [List.findSome?_cons, List.findSome?_cons, TraceEvent.refusal?_eq first, ih others]
      rfl

/-- The text of a trace has one line for each event, in order, and the line is read as an object
that tells the event, if the outputs are data that is nested no deeper than the limit and no integer
is too long. A trace with another event is refused as the first such event is. -/
theorem lines_tell_events (t : Trace) (json : ∀ e ∈ t.events, e.output.IsJson)
    (settled : ∀ e ∈ t.events, e.output.Settled) :
    ((∀ e ∈ t.events, e.output.depth ≤ 254 ∧ e.isLong = false) → t.refusal? = none ∧
      List.Forall₂ (fun line e => ∃ ms, Json.read line = .ok (.object ms) ∧ e.ToldBy ms)
        (Text.lines t.toLines) t.events) ∧
      t.refusal? = t.events.findSome? fun e =>
        if 254 < e.output.depth then some .tooDeep
        else if e.isLong then some .longInteger else none := by
  refine ⟨fun fits => ⟨?_, ?_⟩, refusal?_eq json⟩
  · rw [refusal?_eq json, List.findSome?_eq_none_iff]
    intro e mem
    obtain ⟨shallow, short⟩ := fits e mem
    rw [if_neg (Nat.not_lt.mpr shallow), short, if_neg Bool.false_ne_true]
  · rw [lines_toLines, List.forall₂_map_left_iff, List.forall₂_same]
    intro e mem
    exact ⟨_, TraceEvent.read_line (json e mem) (settled e mem) (fits e mem).2,
      TraceEvent.toldBy_ordered (json e mem) (settled e mem)⟩

/-- A trace with line ends of several kinds in ids, keys, outputs and messages. -/
def broken : Trace where
  runId := "run-1"
  graphId := none
  status := .failed
  events :=
    [⟨1, "in\u2028out", "tool", .succeeded, "T",
      .object [("b\r\n", .list [.text "\u0085", .bool true]), ("a", .int (-7))], none⟩,
     ⟨2, "next", "llm", .failed, "T", .null, some ⟨"ValueError", "one\x0btwo\n", some "data"⟩⟩]
  output := .null
  failingNodeId := some "next"
  cause := none

theorem lines_tell_events_broken :
    broken.refusal? = none ∧ (Text.lines broken.toLines).length = 2 ∧
      List.Forall₂ (fun line e => ∃ ms, Json.read line = .ok (.object ms) ∧ e.ToldBy ms)
        (Text.lines broken.toLines) broken.events := by
  have json : ∀ e ∈ broken.events, e.output.IsJson := by
    simp only [broken, List.forall_mem_cons]
    refine ⟨.object ?_, .null, List.forall_mem_nil _⟩
    simp only [List.forall_mem_cons]
    refine ⟨.list ?_, .int (-7), List.forall_mem_nil _⟩
    simp only [List.forall_mem_cons]
    exact ⟨.text _, .bool true, List.forall_mem_nil _⟩
  have settled : ∀ e ∈ broken.events, e.output.Settled := by
    simp only [broken, List.forall_mem_cons]
    exact ⟨rfl, rfl, List.forall_mem_nil _⟩
  obtain ⟨writes, told⟩ := (lines_tell_events broken json settled).1 (by decide)
  exact ⟨writes, told.length_eq, told⟩

theorem depth_nested (n : Nat) : (Graph.nested n).depth = n := by
  induction n with
  | zero => rfl
  | succ n ih => simp [Graph.nested, Value.depth, Value.depthOfItems, ih]

/-- Data that is nested too deep is recorded and its trace is sealed, but not written. -/
theorem deep_output_untold :
    let recorder := ((Recorder.start "run-1" none true fun _ => "T").record "a" "tool" .succeeded
      (Graph.nested 280) none).1
    ∃ t, (recorder.sealAs .succeeded .null none none).2 = .ok t ∧
      (∀ e ∈ t.events, e.output.IsJson ∧ e.output.Settled) ∧ t.refusal? = some .tooDeep := by
  have json := Graph.nested_isJson 280
  have settled := Graph.nested_settled 280
  have deep : 254 < (Graph.nested 280).depth := by
    rw [depth_nested]
    decide
  generalize Graph.nested 280 = v at json settled deep
  have copied : (Recorder.start "run-1" none true fun _ => "T").copied v = .ok v :=
    json.snapshot_eq
  obtain ⟨e, -, rfl, step⟩ := Recorder.record_copied rfl copied "a" "tool" .succeeded none
  rw [step]
  refine ⟨_, rfl, List.forall_mem_singleton.mpr ⟨json, settled⟩, ?_⟩
  have refused := (TraceEvent.refusal?_eq json).trans (if_pos deep)
  exact List.findSome?_singleton.trans refused

end Trace

end Workflow
