import Mathlib.Data.List.Range
import Workflow.Proofs.Run.Absorption
import Workflow.Proofs.Run.Passage
import Workflow.Proofs.Run.Reporting

/-! The numbers of the events. Over every history of calls, a recorder counts the outputs that it is
given while its trace is open, and an event has the place of its output among them. So the numbers
of a trace grow, but they have a gap behind every output that could not be copied. -/

namespace Workflow

namespace Recorder

inductive Call where
  | record (nodeId kind : String) (status : NodeStatus) (output : Value) (error : Option NodeError)
  | close (status : RunStatus) (output : Value) (failingNodeId cause : Option String)

/-- What becomes of a recorder by a call, and the fault that the call raises, if it does. -/
def call (r : Recorder) : Call → Recorder × Option Fault
  | .record nodeId kind status output error =>
    match r.record nodeId kind status output error with
    | (s, .ok _) => (s, none)
    | (s, .error f) => (s, some f)
  | .close status output failingNodeId cause =>
    match r.sealAs status output failingNodeId cause with
    | (s, .ok _) => (s, none)
    | (s, .error f) => (s, some f)

def after (r : Recorder) : List Call → Recorder
  | [] => r
  | c :: rest => (r.call c).1.after rest

/-- The outputs that a recorder is given by some calls while its trace is open. -/
def outputs (r : Recorder) : List Call → List Value
  | [] => []
  | c :: rest =>
    (match r.sealedTrace, c with
      | none, .record _ _ _ output _ => [output]
      | _, _ => []) ++ (r.call c).1.outputs rest

variable {r s : Recorder} {c : Call} {calls more : List Call} {given : List Value} {f : Fault}

theorem after_append (r : Recorder) (calls more : List Call) :
    r.after (calls ++ more) = (r.after calls).after more := by
  induction calls generalizing r with
  | nil => rfl
  | cons c rest ih => exact ih (r.call c).1

theorem call_of_sealed {t : Trace} (closed : r.sealedTrace = some t) (c : Call) :
    r.call c = (r, some (.traceSealed r.runId)) := by
  cases c <;> simp only [call, record, sealAs, closed]

/-- A recorder counts the outputs that it is given, and numbers its events by the places of those
of them that it could copy. -/
structure Numbered (r : Recorder) (given : List Value) : Prop where
  counted : r.sequence = given.length
  numbers : r.events.map TraceEvent.sequence =
    ((given.zipIdx 1).filter fun x => (r.copied x.1).isOk).map Prod.snd
  closed : ∀ {t}, r.sealedTrace = some t → t.events = r.events

theorem numbered_start (runId : String) (graphId : Option String) (snapshotOutputs : Bool)
    (clock : Nat → String) : (start runId graphId snapshotOutputs clock).Numbered [] :=
  ⟨rfl, rfl, nofun⟩

theorem record_uncopied (unsealed : r.sealedTrace = none) {output : Value}
    (copied : r.copied output = .error f) (nodeId kind : String) (status : NodeStatus)
    (error : Option NodeError) :
    r.record nodeId kind status output error =
      ({ r with sequence := r.sequence + 1 }, .error f) := by
  have copied' : ({ r with sequence := r.sequence + 1 } : Recorder).copied output = .error f :=
    copied
  unfold Recorder.record
  split
  · rename_i t closed
    cases closed.symm.trans unsealed
  · dsimp only
    rw [copied']

theorem record_copied (unsealed : r.sealedTrace = none) {output copy : Value}
    (copied : r.copied output = .ok copy) (nodeId kind : String) (status : NodeStatus)
    (error : Option NodeError) :
    ∃ e, e.sequence = r.sequence + 1 ∧ e.output = copy ∧ r.record nodeId kind status output error =
      ({ r with sequence := r.sequence + 1, events := r.events ++ [e] }, .ok e) := by
  have copied' : ({ r with sequence := r.sequence + 1 } : Recorder).copied output = .ok copy :=
    copied
  refine ⟨⟨r.sequence + 1, nodeId, kind, status, r.clock (r.sequence + 1), copy, error⟩, rfl, rfl,
    ?_⟩
  unfold Recorder.record
  split
  · rename_i t closed
    cases closed.symm.trans unsealed
  · dsimp only
    rw [copied']

/-- An open recorder numbers one more output, whether or not it can copy it. -/
theorem Numbered.record (h : r.Numbered given) (unsealed : r.sealedTrace = none)
    (nodeId kind : String) (status : NodeStatus) (output : Value) (error : Option NodeError) :
    (r.record nodeId kind status output error).1.Numbered (given ++ [output]) := by
  have grown : (((given ++ [output]).zipIdx 1).filter fun x => (r.copied x.1).isOk).map Prod.snd =
      r.events.map TraceEvent.sequence ++
        if (r.copied output).isOk then [r.sequence + 1] else [] := by
    rw [List.zipIdx_append, List.filter_append, List.map_append, ← h.numbers, h.counted,
      Nat.add_comm]
    by_cases copies : (r.copied output).isOk = true <;> simp [List.zipIdx, copies]
  have count : r.sequence + 1 = (given ++ [output]).length := by
    rw [h.counted, List.length_append, List.length_singleton]
  have open' : ∀ {t}, r.sealedTrace = some t → False := fun closed => by
    cases closed.symm.trans unsealed
  cases copied : r.copied output with
  | error f =>
      rw [copied] at grown
      rw [record_uncopied unsealed copied]
      exact ⟨count, (List.append_nil _).symm.trans grown.symm, fun closed => (open' closed).elim⟩
  | ok copy =>
      obtain ⟨e, number, -, step⟩ := record_copied unsealed copied nodeId kind status error
      rw [copied] at grown
      rw [step]
      refine ⟨count, .trans ?_ grown.symm, fun closed => (open' closed).elim⟩
      rw [List.map_append, List.map_singleton, number]
      rfl

theorem Numbered.close (h : r.Numbered given) (status : RunStatus) (output : Value)
    (failingNodeId cause : Option String) :
    (r.sealAs status output failingNodeId cause).1.Numbered given := by
  unfold sealAs
  split
  · exact h
  · split
    · exact h
    · refine ⟨h.counted, h.numbers, ?_⟩
      rintro t ⟨⟩
      rfl

theorem call_record (r : Recorder) (nodeId kind : String) (status : NodeStatus) (output : Value)
    (error : Option NodeError) :
    (r.call (.record nodeId kind status output error)).1 =
      (r.record nodeId kind status output error).1 := by
  unfold call
  dsimp only
  split <;> simp only [*]

theorem call_close (r : Recorder) (status : RunStatus) (output : Value)
    (failingNodeId cause : Option String) :
    (r.call (.close status output failingNodeId cause)).1 =
      (r.sealAs status output failingNodeId cause).1 := by
  unfold call
  dsimp only
  split <;> simp only [*]

/-- Over every history of calls the events keep the places of their outputs as numbers. -/
theorem Numbered.after (h : r.Numbered given) (calls : List Call) :
    (r.after calls).Numbered (given ++ r.outputs calls) := by
  induction calls generalizing r given with
  | nil => simpa [Recorder.after, outputs] using h
  | cons c rest ih =>
      unfold Recorder.after outputs
      rw [← List.append_assoc]
      refine ih ?_
      cases closed : r.sealedTrace with
      | some t =>
          rw [call_of_sealed closed]
          simpa using h
      | none =>
          cases c with
          | record nodeId kind status output error =>
              rw [call_record]
              exact h.record closed nodeId kind status output error
          | close status output failingNodeId cause =>
              rw [call_close]
              simpa using h.close status output failingNodeId cause

/-- The picked places of a list leave no gap just when none is picked behind one that is not. -/
theorem picked_eq_range'_iff {α : Type} (pick : α → Bool) (xs : List α) (first : Nat) :
    ((xs.zipIdx first).filter fun x => pick x.1).map Prod.snd =
        List.range' first ((xs.zipIdx first).filter fun x => pick x.1).length ↔
      xs.Pairwise fun a b => pick b = true → pick a = true := by
  induction xs generalizing first with
  | nil => simp
  | cons x rest ih =>
      rw [List.zipIdx_cons, List.pairwise_cons]
      cases picked : pick x with
      | true =>
          rw [List.filter_cons_of_pos (by simpa using picked), List.map_cons, List.length_cons,
            List.range'_succ, List.cons.injEq, ih (first + 1)]
          exact ⟨fun h => ⟨fun _ _ _ => rfl, h.2⟩, fun h => ⟨rfl, h.2⟩⟩
      | false =>
          rw [List.filter_cons_of_neg (by simpa using picked)]
          constructor
          · intro gapless
            have unpicked : ∀ y ∈ rest, ¬pick y = true := by
              intro y mem picked
              rw [← List.zipIdx_map_fst (first + 1) rest] at mem
              obtain ⟨x, place, rfl⟩ := List.mem_map.mp mem
              have here : x ∈ (rest.zipIdx (first + 1)).filter fun x => pick x.1 :=
                List.mem_filter.mpr ⟨place, picked⟩
              have front : first ∈ List.range' first
                  ((rest.zipIdx (first + 1)).filter fun x => pick x.1).length :=
                List.mem_range'_1.mpr ⟨Nat.le_refl _, by have := List.length_pos_of_mem here; omega⟩
              -- The places in the rest of the list come after the first one.
              rw [← gapless] at front
              obtain ⟨z, later, same⟩ := List.mem_map.mp front
              have := List.le_snd_of_mem_zipIdx (List.mem_of_mem_filter later)
              omega
            refine ⟨fun y mem picked => absurd picked (unpicked y mem), ?_⟩
            exact (List.pairwise_of_forall fun _ _ => trivial).imp_of_mem
              fun _ mem _ picked => absurd picked (unpicked _ mem)
          · rintro ⟨unpicked, -⟩
            have none' : (rest.zipIdx (first + 1)).filter (fun x => pick x.1) = [] := by
              rw [List.filter_eq_nil_iff]
              intro x mem picked
              exact absurd (unpicked x.1 (List.fst_mem_of_mem_zipIdx mem) picked) (by simp)
            rw [none']
            rfl

theorem Numbered.increasing (h : r.Numbered given) :
    (r.events.map TraceEvent.sequence).Pairwise (· < ·) := by
  rw [h.numbers]
  have all : ((given.zipIdx 1).map Prod.snd).Pairwise (· < ·) := by
    rw [List.zipIdx_map_snd]
    exact List.pairwise_lt_range'
  exact all.sublist (List.filter_sublist.map _)

/-- A call that raises leaves a recorder as it was, but an output that cannot be copied has used up
a number. -/
theorem call_raising (raised : (r.call c).2 = some f) :
    (r.call c).1 = r ∨
      (r.call c).1 = { r with sequence := r.sequence + 1 } ∧ r.sealedTrace = none ∧
        ∃ id kind status output error, c = .record id kind status output error ∧
          r.copied output = .error f := by
  rcases Option.eq_none_or_eq_some r.sealedTrace with unsealed | ⟨t, closed⟩
  · cases c with
    | record id kind status output error =>
        cases copied : r.copied output with
        | ok copy =>
            obtain ⟨e, -, -, step⟩ := record_copied unsealed copied id kind status error
            rw [call, step] at raised
            cases raised
        | error g =>
            have step := record_uncopied unsealed copied id kind status error
            rw [call, step] at raised
            obtain rfl : g = f := Option.some.inj raised
            refine .inr ⟨?_, unsealed, _, _, _, _, _, rfl, copied⟩
            rw [call_record, step]
    | close status output failingNodeId cause =>
        left
        unfold call sealAs at raised ⊢
        simp only [unsealed] at raised ⊢
        cases copied : output.snapshot with
        | ok copy =>
            rw [copied] at raised
            cases raised
        | error g => rfl
  · rw [call_of_sealed closed]
    exact .inl rfl

/-- What a recorder holds after a history of calls, which have given it some outputs while its trace
was open. -/
structure History (r : Recorder) (given : List Value) : Prop where
  numbers : r.events.map TraceEvent.sequence =
    ((given.zipIdx 1).filter fun x => (r.copied x.1).isOk).map Prod.snd
  increasing : (r.events.map TraceEvent.sequence).Pairwise (· < ·)
  gapless : r.events.map TraceEvent.sequence = List.range' 1 r.events.length ↔
    given.Pairwise fun a b => (r.copied b).isOk = true → (r.copied a).isOk = true
  closed : ∀ t, r.sealedTrace = some t → t.events = r.events ∧
    ∀ c, r.call c = (r, some (.traceSealed r.runId))
  raising : ∀ c f, (r.call c).2 = some f → (r.call c).1 = r ∨
    (r.call c).1 = { r with sequence := r.sequence + 1 } ∧ r.sealedTrace = none ∧
      ∃ id kind status output error, c = .record id kind status output error ∧
        r.copied output = .error f

theorem Numbered.history (h : r.Numbered given) : r.History given where
  numbers := h.numbers
  increasing := h.increasing
  gapless := by
    have count := congrArg List.length h.numbers
    rw [List.length_map, List.length_map] at count
    rw [h.numbers, count]
    exact picked_eq_range'_iff (fun v => (r.copied v).isOk) given 1
  closed t closed := ⟨h.closed closed, call_of_sealed closed⟩
  raising _ _ := call_raising

end Recorder

variable {plan : Plan} {exec : Executor} {may : String → NodeStatus → Prop} {p q : Progress}

theorem Progress.Edits.recorder (h : p.Edits plan exec may q) :
    ∃ calls, q.trace = p.trace.after calls := by
  refine h.keeps (I := fun q => ∃ calls, q.trace = p.trace.after calls) ?_ ⟨[], rfl⟩
  rintro r s ⟨calls, same⟩ edit
  have more : ∀ {id kind : String} {status : NodeStatus} {output : Value}
      {error : Option NodeError} {tr : Recorder} {result : Except Fault TraceEvent},
      r.trace.record id kind status output error = (tr, result) →
        ∃ calls, tr = p.trace.after calls := by
    intro id kind status output error tr result record
    refine ⟨calls ++ [.record id kind status output error], ?_⟩
    rw [Recorder.after_append, ← same]
    change tr = (r.trace.call _).1
    rw [Recorder.call_record, record]
  cases edit with
  | announced _ _ record => exact more record
  | moved _ _ _ _ record => exact more record
  | _ => exact ⟨calls, same⟩

namespace Scheduler

theorem sealAs_result {status : RunStatus} {output copy : Value}
    (unsealed : p.trace.sealedTrace = none) (copied : output.snapshot = .ok copy)
    (failingNodeId cause : Option String) :
    p.trace.sealAs status output failingNodeId cause =
      ((p.close (p.result status output copy failingNodeId cause).trace).trace,
        .ok (p.result status output copy failingNodeId cause).trace) := by
  simp only [Recorder.sealAs, unsealed, copied]
  rfl

/-- A run that comes to a result seals its trace by one more call. -/
theorem RunEnd.sealing {ended : Except Stop (Option (Option String)) × Progress} {res : RunResult}
    (h : RunEnd plan ended (.ok res, q)) (unsealed : ended.2.trace.sealedTrace = none) :
    ∃ status output failingNodeId cause,
      ended.2.trace.sealAs status output failingNodeId cause = (q.trace, .ok res.trace) := by
  have null : Value.snapshot .null = .ok .null := rfl
  cases h with
  | succeeded _ copied => exact ⟨_, _, _, _, sealAs_result unsealed copied _ _⟩
  | _ => exact ⟨_, _, _, _, sealAs_result unsealed null _ _⟩

/-- The events of a recorder have the places of their outputs as numbers, whatever calls are made of
it, and so they leave a gap just where an output could not be copied; and the trace of a run is the
work of such calls. -/
theorem numbered_by_places (runId : String) (graphId : Option String) (snapshotOutputs : Bool)
    (clock : Nat → String) (calls : List Recorder.Call) :
    ((Recorder.start runId graphId snapshotOutputs clock).after calls).History
      ((Recorder.start runId graphId snapshotOutputs clock).outputs calls) ∧
    ∀ (g : Graph) (exec : Executor) (setup : Setup) (res : RunResult) (q : Progress),
      g.check.valid = true → runFrom (.ofGraph g) exec setup = (.ok res, q) →
        q.trace.sealedTrace = some res.trace ∧
        ∃ calls, q.trace = (Recorder.start setup.runId g.id setup.snapshotOutputs
          setup.clock).after calls := by
  refine ⟨?_, fun g exec setup res q valid run => ?_⟩
  · have numbered := (Recorder.numbered_start runId graphId snapshotOutputs clock).after calls
    exact numbered.history
  · obtain ⟨-, -, -, -, -, -, end'⟩ := runFrom_cases (Graph.runnable_of_valid valid) exec setup
    rw [run] at end'
    have edits := courseFrom_edits g exec setup
    obtain ⟨calls, same⟩ := edits.recorder
    obtain ⟨status, output, failingNodeId, cause, last⟩ := end'.sealing (edits.unsealed rfl)
    refine ⟨end'.sealed.1, calls ++ [.close status output failingNodeId cause], ?_⟩
    change _ = (Progress.start (.ofGraph g) setup).trace.after _
    rw [Recorder.after_append, ← same]
    change q.trace = (Recorder.call _ _).1
    rw [Recorder.call_close, last]

/-- A graph with three nodes abreast, the first of which answers with what a given tool answers. -/
def trio : Graph where
  id := none
  name := none
  nodes :=
    [⟨"in", none, [], .input ⟨none, []⟩⟩,
     ⟨"alpha", none, [], .tool ⟨"server", "tool", []⟩⟩,
     ⟨"beta", none, [], .tool ⟨"server", "absent", []⟩⟩,
     ⟨"gamma", none, [], .template ⟨""⟩⟩,
     ⟨"out", none, [], .output ⟨[]⟩⟩]
  edges :=
    [⟨"in", "alpha", none, none, none⟩, ⟨"in", "beta", none, none, none⟩,
     ⟨"in", "gamma", none, none, none⟩, ⟨"alpha", "out", none, none, none⟩,
     ⟨"beta", "out", none, none, none⟩, ⟨"gamma", "out", none, none, none⟩]
  metadata := []

/-- The number of an answer that cannot be copied is missing from the trace. -/
theorem numbered_by_places_trio :
    ∃ res q calls, runFrom (.ofGraph trio) poisonedTool.executor plainSetup = (.ok res, q) ∧
      res.trace.events.map TraceEvent.sequence = List.range' 1 14 ++ [16, 17] ∧
      q.trace = (Recorder.start "run" none true fun _ => "").after calls ∧
      ¬((Recorder.start "run" none true fun _ => "").outputs calls).Pairwise fun a b =>
        (q.trace.copied b).isOk = true → (q.trace.copied a).isOk = true := by
  have valid : trio.check.valid = true := by decide +kernel
  have numbers : (runFrom (.ofGraph trio) poisonedTool.executor plainSetup).1.toOption.map
      (fun res => res.trace.events.map TraceEvent.sequence) =
        some (List.range' 1 14 ++ [16, 17]) := by decide +kernel
  cases run : runFrom (.ofGraph trio) poisonedTool.executor plainSetup with
  | mk result q =>
      rw [run] at numbers
      cases result with
      | error stop => cases numbers
      | ok res =>
          have numbers :
              res.trace.events.map TraceEvent.sequence = List.range' 1 14 ++ [16, 17] := by
            simpa [Except.toOption] using numbers
          obtain ⟨closed, calls, same⟩ :=
            (numbered_by_places "run" none true (fun _ => "") []).2 trio _ _ res q valid run
          have same : q.trace = (Recorder.start "run" none true fun _ => "").after calls := same
          have history := (numbered_by_places "run" none true (fun _ => "") calls).1
          rw [← same] at history
          refine ⟨res, q, calls, rfl, numbers, same, fun whole => ?_⟩
          have gapless := history.gapless.mpr whole
          rw [← (history.closed _ closed).1, numbers] at gapless
          have count := congrArg List.length numbers
          rw [List.length_map] at count
          rw [count] at gapless
          revert gapless
          decide

end Scheduler

end Workflow
