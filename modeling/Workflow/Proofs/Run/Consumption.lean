import Workflow.Proofs.Run.Opening

/-! The consumption of the executions of a stage. Unless a task was cancelled, every outcome is
taken; either all of them are recorded, or the answer names the first one that is not. -/

namespace Workflow

def Standing.status : Standing → NodeStatus
  | waiting => .pending
  | succeeded _ => .succeeded
  | failed => .failed
  | skipped | blocked => .skipped

namespace Outcome

/-- Where an outcome brings its node; a cancelled task leaves it where it was. -/
def standing : Outcome → Standing
  | value _ => .succeeded none
  | decision d => .succeeded (some d.selectedPort)
  | failure _ | fault _ => .failed
  | cancelled _ => .waiting

def shown : Outcome → Value
  | value v => v
  | decision d => d.toValue
  | _ => .null

def output : Outcome → Value
  | value v => v
  | _ => .null

end Outcome

/-- What can be shown of an outcome can be shown of the output that it leaves behind. -/
theorem Outcome.copied_output {r : Recorder} {o : Outcome} {copy : Value}
    (h : r.copied o.shown = .ok copy) : ∃ copy, r.copied o.output = .ok copy := by
  cases o with
  | value v => exact ⟨copy, h⟩
  | _ => exact ⟨.null, r.copied_null⟩

/-- A node stands where an outcome has brought it, with the output of that outcome. -/
structure Progress.Shows (p : Progress) (id : String) (o : Outcome) : Prop where
  ended : o.standing ≠ .waiting
  standing : p.standing id = o.standing
  output : p.state.output id = o.output

theorem Progress.Shows.congr {p q : Progress} {id : String} {o : Outcome} (h : p.Shows id o)
    (same : q.state.get? id = p.state.get? id) : q.Shows id o := by
  refine ⟨h.ended, ?_, ?_⟩
  · rw [← h.standing]
    refine standing_of_unskipped same ?_
    intro s found status
    have standing := h.standing
    unfold Progress.standing at standing
    rw [found] at standing
    dsimp only at standing
    rw [status] at standing
    cases o <;> simp only [Outcome.standing] at standing <;> split at standing <;> cases standing
  · rw [← h.output]
    unfold RunState.output
    rw [same]

def Progress.heard (p : Progress) (e : Execution) : Progress :=
  { p with signal := e.cancels.or p.signal }

/-- What the outcomes of some executions add to what is told: those that can be copied are told, in
order. -/
def Recorder.endings (r : Recorder) (executions : List (String × Execution)) :
    List (String × NodeStatus) :=
  (executions.filter fun x => (r.copied x.2.outcome.shown).isOk).map fun x =>
    (x.1, x.2.outcome.standing.status)

theorem Recorder.endings_cons (r : Recorder) (x : String × Execution)
    (rest : List (String × Execution)) :
    r.endings (x :: rest) =
      (if (r.copied x.2.outcome.shown).isOk then [(x.1, x.2.outcome.standing.status)] else []) ++
        r.endings rest := by
  unfold endings
  rw [List.filter_cons]
  split <;> rfl

theorem Recorder.endings_congr {r s : Recorder} (h : r.snapshotOutputs = s.snapshotOutputs)
    (executions : List (String × Execution)) : r.endings executions = s.endings executions := by
  simp only [endings, Recorder.copied_congr h]

namespace Scheduler

variable {plan : Plan} {p : Progress} {id : String} {o : Outcome}

inductive Completed (p : Progress) (id : String) (o : Outcome) :
    Except Stop Unit × Progress → Prop where
  | cancelled {message : String} (same : o = .cancelled message) :
      Completed p id o (.error (.cancelled message), p)
  | refused {f : Fault} {q : Progress} (copied : p.trace.copied o.shown = .error f)
      (unsealed : q.trace.sealedTrace = none)
      (copying : q.trace.snapshotOutputs = p.trace.snapshotOutputs)
      (others : ∀ i ≠ id, q.state.get? i = p.state.get? i) (shows' : q.Shows id o)
      (told : q.trace.told = p.trace.told) :
      Completed p id o (.error (.fault f), q)
  | recorded {copy : Value} {q : Progress} (copied : p.trace.copied o.shown = .ok copy)
      (moved : p.Moved [id] q) (shows' : q.Shows id o) (marks : q.blockedBy = p.blockedBy)
      (signal : q.signal = p.signal)
      (failures : q.failures = p.failures ++ if o.standing = .failed then [id] else [])
      (caused : o.standing = .failed → ∃ f, q.errors.get? id = some f)
      (errors : ∀ i ≠ id, q.errors.get? i = p.errors.get? i)
      (told : q.trace.told = p.trace.told ++ [(id, o.standing.status)]) :
      Completed p id o (.ok (), q)

/-- A success is shown by its transition, whether or not that is recorded. -/
theorem complete_success {change : Change} (running : p.Has plan .running id)
    (unsealed : p.trace.sealedTrace = none) (shown : change.shown = o.shown)
    (output : change.output = o.output)
    (standing : o.standing = .succeeded (NodeState.selectedPort?
      ⟨"", "", .succeeded, .null, none, [], change.decision⟩)) :
    Completed p id o ((transition plan id .succeeded change).on p) := by
  obtain ⟨⟨n, known⟩, s, found, status⟩ := running
  have legal : s.status.following.contains .succeeded = true := by rw [status]; rfl
  have shows' : ∀ {st : RunState} {tr : Recorder},
      st.get? id = some (s.moved .succeeded change) →
        Progress.Shows { p with state := st, trace := tr } id o := by
    intro st tr self
    refine ⟨?_, ?_, ?_⟩
    · rw [standing]
      exact Standing.noConfusion
    · simp only [Progress.standing, self, NodeState.moved, standing]
      rfl
    · simp only [RunState.output, self, NodeState.moved, output, if_true]
  cases copied : p.trace.copied o.shown with
  | error f =>
      obtain ⟨st, tr, step, open', copying, told, self, others⟩ :=
        transition_unrecorded known found legal unsealed (shown ▸ copied)
      rw [step]
      exact .refused copied open' copying others (shows' self) told
  | ok copy =>
      obtain ⟨st, tr, step, moved, self, told⟩ :=
        transition_recorded change known found legal unsealed (shown ▸ copied)
      rw [step]
      refine .recorded copied moved (shows' self) rfl rfl ?_ ?_ (fun _ _ => rfl) ?_
      · rw [standing, if_neg Standing.noConfusion, List.append_nil]
      · rw [standing]
        exact fun h => Standing.noConfusion h
      · rw [standing]
        exact told

theorem complete_failure (running : p.Has plan .running id)
    (unsealed : p.trace.sealedTrace = none) (blank : p.state.output id = .null) (f : NodeFailure)
    (error : NodeError) (standing : o.standing = .failed) (shown : o.shown = .null)
    (output : o.output = .null) :
    Completed p id o
      ((transition plan id .failed (.withError error)).on
        { p with errors := p.errors.put id f, failures := p.failures ++ [id] }) := by
  obtain ⟨⟨n, known⟩, s, found, status⟩ := running
  have legal : s.status.following.contains .failed = true := by rw [status]; rfl
  obtain ⟨st, tr, step, moved, self, told⟩ := transition_recorded
    (p := { p with errors := p.errors.put id f, failures := p.failures ++ [id] })
    (.withError error) known found legal unsealed (Recorder.copied_null _)
  rw [step]
  refine .recorded (shown ▸ Recorder.copied_null _)
    ⟨moved.others, moved.unsealed, moved.copying, moved.faithful⟩ ⟨?_, ?_, ?_⟩ rfl rfl ?_ ?_ ?_ ?_
  · rw [standing]
    exact Standing.noConfusion
  · simp only [Progress.standing, self, NodeState.moved, standing]
  · rw [output, ← blank]
    simp [RunState.output, self, found, NodeState.moved]
  · rw [if_pos standing]
  · exact fun _ => ⟨f, Table.get?_put_self _ _ _⟩
  · exact fun i ne => Table.get?_put_of_ne _ _ ne
  · rw [standing]
    exact told

theorem complete_cases (running : p.Has plan .running id) (unsealed : p.trace.sealedTrace = none)
    (blank : p.state.output id = .null) (o : Outcome) :
    Completed p id o ((complete plan id o).on p) := by
  obtain ⟨n, known⟩ := running.1
  unfold complete
  rw [known]
  cases o with
  | value v => exact complete_success running unsealed rfl rfl rfl
  | decision d => exact complete_success running unsealed rfl rfl rfl
  | failure f =>
      exact complete_failure running unsealed blank f _ rfl rfl rfl
  | fault f => exact complete_failure running unsealed blank _ _ rfl rfl rfl
  | cancelled message => exact .cancelled rfl

def failedOf (executions : List (String × Execution)) : List String :=
  (executions.filter fun x => x.2.outcome.standing = .failed).map Prod.fst

/-- The signal that stands once some executions are consumed: that of the last of them that sets
one. -/
def heardFrom (executions : List (String × Execution)) (signal : Option (Option String)) :
    Option (Option String) :=
  executions.foldl (fun signal x => x.2.cancels.or signal) signal

theorem heardFrom_quiet {executions : List (String × Execution)}
    (quiet : ∀ x ∈ executions, x.2.cancels = none) (signal : Option (Option String)) :
    heardFrom executions signal = signal := by
  induction executions with
  | nil => rfl
  | cons x rest ih =>
      obtain ⟨first, quiet⟩ := List.forall_mem_cons.mp quiet
      rw [heardFrom, List.foldl_cons, first]
      exact ih quiet

/-- Where executions agree on the signal, it stands once one of them sets it. -/
theorem heardFrom_eq {executions : List (String × Execution)} {reason : Option String}
    (agree : ∀ x ∈ executions, x.2.cancels = none ∨ x.2.cancels = some reason)
    {signal : Option (Option String)}
    (set : signal = some reason ∨ ∃ x ∈ executions, x.2.cancels = some reason) :
    heardFrom executions signal = some reason := by
  induction executions generalizing signal with
  | nil =>
      obtain set | ⟨x, mem, -⟩ := set
      · exact set
      · cases mem
  | cons x rest ih =>
      obtain ⟨first, agree⟩ := List.forall_mem_cons.mp agree
      rw [heardFrom, List.foldl_cons]
      refine ih agree ?_
      obtain now | now := first
      · rw [now]
        refine set.imp_right ?_
        rintro ⟨y, mem, sets⟩
        rcases List.mem_cons.mp mem with rfl | later
        · cases now.symm.trans sets
        · exact ⟨y, later, sets⟩
      · exact .inl (by rw [now]; rfl)

structure Recorded (p : Progress) (executions : List (String × Execution)) (q : Progress) :
    Prop where
  copied : ∀ x ∈ executions, ∃ copy, p.trace.copied x.2.outcome.shown = .ok copy
  moved : p.Moved (executions.map Prod.fst) q
  shown : ∀ x ∈ executions, q.Shows x.1 x.2.outcome
  marks : q.blockedBy = p.blockedBy
  signal : q.signal = heardFrom executions p.signal
  failures : q.failures = p.failures ++ failedOf executions
  caused : ∀ id ∈ failedOf executions, ∃ f, q.errors.get? id = some f
  errors : ∀ i ∉ executions.map Prod.fst, q.errors.get? i = p.errors.get? i
  told : q.trace.told = p.trace.told ++ p.trace.endings executions

inductive Consumed (p : Progress) (executions : List (String × Execution)) :
    Except Stop (Option (String × Stop)) × Progress → Prop where
  | cancelled {x : String × Execution} {message : String} {q : Progress} (mem : x ∈ executions)
      (outcome : x.2.outcome = .cancelled message) :
      Consumed p executions (.error (.cancelled message), q)
  | refused {x : String × Execution} {f : Fault} {q : Progress} (mem : x ∈ executions)
      (copied : p.trace.copied x.2.outcome.shown = .error f)
      (unsealed : q.trace.sealedTrace = none)
      (others : ∀ i ∉ executions.map Prod.fst, q.state.get? i = p.state.get? i)
      (shown : ∀ x ∈ executions, q.Shows x.1 x.2.outcome)
      (told : q.trace.told = p.trace.told ++ p.trace.endings executions)
      (copying : q.trace.snapshotOutputs = p.trace.snapshotOutputs) :
      Consumed p executions (.ok (some (x.1, .fault f)), q)
  | recorded {q : Progress} (all : Recorded p executions q) :
      Consumed p executions (.ok none, q)

theorem Consumed.all {executions : List (String × Execution)} {q : Progress}
    (h : Consumed p executions (.ok none, q)) : Recorded p executions q := by
  cases h with
  | recorded all => exact all

/-- What some outcomes leave alone and show, with one more outcome in front of them. -/
theorem others_cons {x : String × Execution} {rest : List (String × Execution)} {q r : Progress}
    (first : ∀ i ≠ x.1, q.state.get? i = p.state.get? i)
    (later : ∀ i ∉ rest.map Prod.fst, r.state.get? i = q.state.get? i) :
    ∀ i ∉ (x :: rest).map Prod.fst, r.state.get? i = p.state.get? i := by
  intro i new
  rw [List.map_cons, List.mem_cons, not_or] at new
  rw [later i new.2, first i new.1]

theorem shown_cons {x : String × Execution} {rest : List (String × Execution)} {q r : Progress}
    (fresh : x.1 ∉ rest.map Prod.fst) (first : q.Shows x.1 x.2.outcome)
    (others : ∀ i ∉ rest.map Prod.fst, r.state.get? i = q.state.get? i)
    (later : ∀ y ∈ rest, r.Shows y.1 y.2.outcome) :
    ∀ y ∈ x :: rest, r.Shows y.1 y.2.outcome := by
  refine List.forall_mem_cons.mpr ⟨?_, later⟩
  exact first.congr (others x.1 fresh)

theorem Recorded.cons {x : String × Execution} {rest : List (String × Execution)} {copy : Value}
    {q r : Progress} (fresh : x.1 ∉ rest.map Prod.fst)
    (copied : p.trace.copied x.2.outcome.shown = .ok copy) (moved : p.Moved [x.1] q)
    (shown : q.Shows x.1 x.2.outcome) (marks : q.blockedBy = p.blockedBy)
    (signal : q.signal = x.2.cancels.or p.signal)
    (failures : q.failures = p.failures ++ if x.2.outcome.standing = .failed then [x.1] else [])
    (caused : x.2.outcome.standing = .failed → ∃ f, q.errors.get? x.1 = some f)
    (errors : ∀ i ≠ x.1, q.errors.get? i = p.errors.get? i)
    (told : q.trace.told = p.trace.told ++ [(x.1, x.2.outcome.standing.status)])
    (later : Recorded q rest r) : Recorded p (x :: rest) r where
  copied y hy := by
    rcases List.mem_cons.mp hy with rfl | old
    · exact ⟨copy, copied⟩
    · obtain ⟨copy', copied'⟩ := later.copied y old
      exact ⟨copy', (Recorder.copied_congr moved.copying _).symm.trans copied'⟩
  moved := moved.trans later.moved
  shown := shown_cons fresh shown later.moved.others later.shown
  marks := later.marks.trans marks
  signal := by
    rw [later.signal, signal]
    rfl
  failures := by
    rw [later.failures, failures, List.append_assoc]
    by_cases failed : x.2.outcome.standing = .failed <;> simp [failedOf, failed]
  caused i hi := by
    by_cases late : i ∈ failedOf rest
    · exact later.caused i late
    · by_cases failed : x.2.outcome.standing = .failed
      · rw [failedOf, List.filter_cons, if_pos (by simpa using failed)] at hi
        obtain rfl : i = x.1 := (List.mem_cons.mp hi).resolve_right late
        rw [later.errors _ fresh]
        exact caused failed
      · rw [failedOf, List.filter_cons, if_neg (by simpa using failed)] at hi
        exact absurd hi late
  errors i hi := by
    rw [List.map_cons, List.mem_cons, not_or] at hi
    rw [later.errors i hi.2, errors i hi.1]
  told := by
    rw [later.told, told, Recorder.endings_cons, copied, Recorder.endings_congr moved.copying,
      List.append_assoc]
    rfl

theorem recording_on (action : RunM Unit) (p : Progress) :
    (recording action).on p =
      match action.on p with
      | (.ok _, q) => (.ok none, q)
      | (.error (.cancelled message), q) => (.error (.cancelled message), q)
      | (.error stop, q) => (.ok (some stop), q) := by
  unfold recording RunM.on
  simp only [bind, ExceptT.bind, ExceptT.mk, ExceptT.run, StateT.run, StateT.bind, tryCatch,
    tryCatchThe, MonadExceptOf.tryCatch, ExceptT.tryCatch]
  cases (action : StateM Progress (Except Stop Unit)) p with
  | mk r q =>
      cases r with
      | ok _ => rfl
      | error stop => cases stop <;> rfl

/-- An execution may cancel the run before its outcome is recorded. -/
theorem consume_heard (x : String × Execution) (rest : List (String × Execution)) (p : Progress) :
    (consume plan (x :: rest)).on p =
      (do
        let trouble ← recording (complete plan x.1 x.2.outcome)
        let others ← consume plan rest
        return (trouble.map (x.1, ·)).or others : RunM _).on (p.heard x.2) := by
  rw [consume]
  unfold Progress.heard
  cases x.2.cancels <;> rfl

theorem consume_cons (x : String × Execution) (rest : List (String × Execution)) (p : Progress) :
    (consume plan (x :: rest)).on p =
      match (complete plan x.1 x.2.outcome).on (p.heard x.2) with
      | (.ok _, q) => (consume plan rest).on q
      | (.error (.cancelled message), q) => (.error (.cancelled message), q)
      | (.error stop, q) =>
        match (consume plan rest).on q with
        | (.ok _, r) => (.ok (some (x.1, stop)), r)
        | (.error stop, r) => (.error stop, r) := by
  rw [consume_heard, RunM.on_bind, recording_on]
  cases (complete plan x.1 x.2.outcome).on (p.heard x.2) with
  | mk r q =>
      cases r with
      | ok _ =>
          dsimp only
          rw [RunM.on_bind]
          cases (consume plan rest).on q with
          | mk r t => cases r <;> rfl
      | error stop =>
          cases stop with
          | cancelled message => rfl
          | _ =>
              dsimp only
              rw [RunM.on_bind]
              cases (consume plan rest).on q with
              | mk r t => cases r <;> rfl

/-- All of some outcomes are recorded if the first one is and then the others are. -/
theorem consume_cons_ok {x : String × Execution} {rest : List (String × Execution)} {q : Progress}
    (ran : (consume plan (x :: rest)).on p = (.ok none, q)) :
    ∃ t, (complete plan x.1 x.2.outcome).on (p.heard x.2) = (.ok (), t) ∧
      (consume plan rest).on t = (.ok none, q) := by
  rw [consume_cons] at ran
  cases completed : (complete plan x.1 x.2.outcome).on (p.heard x.2) with
  | mk result t =>
      rw [completed] at ran
      cases result with
      | ok _ => exact ⟨t, rfl, ran⟩
      | error stop =>
          cases stop with
          | cancelled message => cases ran
          | _ =>
              dsimp only at ran
              cases later : (consume plan rest).on t with
              | mk result u =>
                  rw [later] at ran
                  cases result <;> cases ran

theorem Recorded.nil (unsealed : p.trace.sealedTrace = none) : Recorded p [] p where
  copied _ h := absurd h List.not_mem_nil
  moved := .refl unsealed
  shown _ h := absurd h List.not_mem_nil
  marks := rfl
  signal := rfl
  failures := (List.append_nil _).symm
  caused _ h := absurd h List.not_mem_nil
  errors _ _ := rfl
  told := (List.append_nil _).symm

/-- After an outcome that could not be recorded the others are still consumed, and the answer names
the first one, whatever becomes of them. -/
theorem Consumed.after_refused {x : String × Execution} {rest : List (String × Execution)}
    {f : Fault} {q : Progress} {result : Except Stop (Option (String × Stop)) × Progress}
    (fresh : x.1 ∉ rest.map Prod.fst) (copied : p.trace.copied x.2.outcome.shown = .error f)
    (copying : q.trace.snapshotOutputs = p.trace.snapshotOutputs)
    (others : ∀ i ≠ x.1, q.state.get? i = p.state.get? i) (shown : q.Shows x.1 x.2.outcome)
    (told : q.trace.told = p.trace.told) :
    Consumed q rest result → Consumed p (x :: rest)
      (match result with
        | (.ok _, r) => (.ok (some (x.1, .fault f)), r)
        | (.error stop, r) => (.error stop, r)) := by
  intro next
  have endings : p.trace.endings (x :: rest) = q.trace.endings rest := by
    rw [Recorder.endings_cons, copied, Recorder.endings_congr copying]
    rfl
  cases next with
  | cancelled mem outcome => exact .cancelled (List.mem_cons_of_mem _ mem) outcome
  | refused _ _ unsealed others' shown' told' copying' =>
      exact .refused List.mem_cons_self copied unsealed (others_cons others others')
        (shown_cons fresh shown others' shown') (by rw [told', told, endings])
        (copying'.trans copying)
  | recorded all =>
      exact .refused List.mem_cons_self copied all.moved.unsealed
        (others_cons others all.moved.others)
        (shown_cons fresh shown all.moved.others all.shown) (by rw [all.told, told, endings])
        (all.moved.copying.trans copying)

/-- After an outcome that was recorded, what is said of the others is said of all of them. -/
theorem Consumed.after_recorded {x : String × Execution} {rest : List (String × Execution)}
    {copy : Value} {q : Progress} {result : Except Stop (Option (String × Stop)) × Progress}
    (fresh : x.1 ∉ rest.map Prod.fst) (copied : p.trace.copied x.2.outcome.shown = .ok copy)
    (moved : p.Moved [x.1] q) (shown : q.Shows x.1 x.2.outcome)
    (marks : q.blockedBy = p.blockedBy) (signal : q.signal = x.2.cancels.or p.signal)
    (failures : q.failures = p.failures ++ if x.2.outcome.standing = .failed then [x.1] else [])
    (caused : x.2.outcome.standing = .failed → ∃ f, q.errors.get? x.1 = some f)
    (errors : ∀ i ≠ x.1, q.errors.get? i = p.errors.get? i)
    (told : q.trace.told = p.trace.told ++ [(x.1, x.2.outcome.standing.status)])
    (next : Consumed q rest result) : Consumed p (x :: rest) result := by
  cases next with
  | cancelled mem outcome => exact .cancelled (List.mem_cons_of_mem _ mem) outcome
  | refused mem copied' unsealed others shown' told' copying =>
      have first : ∀ i ≠ x.1, q.state.get? i = p.state.get? i :=
        fun i ne => moved.others i (by simpa using ne)
      refine .refused (List.mem_cons_of_mem _ mem) ?_ unsealed (others_cons first others)
        (shown_cons fresh shown others shown') ?_ (copying.trans moved.copying)
      · exact (Recorder.copied_congr moved.copying _).symm.trans copied'
      · rw [told', told, Recorder.endings_cons, copied, Recorder.endings_congr moved.copying,
          List.append_assoc]
        rfl
  | recorded all =>
      exact .recorded (.cons fresh copied moved shown marks signal failures caused errors told all)

/-- What runs beside a node runs still when that node alone has changed. -/
theorem running_beside {x : String × Execution} {rest : List (String × Execution)} {q : Progress}
    (fresh : x.1 ∉ rest.map Prod.fst)
    (running : ∀ y ∈ x :: rest, p.Has plan .running y.1 ∧ p.state.output y.1 = .null)
    (others : ∀ i ≠ x.1, q.state.get? i = p.state.get? i) :
    ∀ y ∈ rest, q.Has plan .running y.1 ∧ q.state.output y.1 = .null := by
  intro y mem
  obtain ⟨has, blank⟩ := running y (List.mem_cons_of_mem _ mem)
  have same := others y.1 fun same => fresh (same ▸ List.mem_map_of_mem mem)
  refine ⟨has.congr same, ?_⟩
  rw [← blank]
  unfold RunState.output
  rw [same]

/-- What the first of some executions comes to, once it is heard. -/
theorem complete_heard {x : String × Execution} {rest : List (String × Execution)}
    (unsealed : p.trace.sealedTrace = none)
    (running : ∀ y ∈ x :: rest, p.Has plan .running y.1 ∧ p.state.output y.1 = .null) :
    Completed (p.heard x.2) x.1 x.2.outcome
      ((complete plan x.1 x.2.outcome).on (p.heard x.2)) := by
  obtain ⟨has, blank⟩ := running x List.mem_cons_self
  exact complete_cases (p := p.heard x.2) has unsealed blank x.2.outcome

theorem consume_cases {executions : List (String × Execution)}
    (nodup : (executions.map Prod.fst).Nodup) (unsealed : p.trace.sealedTrace = none)
    (running : ∀ x ∈ executions, p.Has plan .running x.1 ∧ p.state.output x.1 = .null) :
    Consumed p executions ((consume plan executions).on p) := by
  induction executions generalizing p with
  | nil => exact .recorded (.nil unsealed)
  | cons x rest ih =>
      obtain ⟨fresh, nodup'⟩ := List.nodup_cons.mp nodup
      -- What comes after the first outcome, whatever became of that one.
      have later : ∀ {q : Progress}, q.trace.sealedTrace = none →
          (∀ i ≠ x.1, q.state.get? i = p.state.get? i) →
          Consumed q rest ((consume plan rest).on q) := fun unsealed others =>
        ih nodup' unsealed (running_beside fresh running others)
      have first := complete_heard unsealed running
      rw [consume_cons]
      generalize (complete plan x.1 x.2.outcome).on (p.heard x.2) = result at first
      cases first with
      | cancelled same => exact .cancelled List.mem_cons_self same
      | refused copied unsealed' copying others shown told =>
          exact .after_refused (p := p) fresh copied copying others shown told (later unsealed' others)
      | recorded copied moved shown marks signal failures caused errors told =>
          have others := fun i (ne : i ≠ x.1) => moved.others i (by simpa using ne)
          -- To hear of an execution changes nothing but the signal.
          have moved : p.Moved [x.1] _ :=
            ⟨moved.others, moved.unsealed, moved.copying, moved.faithful⟩
          exact .after_recorded fresh copied moved shown marks signal failures caused errors told
            (later moved.unsealed others)

end Scheduler

end Workflow
