import Workflow.Proofs.Run.Lives
import Workflow.Proofs.Run.Lockstep

/-! Cancellation. A signal cuts a run behind the stage that it comes up in. Up to there the run goes
by as it does without the signal, and nothing of it comes after. -/

namespace Workflow

/-- When a run is told to stop: before it starts, or while the task of a node runs. -/
inductive Moment where
  | before
  | during (id : String)

namespace Moment

def executor (m : Moment) (reason : Option String) (exec : Executor) : Executor :=
  match m with
  | before => exec
  | during id => fun n inputs =>
    { exec n inputs with cancels := if n.id = id then some reason else none }

def setup (m : Moment) (reason : Option String) (setup : Setup) : Setup :=
  match m with
  | before => { setup with cancelled := some reason }
  | during _ => setup

/-- A moment comes in a run: the task that it falls into is started. -/
def Comes (m : Moment) (q : Progress) : Prop :=
  match m with
  | before => True
  | during id => .running ∈ q.trace.history id

/-- The stages that are dispatched until a moment has passed. -/
def Closes (m : Moment) (dispatched : List (List String)) : Prop :=
  match m with
  | before => dispatched = []
  | during id => ∃ earlier stage, dispatched = earlier ++ [stage] ∧ id ∈ stage

end Moment

variable {g : Graph} {plan : Plan} {exec exec' : Executor} {payload : Value} {setup : Setup}
  {done stage : List String} {dispatched earlier later rest : List (List String)}
  {p p' q q' : Progress} {id : String} {reason : Option String}

theorem View.Closed.whole (plan : Plan) : View.whole.Closed plan :=
  ⟨fun _ _ _ => rfl, fun _ _ => rfl, fun _ => rfl⟩

namespace Scheduler

def courseThrough (plan : Plan) (exec : Executor) (setup : Setup) (stages : List (List String)) :
    Except Stop (Option (Option String)) × Progress :=
  (do
    recordPending plan.nodes
    runStages plan exec setup.payload stages : RunM _).on (.start plan setup)

theorem executed_of_running (h : Reached plan exec done p) (follows : plan.Follows done stage)
    (now : id ∈ stage)
    (running : .running ∈ ((runStage plan exec payload stage).on p).2.trace.history id) :
    plan.admission p.standing id = .executed := by
  obtain ⟨later, grown, allowed⟩ := (runStage_edits payload h follows).history id
  rw [grown, history_of_waiting h (follows.known id now) (follows.fresh id now)] at running
  rcases List.mem_append.mp running with old | new
  · cases List.mem_singleton.mp old
  · exact (allowed _ new).2.resolve_right NodeStatus.noConfusion

/-- What is told of a node after its stage, or after a stage that stops the run, is all that is ever
told of it. -/
theorem running_in_stage (h : Reached plan exec done p)
    (layered : plan.Layered done (stage :: rest)) (unasked : p.signal = none) (now : id ∈ stage)
    (running : .running ∈
      ((runStages plan exec payload (stage :: rest)).on p).2.trace.history id) :
    .running ∈ ((runStage plan exec payload stage).on p).2.trace.history id := by
  obtain ⟨follows, layered⟩ := layered
  rw [runStages_cons, unasked] at running
  dsimp only at running
  rw [RunM.on_bind] at running
  cases ran : (runStage plan exec payload stage).on p with
  | mk result q =>
      rw [ran] at running
      cases result with
      | error stop => exact running
      | ok _ =>
          have edits := runStages_edits payload (runStage_reached h follows ran) layered
          rwa [edits.history_others fun _ later =>
            layered.fresh id later (List.mem_append_right _ now)] at running

theorem runStages_single (unasked : p.signal = none) :
    (runStages plan exec payload [stage]).on p =
      (((runStage plan exec payload stage).on p).1.map fun _ => none,
        ((runStage plan exec payload stage).on p).2) := by
  rw [runStages_cons, unasked]
  dsimp only
  rw [RunM.on_bind]
  cases (runStage plan exec payload stage).on p with
  | mk result q => cases result <;> rfl

theorem Moment.likewise (m : Moment) (reason : Option String) (exec : Executor) (plan : Plan) :
    exec.Likewise (m.executor reason exec) plan .whole where
  outcome _ _ _ := by cases m <;> rfl
  order _ _ _ _ _ _ := by cases m <;> exact Iff.rfl

theorem during_cancels (sound : plan.Sound) {n : Node} {i : String}
    (node : plan.nodes.get? i = some n) (inputs : Inputs) :
    (Moment.executor (.during id) reason exec n inputs).cancels =
      if i = id then some reason else none := by
  rw [← sound.named node]
  rfl

/-- The stages in front of that of a node that is started go by without its signal. -/
theorem during_earlier (sound : plan.Sound) (quiet : ∀ n inputs, (exec n inputs).cancels = none)
    (h : Reached plan exec done p)
    (h' : Reached plan (Moment.executor (.during id) reason exec) done p')
    (layered : plan.Layered done (earlier ++ stage :: rest)) (alike : p.Alike .whole p')
    (unasked : p.signal = none) (unasked' : p'.signal = none) (now : id ∈ stage)
    (running : .running ∈
      ((runStages plan exec payload (earlier ++ stage :: rest)).on p).2.trace.history id) :
    ∃ q q', (runStages plan exec payload earlier).on p = (.ok none, q) ∧
      (runStages plan (Moment.executor (.during id) reason exec) payload earlier).on p' =
        (.ok none, q') ∧
      q.Alike .whole q' ∧ q.signal = none ∧ q'.signal = none := by
  obtain ⟨first, last⟩ := layered.append
  have fresh := last.1.fresh id now
  obtain ⟨concur, goes⟩ := runStages_concur payload (I := fun _ _ => True) sound
    (.whole plan) (Moment.likewise (.during id) reason exec plan)
    (fun earlier' mem _ _ _ => ⟨.inl fun _ => rfl, fun _ _ n inputs _ _ => quiet n inputs,
      fun i here n inputs node _ => by
        rw [during_cancels sound node, if_neg]
        rintro rfl
        exact fresh (List.mem_append_right _ (List.mem_flatten_of_mem mem here))⟩)
    (fun _ _ _ _ _ _ _ _ _ => trivial) first h h' alike trivial unasked unasked'
  have edits := runStages_edits payload h first
  rcases concur.cases with ⟨stop, q, q', ran, ran', -⟩ | ⟨a, q, q', ran, ran', same⟩
  · -- Nothing is told of the node, but that it is pending.
    rw [ran] at edits
    rw [runStages_stopped ran, edits.history_others fun _ mem =>
      fresh (List.mem_append_right _ mem), history_of_waiting h (last.1.known id now)
        fun old => fresh (List.mem_append_left _ old)] at running
    cases List.mem_singleton.mp running
  · rw [ran, ran'] at goes
    obtain ⟨rfl, -, unasked, unasked'⟩ := goes a rfl
    exact ⟨q, q', ran, ran', same, unasked, unasked'⟩

/-- A signal that is set in a stage is not noticed until the stage is over, and then it stands. -/
theorem during_stage (payload : Value) (sound : plan.Sound) (h : Reached plan exec done p)
    (h' : Reached plan (Moment.executor (.during id) reason exec) done p')
    (follows : plan.Follows done stage) (alike : p.Alike .whole p') (unasked : p.signal = none)
    (unasked' : p'.signal = none) (now : id ∈ stage)
    (fit : plan.admission p.standing id = .executed) :
    Concur .whole ((runStages plan exec payload [stage]).on p)
        ((runStages plan (Moment.executor (.during id) reason exec) payload [stage]).on p') ∧
      ∀ a, ((runStages plan exec payload [stage]).on p).1 = .ok a → a = none ∧
        ((runStages plan (Moment.executor (.during id) reason exec) payload
          [stage]).on p').2.signal = some reason := by
  have closed := View.Closed.whole plan
  have concur := runStage_concur payload sound closed
    (Moment.likewise (.during id) reason exec plan) h h' follows alike (.inl fun _ => rfl)
  rw [runStages_single unasked, runStages_single unasked']
  rcases concur.cases with ⟨stop, q, q', ran, ran', traces⟩ | ⟨_, q, q', ran, ran', same⟩
  · rw [ran, ran']
    refine ⟨.stopped traces, fun _ through => ?_⟩
    cases through
  · have adv := runStage_advance h' follows ran'
    rw [ran, ran']
    refine ⟨.through same, fun _ through => ?_⟩
    cases through
    exact ⟨rfl, adv.asked now (alike.admission closed rfl ▸ fit)
      fun _ _ _ inputs node => during_cancels sound node inputs⟩

/-- Up to its end a stage that has started a node either goes by or loses nodes of its own. -/
theorem lives_dispatched (h : Reached plan exec done p)
    (layered : plan.Layered done (earlier ++ [stage])) (now : id ∈ stage)
    {result : Except Stop (Option (Option String))}
    (ran : (runStages plan exec payload (earlier ++ [stage])).on p = (result, q))
    (kept : ∀ message, result ≠ .error (.cancelled message))
    (running : .running ∈ q.trace.history id) :
    ∀ i ∈ (earlier ++ [stage]).flatten, q.Lived i ∨ (q.Lost i ∧ ∃ stop, result = .error stop) := by
  obtain ⟨k, within, leaves, -⟩ := runStages_leaves payload h layered ran kept
  have fresh := layered.append.2.1.fresh id now
  have known := layered.append.2.1.known id now
  have whole : k = (earlier ++ [stage]).length := by
    -- A smaller part of the stages would leave the node pending.
    by_contra part
    have short : k ≤ earlier.length := by
      rw [List.length_append, List.length_singleton] at within part
      omega
    have waits := leaves.waits id known fun mem => fresh <| by
      rw [List.take_append_of_le_length short] at mem
      refine List.mem_append.mpr ((List.mem_append.mp mem).imp_right fun taken => ?_)
      obtain ⟨stage, here, mem⟩ := List.mem_flatten.mp taken
      exact List.mem_flatten.mpr ⟨stage, List.mem_of_mem_take here, mem⟩
    rw [waits] at running
    cases List.mem_singleton.mp running
  intro i mem
  rw [whole, List.take_length] at leaves
  exact leaves.lives i (List.mem_append_right _ mem)

/-- What two runs come to in the stages that are dispatched until a signal is set in the second of
them: to the same end, and the signal stands after it. -/
structure Dispatched (reason : Option String) (dispatched : List (List String))
    (ended ended' : Except Stop (Option (Option String)) × Progress) : Prop where
  concur : Concur .whole ended ended'
  signal : ∀ a, ended.1 = .ok a → a = none ∧ ended'.2.signal = some reason
  lives : (∀ message, ended'.1 ≠ .error (.cancelled message)) → ∀ id ∈ dispatched.flatten,
    ended'.2.Lived id ∨ (ended'.2.Lost id ∧ ∃ stop, ended'.1 = .error stop)

/-- Up to the end of the stage that a signal is set in, the run goes by as it does without the
signal. -/
theorem during_dispatched (sound : plan.Sound) (quiet : ∀ n inputs, (exec n inputs).cancels = none)
    (h : Reached plan exec done p)
    (h' : Reached plan (Moment.executor (.during id) reason exec) done p')
    (layered : plan.Layered done (earlier ++ stage :: rest)) (alike : p.Alike .whole p')
    (unasked : p.signal = none) (unasked' : p'.signal = none) (now : id ∈ stage)
    (running : .running ∈
      ((runStages plan exec payload (earlier ++ stage :: rest)).on p).2.trace.history id) :
    Dispatched reason (earlier ++ [stage])
      ((runStages plan exec payload (earlier ++ [stage])).on p)
      ((runStages plan (Moment.executor (.during id) reason exec) payload
        (earlier ++ [stage])).on p') := by
  obtain ⟨first, last⟩ := layered.append
  obtain ⟨q, q', ran, ran', alike, unasked, unasked'⟩ :=
    during_earlier sound quiet h h' layered alike unasked unasked' now running
  have reached := runStages_reached h first ran
  have reached' := runStages_reached h' first ran'
  rw [runStages_through ran] at running
  have running := running_in_stage reached last unasked now running
  obtain ⟨concur, signal⟩ := during_stage payload sound reached
    reached' last.1 alike unasked unasked' now (executed_of_running reached last.1 now running)
  -- The traces agree up to here, so the signalled run has started the node as well.
  have started : .running ∈ ((runStages plan (Moment.executor (.during id) reason exec) payload
      (earlier ++ [stage])).on p').2.trace.history id := by
    rw [runStages_through ran', ← concur.traces.history rfl, runStages_single unasked]
    exact running
  rw [List.append_cons] at layered
  refine ⟨?_, ?_, fun kept => lives_dispatched h' layered.append.1 now rfl kept started⟩
  · rw [runStages_through ran, runStages_through ran']
    exact concur
  · rw [runStages_through ran, runStages_through ran']
    exact signal

theorem RunEnd.traces {ended : Except Stop (Option (Option String)) × Progress}
    {result : Except Stop RunResult × Progress} (h : RunEnd plan ended result) {r : RunResult}
    (returned : result.1 = .ok r) : r.trace.events = result.2.trace.events := by
  obtain ⟨answer, q⟩ := result
  obtain rfl : answer = .ok r := returned
  exact h.events

theorem RunEnd.aborts {result : Except Stop RunResult × Progress} {message : String}
    (h : RunEnd plan (.error (.cancelled message), q) result) :
    result.1 = .error (.cancelled message) := by
  cases h
  rfl

/-- How a signal cuts a run; `whole` is the run without it and `cut` that with it. The stages that
are dispatched come to their end, and those behind them do not start. If the run without it goes on
behind them, the other one is cancelled there, and if not, both end alike. -/
structure Cuts (reason : Option String) (dispatched later : List (List String)) (goesOn : Prop)
    (whole cut : Except Stop RunResult × Progress) : Prop where
  traces : ∀ x ∈ [whole, cut], ∀ r, x.1 = .ok r → r.trace.events = x.2.trace.events
  events : View.whole.events cut.2.trace.events <+: View.whole.events whole.2.trace.events
  lives : (∀ message, cut.1 ≠ .error (.cancelled message)) → ∀ id ∈ dispatched.flatten,
    cut.2.Lived id ∨ (cut.2.Lost id ∧ ¬goesOn)
  untouched : ∀ id ∈ later.flatten,
    cut.2.trace.history id = [.pending] ∧ ∀ c ∈ cut.2.calls, c.1 ≠ id
  ends : ¬goesOn → (∃ stop, whole.1 = .error stop ∧ cut.1 = .error stop) ∨
    ∃ r r', whole.1 = .ok r ∧ cut.1 = .ok r' ∧ r.Agree .whole r'
  cancelled : goesOn → ∃ r, cut.1 = .ok r ∧ r.status = .cancelled ∧ r.output = .null ∧
    r.failingNodeId = none ∧ r.cause = reason

/-- Behind the stages that are dispatched a signal that stands ends the run, unless it ends anyway.
-/
theorem runStages_cut (later : List (List String)) (h : Dispatched reason dispatched
      ((runStages plan exec payload dispatched).on p)
      ((runStages plan exec' payload dispatched).on p')) :
    ((runStages plan exec' payload (dispatched ++ later)).on p').2 =
        ((runStages plan exec' payload dispatched).on p').2 ∧
      ((((runStages plan exec payload dispatched).on p).1 = .ok none ∧ later ≠ []) →
        ((runStages plan exec' payload (dispatched ++ later)).on p').1 = .ok (some reason)) ∧
      (¬(((runStages plan exec payload dispatched).on p).1 = .ok none ∧ later ≠ []) →
        Concur .whole ((runStages plan exec payload (dispatched ++ later)).on p)
          ((runStages plan exec' payload (dispatched ++ later)).on p')) := by
  obtain ⟨concur, signal, -⟩ := h
  rcases concur.cases with ⟨stop, q, q', ran, ran', -⟩ | ⟨a, q, q', ran, ran', -⟩
  · rw [ran, ran'] at concur ⊢
    rw [runStages_stopped ran, runStages_stopped ran']
    refine ⟨rfl, fun goesOn => ?_, fun _ => concur⟩
    cases goesOn.1
  · rw [ran, ran'] at concur signal ⊢
    obtain ⟨rfl, signal⟩ := signal a rfl
    rw [runStages_through ran, runStages_through ran']
    cases later with
    | nil => exact ⟨rfl, fun goesOn => absurd rfl goesOn.2, fun _ => concur⟩
    | cons stage rest =>
        rw [runStages_cons, signal]
        exact ⟨rfl, fun _ => rfl, fun stays => absurd ⟨rfl, List.cons_ne_nil _ _⟩ stays⟩

/-- Nothing is told of the nodes behind some stages of a run, but that they are pending. -/
theorem untouched_later (h : Reached plan exec [] p) (uncalled : p.calls = [])
    (layered : plan.Layered [] (dispatched ++ later)) (mem : id ∈ later.flatten) :
    ((runStages plan exec payload dispatched).on p).2.trace.history id = [.pending] ∧
      ∀ c ∈ ((runStages plan exec payload dispatched).on p).2.calls, c.1 ≠ id := by
  obtain ⟨first, last⟩ := layered.append
  have edits := runStages_edits payload h first
  have fresh : id ∉ dispatched.flatten := last.fresh id mem
  constructor
  · rw [edits.history_others fun _ => fresh]
    exact history_of_waiting h (last.known id mem) List.not_mem_nil
  · obtain ⟨new, grown, made⟩ := edits.calls
    intro c call same
    rw [grown, uncalled, List.nil_append] at call
    exact fresh (same ▸ made c call)

theorem events_through (payload : Value) (h : Reached plan exec [] p)
    (layered : plan.Layered [] (dispatched ++ later)) :
    ((runStages plan exec payload dispatched).on p).2.trace.events <+:
      ((runStages plan exec payload (dispatched ++ later)).on p).2.trace.events := by
  obtain ⟨first, last⟩ := layered.append
  have course := runStages_course payload h first
  rw [runStages_append, RunM.on_bind]
  generalize (runStages plan exec payload dispatched).on p = ended at course
  obtain ⟨result | (_ | reason), q⟩ := ended
  · exact List.prefix_rfl
  · obtain ⟨new, grown, -⟩ := (runStages_edits payload course.reached last).events
    exact ⟨new, grown.symm⟩
  · exact List.prefix_rfl

theorem Cuts.of_dispatched (h : Reached plan exec [] p) (h' : Reached plan exec' [] p')
    (uncalled : p'.calls = []) (layered : plan.Layered [] (dispatched ++ later))
    (ends : Dispatched reason dispatched ((runStages plan exec payload dispatched).on p)
      ((runStages plan exec' payload dispatched).on p'))
    {whole cut : Except Stop RunResult × Progress}
    (wholeEnd : RunEnd plan ((runStages plan exec payload (dispatched ++ later)).on p) whole)
    (cutEnd : RunEnd plan ((runStages plan exec' payload (dispatched ++ later)).on p') cut) :
    Cuts reason dispatched later
      (((runStages plan exec payload dispatched).on p).1 = .ok none ∧ later ≠ []) whole cut := by
  obtain ⟨last, cut', same⟩ := runStages_cut later ends
  have carries : ∀ {I : Progress → Prop}, (∀ {q} (t : Trace), I q → I (q.close t)) →
      I ((runStages plan exec' payload dispatched).on p').2 → I cut.2 := fun sealed holds =>
    cutEnd.carries sealed (last ▸ holds)
  have grown := events_through payload h layered
  refine ⟨?_, ?_, fun kept id mem => ?_, fun id mem => ?_, fun stays => ?_, fun goesOn => ?_⟩
  · simp only [List.forall_mem_cons, List.not_mem_nil, false_imp_iff, implies_true, and_true]
    exact ⟨fun _ => wholeEnd.traces, fun _ => cutEnd.traces⟩
  · have told : cut.2.trace.events =
        ((runStages plan exec' payload dispatched).on p').2.trace.events :=
      carries (I := fun q => q.trace.events = _) (fun _ same => same) rfl
    have told' : whole.2.trace.events = _ :=
      wholeEnd.carries (I := fun q => q.trace.events = _) (fun _ same => same) rfl
    rw [told, told', ← ends.concur.traces.events]
    exact View.events_prefix .whole grown
  · have kept' : ∀ message, ((runStages plan exec' payload dispatched).on p').1 ≠
        .error (.cancelled message) := by
      -- A cancelled task ends a run at once, and no later stage changes that.
      intro message aborted
      have aborted' := runStages_stopped (Prod.ext aborted rfl) later
      rw [aborted'] at cutEnd
      exact kept message cutEnd.aborts
    rcases ends.lives kept' id mem with lived | ⟨lost, stop, stopped⟩
    · exact .inl (carries (I := fun q => q.Lived id) (fun _ lived => lived) lived)
    · refine .inr ⟨carries (I := fun q => q.Lost id)
        (fun _ ⟨running, succeeded, copies, uncopied⟩ => ⟨running, succeeded, copies, uncopied⟩)
        lost, fun goesOn => ?_⟩
      cases goesOn.1.symm.trans (ends.concur.answer.trans stopped)
  · exact carries (I := fun q => q.trace.history id = [.pending] ∧ ∀ c ∈ q.calls, c.1 ≠ id)
      (fun _ kept => kept) (untouched_later h' uncalled layered mem)
  · exact RunEnd.agree (.whole plan) (same stays) wholeEnd cutEnd
  · have ended := cut' goesOn
    generalize (runStages plan exec' payload (dispatched ++ later)).on p' = course at ended cutEnd
    obtain ⟨result, q⟩ := course
    obtain rfl : result = .ok (some reason) := ended
    cases cutEnd
    exact ⟨_, rfl, rfl, rfl, rfl, rfl⟩

theorem mem_of_running {stages : List (List String)} (h : Reached plan exec [] p)
    (layered : plan.Layered [] stages)
    (running : .running ∈ ((runStages plan exec payload stages).on p).2.trace.history id) :
    id ∈ stages.flatten := by
  obtain ⟨later, grown, allowed⟩ := (runStages_edits payload h layered).history id
  rw [grown, h.history, h.waiting List.not_mem_nil] at running
  rcases List.mem_append.mp running with old | new
  · split at old
    · cases List.mem_singleton.mp old
    · cases old
  · exact allowed _ new

theorem Moment.dispatches {stages : List (List String)} {m : Moment} (sound : plan.Sound)
    (quiet : ∀ n inputs, (exec n inputs).cancels = none) (h : Reached plan exec [] p)
    (h' : Reached plan (m.executor reason exec) [] p') (layered : plan.Layered [] stages)
    (alike : p.Alike .whole p') (unasked : p.signal = none)
    (signal : p'.signal = (m.setup reason setup).cancelled) (unasked' : setup.cancelled = none)
    (comes : m.Comes ((runStages plan exec payload stages).on p).2) :
    ∃ dispatched later, stages = dispatched ++ later ∧ m.Closes dispatched ∧
      Dispatched reason dispatched ((runStages plan exec payload dispatched).on p)
        ((runStages plan (m.executor reason exec) payload dispatched).on p') := by
  cases m with
  | before =>
      refine ⟨[], stages, rfl, rfl, .through alike, fun a through => ?_, fun _ id mem => ?_⟩
      · cases through
        exact ⟨rfl, signal⟩
      · cases mem
  | during id =>
      obtain ⟨stage, here, now⟩ := List.mem_flatten.mp (mem_of_running h layered comes)
      obtain ⟨earlier, rest, rfl⟩ := List.append_of_mem here
      exact ⟨earlier ++ [stage], rest, by simp, ⟨earlier, stage, rfl, now⟩,
        during_dispatched sound quiet h h' layered alike unasked (signal.trans unasked') now comes⟩

/-- A signal cuts a run at the end of the stage that it comes up in, and changes nothing before but
the times at which things happen. -/
theorem cancellation_cuts (valid : g.check.valid = true)
    (quiet : ∀ n inputs, (exec n inputs).cancels = none) (unasked : setup.cancelled = none)
    {m : Moment} (comes : m.Comes (runFrom (.ofGraph g) exec setup).2) (reason : Option String)
    (clock : Nat → String) :
    ∃ dispatched later, g.staging.stages = dispatched ++ later ∧ m.Closes dispatched ∧
      Cuts reason dispatched later
        ((courseThrough (.ofGraph g) exec setup dispatched).1 = .ok none ∧ later ≠ [])
        (runFrom (.ofGraph g) exec setup)
        (runFrom (.ofGraph g) (m.executor reason exec) (m.setup reason { setup with clock })) := by
  have runnable := Graph.runnable_of_valid valid
  have sound := Plan.sound_ofGraph g
  have layered := Plan.layered_ofGraph g
  obtain ⟨p, start, reached, signal, -⟩ := start_reached sound exec setup
  obtain ⟨p', start', reached', signal', -⟩ := start_reached sound (m.executor reason exec)
    (m.setup reason { setup with clock })
  obtain ⟨-, -, -, -, -, -, wholeEnd⟩ := runFrom_cases runnable exec setup
  obtain ⟨-, -, -, -, -, -, cutEnd⟩ := runFrom_cases runnable (m.executor reason exec)
    (m.setup reason { setup with clock })
  have payload : (m.setup reason { setup with clock }).payload = setup.payload := by
    cases m <;> rfl
  have uncalled : p'.calls = [] := by
    rw [recordPending_rest start']
    rfl
  rw [courseFrom_eq start] at wholeEnd
  rw [courseFrom_eq start', payload] at cutEnd
  have comes : m.Comes
      ((runStages (.ofGraph g) exec setup.payload g.staging.stages).on p).2 := by
    rcases wholeEnd.closes with same | ⟨t, same⟩ <;> rw [same] at comes
    · exact comes
    · cases m <;> exact comes
  obtain ⟨dispatched, later, stages, closes, ends⟩ := Moment.dispatches sound quiet reached reached'
    layered (start_alike (by cases m <;> rfl) start start') (signal.trans unasked) signal' unasked
    comes
  refine ⟨dispatched, later, stages, closes, ?_⟩
  rw [courseThrough, RunM.on_bind_ok start]
  exact .of_dispatched reached reached' uncalled (stages ▸ layered) ends (stages ▸ wholeEnd)
    (stages ▸ cutEnd)

theorem cancellation_cuts_detour :
    (runFrom (.ofGraph detour) (Moment.executor (.during "risk") (some "enough")
      (failingTool "false" evenly)) plainSetup).1.toOption.map RunResult.status =
        some .cancelled ∧
    ∃ dispatched later, detour.staging.stages = dispatched ++ later ∧
      (Moment.during "risk").Closes dispatched ∧
      Cuts (some "enough") dispatched later
        ((courseThrough (.ofGraph detour) (failingTool "false" evenly) plainSetup dispatched).1 =
          .ok none ∧ later ≠ [])
        (runFrom (.ofGraph detour) (failingTool "false" evenly) plainSetup)
        (runFrom (.ofGraph detour) (Moment.executor (.during "risk") (some "enough")
          (failingTool "false" evenly)) plainSetup) := by
  have valid : detour.check.valid = true := by decide +kernel
  have comes : .running ∈ (runFrom (.ofGraph detour) (failingTool "false" evenly)
      plainSetup).2.trace.history "risk" := by decide +kernel
  refine ⟨by decide +kernel, ?_⟩
  exact cancellation_cuts (m := .during "risk") valid (fun _ _ => rfl) rfl comes (some "enough")
    plainSetup.clock

end Scheduler

end Workflow
