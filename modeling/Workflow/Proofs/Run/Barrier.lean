import Workflow.Proofs.Run.Chronicle

/-! Stages never overlap. What a run tells is in the order of its moments, and these go by stages,
within a stage by its three sections. So every node ends before a node that it comes before is more
than pending. -/

namespace Workflow

/-- Whatever has the first property stands in front of all that has the second. -/
def InFront {α : Type} (P Q : α → Prop) (l : List α) : Prop :=
  ∀ (i j : Nat) (x y : α), l[i]? = some x → l[j]? = some y → P x → Q y → i < j

theorem inFront_of_sorted {α : Type} {rank : α → Nat} {P Q : α → Prop} {l : List α}
    (sorted : l.Pairwise fun x y => rank x ≤ rank y)
    (below : ∀ x ∈ l, ∀ y ∈ l, P x → Q y → rank x < rank y) : InFront P Q l := by
  intro i j x y hi hj first second
  obtain ⟨boundi, rfl⟩ := List.getElem?_eq_some_iff.mp hi
  obtain ⟨boundj, rfl⟩ := List.getElem?_eq_some_iff.mp hj
  have less := below _ (List.getElem_mem boundi) _ (List.getElem_mem boundj) first second
  by_contra behind
  rcases Nat.lt_or_eq_of_le (Nat.le_of_not_lt behind) with before | rfl
  · have ordered := List.pairwise_iff_getElem.mp sorted j i boundj boundi before
    omega
  · omega

def NodeStatus.phase : NodeStatus → Nat
  | pending | ready | skipped => 0
  | running => 1
  | succeeded | failed => 2

theorem NodeStatus.phase_le (s : NodeStatus) : s.phase ≤ 2 := by
  cases s <;> decide

theorem NodeStatus.phase_of_ended {s : NodeStatus} (terminal : s.isTerminal = true)
    (unskipped : s ≠ .skipped) : s.phase = 2 := by
  cases s <;> first | rfl | exact absurd rfl unskipped | cases terminal

/-- The moment at which a node comes to a status, by the stage of the node and the section of it.
All nodes are pending from the start. -/
def moment (stages : List (List String)) (x : String × NodeStatus) : Nat :=
  if x.2 = .pending then 0 else 3 * (stages.findIdx fun stage => stage.contains x.1) + x.2.phase + 1

section

variable {stages rest : List (List String)} {stage : List String} {x : String × NodeStatus}

theorem moment_now (moves : x.2 ≠ .pending) (now : x.1 ∈ stage) :
    moment (stage :: rest) x = x.2.phase + 1 := by
  rw [moment, if_neg moves, List.findIdx_cons, List.contains_iff_mem.mpr now]
  dsimp only [cond_true]
  omega

theorem moment_later (moves : x.2 ≠ .pending) (later : x.1 ∉ stage) :
    moment (stage :: rest) x = moment rest x + 3 := by
  have apart : stage.contains x.1 = false := by simpa using later
  rw [moment, moment, if_neg moves, if_neg moves, List.findIdx_cons, apart]
  dsimp only [cond_false]
  omega

theorem moment_of_inStage (nodup : stages.flatten.Nodup) {n : Nat} (moves : x.2 ≠ .pending)
    (here : InStage stages n x.1) : moment stages x = 3 * n + x.2.phase + 1 := by
  induction stages generalizing n with
  | nil =>
      obtain ⟨stage, at', -⟩ := here
      cases at'
  | cons stage rest ih =>
      rw [List.flatten_cons] at nodup
      obtain ⟨-, nodup', apart⟩ := List.nodup_append.mp nodup
      cases n with
      | zero =>
          obtain ⟨_, at', now⟩ := here
          cases at'
          rw [moment_now moves now]
          omega
      | succ n =>
          have later : x.1 ∉ stage := fun now => apart _ now _ (mem_stages_iff.mpr ⟨n, here⟩) rfl
          rw [moment_later moves later, ih nodup' here]
          omega

end

namespace Scheduler

variable {g : Graph} {plan : Plan} {exec : Executor} {payload : Value} {setup : Setup}
  {stage : List String} {stages : List (List String)} {p q : Progress}
  {told : List (String × NodeStatus)} {calls : List (String × Call)}

theorem Page.within (h : Page plan exec payload p stage told calls) :
    ∀ x ∈ told, x.1 ∈ stage ∧ x.2 ≠ .pending := by
  cases h with
  | shut => exact fun _ mem => absurd mem List.not_mem_nil
  | opened enters nodup within entered ended =>
      intro x mem
      rw [List.mem_append, List.mem_append] at mem
      rcases mem with (mem | mem) | mem
      · obtain ⟨here, status⟩ := entered x mem
        refine ⟨here, fun pending => ?_⟩
        rw [pending] at status
        rcases status with status | ⟨status, -⟩ <;> cases status
      · obtain ⟨y, chosen, rfl⟩ := List.mem_map.mp mem
        exact ⟨within y.1 (List.mem_map_of_mem chosen), NodeStatus.noConfusion⟩
      · obtain ⟨here, status⟩ := ended x mem
        refine ⟨within x.1 here, fun pending => ?_⟩
        rw [pending] at status
        rcases status with status | status <;> cases status

theorem Page.sorted (h : Page plan exec payload p stage told calls) :
    told.Pairwise fun x y => x.2.phase ≤ y.2.phase := by
  cases h with
  | shut => exact .nil
  | @opened admitted s entries ends enters nodup within entered ended =>
      have first : ∀ x ∈ entries, x.2.phase = 0 := by
        intro x mem
        obtain ⟨-, ready | ⟨skipped, -⟩⟩ := entered x mem
        · rw [ready]; rfl
        · rw [skipped]; rfl
      have second : ∀ x ∈ admitted.map fun x => (x.1, NodeStatus.running), x.2.phase = 1 := by
        intro x mem
        obtain ⟨y, -, rfl⟩ := List.mem_map.mp mem
        rfl
      have third : ∀ x ∈ ends, x.2.phase = 2 := by
        intro x mem
        obtain ⟨-, succeeded | failed⟩ := ended x mem
        · rw [succeeded]; rfl
        · rw [failed]; rfl
      have level : ∀ {k : Nat} {l : List (String × NodeStatus)}, (∀ x ∈ l, x.2.phase = k) →
          l.Pairwise fun x y => x.2.phase ≤ y.2.phase := fun same =>
        List.pairwise_of_forall_mem_list fun x mem y mem' => by rw [same x mem, same y mem']
      refine List.pairwise_append.mpr ⟨List.pairwise_append.mpr ⟨level first, level second, ?_⟩,
        level third, ?_⟩
      · intro x mem y mem'
        rw [first x mem]
        exact Nat.zero_le _
      · intro x mem y mem'
        rw [third y mem']
        exact x.2.phase_le

/-- Of the three sections of a stage it is the middle one that tells which nodes run. -/
theorem running_mem_iff {admitted : List (String × Inputs)}
    {entries ends : List (String × NodeStatus)} {id : String}
    (entered : ∀ x ∈ entries, x.1 ∈ stage ∧
      (x.2 = .ready ∨ (x.2 = .skipped ∧ x.1 ∉ admitted.map Prod.fst)))
    (ended : ∀ x ∈ ends, x.1 ∈ admitted.map Prod.fst ∧ (x.2 = .succeeded ∨ x.2 = .failed)) :
    (id, .running) ∈ entries ++ admitted.map (fun x => (x.1, .running)) ++ ends ↔
      id ∈ admitted.map Prod.fst := by
  rw [List.mem_append, List.mem_append]
  constructor
  · rintro ((mem | mem) | mem)
    · rcases (entered _ mem).2 with status | ⟨status, -⟩ <;> cases status
    · obtain ⟨x, chosen, same⟩ := List.mem_map.mp mem
      cases same
      exact List.mem_map_of_mem chosen
    · exact (ended _ mem).1
  · intro chosen
    obtain ⟨x, mem, rfl⟩ := List.mem_map.mp chosen
    exact .inl (.inr (List.mem_map_of_mem mem))

theorem Page.idle_of_skipped (h : Page plan exec payload p stage told calls) {id : String}
    (skipped : (id, .skipped) ∈ told) : (id, .running) ∉ told := by
  cases h with
  | shut => exact List.not_mem_nil
  | opened enters nodup within entered ended =>
      rw [running_mem_iff entered ended]
      rw [List.mem_append, List.mem_append] at skipped
      rcases skipped with (mem | mem) | mem
      · rcases (entered _ mem).2 with ready | ⟨-, unchosen⟩
        · cases ready
        · exact unchosen
      · obtain ⟨x, -, same⟩ := List.mem_map.mp mem
        cases same
      · rcases (ended _ mem).2 with status | status <;> cases status

theorem Chronicle.within (h : Chronicle plan exec payload p stages told calls) :
    ∀ x ∈ told, x.1 ∈ stages.flatten ∧ x.2 ≠ .pending := by
  induction h with
  | blank => exact fun _ mem => absurd mem List.not_mem_nil
  | last unasked page =>
      intro x mem
      exact ⟨List.mem_append_left _ (page.within x mem).1, (page.within x mem).2⟩
  | next unasked page ran whole goesOn ih =>
      intro x mem
      rcases List.mem_append.mp mem with now | later
      · exact ⟨List.mem_append_left _ (page.within x now).1, (page.within x now).2⟩
      · exact ⟨List.mem_append_right _ (ih x later).1, (ih x later).2⟩

theorem Page.moments (h : Page plan exec payload p stage told calls)
    (rest : List (List String)) :
    told.Pairwise fun x y => moment (stage :: rest) x ≤ moment (stage :: rest) y := by
  refine h.sorted.imp_of_mem ?_
  intro x y mem mem' le
  obtain ⟨now, moves⟩ := h.within x mem
  obtain ⟨now', moves'⟩ := h.within y mem'
  rw [moment_now moves now, moment_now moves' now']
  omega

theorem Chronicle.sorted (h : Chronicle plan exec payload p stages told calls)
    (nodup : stages.flatten.Nodup) :
    told.Pairwise fun x y => moment stages x ≤ moment stages y := by
  induction h with
  | blank => exact .nil
  | last unasked page => exact page.moments _
  | @next p q stage rest told later calls others unasked page ran whole goesOn ih =>
      rw [List.flatten_cons] at nodup
      obtain ⟨-, nodup, apart⟩ := List.nodup_append.mp nodup
      have behind : ∀ x ∈ later,
          x.2 ≠ .pending ∧ moment (stage :: rest) x = moment rest x + 3 := by
        intro x mem
        obtain ⟨here, moves⟩ := goesOn.within x mem
        exact ⟨moves, moment_later moves fun now => apart x.1 now x.1 here rfl⟩
      refine List.pairwise_append.mpr ⟨page.moments rest, ?_, ?_⟩
      · refine (ih nodup).imp_of_mem ?_
        intro x y mem mem' le
        rw [(behind x mem).2, (behind y mem').2]
        omega
      · intro x mem y mem'
        obtain ⟨now, moves⟩ := page.within x mem
        rw [moment_now moves now, (behind y mem').2, moment, if_neg (behind y mem').1]
        have last := x.2.phase_le
        omega

/-- Where something is told of a stage, the ends of all nodes of the stages before it are told. -/
theorem Chronicle.ended_before (h : Chronicle plan exec payload p stages told calls)
    (nodup : stages.flatten.Nodup) {x : String × NodeStatus} (mem : x ∈ told) {m n : Nat}
    {a : String} (here : InStage stages n x.1) (earlier : m < n) (there : InStage stages m a) :
    ∃ status : NodeStatus, status.isTerminal = true ∧ (a, status) ∈ told := by
  -- Stages share no node, so one of the first stage stands in no later one.
  have first : ∀ {stage : List String} {rest : List (List String)} {n : Nat} {id : String},
      (stage ++ rest.flatten).Nodup → id ∈ stage → InStage (stage :: rest) n id → n = 0 := by
    intro stage rest n id nodup now here
    cases n with
    | zero => rfl
    | succ n =>
        have later := mem_stages_iff.mpr ⟨n, here⟩
        exact absurd rfl ((List.nodup_append.mp nodup).2.2 id now id later)
  induction h generalizing m n with
  | blank => exact absurd mem List.not_mem_nil
  | last unasked page =>
      rw [first nodup (page.within x mem).1 here] at earlier
      exact absurd earlier (Nat.not_lt_zero _)
  | @next p q stage rest told later calls others unasked page ran whole goesOn ih =>
      rw [List.flatten_cons] at nodup
      rcases List.mem_append.mp mem with now | behind
      · rw [first nodup (page.within x now).1 here] at earlier
        exact absurd earlier (Nat.not_lt_zero _)
      · cases n with
        | zero => exact absurd earlier (Nat.not_lt_zero _)
        | succ n =>
            cases m with
            | zero =>
                obtain ⟨_, at', member⟩ := there
                cases at'
                obtain ⟨status, terminal, found⟩ := whole a member
                exact ⟨status, terminal, List.mem_append_left _ found⟩
            | succ m =>
                obtain ⟨status, terminal, found⟩ := ih (List.nodup_append.mp nodup).2.1 behind here
                  (Nat.lt_of_succ_lt_succ earlier) there
                exact ⟨status, terminal, List.mem_append_right _ found⟩

theorem Chronicle.idle_of_skipped (h : Chronicle plan exec payload p stages told calls)
    (nodup : stages.flatten.Nodup) {id : String} (skipped : (id, .skipped) ∈ told) :
    (id, .running) ∉ told := by
  induction h with
  | blank => exact List.not_mem_nil
  | last unasked page => exact page.idle_of_skipped skipped
  | @next p q stage rest told later calls others unasked page ran whole goesOn ih =>
      rw [List.flatten_cons] at nodup
      obtain ⟨-, nodup, apart⟩ := List.nodup_append.mp nodup
      intro running
      rcases List.mem_append.mp skipped with now | behind
      · rcases List.mem_append.mp running with now' | behind'
        · exact page.idle_of_skipped now now'
        · exact apart id (page.within _ now).1 id (goesOn.within _ behind').1 rfl
      · rcases List.mem_append.mp running with now' | behind'
        · exact apart id (page.within _ now').1 id (goesOn.within _ behind).1 rfl
        · exact ih nodup behind behind'

/-- An end of a run adds nothing to the events and the calls of its stages, and a result tells of
these events. -/
structure Tells (p : Progress) (result : Except Stop RunResult × Progress) : Prop where
  events : result.2.trace.events = p.trace.events
  calls : result.2.calls = p.calls
  reported : ∀ r, result.1 = .ok r → r.trace.events = p.trace.events

theorem finish_tells (status : RunStatus) (output : Value) (failingNodeId cause : Option String)
    (p : Progress) : Tells p ((finish status output failingNodeId cause).on p) := by
  cases already : p.trace.sealedTrace with
  | some t =>
      unfold finish Recorder.sealAs
      rw [RunM.on_bind, RunM.on_get]
      dsimp only
      rw [already]
      exact ⟨rfl, rfl, fun r ok => nomatch ok⟩
  | none =>
      cases copied : output.snapshot with
      | error f =>
          rw [finish_error already copied]
          exact ⟨rfl, rfl, fun r ok => nomatch ok⟩
      | ok copy =>
          rw [finish_ok already copied]
          refine ⟨rfl, rfl, fun r ok => ?_⟩
          cases ok
          rfl

theorem runPlan_tells :
    Tells ((runStages plan exec payload plan.graph.staging.stages).on p).2
      ((runPlan plan exec payload).on p) := by
  unfold runPlan
  rw [RunM.on_bind]
  cases (runStages plan exec payload plan.graph.staging.stages).on p with
  | mk result q =>
      cases result with
      | error stop => exact ⟨rfl, rfl, fun r ok => nomatch ok⟩
      | ok reason =>
          cases reason with
          | some reason => exact finish_tells _ _ _ _ q
          | none =>
              dsimp only
              cases plan.graph.stagingError? with
              | some message => exact ⟨rfl, rfl, fun r ok => nomatch ok⟩
              | none =>
                  dsimp only
                  rw [RunM.on_bind, RunM.on_get]
                  dsimp only
                  cases finishedOutput? plan q with
                  | none => exact ⟨rfl, rfl, fun r ok => nomatch ok⟩
                  | some output => exact finish_tells _ _ _ _ q

/-- This asks nothing of the graph: nodes of a cycle may stand in no stage. -/
theorem runFrom_tells (g : Graph) (exec : Executor) (setup : Setup) :
    Tells (courseFrom (.ofGraph g) exec setup).2 (runFrom (.ofGraph g) exec setup) := by
  obtain ⟨p, start, -⟩ := start_edits g exec setup
  rw [courseFrom_eq start]
  change Tells _ ((run (.ofGraph g) exec setup.payload).on _)
  unfold run
  rw [RunM.on_bind_ok start, RunM.on_tryCatch]
  have ended : Tells _ ((runPlan (.ofGraph g) exec setup.payload).on p) := runPlan_tells
  cases ran : (runPlan (.ofGraph g) exec setup.payload).on p with
  | mk result q =>
      rw [ran] at ended
      cases result with
      | ok r => exact ended
      | error stop =>
          cases stop with
          | failed id cause =>
              have last := finish_tells .failed .null id (some cause) q
              exact ⟨last.events.trans ended.events, last.calls.trans ended.calls,
                fun r ok => (last.reported r ok).trans ended.events⟩
          | _ => exact ⟨ended.events, ended.calls, fun r ok => nomatch ok⟩

end Scheduler

/-- The events of a run go stage by stage: those of a stage stand in front of all of a later stage
but the pending ones, a node is told to have ended before anything but that it is pending is told of
a node that it comes before, and within a stage its nodes enter, then start, then end. -/
structure Graph.StageByStage (g : Graph) (events : List TraceEvent) : Prop where
  apart : ∀ m n a b, m < n → InStage g.staging.stages m a → InStage g.staging.stages n b →
    InFront (fun e => e.nodeId = a) (fun e => e.nodeId = b ∧ e.status ≠ .pending) events
  joined : ∀ a b, g.Precedes a b → ∀ (j : Nat) e, events[j]? = some e → e.nodeId = b →
    e.status ≠ .pending →
    ∃ i d, i < j ∧ events[i]? = some d ∧ d.nodeId = a ∧ d.status.isTerminal = true
  entered : ∀ n, InFront
    (fun e => InStage g.staging.stages n e.nodeId ∧ (e.status = .skipped ∨ e.status = .ready))
    (fun e => InStage g.staging.stages n e.nodeId ∧ e.status = .running) events
  ended : ∀ n, InFront (fun e => InStage g.staging.stages n e.nodeId ∧ e.status = .running)
    (fun e => InStage g.staging.stages n e.nodeId ∧ e.status.isTerminal = true ∧
      ∃ d ∈ events, d.nodeId = e.nodeId ∧ d.status = .running) events

theorem Graph.earlier_of_precedes {g : Graph} {n : Nat} {a b : String}
    (here : InStage g.staging.stages n b) (precedes : g.Precedes a b) :
    ∃ m < n, InStage g.staging.stages m a := by
  obtain ⟨way, some', leads⟩ := precedes
  obtain ⟨m, bound, there⟩ := inStage_of_way leads here
  have long := List.length_pos_iff.mpr some'
  exact ⟨m, by omega, there⟩

/-- Events stand in the order of their moments. -/
def InTime (stages : List (List String)) (events : List TraceEvent) : Prop :=
  events.Pairwise fun d e => moment stages (d.nodeId, d.status) ≤ moment stages (e.nodeId, e.status)

section

variable {stages : List (List String)} {events : List TraceEvent}

theorem InTime.apart (inTime : InTime stages events) (nodup : stages.flatten.Nodup) {m n : Nat}
    {a b : String} (less : m < n) (first : InStage stages m a) (second : InStage stages n b) :
    InFront (fun e => e.nodeId = a) (fun e => e.nodeId = b ∧ e.status ≠ .pending) events := by
  refine inFront_of_sorted inTime ?_
  rintro d - e - rfl ⟨rfl, moves⟩
  have late : moment stages (e.nodeId, e.status) = 3 * n + e.status.phase + 1 :=
    moment_of_inStage nodup moves second
  by_cases still : d.status = .pending
  · rw [late, moment, if_pos still]
    omega
  · have early : moment stages (d.nodeId, d.status) = 3 * m + d.status.phase + 1 :=
      moment_of_inStage nodup still first
    have last := d.status.phase_le
    omega

theorem InTime.sections (inTime : InTime stages events) (nodup : stages.flatten.Nodup) {n k : Nat}
    {P Q : TraceEvent → Prop}
    (front : ∀ e ∈ events, P e →
      InStage stages n e.nodeId ∧ e.status ≠ .pending ∧ e.status.phase = k)
    (behind : ∀ e ∈ events, Q e →
      InStage stages n e.nodeId ∧ e.status ≠ .pending ∧ e.status.phase = k + 1) :
    InFront P Q events := by
  refine inFront_of_sorted inTime ?_
  intro d mem e mem' first second
  obtain ⟨here, moves, phase⟩ := front d mem first
  obtain ⟨here', moves', phase'⟩ := behind e mem' second
  have early : moment stages (d.nodeId, d.status) = 3 * n + d.status.phase + 1 :=
    moment_of_inStage nodup moves here
  have late : moment stages (e.nodeId, e.status) = 3 * n + e.status.phase + 1 :=
    moment_of_inStage nodup moves' here'
  omega

end

section

open Scheduler

variable {g : Graph} {exec : Executor} {payload : Value} {p : Progress}

theorem inTime_of_chronicle {events : List TraceEvent} {starts told : List (String × NodeStatus)}
    {calls : List (String × Call)}
    (split : (events.map fun e => (e.nodeId, e.status)) = starts ++ told)
    (pending : ∀ x ∈ starts, x.2 = NodeStatus.pending)
    (chronicle : Chronicle (.ofGraph g) exec payload p g.staging.stages told calls) :
    InTime g.staging.stages events := by
  have start : ∀ x ∈ starts, moment g.staging.stages x = 0 := fun x mem => if_pos (pending x mem)
  have sorted : (starts ++ told).Pairwise fun x y =>
      moment g.staging.stages x ≤ moment g.staging.stages y := by
    refine List.pairwise_append.mpr ⟨?_, chronicle.sorted g.staging_nodup, ?_⟩
    · exact List.pairwise_of_forall_mem_list fun x mem y _ => start x mem ▸ Nat.zero_le _
    · exact fun x mem y _ => start x mem ▸ Nat.zero_le _
  rwa [← split, List.pairwise_map] at sorted

theorem Graph.stageByStage_of_chronicle {events : List TraceEvent}
    {starts told : List (String × NodeStatus)} {calls : List (String × Call)}
    (split : (events.map fun e => (e.nodeId, e.status)) = starts ++ told)
    (pending : ∀ x ∈ starts, x.2 = NodeStatus.pending)
    (chronicle : Chronicle (.ofGraph g) exec payload p g.staging.stages told calls) :
    g.StageByStage events := by
  have nodup := g.staging_nodup
  have inTime := inTime_of_chronicle split pending chronicle
  have recorded : ∀ e ∈ events, e.status ≠ .pending → (e.nodeId, e.status) ∈ told := by
    intro e mem moves
    have here : (e.nodeId, e.status) ∈ events.map fun e => (e.nodeId, e.status) :=
      List.mem_map_of_mem mem
    rw [split] at here
    exact (List.mem_append.mp here).resolve_left fun old => moves (pending _ old)
  have runs : ∀ {n : Nat} (e : TraceEvent), InStage g.staging.stages n e.nodeId ∧
      e.status = .running →
      InStage g.staging.stages n e.nodeId ∧ e.status ≠ .pending ∧ e.status.phase = 1 := by
    rintro n e ⟨here, running⟩
    rw [running]
    exact ⟨here, NodeStatus.noConfusion, rfl⟩
  refine ⟨fun _ _ _ _ less first second => inTime.apart nodup less first second, ?_, ?_, ?_⟩
  · rintro a b precedes j e at' rfl moves
    have here := recorded e (List.mem_of_getElem? at') moves
    obtain ⟨n, second⟩ := mem_stages_iff.mp (chronicle.within _ here).1
    obtain ⟨m, less, first⟩ := earlier_of_precedes second precedes
    obtain ⟨status, terminal, found⟩ := chronicle.ended_before nodup here second less first
    have found := List.mem_append_right starts found
    rw [← split] at found
    obtain ⟨d, mem, same⟩ := List.mem_map.mp found
    cases same
    obtain ⟨i, before⟩ := List.mem_iff_getElem?.mp mem
    have less := inTime.apart nodup less first second i j d e before at' rfl ⟨rfl, moves⟩
    exact ⟨i, d, less, before, rfl, terminal⟩
  · intro n
    refine inTime.sections nodup ?_ fun e _ => runs e
    rintro e - ⟨here, enters⟩
    rcases enters with status | status <;> rw [status] <;>
      exact ⟨here, NodeStatus.noConfusion, rfl⟩
  · intro n
    refine inTime.sections nodup (fun e _ => runs e) ?_
    rintro e mem ⟨here, terminal, d, mem', same, ran⟩
    have moves : e.status ≠ .pending := fun pending => by rw [pending] at terminal; cases terminal
    -- What has run was not skipped, so its end stands in the last section.
    have unskipped : e.status ≠ .skipped := by
      intro skipped
      have idle := chronicle.idle_of_skipped nodup (skipped ▸ recorded e mem moves)
      have started := recorded d mem' (by rw [ran]; decide)
      rw [same, ran] at started
      exact idle started
    exact ⟨here, moves, NodeStatus.phase_of_ended terminal unskipped⟩

/-- Every run of every graph, however its tasks complete and however it ends, goes stage by stage,
as its trace tells. -/
theorem run_stage_by_stage (g : Graph) (exec : Executor) (setup : Setup) :
    g.StageByStage (runFrom (.ofGraph g) exec setup).2.trace.events ∧
      ∀ r, (runFrom (.ofGraph g) exec setup).1 = .ok r → g.StageByStage r.trace.events := by
  obtain ⟨p, starts, told, -, pending, split, chronicle⟩ := courseFrom_chronicle g exec setup
  have tells := runFrom_tells g exec setup
  have orderly : g.StageByStage (courseFrom (.ofGraph g) exec setup).2.trace.events :=
    g.stageByStage_of_chronicle split pending chronicle
  exact ⟨tells.events.symm ▸ orderly, fun r ok => (tells.reported r ok).symm ▸ orderly⟩

end

end Workflow
