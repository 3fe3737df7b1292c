import Mathlib.Data.List.Perm.Basic
import Workflow.Graph.Stages
import Workflow.Proofs.Graph.Cycle

/-! Stages hold every node that is not held back, each once, and after all its predecessors.
Without a cycle no node is held back. -/

namespace Workflow

/-- The predecessors of the nodes of every stage are done or stand in earlier stages. -/
def Layers (previous : String → List String) : List String → List (List String) → Prop
  | _, [] => True
  | done, stage :: rest =>
    (∀ id ∈ stage, ∀ p ∈ previous id, p ∈ done) ∧ Layers previous (done ++ stage) rest

/-- The stage of an id, by its number. -/
def InStage (stages : List (List String)) (n : Nat) (id : String) : Prop :=
  ∃ stage, stages[n]? = some stage ∧ id ∈ stage

theorem mem_stages_iff {stages : List (List String)} {id : String} :
    id ∈ stages.flatten ↔ ∃ n, InStage stages n id := by
  rw [List.mem_flatten]
  constructor
  · rintro ⟨stage, mem, here⟩
    obtain ⟨n, at'⟩ := List.mem_iff_getElem?.mp mem
    exact ⟨n, stage, at', here⟩
  · rintro ⟨n, stage, at', here⟩
    exact ⟨stage, List.mem_of_getElem? at', here⟩

theorem mem_take_iff {stages : List (List String)} {n : Nat} {id : String} :
    id ∈ (stages.take n).flatten ↔ ∃ m < n, InStage stages m id := by
  rw [mem_stages_iff]
  constructor
  · rintro ⟨m, stage, at', here⟩
    rw [List.getElem?_take] at at'
    split at at'
    · rename_i earlier
      exact ⟨m, earlier, stage, at', here⟩
    · cases at'
  · rintro ⟨m, earlier, stage, at', here⟩
    exact ⟨m, stage, by rw [List.getElem?_take_of_lt earlier, at'], here⟩

section

variable {previous : String → List String}

theorem Layers.earlier {done : List String} {stages : List (List String)} {n : Nat} {id p : String}
    (h : Layers previous done stages) (here : InStage stages n id) (precedes : p ∈ previous id) :
    p ∈ done ++ (stages.take n).flatten := by
  induction stages generalizing done n with
  | nil =>
      obtain ⟨stage, at', -⟩ := here
      simp at at'
  | cons stage rest ih =>
      cases n with
      | zero =>
          obtain ⟨_, at', mem⟩ := here
          cases at'
          simpa using h.1 id mem p precedes
      | succ n =>
          have found := ih h.2 here
          simpa using found

theorem mem_unblocked {waiting : List String} {id : String} :
    id ∈ unblocked previous waiting ↔ id ∈ waiting ∧ ∀ p ∈ previous id, p ∉ waiting := by
  simp [unblocked]

/-- The nodes that wait after a stage are those that were blocked. -/
theorem filter_unblocked_perm (previous : String → List String) (waiting : List String) :
    (unblocked previous waiting ++
      waiting.filter fun id => !(unblocked previous waiting).contains id).Perm waiting := by
  have rest : (waiting.filter fun id => !(unblocked previous waiting).contains id) =
      waiting.filter fun id => !((previous id).all fun p => !waiting.contains p) := by
    refine List.filter_congr ?_
    intro id hid
    congr 1
    rw [Bool.eq_iff_iff, List.contains_iff_mem, mem_unblocked]
    simp [hid]
  rw [rest]
  exact List.filter_append_perm _ waiting

theorem stagesFrom_nil (rounds : Nat) {waiting : List String}
    (h : unblocked previous waiting = []) :
    stagesFrom previous (rounds + 1) waiting = ⟨[], waiting⟩ := by
  simp only [stagesFrom, h]

theorem stagesFrom_stage (rounds : Nat) {waiting : List String}
    (h : unblocked previous waiting ≠ []) :
    stagesFrom previous (rounds + 1) waiting =
      ⟨unblocked previous waiting ::
          (stagesFrom previous rounds
            (waiting.filter fun id => !(unblocked previous waiting).contains id)).stages,
        (stagesFrom previous rounds
          (waiting.filter fun id => !(unblocked previous waiting).contains id)).held⟩ := by
  cases stage : unblocked previous waiting with
  | nil => exact absurd stage h
  | cons x rest => simp only [stagesFrom, stage]

theorem stagesFrom_perm (rounds : Nat) (waiting : List String) :
    ((stagesFrom previous rounds waiting).stages.flatten ++
      (stagesFrom previous rounds waiting).held).Perm waiting := by
  induction rounds generalizing waiting with
  | zero => exact List.Perm.refl _
  | succ rounds ih =>
      by_cases h : unblocked previous waiting = []
      · rw [stagesFrom_nil rounds h]
        exact List.Perm.refl _
      · rw [stagesFrom_stage rounds h, List.flatten_cons, List.append_assoc]
        exact ((ih _).append_left _).trans (filter_unblocked_perm previous waiting)

theorem stagesFrom_layers (rounds : Nat) {waiting done : List String}
    (h : ∀ id ∈ waiting, ∀ p ∈ previous id, p ∈ done ∨ p ∈ waiting) :
    Layers previous done (stagesFrom previous rounds waiting).stages := by
  induction rounds generalizing waiting done with
  | zero => trivial
  | succ rounds ih =>
      by_cases stuck : unblocked previous waiting = []
      · rw [stagesFrom_nil rounds stuck]
        trivial
      · rw [stagesFrom_stage rounds stuck]
        refine ⟨?_, ih ?_⟩
        · intro id hid p hp
          obtain ⟨waits, free⟩ := mem_unblocked.mp hid
          exact (h id waits p hp).resolve_right (free p hp)
        · intro id hid p hp
          rcases h id (List.mem_of_mem_filter hid) p hp with old | waits
          · exact .inl (List.mem_append_left _ old)
          · by_cases now : p ∈ unblocked previous waiting
            · exact .inl (List.mem_append_right _ now)
            · exact .inr (List.mem_filter.mpr ⟨waits, by simpa using now⟩)

theorem unblocked_of_first {rounds : Nat} {waiting : List String} {id : String}
    (here : InStage (stagesFrom previous rounds waiting).stages 0 id) :
    id ∈ unblocked previous waiting := by
  obtain ⟨stage, at', mem⟩ := here
  cases rounds with
  | zero => simp [stagesFrom] at at'
  | succ rounds =>
      by_cases stuck : unblocked previous waiting = []
      · simp [stagesFrom_nil rounds stuck] at at'
      · rw [stagesFrom_stage rounds stuck] at at'
        cases at'
        exact mem

/-- A node waits for the stage just before its own: it has a predecessor there. -/
theorem stagesFrom_close {rounds k : Nat} {waiting : List String} {id : String}
    (here : InStage (stagesFrom previous rounds waiting).stages (k + 1) id) :
    ∃ p ∈ previous id, InStage (stagesFrom previous rounds waiting).stages k p := by
  induction rounds generalizing waiting k with
  | zero =>
      obtain ⟨stage, at', -⟩ := here
      simp [stagesFrom] at at'
  | succ rounds ih =>
      by_cases stuck : unblocked previous waiting = []
      · rw [stagesFrom_nil rounds stuck] at here
        obtain ⟨stage, at', -⟩ := here
        simp at at'
      · rw [stagesFrom_stage rounds stuck] at here ⊢
        cases k with
        | zero =>
            -- What waits on after the first stage was blocked, and by what is in that stage.
            have second : InStage (stagesFrom previous rounds (waiting.filter fun id =>
                !(unblocked previous waiting).contains id)).stages 0 id := here
            obtain ⟨waits, free⟩ := mem_unblocked.mp (unblocked_of_first second)
            obtain ⟨waited, blocked⟩ := List.mem_filter.mp waits
            rw [Bool.not_eq_true', ← Bool.not_eq_true, List.contains_iff_mem, mem_unblocked]
              at blocked
            push Not at blocked
            obtain ⟨p, precedes, before⟩ := blocked waited
            have now : p ∈ unblocked previous waiting := by
              by_contra later
              exact free p precedes (List.mem_filter.mpr ⟨before, by simpa using later⟩)
            exact ⟨p, precedes, _, rfl, now⟩
        | succ k => exact ih here

theorem stagesFrom_held (rounds : Nat) {waiting : List String} (room : waiting.length ≤ rounds) :
    ∀ id ∈ (stagesFrom previous rounds waiting).held,
      ∃ p ∈ (stagesFrom previous rounds waiting).held, p ∈ previous id := by
  induction rounds generalizing waiting with
  | zero =>
      intro id hid
      rw [List.length_eq_zero_iff.mp (Nat.le_zero.mp room)] at hid
      exact absurd hid List.not_mem_nil
  | succ rounds ih =>
      by_cases stuck : unblocked previous waiting = []
      · rw [stagesFrom_nil rounds stuck]
        intro id hid
        have blocked : id ∉ unblocked previous waiting := by rw [stuck]; exact List.not_mem_nil
        rw [mem_unblocked] at blocked
        push Not at blocked
        obtain ⟨p, hp, waits⟩ := blocked hid
        exact ⟨p, waits, hp⟩
      · rw [stagesFrom_stage rounds stuck]
        refine ih ?_
        have total := (filter_unblocked_perm previous waiting).length_eq
        have some := List.length_pos_iff.mpr stuck
        rw [List.length_append] at total
        omega

end

/-- Staging asks only which nodes precede a node, not in which order they are listed. -/
theorem stagesFrom_congr {previous previous' : String → List String}
    (h : ∀ id p, p ∈ previous id ↔ p ∈ previous' id) (rounds : Nat) (waiting : List String) :
    stagesFrom previous rounds waiting = stagesFrom previous' rounds waiting := by
  have same : ∀ waiting, unblocked previous waiting = unblocked previous' waiting := by
    intro waiting
    refine List.filter_congr ?_
    intro id _
    rw [Bool.eq_iff_iff, List.all_eq_true, List.all_eq_true]
    exact ⟨fun all p hp => all p ((h id p).mpr hp), fun all p hp => all p ((h id p).mp hp)⟩
  induction rounds generalizing waiting with
  | zero => rfl
  | succ rounds ih => simp only [stagesFrom, same, ih]

namespace Graph

variable {g : Graph}

theorem staging_perm (g : Graph) :
    (g.staging.stages.flatten ++ g.staging.held).Perm g.functionalIds :=
  (stagesFrom_perm _ _).trans (sortedTexts_perm _)

theorem staging_nodup (g : Graph) : g.staging.stages.flatten.Nodup :=
  (List.nodup_append.mp ((staging_perm g).nodup_iff.mpr (nodup_distinct _))).1

theorem staging_layers (g : Graph) :
    Layers (sourcesOf g.functionalEdges) [] g.staging.stages := by
  refine stagesFrom_layers _ ?_
  intro id _ p hp
  obtain ⟨e, he, -, rfl⟩ := mem_sourcesOf.mp hp
  exact .inr (mem_sortedTexts.mpr (source_mem_functionalIds he))

theorem exists_held {id : String} (h : id ∈ g.staging.held) :
    ∃ e ∈ g.functionalEdges, e.target = id ∧ e.source ∈ g.staging.held := by
  have room : (sortedTexts g.functionalIds).length ≤ g.functionalIds.length :=
    Nat.le_of_eq (sortedTexts_perm _).length_eq
  obtain ⟨p, waits, hp⟩ := stagesFrom_held _ room id h
  obtain ⟨e, edge, target, rfl⟩ := mem_sourcesOf.mp hp
  exact ⟨e, edge, target, waits⟩

theorem staging_held_eq_nil (h : g.findCycle = none) : g.staging.held = [] := by
  obtain ⟨done, finished, all⟩ := finished_of_findCycle h
  refine finished.eq_nil_of_waiting ?_ ?_
  · intro id hid
    exact all id ((staging_perm g).mem_iff.mp (List.mem_append_right _ hid))
  · intro id hid
    obtain ⟨e, edge, rfl, waits⟩ := exists_held hid
    exact ⟨e.source, waits, mem_targetsOf.mpr ⟨e, edge, rfl, rfl⟩⟩

end Graph

end Workflow
