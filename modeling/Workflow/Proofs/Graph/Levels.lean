import Mathlib.Data.List.Nodup
import Workflow.Proofs.Graph.Circuit
import Workflow.Proofs.Graph.Countdown

/-! The stages of a graph are its levels: a node stands in the stage that is numbered by the longest
way to it from a node without predecessors. A node on a cycle or behind one has no level and is held
back, and no other node is. -/

namespace Workflow

theorem InStage.unique {stages : List (List String)} {m n : Nat} {id : String}
    (nodup : stages.flatten.Nodup) (h : InStage stages m id) (h' : InStage stages n id) :
    m = n := by
  obtain ⟨stage, at', mem⟩ := h
  obtain ⟨stage', at'', mem'⟩ := h'
  obtain ⟨short, rfl⟩ := List.getElem?_eq_some_iff.mp at'
  obtain ⟨short', rfl⟩ := List.getElem?_eq_some_iff.mp at''
  have apart := List.pairwise_iff_getElem.mp (List.nodup_flatten.mp nodup).2
  rcases Nat.lt_trichotomy m n with less | same | more
  · exact absurd mem' (apart m n short short' less mem)
  · exact same
  · exact absurd mem (apart n m short' short more mem')

theorem stagesFrom_ne_nil {previous : String → List String} (rounds : Nat) (waiting : List String) :
    ∀ stage ∈ (stagesFrom previous rounds waiting).stages, stage ≠ [] := by
  induction rounds generalizing waiting with
  | zero => exact fun _ mem => absurd mem List.not_mem_nil
  | succ rounds ih =>
      by_cases stuck : unblocked previous waiting = []
      · rw [stagesFrom_nil rounds stuck]
        exact fun _ mem => absurd mem List.not_mem_nil
      · rw [stagesFrom_stage rounds stuck]
        exact List.forall_mem_cons.mpr ⟨stuck, ih _⟩

namespace Graph

variable {g : Graph} {k m n : Nat} {a id : String} {way : List Edge}

/-- The node is on a cycle, or some node on a cycle comes before it. -/
def Looped (g : Graph) (id : String) : Prop := ∃ a, (a = id ∨ g.Precedes a id) ∧ g.Precedes a a

def Initial (g : Graph) (id : String) : Prop :=
  id ∈ g.functionalIds ∧ ∀ e ∈ g.functionalEdges, e.target ≠ id

/-- Of the ways to a node from nodes without predecessors the longest have so many edges. -/
structure Level (g : Graph) (k : Nat) (id : String) : Prop where
  reached : ∃ start way, g.Initial start ∧ g.Way start way id ∧ way.length = k
  longest : ∀ start way, g.Initial start → g.Way start way id → way.length ≤ k

theorem Level.unique (h : g.Level m id) (h' : g.Level n id) : m = n := by
  obtain ⟨start, way, initial, leads, rfl⟩ := h.reached
  obtain ⟨start', way', initial', leads', rfl⟩ := h'.reached
  exact Nat.le_antisymm (h'.longest start way initial leads)
    (h.longest start' way' initial' leads')

theorem not_looped_of_inStage (here : InStage g.staging.stages n id) : ¬ g.Looped id := by
  rintro ⟨a, before, way, some', round⟩
  obtain ⟨k, there⟩ : ∃ k, InStage g.staging.stages k a := by
    rcases before with rfl | ⟨way, -, leads⟩
    · exact ⟨n, here⟩
    · obtain ⟨k, -, there⟩ := inStage_of_way leads here
      exact ⟨k, there⟩
  obtain ⟨m, bound, there'⟩ := inStage_of_way round there
  obtain rfl := InStage.unique (staging_nodup g) there there'
  have long := List.length_pos_iff.mpr some'
  omega

theorem level_of_inStage (here : InStage g.staging.stages k id) : g.Level k id := by
  refine ⟨?_, fun start way _ leads => ?_⟩
  · induction k generalizing id with
    | zero =>
        refine ⟨id, [], ⟨?_, fun e edge into => ?_⟩, rfl, rfl⟩
        · exact (staging_perm g).mem_iff.mp (List.mem_append_left _ (mem_stages_iff.mpr ⟨0, here⟩))
        · have before := (staging_layers g).earlier here (mem_sourcesOf.mpr ⟨e, edge, into, rfl⟩)
          cases before
    | succ k ih =>
        obtain ⟨p, source, before⟩ := stagesFrom_close here
        obtain ⟨e, edge, rfl, rfl⟩ := mem_sourcesOf.mp source
        obtain ⟨start, way, initial, leads, length⟩ := ih before
        exact ⟨start, way ++ [e], initial, leads.concat edge, by simp [length]⟩
  · obtain ⟨m, bound, -⟩ := inStage_of_way leads here
    omega

/-- What is held back waits for something that is held back, and so on without end; so it comes to a
cycle. -/
theorem looped_of_held (held : id ∈ g.staging.held) : g.Looped id := by
  classical
  by_contra loose
  let behind := g.staging.held.filter fun x => x = id ∨ g.Precedes x id
  have mem_behind : ∀ x, x ∈ behind ↔ x ∈ g.staging.held ∧ (x = id ∨ g.Precedes x id) := by
    simp [behind]
  obtain ⟨first, mem, free⟩ := exists_first_of_irrefl
    (List.ne_nil_of_mem ((mem_behind id).mpr ⟨held, .inl rfl⟩))
    (fun x mem round => loose ⟨x, ((mem_behind x).mp mem).2, round⟩)
  obtain ⟨held, before⟩ := (mem_behind first).mp mem
  obtain ⟨e, edge, rfl, waits⟩ := exists_held held
  have step : g.Precedes e.source e.target := ⟨[e], List.cons_ne_nil _ _, edge, rfl, rfl⟩
  refine free e edge rfl ((mem_behind e.source).mpr ⟨waits, .inr ?_⟩)
  rcases before with same | before
  · exact same ▸ step
  · exact step.trans before

theorem mem_stages_iff_not_looped :
    id ∈ g.staging.stages.flatten ↔ id ∈ g.functionalIds ∧ ¬ g.Looped id := by
  constructor
  · intro mem
    obtain ⟨n, here⟩ := mem_stages_iff.mp mem
    exact ⟨(staging_perm g).mem_iff.mp (List.mem_append_left _ mem), not_looped_of_inStage here⟩
  · rintro ⟨known, loose⟩
    refine (List.mem_append.mp ((staging_perm g).mem_iff.mpr known)).resolve_right ?_
    exact fun held => loose (looped_of_held held)

theorem inStage_iff_level :
    InStage g.staging.stages k id ↔ id ∈ g.functionalIds ∧ ¬ g.Looped id ∧ g.Level k id := by
  constructor
  · intro here
    obtain ⟨known, loose⟩ := mem_stages_iff_not_looped.mp (mem_stages_iff.mpr ⟨k, here⟩)
    exact ⟨known, loose, level_of_inStage here⟩
  · rintro ⟨known, loose, level⟩
    obtain ⟨n, here⟩ := mem_stages_iff.mp (mem_stages_iff_not_looped.mpr ⟨known, loose⟩)
    rwa [level.unique (level_of_inStage here)]

theorem staging_held_eq_nil_iff : g.staging.held = [] ↔ ∀ id, ¬ g.Precedes id id := by
  constructor
  · intro none' id round
    have staged := (staging_perm g).mem_iff.mpr round.source_mem
    rw [none', List.append_nil] at staged
    exact (mem_stages_iff_not_looped.mp staged).2 ⟨id, .inl rfl, round⟩
  · intro free
    refine List.eq_nil_iff_forall_not_mem.mpr fun id held => ?_
    obtain ⟨a, -, round⟩ := looped_of_held held
    exact free a round

theorem stagingError?_eq_none_iff : g.stagingError? = none ↔ g.findCycle = none := by
  rw [findCycle_eq_none_iff, ← staging_held_eq_nil_iff, ← List.isEmpty_iff, stagingError?]
  split <;> simp_all

/-- The stages of any graph are its levels: they hold each functional node that is neither on a
cycle nor behind one, in the stage that is numbered by its longest way, and nothing else. Staging
ends with an error just when there is a cycle, and then names one that the search finds. Counting
down the numbers of predecessors comes to the same stages. -/
theorem staging_levels (g : Graph) :
    (∀ k id, InStage g.staging.stages k id ↔
      id ∈ g.functionalIds ∧ ¬ g.Looped id ∧ g.Level k id) ∧
    (∀ id, id ∈ g.staging.stages.flatten ↔ id ∈ g.functionalIds ∧ ¬ g.Looped id) ∧
    (∀ stage ∈ g.staging.stages, stage ≠ [] ∧ stage.Nodup) ∧
    g.staging.stages.Pairwise List.Disjoint ∧
    ((∃ message, g.stagingError? = some message) ↔ ∃ id, g.Precedes id id) ∧
    (∀ message, g.stagingError? = some message →
      ∃ path, g.findCycle = some path ∧ message = cycleMessage path) ∧
    List.Forall₂ List.Perm g.countdown g.staging.stages := by
  obtain ⟨once, disjoint⟩ := List.nodup_flatten.mp (staging_nodup g)
  refine ⟨fun k id => inStage_iff_level, fun id => mem_stages_iff_not_looped,
    fun stage mem => ⟨stagesFrom_ne_nil _ _ stage mem, once stage mem⟩, disjoint, ?_, ?_,
    countdown_perm g⟩
  · rw [← Option.ne_none_iff_exists', ne_eq, stagingError?_eq_none_iff, findCycle_eq_none_iff]
    push Not
    rfl
  · intro message error
    obtain ⟨path, found⟩ : ∃ path, g.findCycle = some path := by
      rw [← Option.ne_none_iff_exists', ne_eq, ← stagingError?_eq_none_iff, error]
      exact Option.some_ne_none message
    refine ⟨path, found, ?_⟩
    rw [stagingError?, heldPath, found] at error
    split at error
    · cases error
    · exact (Option.some.inj error).symm

end Graph

end Workflow
