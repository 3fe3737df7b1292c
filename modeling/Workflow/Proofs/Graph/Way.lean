import Mathlib.Data.Fintype.EquivFin
import Mathlib.Order.WellFounded
import Workflow.Proofs.Graph.Stages

/-! Ways through the functional graph. Where none leads from a node back to it, no node is held
back from the stages. -/

namespace Workflow.Graph

variable {g : Graph}

/-- Functional edges that lead from one node to another, each on from the target of the one before
it. -/
def Way (g : Graph) : String → List Edge → String → Prop
  | start, [], stop => start = stop
  | start, e :: rest, stop => e ∈ g.functionalEdges ∧ e.source = start ∧ g.Way e.target rest stop

/-- No way leads from a node back to it. -/
def Acyclic (g : Graph) : Prop := ∀ id way, g.Way id way id → way = []

theorem Way.append {start mid stop : String} {way more : List Edge} (h : g.Way start way mid)
    (h' : g.Way mid more stop) : g.Way start (way ++ more) stop := by
  induction way generalizing start with
  | nil =>
      obtain rfl : start = mid := h
      exact h'
  | cons e rest ih => exact ⟨h.1, h.2.1, ih h.2.2⟩

theorem Way.concat {start : String} {way : List Edge} {e : Edge} (h : g.Way start way e.source)
    (edge : e ∈ g.functionalEdges) : g.Way start (way ++ [e]) e.target :=
  h.append ⟨edge, rfl, rfl⟩

/-- A way comes to its end by an edge, unless it has ended where it starts. -/
theorem Way.exists_last {start stop : String} {way : List Edge} (h : g.Way start way stop)
    (apart : start ≠ stop) : ∃ e ∈ way, e ∈ g.functionalEdges ∧ e.target = stop := by
  induction way generalizing start with
  | nil => exact absurd h apart
  | cons e rest ih =>
      by_cases same : e.target = stop
      · exact ⟨e, List.mem_cons_self, h.1, same⟩
      · obtain ⟨d, mem, found⟩ := ih h.2.2 same
        exact ⟨d, List.mem_cons_of_mem _ mem, found⟩

/-- Numbers of the nodes that grow along every edge grow along every way. -/
theorem Way.rank_le {rank : String → Nat}
    (rising : ∀ e ∈ g.functionalEdges, rank e.source < rank e.target) {start stop : String}
    {way : List Edge} (h : g.Way start way stop) : rank start + way.length ≤ rank stop := by
  induction way generalizing start with
  | nil =>
      obtain rfl : start = stop := h
      simp
  | cons e rest ih =>
      obtain ⟨edge, rfl, later⟩ := h
      have first := rising e edge
      have rest := ih later
      rw [List.length_cons]
      omega

theorem acyclic_of_rank (rank : String → Nat)
    (rising : ∀ e ∈ g.functionalEdges, rank e.source < rank e.target) : g.Acyclic := by
  intro id way closed
  have grown := closed.rank_le rising
  exact List.length_eq_zero_iff.mp (by omega)

/-- Some way leads from one node to another one. -/
def Precedes (g : Graph) (start stop : String) : Prop := ∃ way, way ≠ [] ∧ g.Way start way stop

theorem Precedes.trans {a b c : String} (h : g.Precedes a b) (h' : g.Precedes b c) :
    g.Precedes a c := by
  obtain ⟨way, some', leads⟩ := h
  obtain ⟨rest, -, leads'⟩ := h'
  exact ⟨way ++ rest, by simp [some'], leads.append leads'⟩

theorem precedes_of_functional {e : Edge} (edge : e ∈ g.functionalEdges) :
    g.Precedes e.source e.target := ⟨[e], List.cons_ne_nil _ _, edge, rfl, rfl⟩

theorem Precedes.source_mem {a b : String} (h : g.Precedes a b) : a ∈ g.functionalIds := by
  obtain ⟨way, some', leads⟩ := h
  cases way with
  | nil => exact absurd rfl some'
  | cons e rest =>
      obtain ⟨edge, rfl, -⟩ := leads
      exact source_mem_functionalIds edge

/-- Where no node of a list comes before itself, some node of it waits for no other node of it. -/
theorem exists_first_of_irrefl {ids : List String} (some' : ids ≠ [])
    (free : ∀ x ∈ ids, ¬ g.Precedes x x) :
    ∃ id ∈ ids, ∀ e ∈ g.functionalEdges, e.target = id → e.source ∉ ids := by
  let before (x y : { x // x ∈ ids }) : Prop := g.Precedes x.1 y.1
  have : IsTrans _ before := ⟨fun _ _ _ => Precedes.trans⟩
  have : Std.Irrefl before := ⟨fun x => free x.1 x.2⟩
  obtain ⟨id, mem⟩ := List.exists_mem_of_ne_nil ids some'
  obtain ⟨⟨first, here⟩, -, minimal⟩ :=
    (Finite.wellFounded_of_trans_of_irrefl before).has_min Set.univ ⟨⟨id, mem⟩, trivial⟩
  refine ⟨first, here, ?_⟩
  rintro e edge rfl waits
  exact minimal ⟨e.source, waits⟩ trivial (precedes_of_functional edge)

/-- Without a cycle some node of every list waits for no other node of it. -/
theorem Acyclic.exists_first (h : g.Acyclic) {ids : List String} (some' : ids ≠ []) :
    ∃ id ∈ ids, ∀ e ∈ g.functionalEdges, e.target = id → e.source ∉ ids :=
  exists_first_of_irrefl some' fun id _ ⟨way, long, closed⟩ => long (h id way closed)

theorem Acyclic.staging_held (h : g.Acyclic) : g.staging.held = [] := by
  by_contra some'
  obtain ⟨id, held, free⟩ := h.exists_first some'
  obtain ⟨e, edge, target, waits⟩ := exists_held held
  exact free e edge target waits

/-- Every edge of a way to a node in a stage leads at least one stage on. -/
theorem inStage_of_way {a id : String} {n : Nat} {way : List Edge} (leads : g.Way a way id)
    (here : InStage g.staging.stages n id) :
    ∃ m, m + way.length ≤ n ∧ InStage g.staging.stages m a := by
  induction way generalizing a with
  | nil =>
      obtain rfl : a = id := leads
      exact ⟨n, Nat.le_refl n, here⟩
  | cons e rest ih =>
      obtain ⟨edge, rfl, later⟩ := leads
      obtain ⟨k, bound, there⟩ := ih later
      obtain ⟨m, less, before⟩ := mem_take_iff.mp
        ((staging_layers g).earlier there (mem_sourcesOf.mpr ⟨e, edge, rfl, rfl⟩))
      refine ⟨m, ?_, before⟩
      rw [List.length_cons]
      omega

end Workflow.Graph
