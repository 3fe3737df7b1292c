import Mathlib.Data.List.Induction
import Mathlib.Logic.Relation
import Mathlib.Order.WellFounded
import Workflow.Proofs.Graph.Ancestry
import Workflow.Proofs.Graph.Circuit
import Workflow.Proofs.Plan

/-! The views of the functional graph: the edges into and out of each node, successors and
predecessors, and ancestors. Each of them is made by an index of its own that the edges are filed
in, or by a search with a queue; all of them tell of the same edges and ways. -/

namespace Workflow

/-! A node may be queued several times, and it is dropped when its turn comes and it was seen
before. Whatever the order in which links are queued, the search comes to an end on every graph, and
it has seen the ancestors then, each once. -/

/-- A search on its way: the nodes that it has seen, and those that wait for their turn. -/
structure Sweep where
  seen : List String
  queue : List String

namespace Sweep

/-- One step of a search: a node that was seen is dropped; from another one, links to nodes that
have not been seen are queued, in any order. -/
inductive Step (next : String → List String) : Sweep → Sweep → Prop where
  | dropped {seen rest : List String} {x : String} (old : x ∈ seen) :
    Step next ⟨seen, x :: rest⟩ ⟨seen, rest⟩
  | visited {seen rest more : List String} {x : String} (new : x ∉ seen)
    (fresh : ∀ y, y ∈ more ↔ y ∈ next x ∧ y ∉ x :: seen) :
    Step next ⟨seen, x :: rest⟩ ⟨x :: seen, rest ++ more⟩

variable {next : String → List String} {s t : Sweep} {ids start : List String}
  {P : String → Prop}

def unseen (ids : List String) (s : Sweep) : Nat := (ids.filter fun x => !s.seen.contains x).length

theorem exists_step_iff : (∃ t, Step next s t) ↔ s.queue ≠ [] := by
  obtain ⟨seen, queue⟩ := s
  constructor
  · rintro ⟨t, step⟩
    cases step <;> exact List.cons_ne_nil _ _
  · intro waits
    cases queue with
    | nil => exact absurd rfl waits
    | cons x rest =>
        by_cases old : x ∈ seen
        · exact ⟨_, .dropped old⟩
        · have fresh : ∀ y, y ∈ (next x).filter (fun y => !(x :: seen).contains y) ↔
              y ∈ next x ∧ y ∉ x :: seen := fun y => by simp
          exact ⟨_, .visited old fresh⟩

/-- A step leaves fewer nodes to be seen, or as many and a shorter queue. -/
theorem Step.decreases (inside : ∀ x y, y ∈ next x → x ∈ ids) (h : Step next s t) :
    Prod.Lex (· < ·) (· < ·) (t.unseen ids, t.queue.length) (s.unseen ids, s.queue.length) := by
  cases h with
  | dropped old => exact .right _ (Nat.lt_succ_self _)
  | @visited seen rest more x new fresh =>
      have split : (ids.filter fun y => !(x :: seen).contains y) =
          (ids.filter fun y => !seen.contains y).filter fun y => y ≠ x := by
        rw [List.filter_filter]
        exact List.filter_congr fun y _ => by simp
      by_cases here : x ∈ ids
      · -- A node of the graph is seen for the first time.
        refine .left _ _ ?_
        rw [unseen, unseen, split]
        refine List.length_filter_lt_length_iff_exists.mpr ⟨x, ?_, by simp⟩
        exact List.mem_filter.mpr ⟨here, by simpa using new⟩
      · -- No link leads on from any other name.
        have none' : more = [] := List.eq_nil_iff_forall_not_mem.mpr fun y mem =>
          here (inside x y ((fresh y).mp mem).1)
        have same : unseen ids ⟨x :: seen, rest ++ more⟩ = unseen ids ⟨seen, x :: rest⟩ := by
          rw [unseen, unseen, split, List.filter_eq_self.mpr]
          intro y mem
          exact decide_eq_true fun same => here (same ▸ List.mem_of_mem_filter mem)
        rw [same, none', List.append_nil]
        exact .right _ (Nat.lt_succ_self _)

/-- A search within finitely many nodes cannot go on for ever. -/
theorem wellFounded_step (inside : ∀ x y, y ∈ next x → x ∈ ids) :
    WellFounded fun t s => Step next s t :=
  Subrelation.wf (fun step => step.decreases inside)
    (InvImage.wf (fun s : Sweep => (s.unseen ids, s.queue.length))
      (Prod.lex ⟨_, wellFounded_lt⟩ ⟨_, wellFounded_lt⟩).wf)

/-- What a search from some nodes keeps to: no node is seen twice, and all links from what was seen
are seen or queued. -/
structure Sound (next : String → List String) (start : List String) (P : String → Prop)
    (s : Sweep) : Prop where
  nodup : s.seen.Nodup
  started : ∀ x ∈ start, x ∈ s.seen ∨ x ∈ s.queue
  closed : ∀ x ∈ s.seen, ∀ y ∈ next x, y ∈ s.seen ∨ y ∈ s.queue
  reached : ∀ x, x ∈ s.seen ∨ x ∈ s.queue → P x

theorem Sound.step (onward : ∀ x y, P x → y ∈ next x → P y) (h : Sound next start P s)
    (step : Step next s t) : Sound next start P t := by
  cases step with
  | @dropped seen rest x old =>
      have kept : ∀ y, y ∈ seen ∨ y ∈ x :: rest → y ∈ seen ∨ y ∈ rest := by
        rintro y (mem | mem)
        · exact .inl mem
        · rcases List.mem_cons.mp mem with rfl | later
          · exact .inl old
          · exact .inr later
      exact ⟨h.nodup, fun y mem => kept y (h.started y mem),
        fun y mem z link => kept z (h.closed y mem z link),
        fun y mem => h.reached y (mem.imp_right (List.mem_cons_of_mem x))⟩
  | @visited seen rest more x new fresh =>
      have kept : ∀ y, y ∈ seen ∨ y ∈ x :: rest → y ∈ x :: seen ∨ y ∈ rest ++ more := by
        rintro y (mem | mem)
        · exact .inl (List.mem_cons_of_mem x mem)
        · rcases List.mem_cons.mp mem with rfl | later
          · exact .inl List.mem_cons_self
          · exact .inr (List.mem_append_left more later)
      refine ⟨List.nodup_cons.mpr ⟨new, h.nodup⟩, fun y mem => kept y (h.started y mem), ?_, ?_⟩
      · intro y mem z link
        rcases List.mem_cons.mp mem with rfl | old
        · by_cases known : z ∈ y :: seen
          · exact .inl known
          · exact .inr (List.mem_append_right rest ((fresh z).mpr ⟨link, known⟩))
        · exact kept z (h.closed y old z link)
      · have here := h.reached x (.inr List.mem_cons_self)
        rintro y (mem | mem)
        · rcases List.mem_cons.mp mem with rfl | old
          · exact here
          · exact h.reached y (.inl old)
        · rcases List.mem_append.mp mem with waiting | late
          · exact h.reached y (.inr (List.mem_cons_of_mem x waiting))
          · exact onward x y here ((fresh y).mp late).1

theorem sound_start (holds : ∀ x ∈ start, P x) : Sound next start P ⟨[], start⟩ where
  nodup := List.nodup_nil
  started _ mem := .inr mem
  closed _ mem := absurd mem List.not_mem_nil
  reached x mem := holds x (mem.resolve_left List.not_mem_nil)

theorem Sound.leads (onward : ∀ x y, P x → y ∈ next x → P y) (h : Sound next start P s)
    (leads : Relation.ReflTransGen (Step next) s t) : Sound next start P t := by
  induction leads with
  | refl => exact h
  | tail _ step ih => exact ih.step onward step

end Sweep

namespace Graph

variable {g : Graph} {id : String} {queue : List String} {last : Sweep}

theorem sweep_wellFounded (g : Graph) : WellFounded fun t s => Sweep.Step g.predecessors s t := by
  have inside : ∀ x y, y ∈ g.predecessors x → x ∈ g.functionalIds := by
    intro x y link
    obtain ⟨e, edge, rfl, -⟩ := mem_sourcesOf.mp link
    exact target_mem_functionalIds edge
  exact Sweep.wellFounded_step inside

/-- A search that has started with the predecessors of a node has seen its ancestors when nothing is
queued any more. -/
theorem mem_seen_iff (begun : ∀ x, x ∈ queue ↔ x ∈ g.predecessors id)
    (leads : Relation.ReflTransGen (Sweep.Step g.predecessors) ⟨[], queue⟩ last)
    (idle : last.queue = []) : last.seen.Nodup ∧ ∀ a, a ∈ last.seen ↔ a ∈ g.ancestors id := by
  have sound : Sweep.Sound g.predecessors queue (· ∈ g.ancestors id) last :=
    (Sweep.sound_start fun x mem => sourcesOf_subset_ancestors (.inl rfl) ((begun x).mp mem)).leads
      (fun _ _ found link => sourcesOf_subset_ancestors (.inr found) link) leads
  have all : ∀ {x}, x ∈ last.seen ∨ x ∈ last.queue → x ∈ last.seen := by
    rintro x (mem | mem)
    · exact mem
    · rw [idle] at mem
      exact absurd mem List.not_mem_nil
  refine ⟨sound.nodup, fun a => ⟨fun mem => sound.reached a (.inl mem), fun mem => ?_⟩⟩
  have first : ∀ x ∈ distinct (sourcesOf g.functionalEdges id), x ∈ last.seen := fun x link =>
    all (sound.started x ((begun x).mpr (mem_distinct.mp link)))
  exact mem_of_mem_spread (P := (· ∈ last.seen)) first first
    (fun x y found link => all (sound.closed x found y link)) mem

end Graph

section

variable {α β : Type} {key pick : Edge → String} {add : β → Edge → β} {edges : List Edge}
  {ids : List String}

/-- Edges that are filed in a table one after the other: each is added to the entry under its key,
which has to be there. -/
def filed (key : Edge → String) (add : β → Edge → β) : Table β → List Edge → Option (Table β)
  | t, [] => some t
  | t, e :: rest =>
    if t.contains (key e) then filed key add (t.update (key e) fun entry => add entry e) rest
    else none

def withEnd (pick : Edge → String) (ids : List String) (e : Edge) : List String :=
  if pick e ∈ ids then ids else ids ++ [pick e]

/-- Where all keys are there, each entry comes to hold the edges with its key, in their order. -/
theorem filed_map (nodup : ids.Nodup) (known : ∀ e ∈ edges, key e ∈ ids) (f : String → β) :
    filed key add (ids.map fun id => (id, f id)) edges =
      some (ids.map fun id => (id, (edges.filter fun e => key e == id).foldl add (f id))) := by
  induction edges generalizing f with
  | nil => rfl
  | cons e rest ih =>
      obtain ⟨here, known⟩ := List.forall_mem_cons.mp known
      rw [filed, if_pos ((Table.contains_map f ids (key e)).mpr here), Table.update_map nodup,
        ih known]
      refine congrArg some (List.map_congr_left fun id _ => ?_)
      by_cases same : key e = id <;> simp [same]

theorem foldl_withEnd (pick : Edge → String) (edges : List Edge) :
    edges.foldl (withEnd pick) [] = distinct (edges.map pick) := by
  induction edges using List.reverseRecOn with
  | nil => rfl
  | append_singleton rest e ih =>
      rw [List.foldl_concat, ih, List.map_append, List.map_singleton, distinct_concat, withEnd]
      simp only [mem_distinct]

theorem distinct_pairwise (l : List String) :
    (distinct l).Pairwise fun a b => l.idxOf a < l.idxOf b := by
  induction l with
  | nil => exact List.Pairwise.nil
  | cons x rest ih =>
      have later : ∀ {a}, a ≠ x → (x :: rest).idxOf a = rest.idxOf a + 1 := fun apart =>
        List.idxOf_cons_ne _ (Ne.symm apart)
      refine List.pairwise_cons.mpr ⟨fun b mem => ?_, ?_⟩
      · have apart : b ≠ x := of_decide_eq_true (List.mem_filter.mp mem).2
        rw [List.idxOf_cons_self, later apart]
        exact Nat.succ_pos _
      · refine (ih.filter _).imp_of_mem fun memA memB before => ?_
        rw [later (of_decide_eq_true (List.mem_filter.mp memA).2),
          later (of_decide_eq_true (List.mem_filter.mp memB).2)]
        exact Nat.succ_lt_succ before

end

namespace Graph

variable {g : Graph} {key : Edge → String}

/-- An index of the functional nodes that the functional edges are filed in. -/
def index {α : Type} (g : Graph) (key : Edge → String) (add : List α → Edge → List α) :
    Option (Table (List α)) :=
  filed key add (g.functionalIds.map fun id => (id, [])) g.functionalEdges

theorem index_eq {α : Type} (known : ∀ e ∈ g.functionalEdges, key e ∈ g.functionalIds)
    (add : List α → Edge → List α) :
    g.index key add = some (g.functionalIds.map fun id =>
      (id, (g.functionalEdges.filter fun e => key e == id).foldl add [])) :=
  filed_map (nodup_distinct _) known fun _ => []

/-- All views of the functional graph tell of the same edges and ways. -/
structure ViewsAgree (g : Graph) : Prop where
  /-- The edges into a node are those of the graph that join it with a functional node, as often and
  in the same order, if it is functional itself. -/
  incoming : ∀ t, (Plan.ofGraph g).incoming t =
    g.edges.filter fun e => e.target = t ∧ e.source ∈ g.functionalIds ∧ e.target ∈ g.functionalIds
  outgoing : ∀ s, (Plan.ofGraph g).outgoing s =
    g.edges.filter fun e => e.source = s ∧ e.source ∈ g.functionalIds ∧ e.target ∈ g.functionalIds
  /-- Every edge finds its place in each of the four indexes. -/
  incomingFiled : g.index Edge.target (fun es e => es ++ [e]) =
    some (g.functionalIds.map fun id => (id, (Plan.ofGraph g).incoming id))
  outgoingFiled : g.index Edge.source (fun es e => es ++ [e]) =
    some (g.functionalIds.map fun id => (id, (Plan.ofGraph g).outgoing id))
  successorsFiled : g.index Edge.source (withEnd Edge.target) =
    some (g.functionalIds.map fun id => (id, g.successors id))
  predecessorsFiled : g.index Edge.target (withEnd Edge.source) =
    some (g.functionalIds.map fun id => (id, g.predecessors id))
  /-- The successors of a node in the plan are its successors in the graph, each once, in the order
  of the first edges to them. -/
  successors : ∀ id, (Plan.ofGraph g).successors id =
      ((Plan.ofGraph g).outgoing id).foldl (withEnd Edge.target) [] ∧
    ((Plan.ofGraph g).successors id).Nodup ∧
    (∀ t, t ∈ (Plan.ofGraph g).successors id ↔ t ∈ g.successors id) ∧
    ((Plan.ofGraph g).successors id).Pairwise fun a b =>
      ((Plan.ofGraph g).outgoing id).findIdx (fun e => e.target == a) <
        ((Plan.ofGraph g).outgoing id).findIdx fun e => e.target == b
  converse : ∀ a b, b ∈ g.successors a ↔ a ∈ g.predecessors b
  /-- The search for ancestors comes to an end whatever it queues first, and it goes on as long as
  something is queued. -/
  terminates : WellFounded fun t s => Sweep.Step g.predecessors s t
  proceeds : ∀ s, (∃ t, Sweep.Step g.predecessors s t) ↔ s.queue ≠ []
  /-- What it has seen then are the ancestors, each once. -/
  searched : ∀ id queue last, (∀ x, x ∈ queue ↔ x ∈ g.predecessors id) →
    Relation.ReflTransGen (Sweep.Step g.predecessors) ⟨[], queue⟩ last → last.queue = [] →
      last.seen.Nodup ∧ ∀ a, a ∈ last.seen ↔ a ∈ g.ancestors id
  planned : ∀ id, (Plan.ofGraph g).ancestors.get? id =
    if id ∈ g.functionalIds then some (g.ancestors id) else none
  ancestors : ∀ a id, a ∈ g.ancestors id ↔ g.Precedes a id
  circular : ∀ id, id ∈ g.ancestors id ↔ ∃ path, Circuit g.successors path ∧ id ∈ path
  transitive : ∀ a b c, a ∈ g.ancestors b → b ∈ g.ancestors c → a ∈ g.ancestors c

theorem functionalEdges_filter (g : Graph) (p : Edge → Bool) :
    g.functionalEdges.filter p = g.edges.filter fun e =>
      p e && decide (e.source ∈ g.functionalIds ∧ e.target ∈ g.functionalIds) := by
  rw [functionalEdges, List.filter_filter]
  refine List.filter_congr fun e _ => ?_
  simp [mem_functionalIds]

/-- On every graph, with cycles or without, all views of its functional part agree. -/
theorem views_agree (g : Graph) : g.ViewsAgree where
  incoming t := by
    refine (functionalEdges_filter g _).trans (List.filter_congr fun e _ => ?_)
    rw [Bool.eq_iff_iff]
    simp
  outgoing s := by
    refine (functionalEdges_filter g _).trans (List.filter_congr fun e _ => ?_)
    rw [Bool.eq_iff_iff]
    simp
  incomingFiled := by
    rw [index_eq fun _ => target_mem_functionalIds]
    simp only [List.foldl_append_eq_append, List.nil_append, ← List.flatMap_def,
      List.flatMap_singleton']
    rfl
  outgoingFiled := by
    rw [index_eq fun _ => source_mem_functionalIds]
    simp only [List.foldl_append_eq_append, List.nil_append, ← List.flatMap_def,
      List.flatMap_singleton']
    rfl
  successorsFiled := by
    rw [index_eq fun _ => source_mem_functionalIds]
    simp only [foldl_withEnd]
    rfl
  predecessorsFiled := by
    rw [index_eq fun _ => target_mem_functionalIds]
    simp only [foldl_withEnd]
    rfl
  successors id := by
    refine ⟨(foldl_withEnd _ _).symm, nodup_distinct _, fun _ => Iff.rfl, ?_⟩
    refine (distinct_pairwise _).imp fun before => ?_
    rw [List.idxOf, List.idxOf, List.findIdx_map, List.findIdx_map] at before
    exact before
  converse a b := by
    rw [Graph.successors, predecessors, mem_targetsOf, mem_sourcesOf]
    exact exists_congr fun e => and_congr_right fun _ => and_comm
  terminates := sweep_wellFounded g
  proceeds _ := Sweep.exists_step_iff
  searched _ _ _ := mem_seen_iff
  planned id := Table.get?_map _ _ _
  ancestors _ _ := mem_ancestors_iff
  circular id := by rw [mem_ancestors_iff, precedes_self_iff]
  transitive a b c h h' := by
    rw [mem_ancestors_iff] at h h' ⊢
    exact h.trans h'

end Graph

end Workflow
