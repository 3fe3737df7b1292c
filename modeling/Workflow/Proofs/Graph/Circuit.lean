import Mathlib.Data.List.Chain
import Workflow.Proofs.Graph.Way

/-! What a depth-first search reports is a circuit of links, and it reports none only where there is
none. So a graph in which no cycle is found is one in which no way leads back to its start. -/

namespace Workflow

/-- A path along links that comes back to where it starts, and is nowhere twice but there. -/
structure Circuit (next : String → List String) (path : List String) : Prop where
  linked : path.IsChain fun a b => b ∈ next a
  closed : path.head? = path.getLast?
  simple : path.tail.Nodup
  long : 2 ≤ path.length

section

variable {next : String → List String} {path done cycle : List String} {node child : String}

/-- A link from the end of a path back to one of its nodes closes a circuit. The path is given with
its end first. -/
theorem circuit_closedPath (linked : path.IsChain fun b a => b ∈ next a) (nodup : path.Nodup)
    (last : path.head? = some node) (link : child ∈ next node) (back : child ∈ path) :
    Circuit next (closedPath path child) := by
  obtain ⟨front, rest, rfl, off⟩ := List.eq_append_cons_of_mem back
  have taken : (front ++ child :: rest).takeWhile (· ≠ child) = front := by
    rw [List.takeWhile_append_of_pos]
    · simp
    · intro x mem
      exact decide_eq_true (ne_of_mem_of_not_mem mem off)
  have shape : closedPath (front ++ child :: rest) child = child :: front.reverse ++ [child] := by
    rw [closedPath, taken, List.reverse_append]
    rfl
  have split : front ++ child :: rest = (front ++ [child]) ++ rest := by simp
  rw [shape]
  constructor
  · have inner : (child :: front.reverse).IsChain fun a b => b ∈ next a := by
      have turned := (split ▸ linked).left_of_append
      rw [← List.isChain_reverse] at turned
      simpa using turned
    rw [List.isChain_append]
    refine ⟨inner, List.isChain_singleton child, ?_⟩
    -- The node in front of the second `child` is the end of the path.
    have ends : (child :: front.reverse).getLast? = (front ++ child :: rest).head? := by
      cases front with
      | nil => rfl
      | cons x front =>
          rw [List.reverse_cons, ← List.cons_append, List.getLast?_concat]
          rfl
    intro x last' y first
    rw [ends, last] at last'
    cases last'
    cases first
    exact link
  · rw [List.getLast?_concat]
    rfl
  · have distinct := (List.nodup_append.mp (split ▸ nodup)).1
    exact (front.reverse_perm.append_right [child]).nodup_iff.mpr distinct
  · simp

/-- A search of several children fails where the search of one of them does. -/
theorem foldlM_error {α β ε : Type} {visit : β → α → Except ε β} {xs : List α} {b : β} {e : ε}
    (h : xs.foldlM visit b = .error e) : ∃ x ∈ xs, ∃ c, visit c x = .error e := by
  induction xs generalizing b with
  | nil => cases h
  | cons x rest ih =>
      rw [List.foldlM_cons] at h
      cases first : visit b x with
      | error e' =>
          rw [first] at h
          cases h
          exact ⟨x, List.mem_cons_self, b, first⟩
      | ok c =>
          rw [first] at h
          obtain ⟨y, mem, found⟩ := ih h
          exact ⟨y, List.mem_cons_of_mem _ mem, found⟩

theorem circuit_of_searchFrom {depth : Nat} (linked : path.IsChain fun b a => b ∈ next a)
    (nodup : path.Nodup) (last : path.head? = some node)
    (found : searchFrom next depth path done node = .error cycle) : Circuit next cycle := by
  induction depth generalizing path done node with
  | zero => cases found
  | succ depth ih =>
      unfold searchFrom at found
      cases fold : (next node).foldlM (fun done child =>
          if path.contains child then Except.error (closedPath path child)
          else if done.contains child then .ok done
          else searchFrom next depth (child :: path) done child) done with
      | ok mid =>
          rw [fold] at found
          cases found
      | error e =>
          rw [fold] at found
          cases found
          obtain ⟨child, link, d, visit⟩ := foldlM_error fold
          split at visit
          · rename_i on
            cases visit
            exact circuit_closedPath linked nodup last link (List.contains_iff_mem.mp on)
          · rename_i off
            split at visit
            · cases visit
            · refine ih ?_ ?_ rfl visit
              · refine List.isChain_cons.mpr ⟨?_, linked⟩
                intro x first
                rw [last] at first
                cases first
                exact link
              · exact List.nodup_cons.mpr ⟨by simpa using off, nodup⟩

theorem circuit_of_searchAll {depth : Nat} {roots : List String}
    (found : searchAll next depth roots = .error cycle) : Circuit next cycle := by
  obtain ⟨root, -, d, visit⟩ := foldlM_error found
  split at visit
  · cases visit
  · exact circuit_of_searchFrom (List.isChain_singleton root) (List.nodup_singleton root) rfl visit

end

namespace Graph

variable {g : Graph} {path : List String} {a b id : String} {e : Edge}

theorem circuit_of_findCycle (found : g.findCycle = some path) : Circuit g.successors path := by
  simp only [findCycle] at found
  split at found
  · rename_i cycle search
    cases found
    have circuit := circuit_of_searchAll search
    exact ⟨circuit.linked.imp fun _ _ link => mem_sortedTexts.mp link, circuit.closed,
      circuit.simple, circuit.long⟩
  · cases found

theorem exists_way_of_chain {start : String} {rest : List String}
    (linked : (start :: rest).IsChain fun a b => b ∈ g.successors a) :
    ∃ way, way.length = rest.length ∧
      g.Way start way ((start :: rest).getLast (List.cons_ne_nil _ _)) := by
  induction rest generalizing start with
  | nil => exact ⟨[], rfl, rfl⟩
  | cons next rest ih =>
      obtain ⟨link, later⟩ := List.isChain_cons_cons.mp linked
      obtain ⟨way, length, leads⟩ := ih later
      obtain ⟨e, edge, source, rfl⟩ := mem_targetsOf.mp link
      refine ⟨e :: way, by simp [length], edge, source, ?_⟩
      rwa [List.getLast_cons (List.cons_ne_nil _ _)]

theorem exists_precedes_of_circuit (circuit : Circuit g.successors path) :
    ∃ id ∈ path, g.Precedes id id := by
  obtain ⟨linked, closed, -, long⟩ := circuit
  cases path with
  | nil => simp at long
  | cons start rest =>
      obtain ⟨way, length, leads⟩ := exists_way_of_chain linked
      have back : (start :: rest).getLast (List.cons_ne_nil _ _) = start := by
        rw [List.getLast?_eq_some_getLast (List.cons_ne_nil _ _)] at closed
        exact (Option.some.inj closed).symm
      rw [back] at leads
      refine ⟨start, List.mem_cons_self, way, ?_, leads⟩
      rintro rfl
      simp only [List.length_nil, List.length_cons] at length long
      omega

/-- On a way each edge leaves the node where the way starts or one that an edge of it leads to. -/
theorem Way.source_of_mem {start stop : String} {way : List Edge} (h : g.Way start way stop) :
    ∀ e ∈ way, e ∈ g.functionalEdges ∧ (e.source = start ∨ ∃ d ∈ way, d.target = e.source) := by
  induction way generalizing start with
  | nil => exact fun _ mem => absurd mem List.not_mem_nil
  | cons d rest ih =>
      obtain ⟨edge, source, later⟩ := h
      intro e mem
      rcases List.mem_cons.mp mem with rfl | mem
      · exact ⟨edge, .inl source⟩
      · obtain ⟨here, first | ⟨c, before, link⟩⟩ := ih later e mem
        · exact ⟨here, .inr ⟨d, List.mem_cons_self, first.symm⟩⟩
        · exact ⟨here, .inr ⟨c, List.mem_cons_of_mem _ before, link⟩⟩

theorem Way.exists_target {start stop : String} {way : List Edge} (h : g.Way start way stop)
    (some' : way ≠ []) : ∃ e ∈ way, e.target = stop := by
  induction way generalizing start with
  | nil => exact absurd rfl some'
  | cons d rest ih =>
      cases rest with
      | nil => exact ⟨d, List.mem_cons_self, h.2.2⟩
      | cons c rest =>
          obtain ⟨e, mem, target⟩ := ih h.2.2 (List.cons_ne_nil _ _)
          exact ⟨e, List.mem_cons_of_mem _ mem, target⟩

/-- The nodes of a closed way wait for one another, so that they cannot all be finished. -/
theorem acyclic_of_findCycle (h : g.findCycle = none) : g.Acyclic := by
  obtain ⟨done, finished, all⟩ := finished_of_findCycle h
  intro id way closed
  have none' : way.map Edge.target = [] := by
    refine finished.eq_nil_of_waiting ?_ ?_
    · intro x mem
      obtain ⟨e, on, rfl⟩ := List.mem_map.mp mem
      exact all _ (target_mem_functionalIds (closed.source_of_mem e on).1)
    · intro x mem
      obtain ⟨e, on, rfl⟩ := List.mem_map.mp mem
      obtain ⟨edge, from'⟩ := closed.source_of_mem e on
      have before : ∃ d ∈ way, d.target = e.source := by
        rcases from' with rfl | found
        · exact closed.exists_target (List.ne_nil_of_mem on)
        · exact found
      obtain ⟨d, mem, link⟩ := before
      exact ⟨d.target, List.mem_map_of_mem mem, mem_targetsOf.mpr ⟨e, edge, link.symm, rfl⟩⟩
  exact List.map_eq_nil_iff.mp none'

theorem findCycle_eq_none_iff : g.findCycle = none ↔ ∀ id, ¬ g.Precedes id id := by
  constructor
  · rintro none' id ⟨way, some', closed⟩
    exact some' (acyclic_of_findCycle none' id way closed)
  · intro free
    cases found : g.findCycle with
    | none => rfl
    | some path =>
        obtain ⟨id, -, round⟩ := exists_precedes_of_circuit (circuit_of_findCycle found)
        exact absurd round (free id)

theorem linked_cons (edge : e ∈ g.functionalEdges)
    (linked : path.IsChain fun a b => b ∈ g.successors a) (first : path.head? = some e.target) :
    (e.source :: path).IsChain fun a b => b ∈ g.successors a := by
  refine List.isChain_cons.mpr ⟨fun x head => ?_, linked⟩
  obtain rfl := Option.some.inj (first.symm.trans head)
  exact mem_targetsOf.mpr ⟨e, edge, rfl, rfl⟩

/-- Where a way leads from one node to another one, a path of links does that is nowhere twice. -/
theorem Way.exists_simple {start stop : String} {way : List Edge} (h : g.Way start way stop) :
    ∃ path : List String, path.IsChain (fun a b => b ∈ g.successors a) ∧ path.Nodup ∧
      path.head? = some start ∧ path.getLast? = some stop := by
  induction way generalizing start with
  | nil =>
      obtain rfl : start = stop := h
      exact ⟨[start], List.isChain_singleton _, List.nodup_singleton _, rfl, rfl⟩
  | cons e rest ih =>
      obtain ⟨edge, rfl, later⟩ := h
      obtain ⟨path, linked, nodup, first, last⟩ := ih later
      by_cases back : e.source ∈ path
      · -- The path comes by the start: what is in front of that is left out.
        obtain ⟨front, behind, rfl⟩ := List.append_of_mem back
        refine ⟨e.source :: behind, linked.right_of_append, (List.nodup_append.mp nodup).2.1, rfl, ?_⟩
        rwa [List.getLast?_append_of_ne_nil _ (List.cons_ne_nil _ _)] at last
      · refine ⟨e.source :: path, linked_cons edge linked first,
          List.nodup_cons.mpr ⟨back, nodup⟩, rfl, ?_⟩
        rw [List.getLast?_cons, last, Option.getD_some]

/-- A path of links is a way from its first node to its last one. -/
theorem exists_way_of_linked (linked : path.IsChain fun a b => b ∈ g.successors a)
    (first : path.head? = some a) (last : path.getLast? = some b) :
    ∃ way, way.length + 1 = path.length ∧ g.Way a way b := by
  cases path with
  | nil => cases first
  | cons start rest =>
      obtain rfl := Option.some.inj first
      obtain ⟨way, length, leads⟩ := exists_way_of_chain linked
      rw [List.getLast?_eq_some_getLast (List.cons_ne_nil _ _)] at last
      exact ⟨way, congrArg (· + 1) length, Option.some.inj last ▸ leads⟩

theorem precedes_of_mem_circuit (circuit : Circuit g.successors path) (on : id ∈ path) :
    g.Precedes id id := by
  obtain ⟨linked, closed, -, long⟩ := circuit
  obtain ⟨front, back, rfl⟩ := List.append_of_mem on
  obtain ⟨start, first⟩ : ∃ start, (front ++ id :: back).head? = some start :=
    Option.ne_none_iff_exists'.mp (by simp)
  rw [first, List.getLast?_append_of_ne_nil _ (List.cons_ne_nil _ _)] at closed
  rw [List.append_cons] at linked first
  have first' : (front ++ [id]).head? = some start := by cases front <;> exact first
  obtain ⟨there, before, leads⟩ :=
    exists_way_of_linked linked.left_of_append first' List.getLast?_concat
  rw [← List.append_cons] at linked
  obtain ⟨home, behind, returns⟩ :=
    exists_way_of_linked linked.right_of_append rfl closed.symm
  refine ⟨home ++ there, fun none' => ?_, returns.append leads⟩
  have none' := congrArg List.length none'
  simp only [List.length_append, List.length_cons, List.length_nil] at none' before behind long
  omega

/-- A way leads from a node back to it just when the node is on a circuit. -/
theorem precedes_self_iff :
    g.Precedes id id ↔ ∃ path, Circuit g.successors path ∧ id ∈ path := by
  constructor
  · rintro ⟨way, some', leads⟩
    cases way with
    | nil => exact absurd rfl some'
    | cons e rest =>
        obtain ⟨edge, rfl, later⟩ := leads
        obtain ⟨path, linked, nodup, first, last⟩ := later.exists_simple
        have some' : path ≠ [] := by
          rintro rfl
          cases first
        refine ⟨e.source :: path, ⟨linked_cons edge linked first, ?_, nodup, ?_⟩,
          List.mem_cons_self⟩
        · rw [List.getLast?_cons, last, Option.getD_some]
          rfl
        · have := List.length_pos_iff.mpr some'
          rw [List.length_cons]
          omega
  · exact fun ⟨path, circuit, on⟩ => precedes_of_mem_circuit circuit on

end Graph

end Workflow
