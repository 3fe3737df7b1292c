import Mathlib.Data.List.Perm.Subperm
import Workflow.Proofs.Run.Verdict

/-! The failures that doom a run. The search downstream of a failed node finds an output node just
when the least set that the failure drags along holds one, in whatever order it visits the nodes. -/

namespace Workflow

namespace Plan

/-- An edge from a condition that may yet rule its target out, or has done so. -/
def spares (plan : Plan) (σ : String → Standing) (e : Edge) : Bool :=
  plan.isCondition e.source && (decide (σ e.source = .waiting) || plan.isPruned σ e)

/-- The nodes that a failure drags along: the failed one, and every successor of one of them that no
condition outside of them may spare. -/
inductive Drags (plan : Plan) (σ : String → Standing) (failed : String) : String → Prop where
  | self : Drags plan σ failed failed
  | next {e : Edge} (edge : e ∈ plan.edges) (before : Drags plan σ failed e.source)
      (certain : ∀ d ∈ plan.incoming e.target, plan.spares σ d = true →
        Drags plan σ failed d.source) :
      Drags plan σ failed e.target

/-- A failure drags an output node along. -/
def Doomed (plan : Plan) (σ : String → Standing) (failed : String) : Prop :=
  ∃ id, id ≠ failed ∧ plan.isOutput id = true ∧ plan.Drags σ failed id

/-- The states of all sources of edges are at hand. -/
def Tells (plan : Plan) (p : Progress) : Prop :=
  ∀ e ∈ plan.edges, ∃ s, p.state.get? e.source = some s

end Plan

namespace Scheduler

variable {plan : Plan} {p : Progress} {failed id : String} {reached frontier targets : List String}

theorem certainlyBlocked_eq (tells : plan.Tells p) (reached : List String) (id : String) :
    certainlyBlocked plan p reached id =
      (plan.incoming id).all fun e =>
        reached.contains e.source || !plan.spares p.standing e := by
  unfold certainlyBlocked
  rw [Bool.eq_iff_iff, List.all_eq_true, List.all_eq_true]
  refine forall₂_congr fun e he => ?_
  obtain ⟨edge, target⟩ := Plan.mem_incoming.mp he
  obtain ⟨s, found⟩ := tells e edge
  unfold Plan.spares Plan.isPruned
  cases held : reached.contains e.source with
  | true => simp
  | false =>
      cases condition : plan.isCondition e.source with
      | false => simp
      | true =>
          simp only [Progress.standing, found]
          cases status : s.status with
          | succeeded =>
              have selected : (e.sourcePort == s.selectedPort? ||
                  (plan.incoming id).any fun other =>
                    other.source == e.source && other.sourcePort == s.selectedPort?) =
                  plan.feeds e.source e.target s.selectedPort? := by
                rw [Plan.feeds, target, Bool.eq_iff_iff, Bool.or_eq_true, List.any_eq_true]
                refine ⟨fun h => h.elim (fun same => ⟨e, he, by simpa using same⟩)
                  fun other => other, .inr⟩
              simp [NodeStatus.isTerminal, selected]
          | skipped =>
              by_cases marked : p.blockedBy.contains e.source = true <;>
                simp [NodeStatus.isTerminal, marked]
          | _ => simp [NodeStatus.isTerminal]

/-- A node is certain to be blocked if the sources that may spare it are reached. -/
theorem certainlyBlocked_iff (tells : plan.Tells p) :
    certainlyBlocked plan p reached id = true ↔
      ∀ d ∈ plan.incoming id, plan.spares p.standing d = true → d.source ∈ reached := by
  rw [certainlyBlocked_eq tells, List.all_eq_true]
  refine forall₂_congr fun d _ => ?_
  rw [Bool.or_eq_true, Bool.not_eq_true', List.contains_iff_mem, ← Bool.not_eq_true]
  exact ⟨fun h spares => h.resolve_right fun free => free spares, fun h =>
    (Classical.em _).elim (fun spares => .inl (h spares)) .inr⟩

/-- Some of the targets are excused: an edge may spare them whose source is not reached, or is
reached just now. -/
def Excused (plan : Plan) (σ : String → Standing) (reached frontier : List String)
    (target : String) : Prop :=
  ∃ d ∈ plan.incoming target, plan.spares σ d = true ∧
    (d.source ∉ reached ∨ d.source ∈ frontier)

/-- What the search adds to what it has reached is dragged along, and every target is reached then,
or it is excused. -/
structure Added (plan : Plan) (σ : String → Standing) (failed : String)
    (targets reached new : List String) : Prop where
  nodup : new.Nodup
  fresh : ∀ t ∈ new, t ∈ targets ∧ t ∉ reached ∧ plan.isOutput t = false ∧ plan.Drags σ failed t
  rest : ∀ t ∈ targets, t ∈ new ++ reached ∨ Excused plan σ (new ++ reached) new t

variable {σ : String → Standing} {new : List String} {t : String}

/-- A target is passed over that is reached or that an edge may spare. -/
theorem Added.pass (h : Added plan σ failed targets reached new)
    (closed : t ∈ reached ∨
      ∃ d ∈ plan.incoming t, plan.spares σ d = true ∧ d.source ∉ reached) :
    Added plan σ failed (t :: targets) reached new where
  nodup := h.nodup
  fresh u hu := ⟨List.mem_cons_of_mem _ (h.fresh u hu).1, (h.fresh u hu).2⟩
  rest u hu := by
    rcases List.mem_cons.mp hu with rfl | later
    · rcases closed with old | ⟨d, hd, spares, unreached⟩
      · exact .inl (List.mem_append_right _ old)
      · refine .inr ⟨d, hd, spares, ?_⟩
        by_cases now : d.source ∈ new
        · exact .inr now
        · exact .inl fun mem => (List.mem_append.mp mem).elim now unreached
    · exact h.rest u later

theorem Added.add (h : Added plan σ failed targets (t :: reached) new) (unreached : t ∉ reached)
    (inner : plan.isOutput t = false) (dragged : plan.Drags σ failed t) :
    Added plan σ failed (t :: targets) reached (new ++ [t]) where
  nodup := by
    refine List.nodup_append.mpr ⟨h.nodup, List.nodup_singleton _, ?_⟩
    intro a ha b hb same
    exact (h.fresh a ha).2.1 (by simp [same, List.mem_singleton.mp hb])
  fresh u hu := by
    rcases List.mem_append.mp hu with now | here
    · obtain ⟨target, apart, found⟩ := h.fresh u now
      exact ⟨List.mem_cons_of_mem _ target, fun mem => apart (List.mem_cons_of_mem _ mem), found⟩
    · obtain rfl := List.mem_singleton.mp here
      exact ⟨List.mem_cons_self, unreached, inner, dragged⟩
  rest u hu := by
    rw [← List.append_cons]
    rcases List.mem_cons.mp hu with rfl | later
    · exact .inl (by simp)
    · refine (h.rest u later).imp_right ?_
      rintro ⟨d, hd, spares, open'⟩
      exact ⟨d, hd, spares, open'.imp_right (List.mem_append_left _)⟩

theorem reach_cases (frontier : List String) (tells : plan.Tells p)
    (ready : ∀ r ∈ reached, plan.Drags p.standing failed r)
    (next : ∀ t ∈ targets, ∃ e ∈ plan.edges, e.target = t ∧ plan.Drags p.standing failed e.source) :
    (reach plan p targets reached frontier = none ∧
      ∃ t, t ∉ reached ∧ plan.isOutput t = true ∧ plan.Drags p.standing failed t) ∨
    ∃ new, reach plan p targets reached frontier = some (new ++ reached, new ++ frontier) ∧
      Added plan p.standing failed targets reached new := by
  induction targets generalizing reached frontier with
  | nil =>
      exact .inr ⟨[], rfl, List.nodup_nil, fun _ h => absurd h List.not_mem_nil,
        fun _ h => absurd h List.not_mem_nil⟩
  | cons t rest ih =>
      have later : ∀ u ∈ rest, ∃ e ∈ plan.edges, e.target = u ∧
          plan.Drags p.standing failed e.source := fun u hu => next u (List.mem_cons_of_mem _ hu)
      unfold reach
      by_cases closed : (reached.contains t || !certainlyBlocked plan p reached t) = true
      · rw [if_pos closed]
        rw [Bool.or_eq_true, List.contains_iff_mem, Bool.not_eq_true', ← Bool.not_eq_true,
          certainlyBlocked_iff tells] at closed
        push Not at closed
        exact (ih frontier ready later).imp_right fun ⟨new, run, added⟩ =>
          ⟨new, run, added.pass closed⟩
      · rw [if_neg closed]
        rw [Bool.or_eq_true, not_or, List.contains_iff_mem, Bool.not_eq_true', Bool.not_eq_false,
          certainlyBlocked_iff tells] at closed
        obtain ⟨fresh, certain⟩ := closed
        obtain ⟨e, edge, rfl, before⟩ := next t List.mem_cons_self
        have dragged : plan.Drags p.standing failed e.target :=
          .next edge before fun d hd spares => ready d.source (certain d hd spares)
        cases output : plan.isOutput e.target with
        | true => exact .inl ⟨rfl, e.target, fresh, output, dragged⟩
        | false =>
            rw [if_neg Bool.false_ne_true]
            have ready' : ∀ r ∈ e.target :: reached, plan.Drags p.standing failed r :=
              List.forall_mem_cons.mpr ⟨dragged, ready⟩
            rcases ih (e.target :: frontier) ready' later with
              ⟨stop, u, unreached, found⟩ | ⟨new, run, added⟩
            · exact .inl ⟨stop, u, fun mem => unreached (List.mem_cons_of_mem _ mem), found⟩
            · rw [List.append_cons new _ reached, List.append_cons new _ frontier] at run
              exact .inr ⟨new ++ [e.target], run, added.add fresh output dragged⟩

/-- How far the search has come: what it has reached is dragged along, and the targets of what it
has taken from the frontier are reached or excused. -/
structure Search (plan : Plan) (σ : String → Standing) (failed : String)
    (reached frontier : List String) : Prop where
  nodup : reached.Nodup
  start : failed ∈ reached
  known : ∀ r ∈ reached, r ∈ plan.nodes.keys
  dragged : ∀ r ∈ reached, plan.Drags σ failed r
  inner : ∀ r ∈ reached, r ≠ failed → plan.isOutput r = false
  pending : ∀ r ∈ frontier, r ∈ reached
  taken : ∀ r ∈ reached, r ∉ frontier → ∀ t ∈ plan.successors r,
    t ∈ reached ∨ Excused plan σ reached frontier t

/-- A search that has come to its end has reached all that is dragged along. -/
theorem Search.complete (h : Search plan σ failed reached []) (dragged : plan.Drags σ failed id) :
    id ∈ reached := by
  induction dragged with
  | self => exact h.start
  | next edge _ _ source certain =>
      rcases h.taken _ source List.not_mem_nil _ (Plan.mem_successors.mpr ⟨_, edge, rfl, rfl⟩) with
        here | ⟨d, hd, spares, unreached | waiting⟩
      · exact here
      · exact absurd (certain d hd spares) unreached
      · exact absurd waiting List.not_mem_nil

theorem Search.not_doomed (h : Search plan σ failed reached []) : ¬plan.Doomed σ failed := by
  rintro ⟨id, other, output, dragged⟩
  rw [h.inner id (h.complete dragged) other] at output
  cases output

theorem Search.step {node : String} (sound : plan.Sound)
    (h : Search plan σ failed reached (node :: frontier))
    (added : Added plan σ failed (plan.successors node) reached new) :
    Search plan σ failed (new ++ reached) (new ++ frontier) where
  nodup := List.nodup_append.mpr ⟨added.nodup, h.nodup, fun a ha b hb same =>
    (added.fresh a ha).2.1 (same ▸ hb)⟩
  start := List.mem_append_right _ h.start
  known r hr := by
    rcases List.mem_append.mp hr with now | old
    · obtain ⟨e, edge, -, rfl⟩ := Plan.mem_successors.mp (added.fresh r now).1
      exact (sound.joined e edge).2
    · exact h.known r old
  dragged r hr := (List.mem_append.mp hr).elim (fun now => (added.fresh r now).2.2.2) (h.dragged r)
  inner r hr other := (List.mem_append.mp hr).elim (fun now => (added.fresh r now).2.2.1) fun old =>
    h.inner r old other
  pending r hr := (List.mem_append.mp hr).elim (List.mem_append_left _) fun old =>
    List.mem_append_right _ (h.pending r (List.mem_cons_of_mem _ old))
  taken r hr gone t target := by
    rw [List.mem_append, not_or] at gone
    have old : r ∈ reached := (List.mem_append.mp hr).resolve_left gone.1
    have widen : Excused plan σ (new ++ reached) new t →
        Excused plan σ (new ++ reached) (new ++ frontier) t := fun ⟨d, hd, spares, open'⟩ =>
      ⟨d, hd, spares, open'.imp_right (List.mem_append_left _)⟩
    by_cases here : r = node
    · exact (added.rest t (here ▸ target)).imp_right widen
    · rcases h.taken r old (by simp [here, gone.2]) t target with
        there | ⟨d, hd, spares, unreached | waiting⟩
      · exact .inl (List.mem_append_right _ there)
      · refine .inr ⟨d, hd, spares, ?_⟩
        by_cases now : d.source ∈ new
        · exact .inr (List.mem_append_left _ now)
        · exact .inl fun mem => (List.mem_append.mp mem).elim now unreached
      · -- The source that excused the target is the node now taken, or is still to come.
        rcases List.mem_cons.mp waiting with same | later
        · obtain ⟨edge, target'⟩ := Plan.mem_incoming.mp hd
          exact (added.rest t (Plan.mem_successors.mpr ⟨d, edge, same, target'⟩)).imp_right widen
        · exact .inr ⟨d, hd, spares, .inr (List.mem_append_right _ later)⟩

theorem Added.perm {targets' : List String} (perm : targets.Perm targets')
    (h : Added plan σ failed targets reached new) : Added plan σ failed targets' reached new where
  nodup := h.nodup
  fresh t ht := ⟨perm.mem_iff.mp (h.fresh t ht).1, (h.fresh t ht).2⟩
  rest t ht := h.rest t (perm.mem_iff.mpr ht)

theorem Search.perm {frontier' : List String} (perm : frontier.Perm frontier')
    (h : Search plan σ failed reached frontier) : Search plan σ failed reached frontier' :=
  { h with
    pending := fun r hr => h.pending r (perm.mem_iff.mpr hr)
    taken := by
      intro r hr gone t target
      rcases h.taken r hr (fun mem => gone (perm.mem_iff.mp mem)) t target with
        here | ⟨d, hd, spares, open'⟩
      · exact .inl here
      · exact .inr ⟨d, hd, spares, open'.imp_right perm.mem_iff.mp⟩ }

/-- A search downstream of a failed node has made some rounds. Each of them takes any node of the
frontier, and its successors in any order. -/
inductive Searched (plan : Plan) (p : Progress) (failed : String) :
    Nat → List String → List String → Prop where
  | start : Searched plan p failed 0 [failed] [failed]
  | next {rounds : Nat} {reached frontier targets reached' frontier' : List String} {node : String}
      (before : Searched plan p failed rounds reached frontier) (mem : node ∈ frontier)
      (order : targets.Perm (plan.successors node))
      (run : reach plan p targets reached (frontier.erase node) = some (reached', frontier')) :
      Searched plan p failed (rounds + 1) reached' frontier'

/-- What such a search may answer in the end. -/
inductive Answers (plan : Plan) (p : Progress) (failed : String) : Bool → Prop where
  | found {rounds : Nat} {reached frontier targets : List String} {node : String}
      (before : Searched plan p failed rounds reached frontier) (mem : node ∈ frontier)
      (order : targets.Perm (plan.successors node))
      (stop : reach plan p targets reached (frontier.erase node) = none) :
      Answers plan p failed true
  | exhausted {rounds : Nat} {reached : List String}
      (before : Searched plan p failed rounds reached []) : Answers plan p failed false

theorem Search.singleton (known : failed ∈ plan.nodes.keys) :
    Search plan σ failed [failed] [failed] where
  nodup := List.nodup_singleton failed
  start := List.mem_singleton_self failed
  known _ hr := List.mem_singleton.mp hr ▸ known
  dragged _ hr := List.mem_singleton.mp hr ▸ .self
  inner _ hr other := absurd (List.mem_singleton.mp hr) other
  pending _ hr := hr
  taken _ hr gone := absurd hr gone

theorem Search.dragging {node : String} (h : Search plan σ failed reached frontier)
    (mem : node ∈ frontier) (order : targets.Perm (plan.successors node)) :
    ∀ t ∈ targets, ∃ e ∈ plan.edges, e.target = t ∧ plan.Drags σ failed e.source := by
  intro t target
  obtain ⟨e, edge, source, target⟩ := Plan.mem_successors.mp (order.mem_iff.mp target)
  exact ⟨e, edge, target, source ▸ h.dragged node (h.pending node mem)⟩

/-- Whatever a search takes first, it has taken one node in each round. -/
theorem Searched.search {rounds : Nat} (sound : plan.Sound) (tells : plan.Tells p)
    (known : failed ∈ plan.nodes.keys) (h : Searched plan p failed rounds reached frontier) :
    Search plan p.standing failed reached frontier ∧
      rounds + frontier.length = reached.length := by
  induction h with
  | start => exact ⟨.singleton known, rfl⟩
  | @next rounds reached frontier targets reached' frontier' node _ mem order run ih =>
      obtain ⟨search, count⟩ := ih
      rcases reach_cases (frontier.erase node) tells search.dragged (search.dragging mem order) with
        ⟨stop, -⟩ | ⟨new, run', added⟩
      · cases stop.symm.trans run
      · cases run'.symm.trans run
        refine ⟨(search.perm (List.perm_cons_erase mem)).step sound (added.perm order), ?_⟩
        have taken := List.length_erase_of_mem mem
        have some' := List.length_pos_of_mem mem
        simp only [List.length_append]
        omega

theorem Searched.bounded {rounds : Nat} (sound : plan.Sound) (tells : plan.Tells p)
    (known : failed ∈ plan.nodes.keys) (h : Searched plan p failed rounds reached frontier) :
    rounds ≤ plan.nodes.keys.length := by
  obtain ⟨search, count⟩ := h.search sound tells known
  have bound : reached.length ≤ plan.nodes.keys.length :=
    (search.nodup.subperm search.known).length_le
  omega

/-- Whatever a search takes first, it finds out whether the failure is doomed. -/
theorem Answers.iff {answer : Bool} (sound : plan.Sound) (tells : plan.Tells p)
    (known : failed ∈ plan.nodes.keys) (h : Answers plan p failed answer) :
    answer = true ↔ plan.Doomed p.standing failed := by
  cases h with
  | @found _ reached frontier targets node before mem order stop =>
      have search := (before.search sound tells known).1
      rcases reach_cases (frontier.erase node) tells search.dragged (search.dragging mem order) with
        ⟨-, t, unreached, output, dragged⟩ | ⟨new, run, -⟩
      · refine ⟨fun _ => ⟨t, ?_, output, dragged⟩, fun _ => rfl⟩
        rintro rfl
        exact unreached search.start
      · cases stop.symm.trans run
  | exhausted before =>
      exact ⟨fun found => absurd found Bool.false_ne_true, fun doomed =>
        absurd doomed (before.search sound tells known).1.not_doomed⟩

/-- A search with rounds for all nodes of the plan comes to an answer. -/
theorem Searched.answers {earlier rounds : Nat} (sound : plan.Sound) (tells : plan.Tells p)
    (known : failed ∈ plan.nodes.keys) (before : Searched plan p failed earlier reached frontier)
    (room : plan.nodes.keys.length ≤ earlier + rounds) :
    Answers plan p failed (reachesOutput plan p rounds reached frontier) := by
  induction rounds generalizing earlier reached frontier with
  | zero =>
      obtain ⟨search, count⟩ := before.search sound tells known
      have bound : reached.length ≤ plan.nodes.keys.length :=
        (search.nodup.subperm search.known).length_le
      obtain rfl : frontier = [] := List.length_eq_zero_iff.mp (by omega)
      exact .exhausted before
  | succ rounds ih =>
      cases frontier with
      | nil => exact .exhausted before
      | cons node frontier =>
          have rest : (node :: frontier).erase node = frontier := List.erase_cons_head _ _
          unfold reachesOutput
          cases step : reach plan p (plan.successors node) reached frontier with
          | none => exact .found before List.mem_cons_self (.refl _) (rest.symm ▸ step)
          | some next =>
              refine ih (.next before List.mem_cons_self (.refl _) (rest.symm ▸ step)) ?_
              omega

theorem isDoomed_answers (sound : plan.Sound) (tells : plan.Tells p)
    (known : failed ∈ plan.nodes.keys) : Answers plan p failed (isDoomed plan p failed) := by
  refine Searched.answers sound tells known .start ?_
  simp only [Table.keys, List.length_map]
  omega

/-- The failure of a node of the plan is doomed just when it drags an output node along. -/
theorem isDoomed_iff (sound : plan.Sound) (tells : plan.Tells p) (known : id ∈ plan.nodes.keys) :
    isDoomed plan p id = true ↔ plan.Doomed p.standing id :=
  (isDoomed_answers sound tells known).iff sound tells known

end Scheduler

end Workflow
