import Mathlib.Data.List.Forall2
import Workflow.Proofs.Graph.Stages

/-! Stages by counting. Each node is given the number of its predecessors; a stage strikes itself
from the numbers of its successors, and those that come to zero make up the next one. This comes to
the stages of the graph. -/

namespace Workflow

/-- Strikes a link to a node: the node follows when it was the last one to it. -/
def strike (left : (String → Nat) × List String) (target : String) :
    (String → Nat) × List String :=
  let count := left.1 target - 1
  (Function.update left.1 target count, if count = 0 then left.2 ++ [target] else left.2)

/-- Stage after stage, each with what comes to zero through the one before it. -/
def countdown (next : String → List String) :
    Nat → (String → Nat) → List String → List (List String)
  | 0, _, _ => []
  | _, _, [] => []
  | rounds + 1, counts, stage =>
    let (counts, following) := (stage.flatMap next).foldl strike (counts, [])
    stage :: countdown next rounds counts following

def Graph.countdown (g : Graph) : List (List String) :=
  let counts := fun id => (g.functionalIds.flatMap g.successors).count id
  Workflow.countdown g.successors g.functionalIds.length counts
    (g.functionalIds.filter fun id => counts id = 0)

section

variable {next previous : String → List String} {counts : String → Nat} {id : String}
  {waiting stage targets : List String}

theorem strike_counts (left : (String → Nat) × List String) (target id : String) :
    (strike left target).1 id = left.1 id - [target].count id := by
  unfold strike
  by_cases same : id = target
  · subst same
    simp
  · simp [Function.update_of_ne same, Ne.symm same]

theorem foldl_strike_counts (left : (String → Nat) × List String) (id : String) :
    (targets.foldl strike left).1 id = left.1 id - targets.count id := by
  induction targets generalizing left with
  | nil => rfl
  | cons target rest ih =>
      rw [List.foldl_cons, ih, strike_counts, Nat.sub_sub, ← List.count_append]
      rfl

theorem strike_last (left : (String → Nat) × List String) {target : String}
    (last : left.1 target = 1) : (strike left target).2 = left.2 ++ [target] := by
  simp [strike, last]

theorem strike_more (left : (String → Nat) × List String) {target : String}
    (more : 1 < left.1 target) : (strike left target).2 = left.2 := by
  have more : left.1 target - 1 ≠ 0 := by omega
  simp [strike, more]

section

variable {left : (String → Nat) × List String} {target : String} {rest : List String}

theorem count_link (target : String) (rest : List String) (id : String) :
    (target :: rest).count id = [target].count id + rest.count id :=
  @List.count_append _ _ id [target] rest

theorem strike_room (room : ∀ id, (target :: rest).count id ≤ left.1 id) (id : String) :
    rest.count id ≤ (strike left target).1 id := by
  have enough := room id
  rw [count_link target rest] at enough
  rw [strike_counts]
  omega

theorem strike_spent (room : ∀ id, (target :: rest).count id ≤ left.1 id) (id : String) :
    (strike left target).1 id = rest.count id ↔ left.1 id = (target :: rest).count id := by
  have enough := room id
  rw [count_link target rest] at enough
  rw [strike_counts, count_link target rest]
  omega

theorem last_not_mem (room : ∀ id, (target :: rest).count id ≤ left.1 id)
    (last : left.1 target = 1) : target ∉ rest := by
  have here := room target
  rw [List.count_cons_self] at here
  exact List.count_eq_zero.mp (by omega)

theorem more_of_not_last (room : ∀ id, (target :: rest).count id ≤ left.1 id)
    (last : left.1 target ≠ 1) : 1 < left.1 target := by
  have here := room target
  rw [List.count_cons_self] at here
  omega

end

/-- Where no more links are struck than there are, the nodes that come to zero follow. -/
theorem mem_foldl_strike (left : (String → Nat) × List String)
    (room : ∀ id, targets.count id ≤ left.1 id) :
    id ∈ (targets.foldl strike left).2 ↔
      id ∈ left.2 ∨ (id ∈ targets ∧ left.1 id = targets.count id) := by
  induction targets generalizing left with
  | nil => simp
  | cons target rest ih =>
      rw [List.foldl_cons, ih _ (strike_room room), strike_spent room, List.mem_cons]
      by_cases last : left.1 target = 1
      · have gone := List.count_eq_zero.mpr (last_not_mem room last)
        rw [strike_last left last, List.mem_append, List.mem_singleton, or_assoc]
        refine or_congr_right ⟨?_, ?_⟩
        · rintro (rfl | ⟨mem, zero⟩)
          · exact ⟨.inl rfl, by rw [List.count_cons_self, gone, last]⟩
          · exact ⟨.inr mem, zero⟩
        · rintro ⟨rfl | mem, zero⟩
          · exact .inl rfl
          · exact .inr ⟨mem, zero⟩
      · have more := more_of_not_last room last
        rw [strike_more left more]
        refine or_congr_right (and_congr_left fun zero => (or_iff_right_of_imp ?_).symm)
        rintro rfl
        rw [List.count_cons_self] at zero
        exact List.count_pos_iff.mp (by omega)

theorem foldl_strike_nodup (left : (String → Nat) × List String)
    (room : ∀ id, targets.count id ≤ left.1 id) (apart : ∀ id ∈ targets, id ∉ left.2)
    (nodup : left.2.Nodup) : (targets.foldl strike left).2.Nodup := by
  induction targets generalizing left with
  | nil => exact nodup
  | cons target rest ih =>
      obtain ⟨fresh, apart⟩ := List.forall_mem_cons.mp apart
      rw [List.foldl_cons]
      by_cases last : left.1 target = 1
      · refine ih _ (strike_room room) (fun id mem => ?_) ?_
        · rw [strike_last left last, List.mem_append, List.mem_singleton]
          rintro (old | rfl)
          · exact apart id mem old
          · exact last_not_mem room last mem
        · rw [strike_last left last]
          exact List.nodup_append.mpr ⟨nodup, List.nodup_singleton _, by
            rintro a old b mem rfl
            exact fresh (List.mem_singleton.mp mem ▸ old)⟩
      · have same := strike_more left (more_of_not_last room last)
        exact ih _ (strike_room room) (fun id mem => same ▸ apart id mem) (same ▸ nodup)

/-- What is known while stages are taken: the nodes that wait are closed under links, the numbers
count the links from them, and the stage to come is made of those of them that wait for none. -/
structure Counting (next previous : String → List String) (waiting : List String)
    (counts : String → Nat) (stage : List String) : Prop where
  nodup : waiting.Nodup
  closed : ∀ id ∈ waiting, next id ⊆ waiting
  counts : ∀ id, counts id = (waiting.flatMap next).count id
  stage : stage.Perm (unblocked previous waiting)

theorem count_flatMap_perm {l k : List String} (h : l.Perm k) (id : String) :
    (l.flatMap next).count id = (k.flatMap next).count id :=
  (h.flatMap_right next).count_eq id

/-- Behind a stage that waits for none, those wait for none to which a link leads from the stage and
none from the rest. -/
theorem mem_unblocked_rest {rest : List String} (linked : ∀ a b, a ∈ previous b ↔ b ∈ next a)
    (h : Counting next previous waiting counts stage)
    (mem_rest : ∀ id, id ∈ rest ↔ id ∈ waiting ∧ id ∉ unblocked previous waiting) :
    id ∈ unblocked previous rest ↔
      (∃ a ∈ stage, id ∈ next a) ∧ ∀ p ∈ rest, id ∉ next p := by
  constructor
  · intro free
    obtain ⟨mem, free⟩ := mem_unblocked.mp free
    obtain ⟨waits, blocked⟩ := (mem_rest id).mp mem
    rw [mem_unblocked] at blocked
    push Not at blocked
    obtain ⟨p, before, waits'⟩ := blocked waits
    have now : p ∈ unblocked previous waiting := by
      by_contra later
      exact free p before ((mem_rest p).mpr ⟨waits', later⟩)
    exact ⟨⟨p, h.stage.mem_iff.mpr now, (linked p id).mp before⟩,
      fun p mem link => free p ((linked p id).mpr link) mem⟩
  · rintro ⟨⟨a, now, link⟩, free⟩
    have waits := (mem_unblocked.mp (h.stage.mem_iff.mp now)).1
    have barred : id ∉ unblocked previous waiting := fun free =>
      (mem_unblocked.mp free).2 a ((linked a id).mpr link) waits
    have left := (mem_rest id).mpr ⟨h.closed a waits link, barred⟩
    exact mem_unblocked.mpr ⟨left, fun p before mem => free p mem ((linked p id).mp before)⟩

theorem Counting.advance (linked : ∀ a b, a ∈ previous b ↔ b ∈ next a)
    (h : Counting next previous waiting counts stage) :
    Counting next previous (waiting.filter fun id => !(unblocked previous waiting).contains id)
      ((stage.flatMap next).foldl strike (counts, [])).1
      ((stage.flatMap next).foldl strike (counts, [])).2 := by
  have split := filter_unblocked_perm previous waiting
  have mem_rest : ∀ id, id ∈ waiting.filter (fun id => !(unblocked previous waiting).contains id) ↔
      id ∈ waiting ∧ id ∉ unblocked previous waiting := by
    simp
  have nodup := h.nodup.filter fun id => !(unblocked previous waiting).contains id
  generalize waiting.filter (fun id => !(unblocked previous waiting).contains id) = rest
    at split mem_rest nodup ⊢
  have total : ∀ id, counts id = (stage.flatMap next).count id + (rest.flatMap next).count id := by
    intro id
    rw [h.counts, ← count_flatMap_perm split, List.flatMap_append, List.count_append,
      count_flatMap_perm h.stage]
  have room : ∀ id, (stage.flatMap next).count id ≤ counts id := fun id =>
    (total id).symm ▸ Nat.le_add_right _ _
  have once := foldl_strike_nodup (counts, []) room (fun _ _ => List.not_mem_nil) List.nodup_nil
  refine ⟨nodup, fun a mem b link => ?_, fun id => ?_,
    (List.perm_ext_iff_of_nodup once (nodup.filter _)).mpr fun id => ?_⟩
  · -- No link leads from a node that waits to one that waits for none.
    obtain ⟨waits, -⟩ := (mem_rest a).mp mem
    exact (mem_rest b).mpr ⟨h.closed a waits link, fun free =>
      (mem_unblocked.mp free).2 a ((linked a b).mpr link) waits⟩
  · exact (foldl_strike_counts _ id).trans (Nat.sub_eq_of_eq_add' (total id))
  · have spent : counts id = (stage.flatMap next).count id ↔ ∀ p ∈ rest, id ∉ next p := by
      rw [total, Nat.add_eq_left, List.count_eq_zero, List.mem_flatMap]
      push Not
      rfl
    refine (mem_foldl_strike (counts, []) room).trans ?_
    rw [or_iff_right List.not_mem_nil, spent, List.mem_flatMap]
    exact (mem_unblocked_rest linked h mem_rest).symm

theorem Counting.countdown (linked : ∀ a b, a ∈ previous b ↔ b ∈ next a)
    (h : Counting next previous waiting counts stage) (rounds : Nat) :
    List.Forall₂ List.Perm (countdown next rounds counts stage)
      (stagesFrom previous rounds waiting).stages := by
  induction rounds generalizing waiting counts stage with
  | zero => exact .nil
  | succ rounds ih =>
      cases stage with
      | nil =>
          rw [stagesFrom_nil rounds h.stage.symm.eq_nil]
          exact .nil
      | cons id rest =>
          have going : unblocked previous waiting ≠ [] := fun none' =>
            List.cons_ne_nil id rest (none' ▸ h.stage).eq_nil
          rw [stagesFrom_stage rounds going]
          exact .cons h.stage (ih (h.advance linked))

end

theorem Graph.countdown_perm (g : Graph) :
    List.Forall₂ List.Perm g.countdown g.staging.stages := by
  have linked : ∀ a b, a ∈ sourcesOf g.functionalEdges b ↔ b ∈ g.successors a := by
    intro a b
    rw [mem_sourcesOf, successors, mem_targetsOf]
    exact exists_congr fun e => and_congr_right fun _ => and_comm
  have sorted := sortedTexts_perm g.functionalIds
  have start : Counting g.successors (sourcesOf g.functionalEdges) (sortedTexts g.functionalIds)
      (fun id => (g.functionalIds.flatMap g.successors).count id)
      (g.functionalIds.filter fun id =>
        decide ((g.functionalIds.flatMap g.successors).count id = 0)) := by
    refine ⟨sorted.nodup_iff.mpr (nodup_distinct _), ?_, fun id => ?_, ?_⟩
    · intro a _ b link
      obtain ⟨e, edge, -, rfl⟩ := mem_targetsOf.mp link
      exact mem_sortedTexts.mpr (target_mem_functionalIds edge)
    · exact (count_flatMap_perm sorted id).symm
    · refine (sorted.symm.filter _).trans (List.Perm.of_eq (List.filter_congr fun id _ => ?_))
      rw [Bool.eq_iff_iff, decide_eq_true_iff, List.count_eq_zero, List.mem_flatMap]
      simp only [List.all_eq_true, Bool.not_eq_true', ← Bool.not_eq_true, List.contains_iff_mem,
        mem_sortedTexts, linked]
      exact ⟨fun free p link mem => free ⟨p, mem, link⟩, fun free ⟨p, mem, link⟩ => free p link mem⟩
  exact start.countdown linked _

end Workflow
