import Mathlib.Data.List.Perm.Basic
import Mathlib.Order.Bounds.Defs
import Workflow.Proofs.Condition.Evaluation

/-! The choice of a port. A condition selects the port of the first branch that matches, and the
other ports are pruned; what stands after that branch has no part in the choice. -/

namespace Workflow

open Condition

/-- A branch matches when it has clauses and they hold, all of them or some, as it joins them. -/
def Branch.Matches (inputs : Inputs) (b : Branch) : Prop :=
  match b.joiner with
  | .all => b.clauses ≠ [] ∧ ∀ c ∈ b.clauses, c.holds inputs = .ok true
  | .any => ∃ c ∈ b.clauses, c.holds inputs = .ok true

/-- Every clause of a branch comes to a truth value. -/
def Branch.Decided (inputs : Inputs) (b : Branch) : Prop :=
  ∀ c ∈ b.clauses, ∃ t, c.holds inputs = .ok t

structure ConditionConfig.Chooses (c : ConditionConfig) (inputs : Inputs) (d : Decision) :
    Prop where
  matching : ∀ i, d.branchIndex = some i →
    IsLeast {j | ∃ b, c.branches[j]? = some b ∧ b.Matches inputs} i ∧
      (c.branches[i]?).map Branch.port = some d.selectedPort
  otherwise : d.branchIndex = none →
    (∀ b ∈ c.branches, ¬b.Matches inputs) ∧ d.selectedPort = c.elsePort
  partition : (d.selectedPort :: d.prunedPorts).Perm c.ports
  declared : d.prunedPorts.Sublist c.ports
  /-- Other branches after the selected one, and another else port, change nothing, whether the
  clauses of these branches come to truth values or not. -/
  settled : ∀ i, d.branchIndex = some i → ∀ other : ConditionConfig,
    other.branches.take (i + 1) = c.branches.take (i + 1) →
      ∃ d', other.select inputs = .ok d' ∧ d'.selectedPort = d.selectedPort ∧
        d'.branchIndex = some i

variable {inputs : Inputs} {b : Branch} {c c' : ConditionConfig} {clauses : List Clause}
  {branches : List Branch} {passes : Branch → Prop} {port : String} {i n : Nat}

namespace Branch

/-- Whether a clause settles a branch, whatever the clauses after it say. -/
def settles (inputs : Inputs) (b : Branch) (c : Clause) : Except Fault Bool :=
  (c.holds inputs).map (· == (b.joiner == .any))

theorem allHold_eq (inputs : Inputs) (clauses : List Clause) :
    allHold inputs clauses =
      (first? (fun c => (c.holds inputs).map (· == false)) clauses).map Option.isNone := by
  induction clauses with
  | nil => rfl
  | cons c rest ih =>
      unfold allHold first?
      rw [ih]
      cases c.holds inputs with
      | error f => rfl
      | ok t => cases t <;> rfl

theorem anyHolds_eq (inputs : Inputs) (clauses : List Clause) :
    anyHolds inputs clauses =
      (first? (fun c => (c.holds inputs).map (· == true)) clauses).map Option.isSome := by
  induction clauses with
  | nil => rfl
  | cons c rest ih =>
      unfold anyHolds first?
      rw [ih]
      cases c.holds inputs with
      | error f => rfl
      | ok t => cases t <;> rfl

theorem isTaken_eq (some' : b.clauses ≠ []) :
    b.isTaken inputs =
      (first? (b.settles inputs) b.clauses).map fun found =>
        found.isSome == (b.joiner == .any) := by
  obtain ⟨port, clauses, joiner⟩ := b
  have filled : ¬clauses.isEmpty = true := by rwa [List.isEmpty_iff]
  unfold isTaken settles
  rw [if_neg filled]
  cases joiner with
  | all =>
      dsimp only
      rw [allHold_eq]
      congr 1
      funext found
      cases found <;> rfl
  | any =>
      dsimp only
      rw [anyHolds_eq]
      congr 1
      funext found
      cases found <;> rfl

theorem isTaken_nil (none' : b.clauses = []) : b.isTaken inputs = .ok false := by
  unfold isTaken
  rw [none']
  rfl

/-- If no clause settles a branch, they all hold where all must, and none where one would do. -/
theorem isTaken_of_unsettled (some' : b.clauses ≠ []) (decided : b.Decided inputs)
    (all : ∀ c ∈ b.clauses, b.settles inputs c = .ok false) :
    (b.Matches inputs ∧ b.isTaken inputs = .ok true) ∨
      (¬b.Matches inputs ∧ b.isTaken inputs = .ok false) := by
  rw [isTaken_eq some', first?_of_forall all]
  unfold Matches
  unfold settles at all
  cases joined : b.joiner with
  | all =>
      refine .inl ⟨⟨some', fun c mem => ?_⟩, rfl⟩
      obtain ⟨t, holds⟩ := decided c mem
      have unsettled := all c mem
      rw [holds, joined] at unsettled
      cases t with
      | true => exact holds
      | false => cases unsettled
  | any =>
      refine .inr ⟨?_, rfl⟩
      rintro ⟨c, mem, holds⟩
      have unsettled := all c mem
      rw [holds, joined] at unsettled
      cases unsettled

/-- A clause that settles a branch fails where all must hold, and holds where one will do. -/
theorem isTaken_of_settled (some' : b.clauses ≠ []) (decided : b.Decided inputs) {c : Clause}
    (reaches : Reaches (fun c => b.settles inputs c = .ok false) b.clauses n c)
    (stops : b.settles inputs c ≠ .ok false) :
    (b.Matches inputs ∧ b.isTaken inputs = .ok true) ∨
      (¬b.Matches inputs ∧ b.isTaken inputs = .ok false) := by
  rw [isTaken_eq some', first?_of_reaches reaches stops]
  obtain ⟨t, holds⟩ := decided c reaches.mem
  unfold settles at stops ⊢
  unfold Matches
  rw [holds] at stops ⊢
  cases joined : b.joiner with
  | all =>
      refine .inr ⟨fun matching => ?_, rfl⟩
      have other := matching.2 c reaches.mem
      rw [holds] at other
      cases other
      exact stops (by rw [joined]; rfl)
  | any =>
      refine .inl ⟨⟨c, reaches.mem, ?_⟩, rfl⟩
      cases t with
      | true => exact holds
      | false => exact absurd (by rw [joined]; rfl) stops

/-- A branch all of whose clauses come to truth values is taken just when it matches. -/
theorem isTaken_decided (decided : b.Decided inputs) :
    (b.Matches inputs ∧ b.isTaken inputs = .ok true) ∨
      (¬b.Matches inputs ∧ b.isTaken inputs = .ok false) := by
  by_cases none' : b.clauses = []
  · refine .inr ⟨?_, isTaken_nil none'⟩
    unfold Matches
    rw [none']
    cases b.joiner <;> simp
  · rcases forall_or_reaches (fun c => b.settles inputs c = .ok false) b.clauses with
      all | ⟨n, c, reaches, stops⟩
    · exact isTaken_of_unsettled none' decided all
    · exact isTaken_of_settled none' decided reaches stops

end Branch

namespace ConditionConfig

theorem firstTaken?_eq (inputs : Inputs) (i : Nat) (branches : List Branch) :
    firstTaken? inputs i branches =
      (first? (fun p => p.1.isTaken inputs) (branches.zipIdx i)).map (Option.map Prod.swap) := by
  induction branches generalizing i with
  | nil => rfl
  | cons b rest ih =>
      rw [List.zipIdx_cons]
      unfold firstTaken? first?
      rw [ih]
      cases b.isTaken inputs with
      | error f => rfl
      | ok t => cases t <;> rfl

theorem reaches_zipIdx (h : Reaches passes branches n b) :
    Reaches (fun p => passes p.1) branches.zipIdx n (b, n) := by
  refine ⟨?_, fun m less p found => ?_⟩
  · rw [List.getElem?_zipIdx, h.found]
    simp
  · rw [List.getElem?_zipIdx, Option.map_eq_some_iff] at found
    obtain ⟨b', found, rfl⟩ := found
    exact h.before m less b' found

theorem select_of_reaches (h : Reaches (fun b => b.isTaken inputs = .ok false) c.branches i b)
    (stops : b.isTaken inputs ≠ .ok false) :
    c.select inputs = (b.isTaken inputs).map fun _ => c.decisionFor b.port (some i) := by
  unfold select
  rw [firstTaken?_eq, first?_of_reaches (reaches_zipIdx h) stops]
  cases b.isTaken inputs <;> rfl

theorem select_of_forall (h : ∀ b ∈ c.branches, b.isTaken inputs = .ok false) :
    c.select inputs = .ok (c.decisionFor c.elsePort none) := by
  unfold select
  rw [firstTaken?_eq, first?_of_forall]
  · rfl
  · intro p mem
    exact h p.1 (List.fst_mem_of_mem_zipIdx mem)

theorem port_mem (h : b ∈ c.branches) : b.port ∈ c.ports :=
  List.mem_append_left _ (List.mem_map_of_mem h)

theorem elsePort_mem (c : ConditionConfig) : c.elsePort ∈ c.ports :=
  List.mem_append_right _ List.mem_cons_self

theorem decisionFor_partition (apart : c.ports.Nodup) (mem : port ∈ c.ports)
    (index : Option Nat) : (port :: (c.decisionFor port index).prunedPorts).Perm c.ports := by
  have pruned : (c.decisionFor port index).prunedPorts = c.ports.erase port := by
    rw [apart.erase_eq_filter]
    exact List.filter_congr fun p _ => decide_not
  rw [pruned]
  exact (List.perm_cons_erase mem).symm

theorem unmatched_of_skipped (decided : b.Decided inputs) (skipped : b.isTaken inputs = .ok false) :
    ¬b.Matches inputs := by
  rcases Branch.isTaken_decided decided with ⟨-, taken⟩ | ⟨unmatched, -⟩
  · rw [taken] at skipped
    cases skipped
  · exact unmatched

theorem chooses_else (apart : c.ports.Nodup) (decided : ∀ b ∈ c.branches, b.Decided inputs)
    (all : ∀ b ∈ c.branches, b.isTaken inputs = .ok false) :
    c.Chooses inputs (c.decisionFor c.elsePort none) where
  matching := by rintro _ ⟨⟩
  otherwise := fun _ => ⟨fun b mem => unmatched_of_skipped (decided b mem) (all b mem), rfl⟩
  partition := decisionFor_partition apart c.elsePort_mem none
  declared := List.filter_sublist
  settled := by rintro _ ⟨⟩

theorem chooses_branch (apart : c.ports.Nodup) (decided : ∀ b ∈ c.branches, b.Decided inputs)
    (reaches : Reaches (fun b => b.isTaken inputs = .ok false) c.branches i b)
    (matching : b.Matches inputs) (taken : b.isTaken inputs = .ok true) :
    c.Chooses inputs (c.decisionFor b.port (some i)) where
  matching := by
    rintro _ ⟨⟩
    refine ⟨⟨⟨b, reaches.found, matching⟩, ?_⟩, congrArg (Option.map Branch.port) reaches.found⟩
    rintro j ⟨b', found, matching'⟩
    by_contra less
    have skipped := reaches.before j (Nat.not_le.mp less) b' found
    exact unmatched_of_skipped (decided b' (List.mem_of_getElem? found)) skipped matching'
  otherwise := by rintro ⟨⟩
  partition := decisionFor_partition apart (port_mem reaches.mem) (some i)
  declared := List.filter_sublist
  settled := by
    rintro _ ⟨⟩ other same
    have front : ∀ j < i + 1, other.branches[j]? = c.branches[j]? := by
      intro j less
      rw [← List.getElem?_take_of_lt less, same, List.getElem?_take_of_lt less]
    have reaches' : Reaches (fun b => b.isTaken inputs = .ok false) other.branches i b := by
      refine ⟨?_, fun m less b' found => ?_⟩
      · rw [front i (Nat.lt_succ_self i)]
        exact reaches.found
      · rw [front m (Nat.lt_succ_of_lt less)] at found
        exact reaches.before m less b' found
    refine ⟨other.decisionFor b.port (some i), ?_, rfl, rfl⟩
    have stops : b.isTaken inputs ≠ .ok false := fun skipped => by
      rw [taken] at skipped
      cases skipped
    rw [select_of_reaches reaches' stops, taken]
    rfl

/-- A condition whose clauses all come to truth values selects the port of the first branch that
matches, or the else port. -/
theorem first_match_selected (apart : c.ports.Nodup)
    (decided : ∀ b ∈ c.branches, b.Decided inputs) :
    ∃ d, c.select inputs = .ok d ∧ c.Chooses inputs d := by
  rcases forall_or_reaches (fun b : Branch => b.isTaken inputs = .ok false) c.branches with
    all | ⟨i, b, reaches, stops⟩
  · exact ⟨c.decisionFor c.elsePort none, select_of_forall all, chooses_else apart decided all⟩
  · rcases Branch.isTaken_decided (decided b reaches.mem) with ⟨matching, taken⟩ | ⟨-, skipped⟩
    · refine ⟨c.decisionFor b.port (some i), ?_,
        chooses_branch apart decided reaches matching taken⟩
      rw [select_of_reaches reaches stops, taken]
      rfl
    · exact absurd skipped stops

/-- A node sees the output of an input node, with a count and a name. -/
def sighted : Inputs :=
  ⟨.null, [("in", .object [("count", .int 12), ("name", .text "abc")])], [], []⟩

/-- A branch without clauses, one of which a clause is false, and two that match. -/
def tiered : ConditionConfig where
  ifBranch := ⟨"true", [], .all⟩
  elseIf :=
    [⟨"few", [⟨"in.count", .greaterThan, .int 10⟩, ⟨"in.count", .lessThan, .text "12"⟩], .all⟩,
     ⟨"named", [⟨"in.name", .equals, .text "abd"⟩, ⟨"name", .startsWith, .text "ab"⟩], .any⟩,
     ⟨"late", [⟨"count", .isNotEmpty, .null⟩], .all⟩]
  elsePort := "false"

theorem first_match_selected_tiered :
    tiered.ports.Nodup ∧ (∀ b ∈ tiered.branches, b.Decided sighted) ∧
      ∃ d, tiered.select sighted = .ok d ∧ tiered.Chooses sighted d ∧
        d = ⟨"named", some 2, ["true", "few", "late", "false"]⟩ := by
  have apart : tiered.ports.Nodup := by decide +kernel
  have answers : ∀ b ∈ tiered.branches, ∀ c ∈ b.clauses,
      (c.holds sighted).toOption.isSome = true := by decide +kernel
  have chosen : (tiered.select sighted).toOption =
      some ⟨"named", some 2, ["true", "few", "late", "false"]⟩ := by decide +kernel
  have decided : ∀ b ∈ tiered.branches, b.Decided sighted := by
    intro b mem c clause
    have answered := answers b mem c clause
    cases holds : c.holds sighted with
    | ok t => exact ⟨t, rfl⟩
    | error f =>
        rw [holds] at answered
        cases answered
  obtain ⟨d, selected, chooses⟩ := first_match_selected apart decided
  rw [selected] at chosen
  exact ⟨apart, decided, d, selected, chooses, Option.some.inj chosen⟩

end ConditionConfig

end Workflow
