import Workflow.Proofs.Plan
import Workflow.Run.Scheduler

/-! The rule of admission. Where the sources of the edges into a node stand decides whether the
node is executed; the verdicts of the scheduler follow this rule. -/

namespace Workflow

/-- Where a node stands in a run: it waits, it succeeded (a condition through a port), it failed,
or it is skipped, and then perhaps since a failure blocks it. -/
inductive Standing where
  | waiting
  | succeeded (port : Option String)
  | failed
  | skipped
  | blocked
  deriving DecidableEq

inductive Admission where
  | executed
  | pruned
  | blocked
  | starved
  deriving DecidableEq

def Standing.isFault : Standing → Bool
  | failed | blocked => true
  | _ => false

namespace Plan

/-- A node has an edge into another one that leaves it through a port. -/
def feeds (plan : Plan) (source target : String) (port : Option String) : Bool :=
  (plan.incoming target).any fun e => e.source == source && e.sourcePort == port

/-- An edge from a decided condition that has no edge into the same node through its selected
port. -/
def isPruned (plan : Plan) (σ : String → Standing) (e : Edge) : Bool :=
  match σ e.source with
  | .succeeded port => plan.isCondition e.source && !plan.feeds e.source e.target port
  | _ => false

/-- An edge from a node that succeeded, through the selected port if that is a condition. -/
def isLive (plan : Plan) (σ : String → Standing) (e : Edge) : Bool :=
  match σ e.source with
  | .succeeded port => !plan.isCondition e.source || e.sourcePort == port
  | _ => false

/-- The rule of admission: one pruned edge is enough to rule a node out, and then one blocked edge;
otherwise a node needs a live edge, or no edge at all. -/
def admission (plan : Plan) (σ : String → Standing) (id : String) : Admission :=
  let edges := plan.incoming id
  if edges.isEmpty then .executed
  else if edges.any (plan.isPruned σ) then .pruned
  else if edges.any fun e => (σ e.source).isFault then .blocked
  else if edges.any (plan.isLive σ) then .executed
  else .starved

/-- The edge whose failure blocks a node: the first one behind which a failure stands. -/
def blocker? (plan : Plan) (σ : String → Standing) (id : String) : Option Edge :=
  (plan.incoming id).find? fun e => (σ e.source).isFault

variable {plan : Plan} {σ τ : String → Standing}

theorem feeds_iff {source target : String} {port : Option String} :
    plan.feeds source target port = true ↔
      ∃ e ∈ plan.edges, e.source = source ∧ e.target = target ∧ e.sourcePort = port := by
  simp only [feeds, List.any_eq_true, mem_incoming, Bool.and_eq_true, beq_iff_eq]
  exact ⟨fun ⟨e, ⟨he, ht⟩, hs, hp⟩ => ⟨e, he, hs, ht, hp⟩,
    fun ⟨e, he, hs, ht, hp⟩ => ⟨e, ⟨he, ht⟩, hs, hp⟩⟩

theorem isPruned_iff {e : Edge} :
    plan.isPruned σ e = true ↔ ∃ port, σ e.source = .succeeded port ∧
      plan.isCondition e.source = true ∧ plan.feeds e.source e.target port = false := by
  cases h : σ e.source <;> simp [isPruned, h]

theorem any_congr_of_mem {α : Type} {l : List α} {f g : α → Bool} (h : ∀ x ∈ l, f x = g x) :
    l.any f = l.any g := by
  rw [Bool.eq_iff_iff, List.any_eq_true, List.any_eq_true]
  exact ⟨fun ⟨x, hx, hf⟩ => ⟨x, hx, h x hx ▸ hf⟩, fun ⟨x, hx, hg⟩ => ⟨x, hx, (h x hx).symm ▸ hg⟩⟩

/-- The rule of admission looks at the sources of the edges into a node only. -/
theorem admission_congr {id : String} (h : ∀ e ∈ plan.incoming id, σ e.source = τ e.source) :
    plan.admission σ id = plan.admission τ id := by
  have pruned : (plan.incoming id).any (plan.isPruned σ) =
      (plan.incoming id).any (plan.isPruned τ) :=
    any_congr_of_mem fun e he => by simp only [isPruned, h e he]
  have faulty : ((plan.incoming id).any fun e => (σ e.source).isFault) =
      (plan.incoming id).any fun e => (τ e.source).isFault :=
    any_congr_of_mem fun e he => by simp only [h e he]
  have live : (plan.incoming id).any (plan.isLive σ) =
      (plan.incoming id).any (plan.isLive τ) :=
    any_congr_of_mem fun e he => by simp only [isLive, h e he]
  simp only [admission, pruned, faulty, live]

theorem blocker?_congr {id : String} (h : ∀ e ∈ plan.incoming id, σ e.source = τ e.source) :
    plan.blocker? σ id = plan.blocker? τ id := by
  unfold blocker?
  revert h
  induction plan.incoming id with
  | nil => intro _; rfl
  | cons e rest ih =>
      intro h
      rw [List.find?_cons, List.find?_cons, h e List.mem_cons_self,
        ih fun d hd => h d (List.mem_cons_of_mem _ hd)]

theorem admission_eq_pruned_iff {id : String} :
    plan.admission σ id = .pruned ↔ ∃ e ∈ plan.incoming id, plan.isPruned σ e = true := by
  rw [← List.any_eq_true]
  unfold admission
  cases h : plan.incoming id <;> simp only [List.isEmpty_nil, List.isEmpty_cons] <;> grind

theorem admission_eq_blocked_iff {id : String} :
    plan.admission σ id = .blocked ↔
      (∀ e ∈ plan.incoming id, plan.isPruned σ e = false) ∧
        ∃ e ∈ plan.incoming id, (σ e.source).isFault = true := by
  have spared : (∀ e ∈ plan.incoming id, plan.isPruned σ e = false) ↔
      (plan.incoming id).any (plan.isPruned σ) = false := by simp
  rw [← List.any_eq_true, spared]
  unfold admission
  cases h : plan.incoming id <;> simp only [List.isEmpty_nil, List.isEmpty_cons] <;> grind

theorem isLive_iff {e : Edge} :
    plan.isLive σ e = true ↔ ∃ port, σ e.source = .succeeded port ∧
      (plan.isCondition e.source = true → e.sourcePort = port) := by
  cases h : σ e.source with
  | succeeded port =>
      cases condition : plan.isCondition e.source <;> simp [isLive, h, condition]
  | _ => simp [isLive, h]

theorem live_of_executed {id : String} (h : plan.admission σ id = .executed) :
    plan.incoming id = [] ∨ ∃ e ∈ plan.incoming id, plan.isLive σ e = true := by
  rw [← List.any_eq_true]
  unfold admission at h
  cases edges : plan.incoming id with
  | nil => exact .inl rfl
  | cons e rest =>
      rw [edges] at h
      simp only [List.isEmpty_cons, Bool.false_eq_true, if_false] at h
      exact .inr (by grind)

theorem blocker?_of_blocked {id : String} (h : plan.admission σ id = .blocked) :
    ∃ e ∈ plan.incoming id, plan.blocker? σ id = some e ∧ (σ e.source).isFault = true := by
  obtain ⟨-, e, he, fault⟩ := admission_eq_blocked_iff.mp h
  have found : (plan.blocker? σ id).isSome = true := List.find?_isSome.mpr ⟨e, he, fault⟩
  obtain ⟨b, hb⟩ := Option.isSome_iff_exists.mp found
  have fault' := List.find?_some hb
  exact ⟨b, List.mem_of_find?_eq_some hb, hb, fault'⟩

end Plan

end Workflow
