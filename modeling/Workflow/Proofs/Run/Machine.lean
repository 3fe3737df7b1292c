import Mathlib.Data.List.Induction
import Workflow.Proofs.Run.Moves
import Workflow.Proofs.Run.Verdict

/-! The state of a run under any calls, also under those that it refuses. One call moves one node or
nothing; so a node that has ended stays as it is, the list of completed nodes holds those that have
ended in the order in which they did, and what a node holds fits the way in which it has ended. -/

namespace Workflow

/-- A node holds an output and a decision only if it has succeeded, and an error only if it has
failed. -/
structure NodeState.Tidy (n : NodeState) : Prop where
  output : n.status ≠ .succeeded → n.output = .null ∧ n.decision = none
  error : n.status ≠ .failed → n.error = none

theorem NodeStatus.not_terminal_of_following {s t : NodeStatus} (legal : t ∈ s.following) :
    s.isTerminal = false := by
  rw [← Bool.not_eq_true, ← following_eq_nil_iff]
  exact List.ne_nil_of_mem legal

/-- What leaves a node that has not ended is kept tidy: it has nothing to show yet. -/
theorem NodeState.Tidy.moved {n : NodeState} (h : n.Tidy) {status : NodeStatus}
    (legal : status ∈ n.status.following) (change : Change) : (n.moved status change).Tidy := by
  have going := NodeStatus.not_terminal_of_following legal
  have notSucceeded : n.status ≠ .succeeded := fun same => by rw [same] at going; cases going
  have notFailed : n.status ≠ .failed := fun same => by rw [same] at going; cases going
  constructor
  · intro other
    have other : status ≠ .succeeded := other
    rw [NodeState.moved, if_neg other, if_neg other]
    exact h.output notSucceeded
  · intro other
    have other : status ≠ .failed := other
    rw [NodeState.moved, if_neg other]
    exact h.error notFailed

namespace RunState

/-- A call of a state: which node is to move to which status, and what it brings along. -/
structure Call where
  id : String
  status : NodeStatus
  change : Change

/-- What becomes of a state by a call, and the error that the call raises, if it does. -/
def call (s : RunState) (c : Call) : RunState × Option TransitionError :=
  match s.transition c.id c.status c.change with
  | .ok t => (t, none)
  | .error e => (s, some e)

def driven (s : RunState) : List Call → RunState
  | [] => s
  | c :: rest => (s.call c).1.driven rest

/-- A node has come to the end of its life. -/
def Ended (s : RunState) (id : String) : Prop :=
  ∃ n, s.get? id = some n ∧ n.status.isTerminal = true

/-- At some time in the course of some calls one node has ended and another one has not. -/
def EndsBefore (s : RunState) (calls : List Call) (a b : String) : Prop :=
  ∃ first, first <+: calls ∧ (s.driven first).Ended a ∧ ¬(s.driven first).Ended b

/-- What every state of a run keeps to. -/
structure Sound (s : RunState) : Prop where
  distinct : s.nodes.Distinct
  once : s.completed.Nodup
  listed : ∀ id, id ∈ s.completed ↔ s.Ended id
  tidy : ∀ id n, s.get? id = some n → n.Tidy

variable {s : RunState} {c : Call} {calls more : List Call} {id : String} {n : NodeState}

/-- A call is refused and changes nothing, or it moves its node as that node may move. -/
theorem call_cases (s : RunState) (c : Call) :
    (∃ e, s.call c = (s, some e) ∧ ∀ n, s.get? c.id = some n → c.status ∉ n.status.following) ∨
    ∃ n, s.get? c.id = some n ∧ c.status ∈ n.status.following ∧
      s.call c = (s.after c.id n c.status c.change, none) := by
  unfold call
  cases moved : s.transition c.id c.status c.change with
  | ok t =>
      obtain ⟨n, found, legal, rfl⟩ := after_of_transition moved
      exact .inr ⟨n, found, List.contains_iff_mem.mp legal, rfl⟩
  | error e =>
      refine .inl ⟨e, rfl, fun n found legal => ?_⟩
      rw [transition, found] at moved
      dsimp only at moved
      rw [if_pos (List.contains_iff_mem.mpr legal)] at moved
      cases moved

theorem call_accepted_iff :
    (s.call c).2 = none ↔ ∃ n, s.get? c.id = some n ∧ c.status ∈ n.status.following := by
  rcases call_cases s c with ⟨e, refused, stuck⟩ | ⟨n, found, legal, moved⟩
  · rw [refused]
    exact ⟨nofun, fun ⟨n, found, legal⟩ => absurd legal (stuck n found)⟩
  · rw [moved]
    exact ⟨fun _ => ⟨n, found, legal⟩, fun _ => rfl⟩

theorem call_of_refused (refused : (s.call c).2 ≠ none) : (s.call c).1 = s := by
  rcases call_cases s c with ⟨e, same, -⟩ | ⟨n, -, -, moved⟩
  · rw [same]
  · rw [moved] at refused
    exact absurd rfl refused

theorem call_get?_self (found : s.get? c.id = some n) (accepted : (s.call c).2 = none) :
    (s.call c).1.get? c.id = some (n.moved c.status c.change) := by
  rcases call_cases s c with ⟨e, same, -⟩ | ⟨m, found', -, moved⟩
  · rw [same] at accepted
    cases accepted
  · obtain rfl := Option.some.inj (found.symm.trans found')
    rw [moved]
    exact after_get?_self s c.id n c.status c.change

theorem call_get?_of_ne (apart : id ≠ c.id) : (s.call c).1.get? id = s.get? id := by
  rcases call_cases s c with ⟨e, same, -⟩ | ⟨n, -, -, moved⟩
  · rw [same]
  · rw [moved]
    exact after_get?_of_ne s n c.status c.change apart

theorem call_nodeIds : (s.call c).1.nodeIds = s.nodeIds := by
  rcases call_cases s c with ⟨e, same, -⟩ | ⟨n, found, -, moved⟩
  · rw [same]
  · have known : s.nodes.contains c.id = true := by
      rw [Table.contains, Option.isSome_iff_exists]
      exact ⟨n, found⟩
    rw [moved]
    exact Table.keys_put_of_contains _ _ _ known

theorem not_ended_of_following (found : s.get? id = some n) {status : NodeStatus}
    (legal : status ∈ n.status.following) : ¬s.Ended id := by
  rintro ⟨m, found', terminal⟩
  obtain rfl := Option.some.inj (found.symm.trans found')
  rw [NodeStatus.not_terminal_of_following legal] at terminal
  cases terminal

theorem Ended.call_get? (h : s.Ended id) (c : Call) : (s.call c).1.get? id = s.get? id := by
  by_cases same : id = c.id
  · subst same
    have refused : (s.call c).2 ≠ none := by
      rw [ne_eq, call_accepted_iff]
      rintro ⟨n, found, legal⟩
      exact not_ended_of_following found legal h
    rw [call_of_refused refused]
  · exact call_get?_of_ne same

/-- A call lists its node as completed just when the node ends by it. -/
theorem call_completed (s : RunState) (c : Call) :
    (s.call c).1.completed = s.completed ∧ (∀ id, (s.call c).1.Ended id ↔ s.Ended id) ∨
    (s.call c).1.completed = s.completed ++ [c.id] ∧ ¬s.Ended c.id ∧
      ∀ id, (s.call c).1.Ended id ↔ s.Ended id ∨ id = c.id := by
  rcases call_cases s c with ⟨e, same, -⟩ | ⟨n, found, legal, moved⟩
  · rw [same]
    exact .inl ⟨rfl, fun _ => Iff.rfl⟩
  have going := not_ended_of_following found legal
  have self : (s.call c).1.Ended c.id ↔ c.status.isTerminal = true := by
    have now := call_get?_self found (call_accepted_iff.mpr ⟨n, found, legal⟩)
    constructor
    · rintro ⟨m, found', terminal⟩
      obtain rfl := Option.some.inj (now.symm.trans found')
      exact terminal
    · exact fun terminal => ⟨_, now, terminal⟩
  have others : ∀ id ≠ c.id, ((s.call c).1.Ended id ↔ s.Ended id) := by
    intro id apart
    rw [Ended, call_get?_of_ne apart, Ended]
  have grown : (s.call c).1.completed =
      if c.status.isTerminal then s.completed ++ [c.id] else s.completed := by rw [moved, after]
  cases terminal : c.status.isTerminal with
  | false =>
      rw [terminal] at grown self
      refine .inl ⟨grown, fun id => ?_⟩
      by_cases same : id = c.id
      · subst same
        exact ⟨fun ended => absurd (self.mp ended) Bool.false_ne_true, fun old => absurd old going⟩
      · exact others id same
  | true =>
      rw [terminal] at grown self
      refine .inr ⟨grown, going, fun id => ?_⟩
      by_cases same : id = c.id
      · subst same
        exact ⟨fun _ => .inr rfl, fun _ => self.mpr rfl⟩
      · exact (others id same).trans (or_iff_left same).symm

theorem Sound.call (h : s.Sound) (c : Call) : (s.call c).1.Sound where
  distinct := by
    have ids : (s.call c).1.nodeIds.Nodup := call_nodeIds (s := s) ▸ h.distinct
    exact ids
  once := by
    rcases call_completed s c with ⟨same, -⟩ | ⟨grown, going, -⟩
    · exact same ▸ h.once
    · rw [grown]
      refine List.nodup_append.mpr ⟨h.once, List.nodup_singleton _, ?_⟩
      rintro id old _ now rfl
      exact going (List.mem_singleton.mp now ▸ (h.listed id).mp old)
  listed id := by
    rcases call_completed s c with ⟨same, ended⟩ | ⟨grown, -, ended⟩
    · rw [same, ended, h.listed]
    · rw [grown, ended, List.mem_append, List.mem_singleton, h.listed]
  tidy id n found := by
    rcases call_cases s c with ⟨e, same, -⟩ | ⟨m, known, legal, -⟩
    · rw [same] at found
      exact h.tidy id n found
    · by_cases same : id = c.id
      · subst same
        rw [call_get?_self known (call_accepted_iff.mpr ⟨m, known, legal⟩)] at found
        exact Option.some.inj found ▸ (h.tidy c.id m known).moved legal c.change
      · rw [call_get?_of_ne same] at found
        exact h.tidy id n found

theorem driven_append (s : RunState) (calls more : List Call) :
    s.driven (calls ++ more) = (s.driven calls).driven more := by
  induction calls generalizing s with
  | nil => rfl
  | cons c rest ih => exact ih (s.call c).1

theorem Sound.driven (h : s.Sound) (calls : List Call) : (s.driven calls).Sound := by
  induction calls generalizing s with
  | nil => exact h
  | cons c rest ih => exact ih (h.call c)

theorem driven_nodeIds (s : RunState) (calls : List Call) : (s.driven calls).nodeIds = s.nodeIds := by
  induction calls generalizing s with
  | nil => rfl
  | cons c rest ih => exact (ih (s.call c).1).trans call_nodeIds

theorem Ended.driven_get? (h : s.Ended id) (calls : List Call) :
    (s.driven calls).get? id = s.get? id := by
  induction calls generalizing s with
  | nil => rfl
  | cons c rest ih =>
      have same := h.call_get? c
      have still : (s.call c).1.Ended id := by
        rw [Ended, same]
        exact h
      exact (ih still).trans same

/-- Nodes are listed as completed in the order in which they have ended. -/
theorem driven_completed_pairwise (sound : s.Sound) (fresh : s.completed = []) (calls : List Call) :
    (s.driven calls).completed.Pairwise (s.EndsBefore calls) := by
  induction calls using List.reverseRecOn with
  | nil =>
      change s.completed.Pairwise _
      rw [fresh]
      exact List.Pairwise.nil
  | append_singleton rest c ih =>
      have longer : ∀ {a b}, s.EndsBefore rest a b → s.EndsBefore (rest ++ [c]) a b :=
        fun ⟨first, before, ends⟩ => ⟨first, before.trans (List.prefix_append _ _), ends⟩
      rw [driven_append]
      change ((s.driven rest).call c).1.completed.Pairwise _
      rcases call_completed (s.driven rest) c with ⟨same, -⟩ | ⟨grown, going, -⟩
      · rw [same]
        exact ih.imp longer
      · rw [grown]
        refine List.pairwise_append.mpr ⟨ih.imp longer, List.pairwise_singleton _ _, ?_⟩
        intro a old b now
        obtain rfl := List.mem_singleton.mp now
        exact ⟨rest, List.prefix_append _ _, ((sound.driven rest).listed a).mp old, going⟩

theorem Sound.withStatus_nodup (h : s.Sound) (status : NodeStatus) :
    (s.withStatus status).Nodup :=
  h.distinct.sublist (List.filter_sublist.map Prod.fst)

theorem Sound.mem_withStatus_iff (h : s.Sound) {status : NodeStatus} :
    id ∈ s.withStatus status ↔ s.hasStatus id status = true := by
  rw [withStatus, hasStatus_iff, List.mem_map]
  constructor
  · rintro ⟨⟨_, n⟩, mem, rfl⟩
    obtain ⟨entry, same⟩ := List.mem_filter.mp mem
    exact ⟨n, Table.get?_of_mem h.distinct entry, of_decide_eq_true same⟩
  · rintro ⟨n, found, same⟩
    exact ⟨(id, n), List.mem_filter.mpr ⟨Table.mem_of_get? found, decide_eq_true same⟩, rfl⟩

theorem Sound.succeededInOrder_perm (h : s.Sound) :
    s.succeededInOrder.Perm (s.withStatus .succeeded) := by
  refine (List.perm_ext_iff_of_nodup (h.once.filter _) (h.withStatus_nodup _)).mpr fun id => ?_
  rw [h.mem_withStatus_iff, List.mem_filter, h.listed]
  refine and_iff_right_of_imp fun succeeded => ?_
  obtain ⟨n, found, status⟩ := hasStatus_iff.mp succeeded
  exact ⟨n, found, by rw [status]; rfl⟩

variable {runId : String} {nodes : List (String × String)}

theorem mem_of_start {id : String} {n : NodeState} (found : (start runId nodes).get? id = some n) :
    ∃ x ∈ nodes, x.1 = id ∧ n = .initial x.1 x.2 := by
  obtain ⟨x, mem, same⟩ := List.mem_map.mp (Table.mem_of_mem_ofList (Table.mem_of_get? found))
  cases same
  exact ⟨x, mem, rfl, rfl⟩

theorem mem_nodeIds_start : id ∈ (start runId nodes).nodeIds ↔ id ∈ nodes.map Prod.fst := by
  change id ∈ Table.keys (Table.ofList _) ↔ _
  rw [Table.mem_keys_ofList, List.map_map]
  rfl

theorem sound_start (runId : String) (nodes : List (String × String)) :
    (start runId nodes).Sound where
  distinct := Table.distinct_ofList _
  once := List.nodup_nil
  listed id := by
    refine ⟨fun mem => absurd mem List.not_mem_nil, ?_⟩
    rintro ⟨n, found, terminal⟩
    obtain ⟨x, -, -, rfl⟩ := mem_of_start found
    cases terminal
  tidy id n found := by
    obtain ⟨x, -, -, rfl⟩ := mem_of_start found
    exact ⟨fun _ => ⟨rfl, rfl⟩, fun _ => rfl⟩

/-- How a state stands that some calls have led to from another one with the given nodes. -/
structure Lawful (ids : List String) (origin : RunState) (calls : List Call) (s : RunState) :
    Prop where
  /-- A call is refused just when its node is unknown or may not move so. -/
  refuses : ∀ c, (s.call c).2 ≠ none ↔
    c.id ∉ ids ∨ ∃ n, s.get? c.id = some n ∧ c.status ∉ n.status.following
  unmoved : ∀ c, (s.call c).2 ≠ none → (s.call c).1 = s
  moves : ∀ c, (s.call c).2 = none → ∃ n, s.get? c.id = some n ∧
    (s.call c).1.get? c.id = some (n.moved c.status c.change) ∧
    ∀ id ≠ c.id, (s.call c).1.get? id = s.get? id
  /-- No further calls change a node that has ended. -/
  settled : ∀ id more, s.Ended id → (s.driven more).get? id = s.get? id
  once : s.completed.Nodup
  listed : ∀ id, id ∈ s.completed ↔ s.Ended id
  ordered : s.completed.Pairwise (origin.EndsBefore calls)
  succeeded : s.succeededInOrder.Sublist s.completed ∧
    s.succeededInOrder.Perm (s.withStatus .succeeded)
  tidy : ∀ id n, s.get? id = some n → n.Tidy

/-- Whatever calls are made of the state of a run: it refuses those of unknown nodes and those that
no node may make, and then it stays as it is; a node that has ended is settled for good; the nodes
that have ended are listed, each once and in the order in which they did; and only what has
succeeded holds an output or a decision, and only what has failed an error. -/
theorem driven_lawful (runId : String) (nodes : List (String × String)) (calls : List Call) :
    Lawful (nodes.map Prod.fst) (start runId nodes) calls ((start runId nodes).driven calls) := by
  have sound := (sound_start runId nodes).driven calls
  have ordered := driven_completed_pairwise (sound_start runId nodes) rfl calls
  have known : ∀ id, id ∈ nodes.map Prod.fst ↔
      ∃ n, ((start runId nodes).driven calls).get? id = some n := by
    intro id
    have first : id ∈ (start runId nodes).nodeIds ↔ id ∈ nodes.map Prod.fst := mem_nodeIds_start
    rw [← first, ← driven_nodeIds _ calls]
    exact Table.mem_keys_iff
  generalize (start runId nodes).driven calls = s at sound ordered known ⊢
  refine ⟨fun c => ?_, fun c => call_of_refused, fun c accepted => ?_, fun id more ended =>
    ended.driven_get? more, sound.once, sound.listed, ordered,
    ⟨List.filter_sublist, sound.succeededInOrder_perm⟩, sound.tidy⟩
  · rw [ne_eq, call_accepted_iff, known]
    constructor
    · intro refused
      by_cases here : ∃ n, s.get? c.id = some n
      · obtain ⟨n, found⟩ := here
        exact .inr ⟨n, found, fun legal => refused ⟨n, found, legal⟩⟩
      · exact .inl here
    · rintro (unknown | ⟨n, found, stuck⟩) ⟨m, found', legal⟩
      · exact unknown ⟨m, found'⟩
      · obtain rfl := Option.some.inj (found.symm.trans found')
        exact stuck legal
  · obtain ⟨n, found, -⟩ := call_accepted_iff.mp accepted
    exact ⟨n, found, call_get?_self found accepted, fun id apart => call_get?_of_ne apart⟩

/-- Calls that are refused do not disturb the order in which nodes end. -/
example :
    let calls : List Call :=
      [⟨"alpha", .succeeded, .none⟩, ⟨"alpha", .ready, .none⟩, ⟨"ghost", .ready, .none⟩,
       ⟨"beta", .skipped, .none⟩, ⟨"alpha", .running, .none⟩, ⟨"beta", .failed, .none⟩,
       ⟨"alpha", .failed, .none⟩, ⟨"alpha", .failed, .none⟩]
    ((start "run" [("alpha", "tool"), ("beta", "template")]).driven calls).completed =
      ["beta", "alpha"] := by decide

end RunState

end Workflow
