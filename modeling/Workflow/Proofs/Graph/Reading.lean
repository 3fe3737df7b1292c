import Workflow.Graph.Reading
import Workflow.Proofs.Schema.Record

/-! What reading makes sure of. In a graph that was read no table repeats a key, at whatever depth,
and the numbers of a configuration are within their bounds. -/

namespace Workflow

open Schema

/-! The values that may have any shape. -/

def Branch.loose (b : Branch) : List Value := b.clauses.map Clause.value

def NodeConfig.loose : NodeConfig → List Value
  | .tool c => [.object c.arguments]
  | .condition c => c.branches.flatMap Branch.loose
  | .http c => [.object c.query, c.body]
  | _ => []

def Node.loose (n : Node) : List Value := .object n.display :: n.config.loose

/-- The values of a graph that may have any shape: what is displayed of its nodes and noted of
itself, the arguments of tools, the queries and bodies of requests and the values of clauses. -/
def Graph.loose (g : Graph) : List Value := .object g.metadata :: g.nodes.flatMap Node.loose

structure LlmConfig.Bounded (c : LlmConfig) : Prop where
  heat : ∀ x ∈ c.temperature, x.lessEq hottest = true ∧ x.less .zero = false
  tokens : ∀ n ∈ c.maxTokens, 1 ≤ n

def NodeConfig.Sound : NodeConfig → Prop
  | .llm c => c.Bounded
  | .http c => c.headers.Distinct
  | _ => True

structure Graph.Sound (g : Graph) : Prop where
  settled : ∀ v ∈ g.loose, v.Settled
  configs : ∀ n ∈ g.nodes, n.config.Sound

section

variable {origin : Origin} {v : Value}

theorem settled_of_table {f : Field} {ms t : Table Value}
    (h : f.withDefault ms [] (readTable readAny) = .good t) : Value.Settled (.object t) := by
  rcases good_of_withDefault h with rfl | ⟨v, read⟩
  · exact Value.settled_object_iff.mpr ⟨List.nodup_nil, by simp⟩
  · exact settled_of_readTable read

theorem settled_of_any {f : Field} {ms : Table Value} {w : Value}
    (h : f.withDefault ms .null readAny = .good w) : w.Settled := by
  rcases good_of_withDefault h with rfl | ⟨v, read⟩
  · rfl
  · exact settled_of_readAny read

theorem Clause.settled {c : Clause} (h : Clause.read v = .good c) : c.value.Settled := by
  obtain ⟨ms, h⟩ := good_of_strictRecord h
  simp only [Checked.seq_eq_good, Checked.map_eq_good] at h
  obtain ⟨_, w, ⟨_, _, ⟨_, -, rfl⟩, -, rfl⟩, value, rfl⟩ := h
  exact settled_of_any value

theorem Branch.settled {b : Branch} (h : Branch.read v = .good b) : ∀ w ∈ b.loose, w.Settled := by
  obtain ⟨ms, h⟩ := good_of_strictRecord h
  simp only [Checked.seq_eq_good, Checked.map_eq_good] at h
  obtain ⟨_, _, ⟨_, clauses, ⟨_, -, rfl⟩, read, rfl⟩, -, rfl⟩ := h
  refine List.forall_mem_map.mpr fun c mem => ?_
  rcases good_of_withDefault read with rfl | ⟨v, read⟩
  · cases mem
  · obtain ⟨v, clause⟩ := good_of_readList read c mem
    exact Clause.settled clause

theorem LlmConfig.readTemperature_eq_good {x : Double} : readTemperature origin v = .good x ↔
    readDouble origin v = .good x ∧ x.lessEq hottest = true ∧ x.less .zero = false := by
  unfold readTemperature
  rw [Checked.andThen_eq_good]
  constructor
  · rintro ⟨y, read, good⟩
    split at good
    · cases good
    · split at good
      · cases good
      · cases good
        simp_all
  · rintro ⟨read, cool, warm⟩
    exact ⟨x, read, by simp [cool, warm]⟩

theorem LlmConfig.readMaxTokens_eq_good {n : Int} :
    readMaxTokens v = .good n ↔ readInt v = .good n ∧ 1 ≤ n := by
  unfold readMaxTokens
  rw [Checked.andThen_eq_good]
  constructor
  · rintro ⟨m, read, good⟩
    split at good
    · cases good
      exact ⟨read, ‹_›⟩
    · cases good
  · rintro ⟨read, some'⟩
    exact ⟨n, read, if_pos some'⟩

theorem LlmConfig.bounded {c : LlmConfig} (h : LlmConfig.read origin v = .good c) : c.Bounded := by
  obtain ⟨ms, h⟩ := good_of_strictRecord h
  simp only [Checked.seq_eq_good, Checked.map_eq_good] at h
  obtain ⟨_, _, ⟨_, tokens, ⟨_, heat, ⟨_, _, ⟨_, _, ⟨_, -, rfl⟩, -, rfl⟩, -, rfl⟩, hot, rfl⟩, most,
    rfl⟩, -, rfl⟩ := h
  constructor
  · intro x mem
    rcases good_of_withDefault hot with rfl | ⟨v, read⟩
    · cases mem
    · obtain ⟨v, read⟩ := good_of_orNull read x mem
      exact (readTemperature_eq_good.mp read).2
  · intro n mem
    rcases good_of_withDefault most with rfl | ⟨v, read⟩
    · cases mem
    · obtain ⟨v, read⟩ := good_of_orNull read n mem
      exact (readMaxTokens_eq_good.mp read).2

theorem ToolConfig.settled {c : ToolConfig} (h : ToolConfig.read v = .good c) :
    Value.Settled (.object c.arguments) := by
  obtain ⟨ms, h⟩ := good_of_strictRecord h
  simp only [Checked.seq_eq_good, Checked.map_eq_good] at h
  obtain ⟨_, arguments, ⟨_, _, ⟨_, -, rfl⟩, -, rfl⟩, read, rfl⟩ := h
  exact settled_of_table read

theorem ConditionConfig.settled {c : ConditionConfig} (h : ConditionConfig.read v = .good c) :
    ∀ b ∈ c.branches, ∀ w ∈ b.loose, w.Settled := by
  obtain ⟨ms, h⟩ := good_of_strictRecord h
  simp only [Checked.seq_eq_good, Checked.map_eq_good] at h
  obtain ⟨_, _, ⟨_, others, ⟨first, front, rfl⟩, back, rfl⟩, -, rfl⟩ := h
  refine List.forall_mem_cons.mpr ⟨?_, fun b mem => ?_⟩
  · rcases good_of_withDefault front with rfl | ⟨v, read⟩
    · simp [Branch.loose]
    · exact Branch.settled read
  · rcases good_of_withDefault back with rfl | ⟨v, read⟩
    · cases mem
    · obtain ⟨v, branch⟩ := good_of_readList read b mem
      exact Branch.settled branch

theorem HttpConfig.sound {c : HttpConfig} (h : HttpConfig.read v = .good c) :
    c.headers.Distinct ∧ Value.Settled (.object c.query) ∧ c.body.Settled := by
  obtain ⟨ms, h⟩ := good_of_strictRecord h
  simp only [Checked.seq_eq_good, Checked.map_eq_good] at h
  obtain ⟨_, _, ⟨_, body, ⟨_, query, ⟨_, headers, ⟨_, _, ⟨_, -, rfl⟩, -, rfl⟩, names, rfl⟩, asked,
    rfl⟩, sent, rfl⟩, -, rfl⟩ := h
  refine ⟨?_, settled_of_table asked, settled_of_any sent⟩
  rcases good_of_withDefault names with rfl | ⟨v, read⟩
  · exact List.nodup_nil
  · exact (good_of_readTable read).1

theorem Node.sound_of_config {ms : Table Value} {kind : NodeKind} {config : NodeConfig}
    (h : readConfig origin ms kind = .good config) :
    (∀ w ∈ config.loose, w.Settled) ∧ config.Sound := by
  cases kind with
  | llm =>
      obtain ⟨c, read, rfl⟩ := Checked.map_eq_good.mp h
      obtain ⟨v, read⟩ := good_of_required read
      exact ⟨by simp [NodeConfig.loose], LlmConfig.bounded read⟩
  | tool =>
      obtain ⟨c, read, rfl⟩ := Checked.map_eq_good.mp h
      obtain ⟨v, read⟩ := good_of_required read
      exact ⟨List.forall_mem_singleton.mpr (ToolConfig.settled read), trivial⟩
  | http =>
      obtain ⟨c, read, rfl⟩ := Checked.map_eq_good.mp h
      obtain ⟨v, read⟩ := good_of_required read
      obtain ⟨headers, query, body⟩ := HttpConfig.sound read
      exact ⟨by simpa [NodeConfig.loose] using ⟨query, body⟩, headers⟩
  | condition =>
      obtain ⟨c, read, rfl⟩ := Checked.map_eq_good.mp h
      refine ⟨fun w mem => ?_, trivial⟩
      obtain ⟨b, mem, here⟩ := List.mem_flatMap.mp mem
      rcases good_of_withDefault read with rfl | ⟨v, read⟩
      · obtain rfl := List.mem_singleton.mp mem
        cases here
      · exact ConditionConfig.settled read b mem w here
  | _ =>
      obtain ⟨c, -, rfl⟩ := Checked.map_eq_good.mp h
      exact ⟨by simp [NodeConfig.loose], trivial⟩

theorem Node.sound_of_read {n : Node} (h : Node.read origin v = .good n) :
    (∀ w ∈ n.loose, w.Settled) ∧ n.config.Sound := by
  obtain ⟨kind, v, h⟩ : ∃ kind v, readOfKind origin kind v = .good n := by
    unfold read at h
    split at h
    · cases h
    · split at h
      · cases h
      · split at h
        · exact ⟨_, _, Checked.within_eq_good.mp h⟩
        · cases h
      · cases h
  obtain ⟨ms, h⟩ := good_of_strictRecord h
  simp only [NodeHeader.readMembers, Checked.seq_eq_good, Checked.map_eq_good] at h
  obtain ⟨_, config, ⟨_, _, ⟨_, ⟨_, display, ⟨_, _, ⟨_, -, rfl⟩, -, rfl⟩, shown, rfl⟩, rfl⟩, -,
    rfl⟩, read, rfl⟩ := h
  obtain ⟨settled, sound⟩ := sound_of_config read
  exact ⟨List.forall_mem_cons.mpr ⟨settled_of_table shown, settled⟩, sound⟩

theorem Graph.sound_of_read {g : Graph} (h : Graph.read origin v = .good g) : g.Sound := by
  obtain ⟨ms, h⟩ := good_of_strictRecord h
  simp only [Checked.seq_eq_good, Checked.map_eq_good] at h
  obtain ⟨_, metadata, ⟨_, _, ⟨_, nodes, ⟨_, _, ⟨_, -, rfl⟩, -, rfl⟩, read, rfl⟩, -, rfl⟩, noted,
    rfl⟩ := h
  have each : ∀ n ∈ nodes, (∀ w ∈ n.loose, w.Settled) ∧ n.config.Sound := by
    intro n mem
    rcases good_of_withDefault read with rfl | ⟨v, read⟩
    · cases mem
    · obtain ⟨v, node⟩ := good_of_readList read n mem
      exact Node.sound_of_read node
  refine ⟨List.forall_mem_cons.mpr ⟨settled_of_table noted, ?_⟩, fun n mem => (each n mem).2⟩
  intro w mem
  obtain ⟨n, mem, here⟩ := List.mem_flatMap.mp mem
  exact (each n mem).1 w here

end

end Workflow
