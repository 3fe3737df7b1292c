import Workflow.Proofs.Json.Document
import Workflow.Proofs.Node.Mishap
import Workflow.Proofs.Text.Blank

/-! Values come back from a text. A model that is asked for a document and answers with the text
that stands for a list or an object in a template gives that value, also if it puts blanks or a
fence around the text. Only a value with an integer that is too long has no such text. -/

namespace Workflow

open Text

variable {v : Value}

theorem Template.stringify_container (container : v.isContainer = true) (json : v.IsJson) :
    stringify v = if v.hasLong then .error .longInteger
      else .ok (String.ofList (Json.render .line 0 v)) := by
  have written : Json.write .line v = if v.hasLong then .error .longInteger
      else .ok (String.ofList (Json.render .line 0 v)) := by
    rw [Json.write, Json.refusal?_eq (Json.refusal?_lenient_eq_none json)]
    cases v.hasLong <;> rfl
  cases json with
  | list _ => exact written
  | object _ => exact written
  | _ => cases container

namespace Node

variable {n : Node} {inputs : Inputs} {caps : Capabilities} {s : String}
  {cs info t : List Char}

def underFence (info cs : List Char) : List Char := fence ++ info ++ '\n' :: cs

def inFence (info cs : List Char) : List Char := underFence info (cs ++ '\n' :: fence)

/-- The last character is there and no blank. -/
def EndsSolid (cs : List Char) : Prop := ∃ c, cs.getLast? = some c ∧ isBlank c = false

theorem fence_prefix (info cs : List Char) : fence <+: underFence info cs := by
  rw [underFence, List.append_assoc]
  exact List.prefix_append _ _

theorem endsSolid_fence (cs : List Char) : EndsSolid (cs ++ '\n' :: fence) := by
  refine ⟨'\x60', ?_, by decide⟩
  rw [List.getLast?_append]
  rfl

theorem trimmed_underFence (solid : EndsSolid cs) : Trimmed (underFence info cs) := by
  obtain ⟨c, last, end'⟩ := solid
  have same : (underFence info cs).getLast? = some c := by
    simp [underFence, List.getLast?_append, List.getLast?_cons, last]
  constructor
  · rintro c ⟨⟩
    decide
  · intro c' found
    rwa [← Option.some.inj (same.symm.trans found)]

theorem afterLine_underFence (plain : '\n' ∉ info) : afterLine (underFence info cs) = cs := by
  have passed : ∀ c ∈ fence ++ info, decide (c ≠ '\n') = true := by
    intro c mem
    have inside : c ∈ fence ∨ c ∈ info := List.mem_append.mp mem
    rcases inside with mark | letter
    · rcases List.eq_of_mem_replicate (n := 3) mark with rfl
      rfl
    · exact decide_eq_true fun same => plain (same ▸ letter)
  rw [afterLine, underFence, List.dropWhile_append_of_pos passed]
  rfl

theorem dropBack_of_endsSolid (solid : EndsSolid cs) : dropBack isBlank cs = cs := by
  obtain ⟨c, last, end'⟩ := solid
  refine dropBack_of_last fun c' found => ?_
  rwa [← Option.some.inj (last.symm.trans found)]

theorem dropClosing_of_not (solid : EndsSolid cs) (unclosed : ¬fence <:+ cs) :
    dropClosing cs = cs := by
  rw [dropClosing, dropBack_of_endsSolid solid]
  simp [unclosed]

theorem dropClosing_fence (cs : List Char) : dropClosing (cs ++ '\n' :: fence) = cs ++ ['\n'] := by
  have split : cs ++ '\n' :: fence = cs ++ ['\n'] ++ fence := by simp
  have closed : fence.isSuffixOf (cs ++ ['\n'] ++ fence) = true :=
    List.isSuffixOf_iff_suffix.mpr (List.suffix_append _ _)
  have length : (cs ++ ['\n'] ++ fence).length - 3 = (cs ++ ['\n']).length := by simp [fence]
  rw [dropClosing, dropBack_of_endsSolid (endsSolid_fence cs), split, if_pos closed, length,
    List.take_left]

theorem stripFence_of_not (bare : ¬fence <+: trimBlank s.toList) :
    stripFence s = String.ofList (trimBlank s.toList) := by
  simp [stripFence, bare, trimBlank_of_trimmed (trimmed_trimBlank s.toList)]

theorem stripFence_underFence (plain : '\n' ∉ info) (solid : EndsSolid cs)
    (padded : Padded (underFence info cs) s.toList) :
    stripFence s = String.ofList (trimBlank (dropClosing cs)) := by
  have opened : fence <+: underFence info cs := fence_prefix info cs
  rw [stripFence, padded.trimBlank_eq, trimBlank_of_trimmed (trimmed_underFence solid)]
  simp [opened, afterLine_underFence plain]

/-- A closed fence makes no difference to what is left of a text. -/
theorem stripFence_inFence (plain : '\n' ∉ info) (padded : Padded (inFence info cs) s.toList) :
    stripFence s = String.ofList (trimBlank cs) := by
  have newline : AllBlank ['\n'] := by decide
  rw [stripFence_underFence plain (endsSolid_fence cs) padded, dropClosing_fence,
    trimBlank_append newline]

/-- The text starts and ends with what is neither a blank nor a mark of a fence. -/
structure Unmarked (cs : List Char) : Prop where
  first : ∃ c, cs.head? = some c ∧ isBlank c = false ∧ c ≠ '\x60'
  last : ∃ c, cs.getLast? = some c ∧ isBlank c = false ∧ c ≠ '\x60'

namespace Unmarked

theorem endsSolid (h : Unmarked cs) : EndsSolid cs := by
  obtain ⟨c, last, solid, -⟩ := h.last
  exact ⟨c, last, solid⟩

theorem trimmed (h : Unmarked cs) : Trimmed cs := by
  obtain ⟨⟨c, head, front, -⟩, ⟨d, last, back, -⟩⟩ := h
  constructor
  · intro c' head'
    rwa [← Option.some.inj (head.symm.trans head')]
  · intro d' last'
    rwa [← Option.some.inj (last.symm.trans last')]

theorem not_opened (h : Unmarked cs) : ¬fence <+: cs := by
  rintro ⟨rest, rfl⟩
  obtain ⟨c, head, -, other⟩ := h.first
  exact other (Option.some.inj head).symm

theorem not_closed (h : Unmarked cs) : ¬fence <:+ cs := by
  rintro ⟨front, rfl⟩
  obtain ⟨c, last, -, other⟩ := h.last
  rw [List.getLast?_append] at last
  exact other (Option.some.inj last).symm

end Unmarked

theorem unmarked_render (container : v.isContainer = true) (style : Json.Style) (level : Nat) :
    Unmarked (Json.render style level v) := by
  have between : ∀ {first last : Char} (body : List Char), isBlank first = false ∧ first ≠ '\x60' →
      isBlank last = false ∧ last ≠ '\x60' → Unmarked (first :: (body ++ [last])) := by
    intro first last body opens closes
    refine ⟨⟨first, rfl, opens⟩, ⟨last, ?_, closes⟩⟩
    rw [← List.cons_append, List.getLast?_concat]
  obtain ⟨body, list | object⟩ := Json.render_container container style level
  · rw [list]
    exact between body (by decide) (by decide)
  · rw [object]
    exact between body (by decide) (by decide)

/-- What a model may put around a text: blanks, or a fence, closed or not, with blanks around. -/
def Wraps (t cs : List Char) : Prop :=
  Padded t cs ∨ ∃ info, '\n' ∉ info ∧ (Padded (underFence info t) cs ∨ Padded (inFence info t) cs)

theorem stripFence_wraps (unmarked : Unmarked t) (wraps : Wraps t s.toList) :
    stripFence s = String.ofList t := by
  have whole : trimBlank t = t := trimBlank_of_trimmed unmarked.trimmed
  obtain bare | ⟨info, plain, under | within⟩ := wraps
  · have trimmed : trimBlank s.toList = t := bare.trimBlank_eq.trans whole
    rw [stripFence_of_not (trimmed ▸ unmarked.not_opened), trimmed]
  · rw [stripFence_underFence plain unmarked.endsSolid under,
      dropClosing_of_not unmarked.endsSolid unmarked.not_closed, whole]
  · rw [stripFence_inFence plain within, whole]

/-- A model is asked for a document and answers with a text. -/
def Answered (n : Node) (inputs : Inputs) (caps : Capabilities) (s : String) : Prop :=
  ∃ c, c.responseFormat = .json ∧ n.Completed inputs caps c (.value (.text s))

theorem outcome_of_answered (answered : n.Answered inputs caps s) :
    (n.execute inputs caps).outcome = n.readCompletion .json (.text s) := by
  obtain ⟨c, format, completed⟩ := answered
  rw [outcome_of_completed completed, format, ofAnswer]

/-- A list or an object has a text unless an integer in it is too long, and the text comes back as
the value, also with blanks or a fence around it; and whatever is answered without a fence, a fence
around it makes no difference. -/
theorem written_values_read_back (n : Node) :
    (∀ v : Value, v.isContainer = true → v.IsJson → v.Settled →
      (v.hasLong = false → ∃ t, Template.stringify v = .ok t) ∧
      (v.hasLong = true → Template.stringify v = .error .longInteger) ∧
      ∀ t, Template.stringify v = .ok t → ∀ s, Wraps t.toList s.toList →
        ∀ inputs caps, n.Answered inputs caps s → (n.execute inputs caps).outcome = .value v) ∧
    ∀ j s info, ¬fence <+: trimBlank j.toList → '\n' ∉ info →
      Padded (inFence info j.toList) s.toList →
        ∀ inputs caps inputs' caps', n.Answered inputs caps s → n.Answered inputs' caps' j →
          (n.execute inputs caps).outcome = (n.execute inputs' caps').outcome := by
  constructor
  · intro v container json settled
    have text := Template.stringify_container container json
    cases long : v.hasLong with
    | true =>
        rw [long] at text
        refine ⟨fun short => (nomatch short), fun _ => text, fun t told => ?_⟩
        cases text.symm.trans told
    | false =>
        rw [long] at text
        refine ⟨fun _ => ⟨_, text⟩, fun long => (nomatch long), fun t told => ?_⟩
        cases text.symm.trans told
        intro s wraps inputs caps answered
        rw [String.toList_ofList] at wraps
        have document : Json.read (stripFence s) = .ok v := by
          rw [stripFence_wraps (unmarked_render container _ _) wraps,
            Json.read_line json settled long]
        rw [outcome_of_answered answered, readCompletion, document]
  · intro j s info bare plain fenced inputs caps inputs' caps' answered answered'
    have same : stripFence s = stripFence j := by
      rw [stripFence_inFence plain fenced, stripFence_of_not bare]
    rw [outcome_of_answered answered, outcome_of_answered answered', readCompletion,
      readCompletion, same]

def scribe : Node :=
  ⟨"scribe", none, [], .llm ⟨⟨"provider", "model"⟩, "Write.", none, none, none, .json⟩⟩

def echo (s : String) : String → String → ModelRef → Table Value → Reply Value :=
  fun _ _ _ _ => .now (.value (.text s))

def answering (s : String) : Capabilities := ⟨some (echo s), none, none⟩

theorem answered_scribe (s : String) : scribe.Answered unfed (answering s) s := by
  have given : (answering s).completion = some (echo s) := rfl
  have asked : completionRequest ⟨⟨"provider", "model"⟩, "Write.", none, none, none, .json⟩ unfed =
      .ok ("Write.", [("response_format", .text "json")]) := by
    cbv
  exact ⟨_, rfl, .intro rfl given asked⟩

/-- A value whose texts hold fences, brackets, line ends and a character beyond sixteen bits. -/
def thorny : Value :=
  .object
    [("\x60\x60\x60", .list [.text "\n\x60\x60\x60\n\x7d", .text "😀", .int (-7), .null]),
     ("]", .object [])]

def thornyText : String :=
  "\x7b\"\x60\x60\x60\": [\"\\n\x60\x60\x60\\n\x7d\", \"\\ud83d\\ude00\", -7, null], " ++
    "\"]\": \x7b\x7d\x7d"

theorem written_values_read_back_thorny :
    (thorny.isContainer = true ∧ thorny.IsJson ∧ thorny.Settled) ∧
      Template.stringify thorny = .ok thornyText ∧
      (scribe.execute unfed
        (answering (" \x60\x60\x60json\n" ++ thornyText ++ "\n\x60\x60\x60\n"))).outcome =
        .value thorny ∧
      (scribe.execute unfed (answering "\x60\x60\x60\nno\n\x60\x60\x60")).outcome =
        (scribe.execute unfed (answering "no")).outcome := by
  have json : thorny.IsJson := by
    have items : Value.IsJson
        (.list [.text "\n\x60\x60\x60\n\x7d", .text "😀", .int (-7), .null]) :=
      .list (by simp [Value.IsJson.text, Value.IsJson.int, Value.IsJson.null])
    have empty : Value.IsJson (.object []) := .object (List.forall_mem_nil _)
    exact .object (by simp [items, empty])
  have settled : thorny.Settled := rfl
  have text : Template.stringify thorny = .ok thornyText := by cbv
  obtain ⟨back, same⟩ := written_values_read_back scribe
  refine ⟨⟨rfl, json, settled⟩, text, ?_, ?_⟩
  · obtain ⟨-, -, comes⟩ := back thorny rfl json settled
    refine comes _ text _ (.inr ⟨"json".toList, by decide, .inr ⟨[' '], ['\n'], by decide, by decide, ?_⟩⟩)
      unfed _ (answered_scribe _)
    simp [inFence, underFence, fence]
  · refine same "no" _ [] (by decide) (by decide) ⟨[], [], by decide, by decide, ?_⟩ unfed _ unfed _
      (answered_scribe _) (answered_scribe _)
    rfl

end Node

end Workflow
