import Mathlib
import Workflow.Http.Exchange
import Workflow.Proofs.Text.Encoding
import Workflow.Proofs.Text.Split

/-! What becomes of an answer. It is a response with the document that its body holds, if its type
mentions JSON, or else with the text of its body; but a body that is expected to be a document and
whose bytes are no text is a fault, although its text, with replacement characters, could be read,
and so is one whose document has an integer that is too long. -/

namespace Workflow.Http

open Text

variable {transport : Transport} {method url t : String} {headers : Headers} {body v : Value}
  {received : Received} {bytes : List Nat}

/-- Bytes that are a text in the encoding that they tell, and this text is a document. -/
def Holds (bytes : List Nat) (v : Value) : Prop :=
  ∃ points, Spelled bytes points ∧ Json.read (ofPoints points) = .ok v

/-- The type of an answer mentions JSON, and there is something to read. -/
def Received.Promises (r : Received) : Prop :=
  "json".toList <:+: r.headers.contentType.toList ∧ r.bytes ≠ []

/-- A document is expected in bytes that are no text. -/
def Received.IsGarbled (r : Received) : Prop := r.Promises ∧ ∀ points, ¬Spelled r.bytes points

/-- A document is expected in bytes that are a text, and in the text an integer is too long. -/
def Received.IsOversized (r : Received) : Prop :=
  r.Promises ∧ ∃ points e, Spelled r.bytes points ∧ Json.read (ofPoints points) = .error e ∧
    e.problem.isOfSyntax = false

/-- A request is sent, and an answer to it comes whose location, if it tells one, can be
followed. -/
def Delivers (transport : Transport) (method url : String) (headers : Headers) (body : Value)
    (received : Received) : Prop :=
  ∃ sent, prepare method url headers body = .ok sent ∧ transport sent = .ok received ∧
    checkPlace sent.address = .ok () ∧ checkLocation sent received = .ok ()

theorem Received.isJson_iff {r : Received} : r.isJson = true ↔ r.Promises := by
  simp [isJson, Promises, occursIn_iff]

theorem exchange_of_delivers (delivered : Delivers transport method url headers body received) :
    exchange transport method url headers body = received.response := by
  obtain ⟨sent, prepared, carried, placed, located⟩ := delivered
  simp only [exchange, prepared, carried, placed, located, bind, Except.bind]

theorem readBytes_of_not_spelled (whole : ∀ b ∈ bytes, b < 0x100)
    (none : ∀ points, ¬Spelled bytes points) : ∃ f, readBytes bytes = .error f := by
  cases found : readBytes bytes with
  | error f => exact ⟨f, rfl⟩
  | ok s =>
      obtain ⟨points, spelled, -⟩ := (readBytes_eq_ok_iff whole).mp found
      exact absurd spelled (none points)

namespace Received

theorem body_of_holds {r : Received} (whole : ∀ b ∈ r.bytes, b < 0x100) (promised : r.Promises)
    (holds : Holds r.bytes v) : r.body = .ok v := by
  obtain ⟨points, spelled, parsed⟩ := holds
  have document := (readBytes_eq_ok_iff whole).mpr ⟨points, spelled, rfl⟩
  simp [body, isJson_iff.mpr promised, document, parsed, bind, Except.bind, Except.mapError, pure,
    Except.pure]

theorem body_of_not_holds {r : Received} (whole : ∀ b ∈ r.bytes, b < 0x100)
    (readable : r.text = .ok t) (sound : ¬r.IsGarbled) (short : ¬r.IsOversized)
    (other : ¬(r.Promises ∧ ∃ v, Holds r.bytes v)) : r.body = .ok (.text t) := by
  by_cases promised : r.Promises
  · obtain ⟨points, spelled⟩ : ∃ points, Spelled r.bytes points := by
      by_contra none
      exact sound ⟨promised, not_exists.mp none⟩
    have document := (readBytes_eq_ok_iff whole).mpr ⟨points, spelled, rfl⟩
    cases parsed : Json.read (ofPoints points) with
    | ok v => exact absurd ⟨promised, v, points, spelled, parsed⟩ other
    | error e =>
        have syntax' : e.problem.isOfSyntax = true := by
          by_contra long
          exact short ⟨promised, points, e, spelled, parsed, Bool.not_eq_true _ ▸ long⟩
        simp [body, isJson_iff.mpr promised, document, parsed, syntax', readable, bind, Except.bind,
          Except.mapError, pure, Except.pure]
  · have plain : r.isJson = false := by
      rw [← Bool.not_eq_true, isJson_iff]
      exact promised
    simp [body, plain, readable, bind, Except.bind, pure, Except.pure]

theorem body_of_isGarbled {r : Received} (whole : ∀ b ∈ r.bytes, b < 0x100)
    (garbled : r.IsGarbled) : ∃ f, r.body = .error (.undecodable f) := by
  obtain ⟨f, refused⟩ := readBytes_of_not_spelled whole garbled.2
  exact ⟨f, by
    simp [body, isJson_iff.mpr garbled.1, refused, bind, Except.bind, Except.mapError]⟩

theorem body_of_isOversized {r : Received} (whole : ∀ b ∈ r.bytes, b < 0x100)
    (oversized : r.IsOversized) : ∃ e, r.body = .error (.unreadable e) ∧
      ∃ digits, e.problem = .longInteger digits := by
  obtain ⟨promised, points, e, spelled, parsed, long⟩ := oversized
  have document := (readBytes_eq_ok_iff whole).mpr ⟨points, spelled, rfl⟩
  refine ⟨e, ?_, ?_⟩
  · simp [body, isJson_iff.mpr promised, document, parsed, long, bind, Except.bind, Except.mapError,
      throw, throwThe, MonadExceptOf.throw]
  · cases problem : e.problem <;> rw [problem] at long <;> first | exact ⟨_, rfl⟩ | cases long

theorem response_of_body {r : Received} (found : r.body = .ok v) :
    r.response = .ok ⟨r.status, r.headers.table, v⟩ := by
  simp [response, found, bind, Except.bind, pure, Except.pure]

theorem response_of_fault {r : Received} {f : Fault} (failed : r.body = .error f) :
    r.response = .error f := by
  simp [response, failed, bind, Except.bind]

end Received

/-- Whatever its status, its headers and its bytes are, an answer becomes a response with its
document or with its text, unless a document is expected in bytes that are no text or that have an
integer in them that is too long. -/
theorem answer_becomes_response
    (delivered : Delivers transport method url headers body received)
    (whole : ∀ b ∈ received.bytes, b < 0x100) (readable : received.text = .ok t) :
    (∀ v, received.Promises → Holds received.bytes v →
      exchange transport method url headers body =
        .ok ⟨received.status, received.headers.table, v⟩) ∧
    (¬(received.Promises ∧ ∃ v, Holds received.bytes v) → ¬received.IsGarbled →
      ¬received.IsOversized → exchange transport method url headers body =
        .ok ⟨received.status, received.headers.table, .text t⟩) ∧
    (received.IsGarbled →
      ∃ f, exchange transport method url headers body = .error (.undecodable f)) ∧
    (received.IsOversized →
      ∃ e, exchange transport method url headers body = .error (.unreadable e) ∧
        ∃ digits, e.problem = .longInteger digits) := by
  rw [exchange_of_delivers delivered]
  refine ⟨fun v promised holds => ?_, fun other sound short => ?_, fun garbled => ?_,
    fun oversized => ?_⟩
  · exact Received.response_of_body (Received.body_of_holds whole promised holds)
  · exact Received.response_of_body (Received.body_of_not_holds whole readable sound short other)
  · obtain ⟨f, failed⟩ := Received.body_of_isGarbled whole garbled
    exact ⟨f, Received.response_of_fault failed⟩
  · obtain ⟨e, failed, long⟩ := Received.body_of_isOversized whole oversized
    exact ⟨e, Received.response_of_fault failed, long⟩

/-- An answer whose type is that of JSON and whose only byte begins no character. -/
def scrambled : Received :=
  ⟨200, [("content-type", "application/json"), ("content-length", "1")], [0xff], ⟨0⟩⟩

theorem answer_becomes_response_scrambled :
    scrambled.text = .ok "\ufffd" ∧
      ∃ f, exchange (fun _ => .ok scrambled) "GET" "http://h/" [] .null =
        .error (.undecodable f) := by
  have delivered : Delivers (fun _ => .ok scrambled) "GET" "http://h/" [] .null scrambled :=
    ⟨⟨"GET", ⟨['h', 't', 't', 'p'], [], ['h'], none, ['/'], none, none⟩, [], ""⟩, by cbv, rfl,
      rfl, rfl⟩
  have whole : ∀ b ∈ scrambled.bytes, b < 0x100 := by decide
  have readable : scrambled.text = .ok "\ufffd" := by cbv
  have garbled : scrambled.IsGarbled := by
    refine ⟨Received.isJson_iff.mp (by cbv), fun points spelled => ?_⟩
    cases (readBytes_eq_ok_iff whole).mpr ⟨points, spelled, rfl⟩
  exact ⟨readable, (answer_becomes_response delivered whole readable).2.2.1 garbled⟩

end Workflow.Http
