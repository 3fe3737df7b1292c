import Workflow.Schema.Scalar

/-! Records: objects with declared fields. A field may be given under its own name or under the
name that it has in documents. Where both are given the latter counts, and the former is a key that
no field declares. Of members under one key the last one counts. -/

namespace Workflow.Schema

structure Field where
  name : String
  documentName : String
  deriving DecidableEq

namespace Field

/-- A field with one name only. -/
def plain (name : String) : Field := ⟨name, name⟩

variable {α : Type}

/-- The key that the field is given under, and its value: the last one, if the key is repeated. -/
def find? (f : Field) (ms : Table Value) : Option (String × Value) :=
  match ms.last? f.documentName with
  | some v => some (f.documentName, v)
  | none => (ms.last? f.name).map (f.name, ·)

/-- A field that has to be given. -/
def required (f : Field) (ms : Table Value) (read : Value → Checked α) : Checked α :=
  match f.find? ms with
  | some (key, v) => (read v).within (.key key)
  | none => (Checked.fail .missing).within (.key f.documentName)

/-- A field with a value of its own for when it is not given. -/
def withDefault (f : Field) (ms : Table Value) (default : α) (read : Value → Checked α) :
    Checked α :=
  match f.find? ms with
  | some (key, v) => (read v).within (.key key)
  | none => .good default

end Field

/-- The keys of an object that no field takes. -/
def unclaimed (fields : List Field) (ms : Table Value) : List String :=
  let claimed := fields.filterMap fun f => (f.find? ms).map Prod.fst
  ms.keys.filter fun key => !claimed.contains key

/-- Refuses the keys that no field takes. -/
def noExtras (fields : List Field) (ms : Table Value) : Checked Unit :=
  match unclaimed fields ms with
  | [] => .good ()
  | keys => .faulty (keys.map fun key => ⟨.extraForbidden, [.key key]⟩)

/-- A record with declared fields only. The issues of the fields come first. -/
def strictRecord {α : Type} (fields : List Field) (read : Table Value → Checked α) (v : Value) :
    Checked α :=
  match v.members? with
  | some ms => read ms <* noExtras fields ms
  | none => .fail .modelType

/-- A record that may hold other keys, which are passed over. -/
def openRecord {α : Type} (read : Table Value → Checked α) (v : Value) : Checked α :=
  match v.members? with
  | some ms => read ms
  | none => .fail .modelType

/-- One of a few words. -/
def readWord {α : Type} (kind : IssueKind) (ofWord? : String → Option α) : Value → Checked α
  | .text s =>
    match ofWord? s with
    | some a => .good a
    | none => .fail kind
  | _ => .fail kind

end Workflow.Schema
