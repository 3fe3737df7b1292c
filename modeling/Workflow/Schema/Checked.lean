import Workflow.Value.Basic

/-! What can be wrong with the data of a record, and where; and the outcome of a check: what was
read, or every issue that was found on the way. -/

namespace Workflow.Schema

inductive IssueKind where
  | missing
  | extraForbidden
  | stringType
  | listType
  | dictType
  | modelType
  | modelAttributesType
  | boolType
  | boolParsing
  | intType
  | intParsing
  | intParsingSize
  | intFromFloat
  | finiteNumber
  | floatType
  | floatParsing
  | greaterThan
  | greaterThanEqual
  | lessThanEqual
  | literalError
  | enumError
  | unionTagInvalid
  | unionTagNotFound
  | jsonInvalid
  deriving DecidableEq

/-- The code of an issue in reports. -/
def IssueKind.code : IssueKind → String
  | .missing => "missing"
  | .extraForbidden => "extra_forbidden"
  | .stringType => "string_type"
  | .listType => "list_type"
  | .dictType => "dict_type"
  | .modelType => "model_type"
  | .modelAttributesType => "model_attributes_type"
  | .boolType => "bool_type"
  | .boolParsing => "bool_parsing"
  | .intType => "int_type"
  | .intParsing => "int_parsing"
  | .intParsingSize => "int_parsing_size"
  | .intFromFloat => "int_from_float"
  | .finiteNumber => "finite_number"
  | .floatType => "float_type"
  | .floatParsing => "float_parsing"
  | .greaterThan => "greater_than"
  | .greaterThanEqual => "greater_than_equal"
  | .lessThanEqual => "less_than_equal"
  | .literalError => "literal_error"
  | .enumError => "enum"
  | .unionTagInvalid => "union_tag_invalid"
  | .unionTagNotFound => "union_tag_not_found"
  | .jsonInvalid => "json_invalid"

/-- One step of the way from the whole of the data to a part of it. -/
inductive Step where
  | key (name : String)
  | index (i : Nat)
  deriving DecidableEq

structure Issue where
  kind : IssueKind
  location : List Step
  deriving DecidableEq

/-- The same issue seen from one step further out. -/
def Issue.within (step : Step) (issue : Issue) : Issue :=
  { issue with location := step :: issue.location }

inductive Checked (α : Type) where
  | good (a : α)
  | faulty (issues : List Issue)

namespace Checked

variable {α β : Type}

def fail (kind : IssueKind) : Checked α := .faulty [⟨kind, []⟩]

def map (f : α → β) : Checked α → Checked β
  | .good a => .good (f a)
  | .faulty is => .faulty is

/-- Both parts are checked, and the issues of both are kept. -/
def seq : Checked (α → β) → Checked α → Checked β
  | .good f, .good a => .good (f a)
  | .good _, .faulty is => .faulty is
  | .faulty is, .good _ => .faulty is
  | .faulty is, .faulty js => .faulty (is ++ js)

/-- The second check is made only on what the first has read. -/
def andThen : Checked α → (α → Checked β) → Checked β
  | .good a, f => f a
  | .faulty is, _ => .faulty is

instance : Applicative Checked where
  pure := .good
  seq f x := seq f (x ())

def mapIssues (f : Issue → Issue) : Checked α → Checked α
  | .good a => .good a
  | .faulty is => .faulty (is.map f)

/-- The outcome for a part, seen from the whole. -/
def within (step : Step) (x : Checked α) : Checked α := x.mapIssues (Issue.within step)

def toExcept : Checked α → Except (List Issue) α
  | .good a => .ok a
  | .faulty is => .error is

/-- Reads every element of a list from the given index on. -/
def each (read : α → Checked β) : Nat → List α → Checked (List β)
  | _, [] => .good []
  | i, v :: rest => List.cons <$> (read v).within (.index i) <*> each read (i + 1) rest

/-- Reads every entry of a table. -/
def eachEntry (read : α → Checked β) : Table α → Checked (Table β)
  | [] => .good []
  | (k, v) :: rest =>
    (fun b t => (k, b) :: t) <$> (read v).within (.key k) <*> eachEntry read rest

end Checked

end Workflow.Schema
