import Workflow.Table
import Workflow.Text.Case

/-! Header lines. The case of a header name has no meaning. -/

namespace Workflow.Http

/-- Header lines in the order in which they stand. A name may stand on several of them. -/
abbrev Headers := List (String × String)

namespace Headers

/-- The value under a name: those of all its lines, with commas between them. -/
def value? (headers : Headers) (name : String) : Option String :=
  match headers.filter fun line => Text.asciiLower line.1 == Text.asciiLower name with
  | [] => none
  | lines => some (String.intercalate ", " (lines.map Prod.snd))

def contains (headers : Headers) (name : String) : Bool := (headers.value? name).isSome

/-- Adds a line unless the name is there. -/
def withDefault (headers : Headers) (name value : String) : Headers :=
  if headers.contains name then headers else headers ++ [(name, value)]

/-- Puts a line in the place of the first one with its name and drops the others, or adds it. -/
def set (headers : Headers) (name value : String) : Headers :=
  let isOther (line : String × String) : Bool := Text.asciiLower line.1 != Text.asciiLower name
  headers.takeWhile isOther ++ (name, value) :: ((headers.dropWhile isOther).drop 1).filter isOther

/-- The values under their names in lower case. -/
def table (headers : Headers) : Table String :=
  Table.ofList <| headers.map fun (name, _) =>
    (Text.asciiLower name, (headers.value? name).getD "")

/-- The type of the content; empty, if it is not told. -/
def contentType (headers : Headers) : String := (headers.value? "content-type").getD ""

end Headers

end Workflow.Http
