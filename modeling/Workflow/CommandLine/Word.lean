import Workflow.Table
import Workflow.Text.Digit
import Workflow.Text.Split

/-! The words of a command line. An option may be shortened as long as only one option is meant,
and its value stands in the next word or after an equals sign. After a double dash every word is
an argument. -/

namespace Workflow.CommandLine

/-- Why a command line is not carried out: it asks for help, or it is not understood. -/
inductive Refusal where
  | help
  | usage
  deriving DecidableEq

inductive Word where
  | argument (s : String)
  | option (name : String) (attached : Option String)
  | unknown
  | divider
  deriving DecidableEq

/-- The options that ask for help. All others take a value. -/
def helpNames : List String := ["-h", "--help"]

/-- A negative number, which is no option: digits, or digits around a point. -/
def isNegativeNumber (cs : List Char) : Bool :=
  let isDigit := fun c => (Text.digitValue? c).isSome
  let cs := if cs.getLast? = some '\n' then cs.dropLast else cs
  match cs with
  | '-' :: body =>
    match body.dropWhile isDigit with
    | [] => !body.isEmpty
    | '.' :: fraction => !fraction.isEmpty && fraction.all isDigit
    | _ => false
  | _ => false

/-- The options that a word with two dashes may be short for, with the value attached to it. -/
def longCandidates (known : List String) (cs : List Char) : List (String × Option String) :=
  let (name, value) := Text.cutAt '=' cs
  let attached := if cs.contains '=' then some (String.ofList value) else none
  (known.filter fun option => name.isPrefixOf option.toList).map (·, attached)

/-- The options that a word with one dash may stand for: one of a single letter with the rest
attached to it, or one that the word is short for. -/
def shortCandidates (known : List String) (cs : List Char) : List (String × Option String) :=
  known.filterMap fun option =>
    if option.toList = cs.take 2 then some (option, some (String.ofList (cs.drop 2)))
    else if cs.isPrefixOf option.toList then some (option, none)
    else none

def candidates (known : List String) : List Char → List (String × Option String)
  | '-' :: '-' :: rest => longCandidates known ('-' :: '-' :: rest)
  | cs => shortCandidates known cs

/-- A known option with a value attached by an equals sign. -/
def attached? (known : List String) (cs : List Char) : Option Word :=
  let (name, value) := Text.cutAt '=' cs
  if cs.contains '=' && known.contains (String.ofList name) then
    some (.option (String.ofList name) (some (String.ofList value)))
  else none

/-- A word in front of any double dash. -/
def readWord (known : List String) (s : String) : Except Refusal Word :=
  let cs := s.toList
  if cs.head? ≠ some '-' || cs = ['-'] then .ok (.argument s)
  else if known.contains s then .ok (.option s none)
  else
    match attached? known cs, candidates known cs with
    | some word, _ => .ok word
    | none, [(name, attached)] => .ok (.option name attached)
    | none, _ :: _ => .error .usage
    | none, [] => .ok (if isNegativeNumber cs || cs.contains ' ' then .argument s else .unknown)

/-- The words of a command line by the options that are known. -/
def readWords (known : List String) : List String → Except Refusal (List Word)
  | [] => .ok []
  | s :: rest =>
    if s = "--" then .ok (.divider :: rest.map .argument)
    else do
      let word ← readWord known s
      let others ← readWords known rest
      return word :: others

/-- What comes of an option that asks for help. Letters attached to the short one ask for it again;
anything else is not understood. -/
def helpRefusal (name : String) : Option String → Refusal
  | none => .help
  | some s => if name = "-h" && !s.isEmpty && s.toList.all (· = 'h') then .help else .usage

end Workflow.CommandLine
