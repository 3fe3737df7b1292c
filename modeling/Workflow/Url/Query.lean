import Workflow.Text.Coded
import Workflow.Url.Basic
import Workflow.Value.Text

/-! Query parameters: pairs of keys and texts, written with percent codes. -/

namespace Workflow.Url

open Text

/-- Bytes that stand for themselves: ASCII letters and digits and four marks. -/
def isSafeByte (b : Nat) : Bool :=
  (0x61 ≤ b && b ≤ 0x7a) || (0x41 ≤ b && b ≤ 0x5a) || (0x30 ≤ b && b ≤ 0x39) ||
    b == 0x5f || b == 0x2e || b == 0x2d || b == 0x7e

/-- A safe byte as it is, a space as a plus sign, and any other byte as a percent code. -/
def encodedByte (b : Nat) : List Char :=
  if isSafeByte b then [Char.ofNat b]
  else if b = 0x20 then ['+']
  else percentCode b

def encoded (s : String) : List Char := (utf8 s).flatMap encodedByte

def textOf (v : Value) : Except Problem String := v.shown.mapError fun _ => .longInteger

/-- The texts of a parameter: one for each element of a list and for each key of an object,
none for null, and one for any other value. -/
def parameterTexts : Value → Except Problem (List String)
  | .null => .ok []
  | .list vs => vs.mapM textOf
  | v =>
    match v.members? with
    | some ms => .ok ms.keys
    | none => (textOf v).map ([·])

/-- The pairs of keys and texts of some parameters. -/
def queryPairs : Table Value → Except Problem (List (String × String))
  | [] => .ok []
  | (k, v) :: rest => do
    let texts ← parameterTexts v
    let pairs ← queryPairs rest
    return texts.map (k, ·) ++ pairs

def encodedPair (pair : String × String) : List Char := encoded pair.1 ++ '=' :: encoded pair.2

def encodedPairs (pairs : List (String × String)) : List Char :=
  List.intercalate ['&'] (pairs.map encodedPair)

/-- Adds pairs to a query. -/
def joinQuery (query : List Char) (pairs : List (String × String)) : List Char :=
  if query.isEmpty then encodedPairs pairs else query ++ '&' :: encodedPairs pairs

/-- An address with parameters added to its query. When all of them are null it stays as it is
and is not even taken apart. -/
def withQuery (address : String) (params : Table Value) : Except Problem String :=
  if (params.filter fun (_, v) => !v.isNull).isEmpty then .ok address
  else do
    let u ← split address
    let pairs ← queryPairs params
    return { u with query := joinQuery u.query pairs }.text

end Workflow.Url
