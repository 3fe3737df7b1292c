import Workflow.Text.Digit
import Workflow.Text.Shown

/-! The quoted form of a text, as it stands inside the text of a list or an object and in error
messages: single quotes, unless the text holds a single quote and no double quote. -/

namespace Workflow.Text

/-- The quote that a quoted text stands in. -/
def quoteFor (cs : List Char) : Char :=
  if cs.contains '\'' && !cs.contains '"' then '"' else '\''

/-- One character inside quotes: named escapes for backslash, the quote and three control
characters, a numbered escape for what is not shown. -/
def quotedChar (quote c : Char) : List Char :=
  if c == quote || c == '\\' then ['\\', c]
  else if c == '\t' then ['\\', 't']
  else if c == '\n' then ['\\', 'n']
  else if c == '\r' then ['\\', 'r']
  else if isShown c then [c]
  else numberedEscape c

/-- A text in quotes. -/
def quoted (s : String) : String :=
  let quote := quoteFor s.toList
  String.ofList (quote :: s.toList.flatMap (quotedChar quote) ++ [quote])

/-- A text of code points in quotes. Half of a surrogate pair is no character and is not shown as it
is. -/
def quotedCodes (codes : List Nat) : String :=
  let quote := quoteFor (codes.map Char.ofNat)
  let shown (n : Nat) : List Char :=
    if n.isValidChar then quotedChar quote (Char.ofNat n) else '\\' :: 'u' :: hexDigits 4 n
  String.ofList (quote :: codes.flatMap shown ++ [quote])

end Workflow.Text
