import Workflow.Instant
import Workflow.Text.Blank
import Workflow.Text.Decimal

/-! Dates at which something ends, as header lines tell them: in one fixed form, or in a free one
with a day, a month and a year, and maybe a time of day and a zone. -/

namespace Workflow.Http

/-- What a text tells of an end. -/
inductive Deadline where
  | untold
  /-- The end, in seconds since the start of the year 1970. -/
  | told (seconds : Int)
  /-- The text has the fixed form, and its month is none. -/
  | misnamed
  deriving DecidableEq

namespace Deadline

/-- What is read from the front of a text, if it can be, and what is left. -/
abbrev Reading := StateT (List Char) Option

def weekdays : List String := ["sun", "mon", "tue", "wed", "thu", "fri", "sat"]

def months : List String :=
  ["jan", "feb", "mar", "apr", "may", "jun", "jul", "aug", "sep", "oct", "nov", "dec"]

/-- Names of the zone of the zero meridian. -/
def zeroZones : List String := ["GMT", "UTC", "UT", "Z"]

def isLetter (c : Char) : Bool := c.isAlpha

def isDigit (c : Char) : Bool := '0' ≤ c && c ≤ '9'

def isWordChar (c : Char) : Bool := isLetter c || isDigit c || c = '_'

/-- The ASCII blanks that may stand between the parts of a date. -/
def isGapChar (c : Char) : Bool := c = ' ' || ('\t' ≤ c && c ≤ '\r')

/-- Between `least` and `most` characters of a class, as many as there are. -/
def span (p : Char → Bool) (least most : Nat) : Reading (List Char) := fun cs =>
  let found := (cs.take most).takeWhile p
  if found.length < least then none else some (found, cs.drop found.length)

/-- As many characters of a class as there are, and at least one. -/
def run (p : Char → Bool) : Reading (List Char) := fun cs => span p 1 cs.length cs

def gaps : Reading Unit := fun cs => some ((), cs.dropWhile isGapChar)

/-- A text that has to stand here. -/
def exactly (word : String) : Reading Unit := fun cs =>
  if word.toList.isPrefixOf cs then some ((), cs.drop word.length) else none

/-- One of some marks, or blanks. -/
def divider (marks : List Char) : Reading Unit :=
  (discard <| run isGapChar) <|> (discard <| span marks.contains 1 1)

/-- The number that some digits are. -/
def number (digits : List Char) : Nat := Text.ofDigits (digits.map (·.toNat - 48))

def numeral (least most : Nat) : Reading Nat := number <$> span isDigit least most

/-- The end of a text. -/
def finish : Reading Unit := fun cs => if cs.isEmpty then some ((), []) else none

/-- The place of a name in a list, counted from one. -/
def placeOf? (names : List String) (name : List Char) : Option Nat :=
  let lower := String.ofList (name.map Char.toLower)
  (names.findIdx? (· = lower)).map (· + 1)

end Deadline

/-- A date and a time of day. -/
structure Stamp where
  year : Nat
  month : Nat
  day : Nat
  hour : Nat
  minute : Nat
  second : Nat
  deriving DecidableEq

/-- The seconds from the start of the year 1970. A month may have days up to the thirty-first, a
day may end at its twenty-fourth hour, and a minute may have two seconds more. -/
def Stamp.seconds? (s : Stamp) : Option Nat :=
  if 1970 ≤ s.year && 1 ≤ s.month && s.month ≤ 12 && 1 ≤ s.day && s.day ≤ 31 && s.hour ≤ 24 &&
      s.minute ≤ 59 && s.second ≤ 61 then
    some ((((⟨s.year, s.month, s.day⟩ : Instant.Date).days * 24 + s.hour) * 60 + s.minute) * 60 +
      s.second)
  else none

namespace Deadline

/-- A capital of some, and two small letters. -/
def capitalized (capitals : String) : Reading (List Char) := do
  let first ← span capitals.toList.contains 1 1
  let rest ← span Char.isLower 2 2
  return first ++ rest

/-- The fixed form, with the name of a month. -/
def readFixed : Reading (List Char × Stamp) := do
  let _ ← capitalized "SMTWF"
  exactly ", "
  let day ← numeral 2 2
  exactly " "
  let month ← capitalized "JFMASOND"
  exactly " "
  let year ← numeral 4 4
  exactly " "
  let hour ← numeral 2 2
  exactly ":"
  let minute ← numeral 2 2
  exactly ":"
  let second ← numeral 2 2
  exactly " GMT"
  finish <|> (exactly "\n" *> finish)
  return (month, ⟨year, (placeOf? months month).getD 0, day, hour, minute, second⟩)

/-- A time of day: hour, minute and second. -/
def readClock : Reading (Nat × Nat × Nat) := do
  divider [':']
  let hour ← numeral 1 2
  exactly ":"
  let minute ← numeral 2 2
  let second ← (exactly ":" *> numeral 2 2) <|> pure 0
  return (hour, minute, second)

/-- Whether a text begins with a half of a day, as a word of its own. -/
def beginsWithHalf (cs : List Char) : Bool :=
  ["am", "pm"].contains (String.ofList ((cs.take 2).map Char.toLower)) &&
    !((cs[2]?.map isWordChar).getD false)

/-- How many seconds a zone is ahead, if it is known. -/
def zoneOffset? (negative : Bool) (zone : List Char) : Option Int :=
  if zone.all isDigit then
    let hours := number (if zone.length = 3 then zone.take 1 else zone.take 2)
    let minutes := number (if zone.length = 3 then zone.drop 1 else zone.drop 2)
    let offset := (hours * 60 + minutes) * 60
    some (if negative then -(offset : Int) else offset)
  else if zeroZones.contains (String.ofList (zone.map Char.toUpper)) then some 0
  else none

/-- A zone: how many seconds it is ahead, if it is known. -/
def readZone : Reading (Option Int) :=
  (do
    let sign ← span ['-', '+'].contains 0 1
    let digits ← span isDigit 2 4
    return zoneOffset? (sign = ['-']) digits) <|>
  (do
    if beginsWithHalf (← get) then failure
    return zoneOffset? false (← run isLetter))

/-- The year that is meant by a number below a thousand: one that is near to this year. -/
def nearYear (thisYear year : Int) : Int :=
  if 1000 ≤ year then year
  else
    let ahead := thisYear % 100 - year
    let own := year + thisYear - thisYear % 100
    if 50 < ahead then own + 100 else if ahead < -50 then own - 100 else own

/-- The number of a month that is named or told as a number. -/
def monthNumber? (month : List Char) : Option Nat :=
  placeOf? months month <|>
    (Text.readInt? (String.ofList month)).bind fun n =>
      if 1 ≤ n && n ≤ 12 then some n.toNat else none

/-- The free form. -/
def readFree (thisYear : Int) : Reading Int := do
  let day ← numeral 1 2
  divider ['-', '/']
  let month ← run isWordChar
  divider ['-', '/']
  let year := number (← run isDigit)
  let (hour, minute, second) ← readClock <|> pure (0, 0, 0)
  gaps
  let offset ← (readZone <* gaps) <|> pure (some 0)
  (exactly "(" *> run isWordChar *> exactly ")" *> gaps) <|> pure ()
  finish
  if 9999 < year then failure
  let month ← liftM (monthNumber? month)
  let year := (nearYear thisYear year).toNat
  let seconds ← liftM (Stamp.seconds? ⟨year, month, day, hour, minute, second⟩)
  return seconds - (← liftM offset)

/-- A text without the name of a weekday at its front. -/
def afterWeekday (cs : List Char) : List Char :=
  if (placeOf? weekdays (cs.take 3)).isSome then
    let rest := (cs.drop 3).dropWhile isLetter
    (if rest.head? = some ',' then rest.drop 1 else rest).dropWhile isGapChar
  else cs

/-- What a text tells of an end, read at some instant. -/
def read (now : Instant) (cs : List Char) : Deadline :=
  match readFixed cs with
  | some ((month, stamp), _) =>
    if (placeOf? months month).isNone then misnamed
    else
      match stamp.seconds? with
      | some seconds => told seconds
      | none => untold
  | none =>
    match readFree now.year (afterWeekday (Text.dropFront Text.isBlank cs)) with
    | some (seconds, _) => told seconds
    | none => untold

end Deadline

end Workflow.Http
