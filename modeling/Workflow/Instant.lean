import Workflow.Text.Decimal

/-! Instants as texts, in the calendar of the Western year and the time of the zero meridian. -/

namespace Workflow

/-- An instant, in microseconds since the start of the year 1970. -/
structure Instant where
  micros : Nat

namespace Instant

/-- A date: year, month and day. -/
structure Date where
  year : Nat
  month : Nat
  day : Nat
  deriving DecidableEq

/-- The date of a day, counted from the first of January 1970. Years are taken to start in March,
so that the day of a leap year is the last one of its year; eras of 400 years are all alike. -/
def Date.ofDays (days : Nat) : Date :=
  let z := days + 719468
  let era := z / 146097
  let dayOfEra := z % 146097
  let yearOfEra :=
    (dayOfEra - dayOfEra / 1460 + dayOfEra / 36524 - dayOfEra / 146096) / 365
  let dayOfYear := dayOfEra - (365 * yearOfEra + yearOfEra / 4 - yearOfEra / 100)
  let m := (5 * dayOfYear + 2) / 153
  let day := dayOfYear - (153 * m + 2) / 5 + 1
  let month := if m < 10 then m + 3 else m - 9
  ⟨yearOfEra + era * 400 + (if month ≤ 2 then 1 else 0), month, day⟩

/-- How many days a date is after the first of January 1970, from which year on dates are counted.
Days past the end of a month count on. -/
def Date.days (d : Date) : Nat :=
  let year := if d.month ≤ 2 then d.year - 1 else d.year
  let yearOfEra := year % 400
  let dayOfYear := (153 * ((d.month + 9) % 12) + 2) / 5 + d.day - 1
  let dayOfEra := 365 * yearOfEra + yearOfEra / 4 - yearOfEra / 100 + dayOfYear
  year / 400 * 146097 + dayOfEra - 719468

/-- A number with zeros in front up to a width. -/
def padded (width n : Nat) : String :=
  let digits := Text.decimal n
  String.ofList (List.replicate (width - digits.length) '0' ++ digits)

def Date.text (d : Date) : String :=
  padded 4 d.year ++ "-" ++ padded 2 d.month ++ "-" ++ padded 2 d.day

/-- How many whole seconds an instant is after the start of the year 1970. -/
def seconds (t : Instant) : Nat := t.micros / 1000000

/-- The year that an instant is in. -/
def year (t : Instant) : Nat := (Date.ofDays (t.seconds / 86400)).year

/-- The text of an instant. A fraction of a second is written only if there is one. -/
def text (t : Instant) : String :=
  let seconds := t.seconds
  let micros := t.micros % 1000000
  let ofDay := seconds % 86400
  (Date.ofDays (seconds / 86400)).text ++ "T" ++ padded 2 (ofDay / 3600) ++ ":" ++
    padded 2 (ofDay / 60 % 60) ++ ":" ++ padded 2 (ofDay % 60) ++
    (if micros = 0 then "" else "." ++ padded 6 micros) ++ "+00:00"

example : Date.ofDays 0 = ⟨1970, 1, 1⟩ := by decide

example : Date.ofDays 11016 = ⟨2000, 2, 29⟩ := by decide

example : (⟨2000, 2, 29⟩ : Date).days = 11016 := by decide

end Instant

end Workflow
