import IssuerGate.Text.Numeral

/-!
Points in time and their calendar texts.

An instant counts microseconds from the start of 1970. Its text is the date, a `T` and the time,
with six places of a second only where they are not all zero.
-/

namespace IssuerGate.Calendar

/-- Microseconds since the start of 1970. -/
abbrev Instant := Int

/-- A day of the Gregorian calendar. -/
structure Date where
  year : Int
  month : Nat
  day : Nat
deriving DecidableEq, Repr

/-- The day of a number of days since the start of 1970. Years are counted from March, in eras of
400 years, so that the leap day comes last. -/
def dateOfDays (days : Int) : Date :=
  let z := days + 719468
  let era := z.fdiv 146097
  let dayOfEra := (z - era * 146097).toNat
  let yearOfEra := (dayOfEra - dayOfEra / 1460 + dayOfEra / 36524 - dayOfEra / 146096) / 365
  let dayOfYear := dayOfEra - (365 * yearOfEra + yearOfEra / 4 - yearOfEra / 100)
  -- from March on, five months last 153 days
  let shifted := (5 * dayOfYear + 2) / 153
  let month := if shifted < 10 then shifted + 3 else shifted - 9
  { year := era * 400 + yearOfEra + (if month ≤ 2 then 1 else 0)
    month := month
    day := dayOfYear - (153 * shifted + 2) / 5 + 1 }

/-- The number of days from the start of 1970 to a date. -/
def daysOfDate (d : Date) : Int :=
  let year := if d.month ≤ 2 then d.year - 1 else d.year
  let era := year.fdiv 400
  let yearOfEra := (year - era * 400).toNat
  let shifted := if d.month > 2 then d.month - 3 else d.month + 9
  let dayOfYear := (153 * shifted + 2) / 5 + d.day - 1
  let dayOfEra := yearOfEra * 365 + yearOfEra / 4 - yearOfEra / 100 + dayOfYear
  era * 146097 + dayOfEra - 719468

def ofMilliseconds (ms : Int) : Instant := ms * 1000

/-- The start of the second of an instant. -/
def wholeSecond (t : Instant) : Instant := t.fdiv 1000000 * 1000000

/-- A number in at least so many digits. -/
def digits (width n : Nat) : Text := Text.padded width (Text.ofNat n)

/-- The text of an instant without a time zone. -/
def text (t : Instant) : Text :=
  let seconds := t.fdiv 1000000
  let micros := (t - seconds * 1000000).toNat
  let days := seconds.fdiv 86400
  let second := (seconds - days * 86400).toNat
  let date := dateOfDays days
  Text.join [.scalar '-'] [digits 4 date.year.toNat, digits 2 date.month, digits 2 date.day]
    ++ .scalar 'T'
    :: Text.join [.scalar ':']
        [digits 2 (second / 3600), digits 2 (second / 60 % 60), digits 2 (second % 60)]
    ++ (if micros = 0 then [] else .scalar '.' :: digits 6 micros)

/-- The text of an instant in universal time. -/
def textUtc (t : Instant) : Text := text t ++ Text.ofString "+00:00"

end IssuerGate.Calendar
