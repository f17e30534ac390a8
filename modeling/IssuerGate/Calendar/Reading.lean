import IssuerGate.Calendar
import IssuerGate.Text.Quoted

/-!
Reading calendar texts.

A date is written with hyphens or without, by month and day or by week and weekday. One code point
of any kind parts it from the time, of which minutes and seconds may be missing and whose last
number may have places. A time zone at the end has to be well formed but is passed over.
-/

namespace IssuerGate.Calendar

/-- Why a text is no point in time. -/
inductive ReadFault where
  | malformed (t : Text)
  | year (y : Int)
  | month
  | day
  | hour
  | minute
  | second
deriving DecidableEq, Repr

def ReadFault.message : ReadFault → Text
  | malformed t => Text.ofString "Invalid isoformat string: " ++ t.quoted
  | year y => List.flatten [("year " : Text), Text.ofInt y, " is out of range"]
  | month => "month must be in 1..12"
  | day => "day is out of range for month"
  | hour => "hour must be in 0..23"
  | minute => "minute must be in 0..59"
  | second => "second must be in 0..59"

/-- A number of exactly `n` digits at the start of a text, and what follows it. -/
def spanNumber? (n : Nat) (t : Text) : Option (Nat × Text) :=
  let ds := t.take n
  if ds.length = n then
    (ds.mapM CodePoint.asciiDigit?).map fun vs => (Text.valueOfDigits vs, t.drop n)
  else none

def hyphen : CodePoint := .scalar '-'

/-- The text after a code point at its start. -/
def after? (c : CodePoint) : Text → Option Text
  | [] => none
  | d :: rest => if d = c then some rest else none

/-- The text after a hyphen, where hyphens are written. -/
def afterHyphen? (hyphens : Bool) (t : Text) : Option Text :=
  if hyphens then after? hyphen t else some t

/-! ### Dates -/

def isDigitAt (t : Text) (i : Nat) : Bool := (t[i]?.bind CodePoint.asciiDigit?).isSome

/-- How many code points of a text of at least seven are its date. -/
def dateLength? (t : Text) : Option Nat :=
  let isWeek (i : Nat) : Bool := t[i]? == some (.scalar 'W')
  if t.length = 7 then some 7
  else if t[4]? = some hyphen then
    if !isWeek 5 then some 10
    else if t[8]? ≠ some hyphen then some 8
    else if t.length = 9 then none
    -- a weekday or an hour may follow this hyphen
    else some (if isDigitAt t 10 then 8 else 10)
  else if isWeek 4 then
    let digits := ((t.drop 7).takeWhile fun c => c.asciiDigit?.isSome).length
    -- a time has digits in pairs, so an odd one belongs to the date
    if digits < 2 then some (7 + digits) else some (if digits % 2 = 1 then 7 else 8)
  else some 8

/-- The number of days from the start of 1970 to the Monday of the first week of a year. That week
holds the first Thursday. -/
def firstMonday (year : Int) : Int :=
  let newYear := daysOfDate ⟨year, 1, 1⟩
  let weekday := (newYear + 3) % 7
  newYear - weekday + (if weekday > 3 then 7 else 0)

/-- The day of a week of a year, both numbered from one. -/
def dateOfWeek? (year : Int) (week weekday : Nat) : Option Date :=
  let monday := firstMonday year + 7 * ((week : Int) - 1)
  -- the last week has its Thursday in the year
  let inYear := (dateOfDays (monday + 3)).year = year
  if 1 ≤ week ∧ week ≤ 53 ∧ inYear ∧ 1 ≤ weekday ∧ weekday ≤ 7 then
    some (dateOfDays (monday + weekday - 1))
  else none

/-- The date at the start of a text, in so many code points; the day may not exist. -/
def readDate? (t : Text) (length : Nat) : Option Date := do
  let (year, rest) ← spanNumber? 4 t
  let hyphens := rest.head? == some hyphen
  let rest ← afterHyphen? hyphens rest
  match after? (.scalar 'W') rest with
  | some rest =>
    let (week, rest) ← spanNumber? 2 rest
    if t.length - rest.length < length then
      let (weekday, _) ← spanNumber? 1 (← afterHyphen? hyphens rest)
      dateOfWeek? year week weekday
    else dateOfWeek? year week 1
  | none =>
    let (month, rest) ← spanNumber? 2 rest
    let (day, _) ← spanNumber? 2 (← afterHyphen? hyphens rest)
    return ⟨year, month, day⟩

/-! ### Times of day -/

/-- A time of day in numbers that may be too large. -/
structure Clock where
  hour : Nat := 0
  minute : Nat := 0
  second : Nat := 0
  micros : Nat := 0
deriving Repr

/-- What follows the numbers of a time: nothing, something else, or places. -/
inductive ClockRest where
  | nothing
  | something
  | places (t : Text)

/-- The numbers of a time, at most `n` more after the first one. Where colons are written, a colon
after the last one has to do as a decimal point, and where none are, no point is needed. -/
def readNumbers? (colons : Bool) (n : Nat) (t : Text) : Option (List Nat × ClockRest) :=
  match spanNumber? 2 t with
  | none => none
  | some (v, []) => some ([v], .nothing)
  | some (v, [c]) => if c.isAscii then some ([v], .something) else none
  | some (v, c :: rest) =>
    if c = .scalar '.' ∨ c = .scalar ',' then some ([v], .places rest)
    else if colons && c != .scalar ':' then none
    else
      let rest := if colons then rest else c :: rest
      match n with
      | 0 => some ([v], .places rest)
      | n + 1 => (readNumbers? colons n rest).map fun (vs, r) => (v :: vs, r)

/-- Microseconds from the places of a second, of which six count; and whether something else
follows the places. -/
def readPlaces? (t : Text) : Option (Nat × Bool) := do
  let width := min 6 t.length
  let (n, rest) ← spanNumber? width t
  return (n * Nat.pow 10 (6 - width), rest.any fun c => c.asciiDigit?.isNone)

/-- A time, and whether something follows it. -/
def readClock? (t : Text) : Option (Clock × Bool) := do
  let colons := t[2]? == some (.scalar ':')
  let (numbers, rest) ← readNumbers? colons 2 t
  let clock (micros : Nat) : Clock :=
    ⟨numbers[0]?.getD 0, numbers[1]?.getD 0, numbers[2]?.getD 0, micros⟩
  match rest with
  | .nothing => return (clock 0, false)
  | .something => return (clock 0, true)
  | .places t =>
    let (micros, more) ← readPlaces? t
    return (clock micros, more)

/-- Does a time zone start here? -/
def startsZone (c : CodePoint) : Bool :=
  c == .scalar '+' || c == hyphen || c == .scalar 'Z'

/-- Is this a time zone, less than a day away from universal time? -/
def isZone : Text → Bool
  | [] => false
  | c :: rest =>
    if c = .scalar 'Z' then rest.isEmpty
    else
      match readClock? rest with
      | some (z, false) => (z.hour * 60 + z.minute) * 60 + z.second < 86400
      | _ => false

/-- A time, with a time zone or without. In front of a time zone more than the time may stand. -/
def readTime? (t : Text) : Option Clock := do
  let zone := t.dropWhile fun c => !startsZone c
  let (clock, more) ← readClock? (t.takeWhile fun c => !startsZone c)
  if (if zone.isEmpty then !more else isZone zone) then some clock else none

/-! ### Points in time -/

/-- The date and the time that a text writes. -/
def readFields? (t : Text) : Option (Date × Clock) := do
  if t.length < 7 then none
  else
    let length ← dateLength? t
    let date ← readDate? t length
    if t.length ≤ length then some (date, {})
    else return (date, ← readTime? (t.drop (length + 1)))

/-- The first of the numbers that is out of its range. -/
def rangeFault? (d : Date) (c : Clock) : Option ReadFault :=
  if d.year < 1 ∨ 9999 < d.year then some (.year d.year)
  else if d.month < 1 ∨ 12 < d.month then some .month
  -- a day that does not exist is counted on into the next month
  else if d.day < 1 ∨ dateOfDays (daysOfDate d) ≠ d then some .day
  else if 23 < c.hour then some .hour
  else if 59 < c.minute then some .minute
  else if 59 < c.second then some .second
  else none

/-- The instant that a text writes. -/
def read (t : Text) : Except ReadFault Instant :=
  match readFields? t with
  | none => .error (.malformed t)
  | some (d, c) =>
    match rangeFault? d c with
    | some f => .error f
    | none =>
      let seconds := daysOfDate d * 86400 + (c.hour * 60 + c.minute) * 60 + c.second
      .ok (seconds * 1000000 + c.micros)

end IssuerGate.Calendar
