import AccessPolicy.Text.Quoted

/-!
# Days and points in time

A `Day` is a day of the Gregorian calendar.  A `Moment` is a day with a time of day and, if it
is known, the offset of the local clock from universal time.

**Agreement.**  Two moments with an offset agree if they are the same instant, two without
one if all their figures agree; a moment with an offset and one without never agree.

**Texts.**  `display` writes figures as in `2001-12-14 21:59:43`; `inspect` writes the parts
with their names of types, leaving out seconds that are zero.
-/

namespace AccessPolicy

/-- A day of the calendar. -/
structure Day where
  year : Nat
  month : Nat
  day : Nat
deriving DecidableEq, Repr

/-- A point in time; the offset from universal time is in minutes. -/
structure Moment where
  date : Day
  hour : Nat
  minute : Nat
  second : Nat
  microsecond : Nat
  offset : Option Int
deriving DecidableEq, Repr

/-- A natural in decimal, filled with zeros to a width. -/
def Text.padded (width n : Nat) : String :=
  let digits := Nat.toDigits 10 n
  String.ofList (List.replicate (width - digits.length) '0' ++ digits)

namespace Day

/-- Whether a year has a day more than others. -/
def isLeap (year : Nat) : Bool :=
  year % 4 == 0 && (year % 100 != 0 || year % 400 == 0)

/-- The number of days of a month. -/
def daysOfMonth (year month : Nat) : Nat :=
  if month = 2 then (if isLeap year then 29 else 28)
  else if month = 4 ∨ month = 6 ∨ month = 9 ∨ month = 11 then 30
  else 31

/-- The number of days of a year before one of its months. -/
def daysBefore (year : Nat) : Nat → Nat
  | 0 => 0
  | 1 => 0
  | month + 1 => daysBefore year month + daysOfMonth year month

/-- The number of days from the beginning of the calendar. -/
def ordinal (d : Day) : Nat :=
  let y := d.year - 1
  365 * y + y / 4 - y / 100 + y / 400 + daysBefore d.year d.month + d.day

/-- What is wrong with the figures of a day, if anything is. -/
def flaw? (d : Day) : Option String :=
  if d.year < 1 ∨ 9999 < d.year then some ("year " ++ toString d.year ++ " is out of range")
  else if d.month < 1 ∨ 12 < d.month then some "month must be in 1..12"
  else if d.day < 1 ∨ daysOfMonth d.year d.month < d.day then some "day is out of range for month"
  else none

def display (d : Day) : String :=
  Text.padded 4 d.year ++ "-" ++ Text.padded 2 d.month ++ "-" ++ Text.padded 2 d.day

/-- A day with the name of its type. -/
def inspect (d : Day) : String :=
  "datetime.date(" ++ Text.join ", " ([d.year, d.month, d.day].map toString) ++ ")"

end Day

namespace Moment

/-- The minutes from the beginning of the calendar, on a clock of universal time. -/
def minutes (m : Moment) : Int :=
  ((m.date.ordinal * 24 + m.hour) * 60 + m.minute : Nat) - m.offset.getD 0

/-- Whether two moments are the same. -/
def agrees (m n : Moment) : Bool :=
  m.offset.isSome == n.offset.isSome && m.minutes == n.minutes && m.second == n.second &&
    m.microsecond == n.microsecond

/-- A length of time in minutes, as whole days and the seconds that remain. -/
def inspectLength (minutes : Int) : String :=
  let days := minutes / 1440
  let seconds := minutes % 1440 * 60
  let parts :=
    (if days = 0 then [] else ["days=" ++ toString days]) ++
      (if seconds = 0 then [] else ["seconds=" ++ toString seconds])
  "datetime.timedelta(" ++ (if parts.isEmpty then "0" else Text.join ", " parts) ++ ")"

/-- What is wrong with the figures of a moment, if anything is; the offset comes first. -/
def flaw? (m : Moment) : Option String :=
  let offset := m.offset.getD 0
  if 24 * 60 ≤ offset.natAbs then
    some ("offset must be a timedelta strictly between -timedelta(hours=24) and " ++
      "timedelta(hours=24), not " ++ inspectLength offset)
  else
    match m.date.flaw? with
    | some flaw => some flaw
    | none =>
        if 24 ≤ m.hour then some "hour must be in 0..23"
        else if 60 ≤ m.minute then some "minute must be in 0..59"
        else if 60 ≤ m.second then some "second must be in 0..59"
        else none

def displayOffset (o : Int) : String :=
  (if o < 0 then "-" else "+") ++ Text.padded 2 (o.natAbs / 60) ++ ":" ++
    Text.padded 2 (o.natAbs % 60)

def display (m : Moment) : String :=
  m.date.display ++ " " ++ Text.padded 2 m.hour ++ ":" ++ Text.padded 2 m.minute ++ ":" ++
    Text.padded 2 m.second ++
    (if m.microsecond = 0 then "" else "." ++ Text.padded 6 m.microsecond) ++
    (match m.offset with | some o => displayOffset o | none => "")

def inspectOffset (o : Int) : String :=
  if o = 0 then "datetime.timezone.utc" else "datetime.timezone(" ++ inspectLength o ++ ")"

/-- A moment with the names of its types. -/
def inspect (m : Moment) : String :=
  let seconds :=
    if m.microsecond ≠ 0 then [m.second, m.microsecond]
    else if m.second ≠ 0 then [m.second]
    else []
  let figures := [m.date.year, m.date.month, m.date.day, m.hour, m.minute] ++ seconds
  let zone :=
    match m.offset with
    | some o => ["tzinfo=" ++ inspectOffset o]
    | none => []
  "datetime.datetime(" ++ Text.join ", " (figures.map toString ++ zone) ++ ")"

end Moment
end AccessPolicy
