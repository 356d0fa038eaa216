import LintFixture.Number.Numeral

/-!
# Dates and times

Calendar dates, times of day and both together, the last one with or without an offset from
universal time. Years have four digits, times go down to the microsecond.
-/

namespace LintFixture

/-- A day of the calendar. -/
structure CivilDate where
  year : Nat
  month : Nat
  day : Nat
  deriving DecidableEq, Repr

/-- A time of day. -/
structure ClockTime where
  hour : Nat
  minute : Nat
  second : Nat
  micro : Nat
  deriving DecidableEq, Repr

/-- A point in time, as far as it is given; `offset` is in minutes. -/
inductive Moment
  | date (day : CivilDate)
  | time (clock : ClockTime)
  | dateTime (day : CivilDate) (clock : ClockTime) (offset : Option Int)
  deriving DecidableEq, Repr

/-- A number with zeros before it up to a width. -/
def zeroPadded (width n : Nat) : String :=
  let digits := Nat.toDigits 10 n
  String.ofList (List.replicate (width - digits.length) '0' ++ digits)

/-- A year is a leap year. -/
def isLeapYear (year : Nat) : Bool :=
  year % 4 == 0 && (year % 100 != 0 || year % 400 == 0)

/-- The days of a month. -/
def daysInMonth (year month : Nat) : Nat :=
  if month = 2 then (if isLeapYear year then 29 else 28)
  else if month = 4 ∨ month = 6 ∨ month = 9 ∨ month = 11 then 30
  else 31

namespace CivilDate

/-- The calendar has the day; it begins with the year 1. -/
def isValid (d : CivilDate) : Bool :=
  decide (1 ≤ d.year) && decide (1 ≤ d.month) && decide (d.month ≤ 12) && decide (1 ≤ d.day)
    && decide (d.day ≤ daysInMonth d.year d.month)

/-- Year, month and day with hyphens. -/
def text (d : CivilDate) : String :=
  zeroPadded 4 d.year ++ "-" ++ zeroPadded 2 d.month ++ "-" ++ zeroPadded 2 d.day

/-- The numbers of a date in order. -/
def fields (d : CivilDate) : List Nat := [d.year, d.month, d.day]

end CivilDate

namespace ClockTime

/-- Hours, minutes and seconds with colons, and the microseconds if there are any. -/
def text (t : ClockTime) : String :=
  zeroPadded 2 t.hour ++ ":" ++ zeroPadded 2 t.minute ++ ":" ++ zeroPadded 2 t.second
    ++ (if t.micro = 0 then "" else "." ++ zeroPadded 6 t.micro)

/-- The numbers of a time in order, without seconds and microseconds where they are zero. -/
def fields (t : ClockTime) : List Nat :=
  if t.micro ≠ 0 then [t.hour, t.minute, t.second, t.micro]
  else if t.second ≠ 0 then [t.hour, t.minute, t.second]
  else [t.hour, t.minute]

end ClockTime

namespace Moment

/-- An offset as hours and minutes with a sign. -/
def offsetText (minutes : Int) : String :=
  let n := minutes.natAbs
  (if minutes < 0 then "-" else "+") ++ zeroPadded 2 (n / 60) ++ ":" ++ zeroPadded 2 (n % 60)

/-- The text of a moment, with `separator` between date and time. -/
def textWith (separator : String) : Moment → String
  | date d => d.text
  | time t => t.text
  | dateTime d t offset =>
    d.text ++ separator ++ t.text ++ (match offset with
      | some minutes => offsetText minutes
      | none => "")

/-- The interchange text of a moment, which has a `T` between date and time. -/
def text (m : Moment) : String := m.textWith "T"

/-- Numbers in parentheses after the name of a constructor. -/
def callText (name : String) (fields : List Nat) (last : List String) : String :=
  name ++ "(" ++ String.intercalate ", " (fields.map toString ++ last) ++ ")"

/-- An offset as the literal of a time zone: whole days, then the seconds within the day. -/
def zoneText (minutes : Int) : String :=
  if minutes = 0 then "datetime.timezone.utc"
  else if 0 < minutes then
    "datetime.timezone(datetime.timedelta(seconds=" ++ toString (minutes * 60) ++ "))"
  else
    "datetime.timezone(datetime.timedelta(days=-1, seconds=" ++ toString (86400 + minutes * 60)
      ++ "))"

/-- The literal of a moment. -/
def literal : Moment → String
  | date d => callText "datetime.date" d.fields []
  | time t => callText "datetime.time" t.fields []
  | dateTime d t offset =>
    callText "datetime.datetime" (d.fields ++ t.fields) (match offset with
      | some minutes => ["tzinfo=" ++ zoneText minutes]
      | none => [])

end Moment

end LintFixture
