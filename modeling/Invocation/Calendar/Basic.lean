import Invocation.Text.Basic

/-!
# Dates and points in time

Dates of the Gregorian calendar from year 1 to year 9999, their place in the week and in the year, and times of day
with microseconds. What a local time is in universal time is known only with a distance from it.
-/

namespace Invocation

structure Date where
  year : Nat
  month : Nat
  day : Nat
deriving DecidableEq, Inhabited

/-- Date and time as a clock shows them. -/
structure LocalTime where
  date : Date
  hour : Nat
  minute : Nat
  second : Nat
  microsecond : Nat
deriving DecidableEq, Inhabited

structure Timestamp extends LocalTime where
  /-- Minutes that local time is ahead of universal time, where this is known. -/
  offset : Option Int
deriving DecidableEq, Inhabited

namespace Date

def isLeapYear (year : Nat) : Bool := year % 4 = 0 && (year % 100 ≠ 0 || year % 400 = 0)

def daysInMonth (year : Nat) : Nat → Nat
  | 2 => if isLeapYear year then 29 else 28
  | 4 | 6 | 9 | 11 => 30
  | _ => 31

/-- The days of the year before `month`. -/
def daysBeforeMonth (year month : Nat) : Nat :=
  (List.range (month - 1)).foldl (fun days m => days + daysInMonth year (m + 1)) 0

/-- The days before `year`, counted from the first day of year 1. -/
def daysBeforeYear (year : Nat) : Nat :=
  let y := year - 1
  y * 365 + y / 4 - y / 100 + y / 400

/-- The first of January is day 1. -/
def dayOfYear (d : Date) : Nat := daysBeforeMonth d.year d.month + d.day

/-- Monday is 0; the first day of year 1 was a Monday. -/
def weekday (d : Date) : Nat := (daysBeforeYear d.year + d.dayOfYear - 1) % 7

/-- How many weeks of the year have begun by `d`, where a week begins on weekday `first`. -/
def weekFrom (first : Nat) (d : Date) : Nat := (d.dayOfYear + 6 - (d.weekday + 7 - first) % 7) / 7

/-- The number of weeks of a year, where a week belongs to the year that has its Thursday. -/
def weeksInYear (year : Nat) : Nat :=
  let newYear := (Date.mk year 1 1).weekday
  if newYear = 3 ∨ (newYear = 2 ∧ isLeapYear year) then 53 else 52

/-- The year and number of the week of `d`, where a week belongs to the year that has its Thursday. -/
def weekOfThursday (d : Date) : Nat × Nat :=
  let week := (d.dayOfYear + 9 - d.weekday) / 7
  if week = 0 then (d.year - 1, weeksInYear (d.year - 1))
  else if week > weeksInYear d.year then (d.year + 1, 1)
  else (d.year, week)

/-- Year, month and day with hyphens. -/
def text (d : Date) : Text :=
  Text.ofNatPadded 4 d.year ++ "-" ++ Text.ofNatPadded 2 d.month ++ "-" ++ Text.ofNatPadded 2 d.day

end Date

/-- Microseconds since the last day before year 1 began. -/
def LocalTime.instant (t : LocalTime) : Int :=
  let days := Date.daysBeforeYear t.date.year + t.date.dayOfYear
  let minutes : Int := (days * 24 + t.hour) * 60 + t.minute
  (minutes * 60 + t.second) * 1000000 + t.microsecond

namespace Timestamp

/-- A distance from universal time as sign, hours and minutes. -/
def offsetText (minutes : Int) : Text :=
  let sign : Text := if minutes < 0 then "-" else "+"
  sign ++ Text.ofNatPadded 2 (minutes.natAbs / 60) ++ ":" ++ Text.ofNatPadded 2 (minutes.natAbs % 60)

/-- Date and time; microseconds only if there are any, the offset only if it is known. -/
def text (t : Timestamp) : Text :=
  let fraction : Text := if t.microsecond = 0 then [] else "." ++ Text.ofNatPadded 6 t.microsecond
  t.date.text ++ " " ++ Text.ofNatPadded 2 t.hour ++ ":" ++ Text.ofNatPadded 2 t.minute ++ ":"
    ++ Text.ofNatPadded 2 t.second ++ fraction ++ (t.offset.map offsetText).getD []

/-- The same in universal time, if the offset is known. -/
def instant (t : Timestamp) : Int := t.toLocalTime.instant - t.offset.getD 0 * 60000000

end Timestamp

/-! ## Checked construction -/

inductive CalendarFault where
  | year (n : Nat)
  | month
  | day
  | hour
  | minute
  | second
  | offset (minutes : Int)
deriving DecidableEq

/-- A length of time as days and seconds of the last day. -/
def durationText (minutes : Int) : Text :=
  let days := minutes.fdiv 1440
  let seconds := minutes.fmod 1440 * 60
  let parts : List Text :=
    (if days = 0 then [] else ["days=" ++ Text.ofInt days])
      ++ (if seconds = 0 then [] else ["seconds=" ++ Text.ofInt seconds])
  let inside : Text := if parts.isEmpty then "0" else Text.joinWith ", " parts
  "datetime.timedelta(" ++ inside ++ ")"

def CalendarFault.message : CalendarFault → Text
  | year n => "year " ++ Text.ofNat n ++ " is out of range"
  | month => "month must be in 1..12"
  | day => "day is out of range for month"
  | hour => "hour must be in 0..23"
  | minute => "minute must be in 0..59"
  | second => "second must be in 0..59"
  | offset minutes =>
    "offset must be a timedelta strictly between -timedelta(hours=24) and timedelta(hours=24), not "
      ++ durationText minutes ++ "."

def Date.check (d : Date) : Except CalendarFault Date :=
  if d.year < 1 ∨ 9999 < d.year then .error (.year d.year)
  else if d.month < 1 ∨ 12 < d.month then .error .month
  else if d.day < 1 ∨ Date.daysInMonth d.year d.month < d.day then .error .day
  else .ok d

def Timestamp.check (t : Timestamp) : Except CalendarFault Timestamp := do
  match t.offset with
  | some minutes => if 1440 ≤ minutes.natAbs then throw (.offset minutes)
  | none => pure ()
  let _ ← t.date.check
  if 24 ≤ t.hour then throw .hour
  if 60 ≤ t.minute then throw .minute
  if 60 ≤ t.second then throw .second
  return t

end Invocation
