/-!
Dates and moments that a document may hold. A date is checked against the Gregorian calendar, a
moment also against the clock; the checks name the first part that is out of range.
-/

namespace DtoForge.Document

structure Date where
  year : Nat
  month : Nat
  day : Nat
  deriving Repr, DecidableEq

/-- A date with a time of day; `offset` is the distance from universal time in minutes, absent for
a local time. -/
structure Moment where
  date : Date
  hour : Nat
  minute : Nat
  second : Nat
  microsecond : Nat
  offset : Option Int
  deriving Repr, DecidableEq

/-- Why digits in the form of a date are no date. -/
inductive CalendarFault
  | year (given : Nat)
  | month
  | day
  | hour
  | minute
  | second
  | offset (minutes : Int)
  deriving Repr, DecidableEq

def isLeapYear (year : Nat) : Bool :=
  year % 4 = 0 && (year % 100 != 0 || year % 400 = 0)

def daysInMonth (year month : Nat) : Nat :=
  if month = 2 then if isLeapYear year then 29 else 28
  else if month = 4 ∨ month = 6 ∨ month = 9 ∨ month = 11 then 30
  else 31

def Date.check (date : Date) : Except CalendarFault Date :=
  if date.year = 0 then .error (.year date.year)
  else if date.month < 1 ∨ 12 < date.month then .error .month
  else if date.day < 1 ∨ daysInMonth date.year date.month < date.day then .error .day
  else .ok date

def Moment.check (moment : Moment) : Except CalendarFault Moment := do
  match moment.offset with
  | some minutes => if 24 * 60 ≤ minutes.natAbs then throw (.offset minutes)
  | none => pure ()
  let _ ← moment.date.check
  if 23 < moment.hour then throw .hour
  if 59 < moment.minute then throw .minute
  if 59 < moment.second then throw .second
  return moment

def paddedNumber (width n : Nat) : String :=
  let digits := toString n
  String.ofList (List.replicate (width - digits.length) '0') ++ digits

def Date.text (date : Date) : String :=
  s!"{paddedNumber 4 date.year}-{paddedNumber 2 date.month}-{paddedNumber 2 date.day}"

def offsetText (minutes : Int) : String :=
  let size := minutes.natAbs
  (if minutes < 0 then "-" else "+") ++ paddedNumber 2 (size / 60) ++ ":" ++
    paddedNumber 2 (size % 60)

def Moment.text (moment : Moment) : String :=
  let clock := paddedNumber 2 moment.hour ++ ":" ++ paddedNumber 2 moment.minute ++ ":" ++
    paddedNumber 2 moment.second
  let fraction := if moment.microsecond = 0 then "" else "." ++ paddedNumber 6 moment.microsecond
  moment.date.text ++ " " ++ clock ++ fraction ++ (moment.offset.map offsetText).getD ""

/-- Days before a date in the calendar extended to year one. -/
def Date.dayNumber (date : Date) : Nat :=
  let past := date.year - 1
  let months := (List.range (date.month - 1)).map fun index => daysInMonth date.year (index + 1)
  past * 365 + past / 4 - past / 100 + past / 400 + months.foldr (· + ·) 0 + date.day

def Moment.instant (moment : Moment) : Int :=
  let minutes : Int := (moment.date.dayNumber * 24 + moment.hour) * 60 + moment.minute
  ((minutes - moment.offset.getD 0) * 60 + moment.second) * 1000000 + moment.microsecond

/-- Two moments are the same instant, and both or neither know their offset. -/
def Moment.same (left right : Moment) : Bool :=
  left.offset.isSome == right.offset.isSome && left.instant == right.instant

def spanLiteral (minutes : Int) : String :=
  let seconds := minutes * 60
  let days := seconds.fdiv 86400
  let rest := seconds.fmod 86400
  let parts := (if days = 0 then [] else [s!"days={days}"]) ++
    (if rest = 0 then [] else [s!"seconds={rest}"])
  "datetime.timedelta(" ++ (if parts.isEmpty then "0" else ", ".intercalate parts) ++ ")"

def CalendarFault.message : CalendarFault → String
  | .year given => s!"year {given} is out of range"
  | .month => "month must be in 1..12"
  | .day => "day is out of range for month"
  | .hour => "hour must be in 0..23"
  | .minute => "minute must be in 0..59"
  | .second => "second must be in 0..59"
  | .offset minutes =>
    "offset must be a timedelta strictly between -timedelta(hours=24) and timedelta(hours=24)" ++
      ", not " ++ spanLiteral minutes ++ "."

end DtoForge.Document
