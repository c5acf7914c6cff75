/-!
# Dates and times

Settings files can hold dates, times of day, and both together with or without the offset
of a time zone.  A date is a day of the calendar and a time is complete, so nothing else
can be built.
-/

namespace TypeGauge.Data

/-- Whether a year has a twenty-ninth of February. -/
def isLeapYear (year : Nat) : Bool :=
  year % 4 == 0 && (year % 100 != 0 || year % 400 == 0)

/-- The number of days in a month. -/
def daysInMonth (year month : Nat) : Nat :=
  if month == 2 then if isLeapYear year then 29 else 28
  else if [4, 6, 9, 11].contains month then 30
  else 31

/-- Whether three numbers are a day of the calendar. -/
def isCalendarDay (year month day : Nat) : Bool :=
  1 ≤ year && year ≤ 9999 && 1 ≤ month && month ≤ 12 && 1 ≤ day && day ≤ daysInMonth year month

/-- A day of the calendar. -/
structure Day where
  year : Nat
  month : Nat
  day : Nat
  isReal : isCalendarDay year month day = true
deriving DecidableEq, Repr

/-- A time of day. -/
structure Clock where
  hour : Fin 24
  minute : Fin 60
  second : Fin 60
  microsecond : Fin 1000000
deriving DecidableEq, Repr

/-- A date, a time, or both; an offset is the number of minutes ahead of universal time. -/
inductive Moment where
  | date (day : Day)
  | dateTime (day : Day) (clock : Clock) (offset : Option Int)
  | time (clock : Clock)
deriving DecidableEq, Repr

/-- The sorts of moments. -/
inductive MomentSort where
  | date
  | dateTime
  | time
deriving DecidableEq, Repr, Inhabited

/-- The word that complaints use for a sort of moments. -/
def MomentSort.label : MomentSort → String
  | .date => "datetime.date"
  | .dateTime => "datetime.datetime"
  | .time => "datetime.time"

/-- The sort of a moment. -/
def Moment.sort : Moment → MomentSort
  | .date _ => .date
  | .dateTime .. => .dateTime
  | .time _ => .time

/-- The day of the calendar that three numbers are, if they are one. -/
def Day.ofNumbers? (year month day : Nat) : Option Day :=
  if isReal : isCalendarDay year month day = true then some ⟨year, month, day, isReal⟩ else none

/-- A number with noughts before it up to a width. -/
def padded (width number : Nat) : String :=
  let digits := toString number
  String.ofList (List.replicate (width - digits.length) '0') ++ digits

/-- The written form of a day. -/
def Day.text (day : Day) : String :=
  padded 4 day.year ++ "-" ++ padded 2 day.month ++ "-" ++ padded 2 day.day

/-- The written form of a time of day; microseconds appear where there are any. -/
def Clock.text (clock : Clock) : String :=
  let upToSeconds :=
    padded 2 clock.hour ++ ":" ++ padded 2 clock.minute ++ ":" ++ padded 2 clock.second
  if clock.microsecond == 0 then upToSeconds
  else upToSeconds ++ "." ++ padded 6 clock.microsecond

/-- The written form of an offset. -/
def offsetText (offset : Int) : String :=
  let minutes := offset.natAbs
  (if offset < 0 then "-" else "+") ++ padded 2 (minutes / 60) ++ ":" ++ padded 2 (minutes % 60)

/-- The written form of a moment. -/
def Moment.text : Moment → String
  | .date day => day.text
  | .dateTime day clock offset =>
      day.text ++ " " ++ clock.text ++ (offset.map offsetText).getD ""
  | .time clock => clock.text

end TypeGauge.Data
