import TypeGauge.Data.Value
import TypeGauge.Number.Shortest
import TypeGauge.Text.Quoted

/-!
# Values as text

A message that mentions a value writes it in full: a text stands as it is when
it is the whole value and between quotes when it is part of a list or an
object, doubles have their shortest decimals, and lists and objects are
written between brackets with a comma and a space between their parts.  A
date or a time is likewise written out on its own and as a call with its
numbers when it is part of something.
-/

namespace TypeGauge.Data

open TypeGauge.Number
open TypeGauge.Text.Quoted (quoted)

/-- The names of the doubles without digits in messages. -/
def messageNames : Shortest.SpecialNames :=
  ⟨"nan", "inf"⟩

/-- The text of a double in messages. -/
def doubleText (number : Float) : String :=
  Shortest.write Shortest.standard messageNames number

/-- The numbers of a day. -/
def Day.numbers (day : Day) : List Nat :=
  [day.year, day.month, day.day]

/-- The numbers of a time of day; noughts at the end are left out after the minutes. -/
def Clock.numbers (clock : Clock) : List Nat :=
  let precise : List Nat :=
    if clock.microsecond.val != 0 then [clock.second.val, clock.microsecond.val]
    else if clock.second.val != 0 then [clock.second.val]
    else []
  [clock.hour.val, clock.minute.val] ++ precise

/-- The zone with an offset as a call. -/
def zoneCall (offset : Int) : String :=
  if offset == 0 then "datetime.timezone.utc"
  else
    "datetime.timezone(datetime.timedelta(" ++ (if offset < 0 then "days=-1, " else "") ++
      "seconds=" ++ toString (offset % 1440 * 60) ++ "))"

/-- A moment as a call. -/
def Moment.call (moment : Moment) : String :=
  let arguments :=
    match moment with
    | .date day => day.numbers.map toString
    | .dateTime day clock offset =>
        (day.numbers ++ clock.numbers).map toString ++
          (offset.map fun minutes => "tzinfo=" ++ zoneCall minutes).toList
    | .time clock => clock.numbers.map toString
  moment.sort.label ++ "(" ++ String.intercalate ", " arguments ++ ")"

namespace Value

mutual

/-- A value as it stands inside a list or an object. -/
def inner : Value → String
  | .null => "None"
  | .truth flag => if flag then "True" else "False"
  | .whole number => toString number
  | .double number => doubleText number
  | .text content => quoted content
  | .moment instant => instant.call
  | .list items => "[" ++ String.intercalate ", " (innerItems items) ++ "]"
  | .object fields => "\x7b" ++ String.intercalate ", " (innerFields fields) ++ "\x7d"

/-- The parts of a list. -/
def innerItems : List Value → List String
  | [] => []
  | item :: rest => inner item :: innerItems rest

/-- The parts of an object. -/
def innerFields : List (String × Value) → List String
  | [] => []
  | (name, value) :: rest => (quoted name ++ ": " ++ inner value) :: innerFields rest

end

/-- A value as a message writes it. -/
def shown : Value → String
  | .text content => content
  | .moment instant => instant.text
  | value => inner value

end Value

end TypeGauge.Data
