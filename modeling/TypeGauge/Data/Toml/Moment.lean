import TypeGauge.Data.Moment
import TypeGauge.Text.Digit

/-!
# The dates and times of a settings file

A date is written with its year first, and a time with its hour first.  A time may follow
a date after a blank or the letter `T`, and an offset may follow that time.  What follows
and does not have the form of a time or of an offset is left to be read by somebody else.

A date whose numbers have the right form but are no day of the calendar is refused, and so
reading a moment ends in one of three ways: there is none, there is one, or there is one
that is refused.
-/

namespace TypeGauge.Data.Toml

open TypeGauge.Text

/-- Read a number with exactly the given number of digits. -/
def readFixed? (width : Nat) (characters : List Char) : Option (Nat × List Char) :=
  let digits := (characters.take width).filterMap Digit.basicValue?
  if digits.length == width then some (Digit.number digits, characters.drop width) else none

/-- Read a number of two digits below a bound. -/
def readBelow? (bound : Nat) (characters : List Char) : Option (Fin bound × List Char) := do
  let (number, rest) ← readFixed? 2 characters
  if small : number < bound then some (⟨number, small⟩, rest) else none

/-- Read a number of two digits from one up to a bound. -/
def readFromOne? (most : Nat) (characters : List Char) : Option (Nat × List Char) := do
  let (number, rest) ← readFixed? 2 characters
  if 1 ≤ number && number ≤ most then some (number, rest) else none

/-- Go past a mark that has to stand at the front. -/
def past? (isMark : Char → Bool) : List Char → Option (List Char)
  | mark :: rest => if isMark mark then some rest else none
  | [] => none

/-- Read the numbers of a date. -/
def readDay? (characters : List Char) : Option ((Nat × Nat × Nat) × List Char) := do
  let (year, rest) ← readFixed? 4 characters
  let (month, rest) ← readFromOne? 12 (← past? (· == '-') rest)
  let (day, rest) ← readFromOne? 31 (← past? (· == '-') rest)
  return ((year, month, day), rest)

/-- The number of digits of a microsecond; further digits of a fraction do not count. -/
def microsecondWidth : Nat :=
  6

/-- The microseconds that a number stands for, of which only the last six digits count. -/
def microseconds (number : Nat) : Fin 1000000 :=
  ⟨number % 1000000, Nat.mod_lt number (by decide)⟩

/-- Read the fraction of a second, if there is one. -/
def readFraction (characters : List Char) : Fin 1000000 × List Char :=
  match characters with
  | '.' :: rest =>
      let digits := (rest.takeWhile Char.isDigit).filterMap Digit.basicValue?
      if digits.isEmpty then (microseconds 0, characters)
      else
        let counted := digits.take microsecondWidth
        let filled := counted ++ List.replicate (microsecondWidth - counted.length) 0
        (microseconds (Digit.number filled), rest.dropWhile Char.isDigit)
  | _ => (microseconds 0, characters)

/-- Read a time of day. -/
def readClock? (characters : List Char) : Option (Clock × List Char) := do
  let (hour, rest) ← readBelow? 24 characters
  let (minute, rest) ← readBelow? 60 (← past? (· == ':') rest)
  let (second, rest) ← readBelow? 60 (← past? (· == ':') rest)
  let (microsecond, rest) := readFraction rest
  return (⟨hour, minute, second, microsecond⟩, rest)

/-- Read an offset with a sign. -/
def readSignedOffset? (characters : List Char) : Option (Int × List Char) := do
  let rest ← past? (fun sign => sign == '+' || sign == '-') characters
  let (hour, rest) ← readBelow? 24 rest
  let (minute, rest) ← readBelow? 60 (← past? (· == ':') rest)
  let minutes := Int.ofNat (60 * hour + minute)
  return (if characters.head? == some '-' then -minutes else minutes, rest)

/-- Read the offset of a time, if there is one. -/
def readOffset (characters : List Char) : Option Int × List Char :=
  match past? (fun mark => mark == 'Z' || mark == 'z') characters with
  | some rest => (some 0, rest)
  | none =>
      match readSignedOffset? characters with
      | some (offset, rest) => (some offset, rest)
      | none => (none, characters)

/-- Read the time that follows a date. -/
def readTimeAfterDay? (characters : List Char) : Option (Clock × List Char) := do
  readClock? (← past? (fun mark => mark == 'T' || mark == 't' || mark == ' ') characters)

/-- Read what has the form of a moment; without a moment it is no day of the calendar. -/
def readMoment? (characters : List Char) : Option (Option Moment × List Char) :=
  match readDay? characters with
  | some ((year, month, day), rest) =>
      let day? := Day.ofNumbers? year month day
      match readTimeAfterDay? rest with
      | some (clock, rest) =>
          let (offset, rest) := readOffset rest
          some (day?.map (.dateTime · clock offset), rest)
      | none => some (day?.map .date, rest)
  | none => (readClock? characters).map fun (clock, rest) => (some (.time clock), rest)

end TypeGauge.Data.Toml
