import TypeGauge.Number.Whole

/-!
# Whole numbers in settings

A setting may give a whole number as a text.  The plain form is a minus sign or none
and digits without superfluous noughts; it may not be longer than numbers in general,
the sign included, and that is noticed before anything that follows the digits is
looked at.  A text that is not in plain form is tidied and read once more: white space
around it and a plus sign are dropped, then behind the sign leading noughts with the
underscores among them, then a point with one nought or more behind it, then single
underscores inside.  A minus sign may follow the leading noughts, and the noughts
behind it are not leading ones.  Only the basic ten digits count.
-/

namespace TypeGauge.Number.SettingText

open TypeGauge.Number TypeGauge.Text

/-- Split a minus sign off a number. -/
def splitMinus : List Char → Bool × List Char
  | '-' :: rest => (true, rest)
  | characters => (false, characters)

/-- Read a number in plain form, in which a nought comes first only when it stands alone. -/
def readPlain (characters : List Char) : Except Whole.Fault Int :=
  let (negative, unsigned) := splitMinus characters
  let digits := unsigned.takeWhile Char.isDigit
  let size := if negative then digits.length + 1 else digits.length
  if digits.isEmpty || (digits.head? == some '0' && unsigned != ['0']) then .error .malformed
  else if Whole.digitLimit < size then .error (.tooManyDigits size)
  else if digits.length < unsigned.length then .error .malformed
  else .ok (Whole.signed negative (Digit.number (digits.filterMap Digit.basicValue?)))

/--
Go on dropping noughts and underscores behind a character that was one of them.  What
is left starts with another digit or a minus sign; the last character dropped is put
back before a point and at the end.
-/
def dropNoughtsAfter? (last : Char) : List Char → Option (List Char)
  | [] => some [last]
  | character :: rest =>
      if character == '0' || character == '_' then dropNoughtsAfter? character rest
      else if character == '.' then some (last :: character :: rest)
      else if character.isDigit || character == '-' then some (character :: rest)
      else none

/-- Drop the leading noughts of a text that starts with a digit. -/
def dropNoughts? : List Char → Option (List Char)
  | [] => none
  | first :: rest =>
      if first == '0' then dropNoughtsAfter? first rest
      else if first.isDigit then some (first :: rest)
      else none

/-- Drop a point that one nought or more and nothing else follows. -/
def dropPoint (characters : List Char) : List Char :=
  let before := characters.takeWhile (· != '.')
  let after := (characters.dropWhile (· != '.')).drop 1
  if !after.isEmpty && after.all (· == '0') then before else characters

/-- Whether two underscores stand side by side. -/
def hasDoubled : List Char → Bool
  | first :: second :: rest => (first == '_' && second == '_') || hasDoubled (second :: rest)
  | _ => false

/-- Drop the underscores, provided that none is first, last or doubled. -/
def dropUnderscores (characters : List Char) : List Char :=
  if characters.head? == some '_' || characters.getLast? == some '_' || hasDoubled characters then
    characters
  else characters.filter (· != '_')

/-- Tidy a number behind its sign; noughts may come off before a minus sign of its own. -/
def tidyUnsigned? (characters : List Char) : Option (List Char) :=
  (dropNoughts? characters).map fun rest => dropUnderscores (dropPoint rest)

/-- Tidy a number. -/
def tidy? (characters : List Char) : Option (List Char) :=
  match Space.strip characters with
  | '+' :: rest => tidyUnsigned? rest
  | '-' :: rest => (tidyUnsigned? rest).map ('-' :: ·)
  | rest => tidyUnsigned? rest

/-- Read a whole number that makes up a whole setting. -/
def readWhole (text : String) : Except Whole.Fault Int :=
  match readPlain text.toList with
  | .error .malformed =>
      match tidy? text.toList with
      | none => .error .malformed
      | some tidied => readPlain tidied
  | outcome => outcome

end TypeGauge.Number.SettingText
