import TypeGauge.Number.Binary
import TypeGauge.Number.Whole
import TypeGauge.Text.Digit

/-!
# Decimal numbers in text

A decimal number is a sign, digits, a fraction and an exponent, with at least
one digit before or after the point, or one of the words for infinity and for
an undefined number in any letter case.  `parse?` reads that grammar over the
basic ten digits; the two callers differ only in what they do about
underscores and about digits of other scripts before they call it.
-/

namespace TypeGauge.Number.DecimalText

open TypeGauge.Number TypeGauge.Text

/-- The words that stand for numbers without digits. -/
def word? (negative : Bool) (lowered : String) : Option Float :=
  if lowered == "inf" || lowered == "infinity" then some (Binary.infinity negative)
  else if lowered == "nan" then some Binary.undefinedNumber
  else none

/-- The exponent that follows the digits, zero when there is none. -/
def exponent? : List Char → Option Int
  | [] => some 0
  | mark :: rest =>
      if mark == 'e' || mark == 'E' then
        let (negative, digits) := Whole.splitSign rest
        if digits.isEmpty || !digits.all Char.isDigit then none
        else some (Whole.signed negative (Digit.number (digits.filterMap Digit.basicValue?)))
      else none

/-- Read an unsigned decimal number over the basic digits. -/
def unsigned? (negative : Bool) (characters : List Char) : Option Float :=
  let before := characters.takeWhile Char.isDigit
  let rest := characters.dropWhile Char.isDigit
  let (after, tail) :=
    match rest with
    | '.' :: more => (more.takeWhile Char.isDigit, more.dropWhile Char.isDigit)
    | _ => ([], rest)
  if before.isEmpty && after.isEmpty then none
  else
    (exponent? tail).map fun exponent =>
      Binary.ofDecimal negative
        (Digit.number ((before ++ after).filterMap Digit.basicValue?))
        (exponent - Int.ofNat after.length)

/-- Read a decimal number that makes up a whole text. -/
def parse? (characters : List Char) : Option Float :=
  let (negative, rest) := Whole.splitSign characters
  match word? negative (String.ofList (rest.map Char.toLower)) with
  | some number => some number
  | none => unsigned? negative rest

/-- Whether every underscore stands between two digits. -/
def underscoresSeparateDigits : List Char → Bool
  | [] => true
  | '_' :: _ => false
  | [_] => true
  | first :: '_' :: next :: rest =>
      first.isDigit && next.isDigit && underscoresSeparateDigits (next :: rest)
  | _ :: '_' :: [] => false
  | _ :: next :: rest => underscoresSeparateDigits (next :: rest)

/-- Replace the decimal digits of every script by the basic ones. -/
def basicDigits (characters : List Char) : List Char :=
  characters.map fun character =>
    match Digit.value? character with
    | some digit => Char.ofNat (48 + digit)
    | none => character

/-- Read a number from a command line: white space, underscores and all scripts are welcome. -/
def ofArgument? (text : String) : Option Float :=
  let characters := basicDigits (Space.strip text.toList)
  if underscoresSeparateDigits characters then parse? (characters.filter (· != '_')) else none

/-- Whether underscores stand alone and not at either end. -/
def looseUnderscores : List Char → Bool
  | [] => true
  | ['_'] => false
  | '_' :: '_' :: _ => false
  | _ :: rest => looseUnderscores rest

/--
Read a number from a setting: white space around it is ignored, and failing
that, single underscores inside it are.
-/
def ofSetting? (text : String) : Option Float :=
  match parse? (Space.strip text.toList) with
  | some number => some number
  | none =>
      let characters := text.toList
      if characters.head? != some '_' && looseUnderscores characters then
        parse? (characters.filter (· != '_'))
      else none

end TypeGauge.Number.DecimalText
