import TypeGauge.Text.Digit
import TypeGauge.Text.Space

/-!
# Whole numbers in text

A whole number may have white space around it, a sign, and single underscores
between its digits, which may be decimal digits of any script.  Numbers of more
than 4300 digits are refused, and that is noticed before anything that follows
the digits is looked at.
-/

namespace TypeGauge.Number.Whole

open TypeGauge.Text

/-- Why a text is not a whole number. -/
inductive Fault where
  | malformed
  | tooManyDigits (count : Nat)
deriving DecidableEq, Repr, Inhabited

/-- The largest number of digits that is read. -/
def digitLimit : Nat :=
  4300

/-- Whether a character belongs to the digit part of a number. -/
def inNumeral (character : Char) : Bool :=
  (Digit.value? character).isSome || character == '_'

/-- The digit values of a numeral in which no underscore is first, last or doubled. -/
def numeralDigits? : List Char → Option (List Nat)
  | [] => none
  | [character] => (Digit.value? character).map ([·])
  | character :: '_' :: rest => do
      let digit ← Digit.value? character
      let digits ← numeralDigits? rest
      return digit :: digits
  | character :: rest => do
      let digit ← Digit.value? character
      let digits ← numeralDigits? rest
      return digit :: digits

/-- Split a sign off a number. -/
def splitSign : List Char → Bool × List Char
  | '+' :: rest => (false, rest)
  | '-' :: rest => (true, rest)
  | characters => (false, characters)

/-- Give a natural number a sign. -/
def signed (negative : Bool) (number : Nat) : Int :=
  if negative then -Int.ofNat number else Int.ofNat number

/-- Read a whole number that makes up a whole text. -/
def read (characters : List Char) : Except Fault Int :=
  let (negative, unsigned) := splitSign (characters.dropWhile Space.isWhite)
  match numeralDigits? (unsigned.takeWhile inNumeral) with
  | none => .error .malformed
  | some digits =>
      if digitLimit < digits.length then .error (.tooManyDigits digits.length)
      else if ((unsigned.dropWhile inNumeral).all Space.isWhite) then
        .ok (signed negative (Digit.number digits))
      else .error .malformed

end TypeGauge.Number.Whole
