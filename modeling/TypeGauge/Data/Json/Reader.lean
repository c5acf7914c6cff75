import TypeGauge.Data.Value
import TypeGauge.Number.Binary
import TypeGauge.Number.Whole
import TypeGauge.Text.Digit
import TypeGauge.Text.Quoted
import TypeGauge.Text.Surrogate

/-!
# Reading documents in object notation

The reader accepts the usual object notation together with the words `NaN`,
`Infinity` and `-Infinity`.  A key that is repeated in an object keeps its
first place and takes its last value.  The first thing that does not fit is
reported with its offset; nesting beyond a given room and numbers of more
than 4300 digits are reported on their own.

Every function takes the characters that are still to be read and gives back
the ones it leaves.  The supply argument bounds the number of calls.  A supply
of twice the number of characters and two more is never used up, because every
second call consumes a character.
-/

namespace TypeGauge.Data.Json

open TypeGauge.Number TypeGauge.Text

/-- What was expected where the text went wrong. -/
inductive Complaint where
  | value
  | propertyName
  | colon
  | comma
  | endOfText
  | closingQuote
  | noControl
  | escape
  | unicodeEscape
  | noByteOrderMark
deriving DecidableEq, Repr, Inhabited

/-- The wording of a complaint. -/
def Complaint.message : Complaint → String
  | .value => "Expecting value"
  | .propertyName => "Expecting property name enclosed in double quotes"
  | .colon => "Expecting ':' delimiter"
  | .comma => "Expecting ',' delimiter"
  | .endOfText => "Extra data"
  | .closingQuote => "Unterminated string starting at"
  | .noControl => "Invalid control character at"
  | .escape => "Invalid \\escape"
  | .unicodeEscape => "Invalid \\uXXXX escape"
  | .noByteOrderMark => "Unexpected UTF-8 BOM (decode using utf-8-sig)"

/-- Why a text is not a document.  Places are given by the number of characters after them. -/
inductive Refusal where
  | complaint (complaint : Complaint) (remaining : Nat)
  | tooManyDigits (count : Nat)
  | tooDeep
deriving DecidableEq, Repr, Inhabited

/-- The blanks between the parts of a document. -/
def isBlank (character : Char) : Bool :=
  character == ' ' || character == '\t' || character == '\n' || character == '\r'

/-- Drop the blanks at the front. -/
def skipBlanks (characters : List Char) : List Char :=
  characters.dropWhile isBlank

/-- Refuse at the front of the given characters. -/
def refuse (complaint : Complaint) (characters : List Char) : Refusal :=
  .complaint complaint characters.length

/-- The character that a one-letter escape stands for. -/
def shortEscape? (letter : Char) : Option Char :=
  if letter == Quoted.double || letter == Quoted.backslash || letter == '/' then some letter
  else if letter == 'b' then some '\x08'
  else if letter == 'f' then some '\x0c'
  else if letter == 'n' then some '\n'
  else if letter == 'r' then some '\r'
  else if letter == 't' then some '\t'
  else none

/--
Read the four digits of an escape, the characters starting at its letter `u`.
A fifth character has to follow.
-/
def unit? (fromLetter : List Char) : Except Refusal (Nat × List Char) :=
  let digits := (fromLetter.drop 1).take 4
  let rest := fromLetter.drop 5
  if digits.length < 4 || rest.isEmpty then .error (refuse .unicodeEscape fromLetter)
  else
    match Digit.hexNumber? digits with
    | some unit => .ok (unit, rest)
    | none => .error (refuse .unicodeEscape fromLetter)

/-- Read an escape of code units, the characters starting at its letter `u`. -/
def unicodeEscape (fromLetter : List Char) : Except Refusal (Char × List Char) := do
  let (unit, rest) ← unit? fromLetter
  match Surrogate.isHigh unit, rest with
  | true, '\\' :: 'u' :: more =>
      if rest.length ≤ 6 then return (Surrogate.characterOf unit, rest)
      else
        let (second, afterSecond) ← unit? ('u' :: more)
        if Surrogate.isLow second then
          return (Char.ofNat (Surrogate.paired unit second), afterSecond)
        else return (Surrogate.characterOf unit, rest)
  | _, _ => return (Surrogate.characterOf unit, rest)

/--
Read the rest of a text after its opening quote.  `opening` starts at that
quote, which is where a text without end is reported.
-/
def readText (opening : List Char) :
    (supply : Nat) → (done : List Char) → List Char → Except Refusal (String × List Char)
  | 0, _, _ => .error (refuse .closingQuote opening)
  | _ + 1, _, [] => .error (refuse .closingQuote opening)
  | supply + 1, done, character :: rest =>
      if character == Quoted.double then .ok (String.ofList done.reverse, rest)
      else if character == Quoted.backslash then
        match rest with
        | [] => .error (refuse .closingQuote opening)
        | letter :: more =>
            if letter == 'u' then do
              let (decoded, after) ← unicodeEscape rest
              readText opening supply (decoded :: done) after
            else
              match shortEscape? letter with
              | some decoded => readText opening supply (decoded :: done) more
              | none => .error (.complaint .escape (rest.length + 1))
      else if character.toNat ≤ 0x1F then .error (.complaint .noControl (rest.length + 1))
      else readText opening supply (character :: done) rest

/-- The fraction of a number: a point with at least one digit behind it. -/
def splitFraction : List Char → List Char × List Char
  | '.' :: rest =>
      let digits := rest.takeWhile Char.isDigit
      if digits.isEmpty then ([], '.' :: rest) else (digits, rest.dropWhile Char.isDigit)
  | characters => ([], characters)

/-- The exponent of a number: a mark, an optional sign and at least one digit. -/
def splitExponent : List Char → Option Int × List Char
  | mark :: rest =>
      let (negative, unsigned) := Whole.splitSign rest
      let digits := unsigned.takeWhile Char.isDigit
      if (mark == 'e' || mark == 'E') && !digits.isEmpty then
        (some (Whole.signed negative (Digit.number (digits.filterMap Digit.basicValue?))),
          unsigned.dropWhile Char.isDigit)
      else (none, mark :: rest)
  | [] => (none, [])

/-- Read a number; `start` is the place where it begins. -/
def readNumber (start characters : List Char) (negative : Bool) :
    Except Refusal (Value × List Char) :=
  let (wholePart, rest) :=
    match characters with
    | '0' :: rest => (['0'], rest)
    | _ => (characters.takeWhile Char.isDigit, characters.dropWhile Char.isDigit)
  if wholePart.isEmpty then .error (refuse .value start)
  else
    let (fraction, afterFraction) := splitFraction rest
    let (exponent, afterExponent) := splitExponent afterFraction
    if fraction.isEmpty && exponent.isNone then
      if Whole.digitLimit < wholePart.length then .error (.tooManyDigits wholePart.length)
      else
        let number := Digit.number (wholePart.filterMap Digit.basicValue?)
        .ok (.whole (Whole.signed negative number), afterExponent)
    else
      let digits := Digit.number ((wholePart ++ fraction).filterMap Digit.basicValue?)
      let power := exponent.getD 0 - Int.ofNat fraction.length
      .ok (.double (Binary.ofDecimal negative digits power), afterExponent)

/-- The values that are written as words. -/
def words : List (String × Value) :=
  [("null", .null), ("true", .truth true), ("false", .truth false),
    ("NaN", .double Binary.undefinedNumber), ("Infinity", .double (Binary.infinity false)),
    ("-Infinity", .double (Binary.infinity true))]

/-- Read a value that is written as a word. -/
def readWord? (characters : List Char) : Option (Value × List Char) :=
  (words.find? fun word => word.1.toList.isPrefixOf characters).map
    fun word => (word.2, characters.drop word.1.length)

/-- Read a value that is neither a list nor an object. -/
def readScalar (supply : Nat) (characters : List Char) : Except Refusal (Value × List Char) :=
  match characters with
  | [] => .error (refuse .value [])
  | first :: rest =>
      if first == Quoted.double then do
        let (content, after) ← readText characters supply [] rest
        return (.text content, after)
      else
        match readWord? characters with
        | some found => .ok found
        | none =>
            if first == '-' then readNumber characters rest true
            else readNumber characters characters false

mutual

/-- Read a value at the front of the characters. -/
def readValue : (supply room : Nat) → List Char → Except Refusal (Value × List Char)
  | 0, _, characters => .error (refuse .value characters)
  | supply + 1, room, characters =>
      match characters with
      | '\x7b' :: rest =>
          match room with
          | 0 => .error .tooDeep
          | room + 1 =>
              match skipBlanks rest with
              | '\x7d' :: after => .ok (.object [], after)
              | fields => readFields supply room [] fields
      | '[' :: rest =>
          match room with
          | 0 => .error .tooDeep
          | room + 1 =>
              match skipBlanks rest with
              | ']' :: after => .ok (.list [], after)
              | items => readItems supply room [] items
      | _ => readScalar supply characters

/-- Read the items of a list up to its closing bracket. -/
def readItems :
    (supply room : Nat) → (done : List Value) → List Char → Except Refusal (Value × List Char)
  | 0, _, _, characters => .error (refuse .value characters)
  | supply + 1, room, done, characters => do
      let (item, rest) ← readValue supply room characters
      match skipBlanks rest with
      | ']' :: after => return (.list (item :: done).reverse, after)
      | ',' :: after => readItems supply room (item :: done) (skipBlanks after)
      | after => .error (refuse .comma after)

/-- Read the fields of an object up to its closing brace. -/
def readFields :
    (supply room : Nat) → (done : List (String × Value)) → List Char →
      Except Refusal (Value × List Char)
  | 0, _, _, characters => .error (refuse .value characters)
  | supply + 1, room, done, characters =>
      match characters with
      | '\x22' :: rest => do
          let (name, afterName) ← readText characters supply [] rest
          match skipBlanks afterName with
          | ':' :: afterColon =>
              let (value, afterValue) ← readValue supply room (skipBlanks afterColon)
              let fields := Value.putField name value done
              match skipBlanks afterValue with
              | '\x7d' :: after => return (.object fields, after)
              | ',' :: after => readFields supply room fields (skipBlanks after)
              | after => .error (refuse .comma after)
          | after => .error (refuse .colon after)
      | _ => .error (refuse .propertyName characters)

end

/-- Read a whole text as one document. -/
def readDocument (room : Nat) (characters : List Char) : Except Refusal Value :=
  match characters with
  | '\ufeff' :: _ => .error (refuse .noByteOrderMark characters)
  | _ => do
      let start := skipBlanks characters
      let (value, rest) ← readValue (2 * characters.length + 2) room start
      match skipBlanks rest with
      | [] => return value
      | after => .error (refuse .endOfText after)

/-- The offset of a complaint in a text. -/
def offsetOf (characters : List Char) (remaining : Nat) : Nat :=
  characters.length - remaining

end TypeGauge.Data.Json
