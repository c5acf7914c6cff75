import TypeGauge.Data.Value
import TypeGauge.Number.Binary
import TypeGauge.Number.Whole
import TypeGauge.Text.Digit
import TypeGauge.Text.Quoted

/-!
# The small parts of a settings file

Settings files are written in a line-oriented notation with tables, keys and values.
This module reads its small parts: keys, comments, texts and numbers.  Every reader
takes the characters that are still to be read and gives back the ones it leaves.
-/

namespace TypeGauge.Data.Toml

open TypeGauge.Number TypeGauge.Text

/-- Why a text is not a settings file. -/
inductive Refusal where
  | malformed
  | tooManyDigits (count : Nat)
  | tooDeep
deriving DecidableEq, Repr, Inhabited

/-- Blanks within a line. -/
def isBlank (character : Char) : Bool :=
  character == ' ' || character == '\t'

/-- Blanks and line ends. -/
def isBlankOrEnd (character : Char) : Bool :=
  isBlank character || character == '\n'

/-- Drop the blanks at the front. -/
def skipBlanks (characters : List Char) : List Char :=
  characters.dropWhile isBlank

/-- Control characters other than the tab. -/
def isControl (character : Char) : Bool :=
  (character.toNat < 0x20 && character != '\t') || character.toNat == 0x7F

/-- Drop a comment at the front, which reaches up to the end of the line. -/
def skipComment (characters : List Char) : Except Refusal (List Char) :=
  match characters with
  | '#' :: rest =>
      if (rest.takeWhile (· != '\n')).any isControl then .error .malformed
      else .ok (rest.dropWhile (· != '\n'))
  | _ => .ok characters

/-- Drop blanks, line ends and comments at the front. -/
def skipSpacing : (supply : Nat) → List Char → Except Refusal (List Char)
  | 0, characters => .ok characters
  | supply + 1, characters => do
      let blankless := characters.dropWhile isBlankOrEnd
      match blankless with
      | '#' :: _ => skipSpacing supply (← skipComment blankless)
      | _ => return blankless

/-- The characters of a key without quotes. -/
def isBare (character : Char) : Bool :=
  character.isAlphanum || character == '_' || character == '-'

/-- The character that a one-letter escape stands for. -/
def shortEscape? (letter : Char) : Option Char :=
  if letter == Quoted.double || letter == Quoted.backslash then some letter
  else if letter == 'b' then some '\x08'
  else if letter == 't' then some '\t'
  else if letter == 'n' then some '\n'
  else if letter == 'f' then some '\x0c'
  else if letter == 'r' then some '\r'
  else none

/-- The character with the code point that a number of hexadecimal digits spell. -/
def codePoint (width : Nat) (characters : List Char) : Except Refusal (Char × List Char) :=
  let digits := characters.take width
  if digits.length < width then .error .malformed
  else
    match Digit.hexNumber? digits with
    | some code =>
        if code.isValidChar then .ok (Char.ofNat code, characters.drop width)
        else .error .malformed
    | none => .error .malformed

/-- Read what follows a backslash. -/
def readEscape (characters : List Char) : Except Refusal (Char × List Char) :=
  match characters with
  | [] => .error .malformed
  | letter :: rest =>
      if letter == 'u' then codePoint 4 rest
      else if letter == 'U' then codePoint 8 rest
      else
        match shortEscape? letter with
        | some decoded => .ok (decoded, rest)
        | none => .error .malformed

/-- Whether a backslash before these characters joins a line to the next one. -/
def joinsLines (characters : List Char) : Bool :=
  match characters with
  | first :: _ => isBlankOrEnd first
  | [] => false

/-- Drop the end of a line after a backslash and the blank lines that follow. -/
def skipJoint (characters : List Char) : Except Refusal (List Char) :=
  match skipBlanks characters with
  | [] => .ok []
  | '\n' :: rest => .ok (rest.dropWhile isBlankOrEnd)
  | _ => .error .malformed

/-- Read the rest of a text between double quotes. -/
def readBasic (isLong : Bool) :
    (supply : Nat) → (done : List Char) → List Char → Except Refusal (List Char × List Char)
  | 0, _, _ => .error .malformed
  | _ + 1, _, [] => .error .malformed
  | supply + 1, done, character :: rest =>
      if character == Quoted.double then
        if !isLong then .ok (done.reverse, rest)
        else
          match rest with
          | '\x22' :: '\x22' :: after => .ok (done.reverse, after)
          | _ => readBasic isLong supply (character :: done) rest
      else if character == Quoted.backslash then
        if isLong && joinsLines rest then do
          readBasic isLong supply done (← skipJoint rest)
        else do
          let (decoded, after) ← readEscape rest
          readBasic isLong supply (decoded :: done) after
      else if isControl character && !(isLong && character == '\n') then .error .malformed
      else readBasic isLong supply (character :: done) rest

/-- Read the rest of a text between single quotes. -/
def readLiteral (isLong : Bool) :
    (done : List Char) → List Char → Except Refusal (List Char × List Char)
  | _, [] => .error .malformed
  | done, character :: rest =>
      if character == Quoted.single then
        if !isLong then .ok (done.reverse, rest)
        else if rest.take 2 == [Quoted.single, Quoted.single] then .ok (done.reverse, rest.drop 2)
        else readLiteral isLong (character :: done) rest
      else if isControl character && !(isLong && character == '\n') then .error .malformed
      else readLiteral isLong (character :: done) rest

/-- Up to two more quotes belong to a long text that is closed by more than three. -/
def moreQuotes (quote : Char) (content rest : List Char) : List Char × List Char :=
  let extra := (rest.take 2).takeWhile (· == quote)
  (content ++ extra, rest.drop extra.length)

/-- A line end directly after the opening of a long text does not belong to it. -/
def dropFirstEnd (characters : List Char) : List Char :=
  match characters with
  | '\n' :: rest => rest
  | _ => characters

/-- Read a text that starts with the given quote. -/
def readText (supply : Nat) (quote : Char) (characters : List Char) :
    Except Refusal (String × List Char) := do
  let isBasic := quote == Quoted.double
  if characters.take 3 == [quote, quote, quote] then
    let inside := dropFirstEnd (characters.drop 3)
    let (content, rest) ←
      if isBasic then readBasic true supply [] inside else readLiteral true [] inside
    let (whole, after) := moreQuotes quote content rest
    return (String.ofList whole, after)
  else
    let inside := characters.drop 1
    let (content, rest) ←
      if isBasic then readBasic false supply [] inside else readLiteral false [] inside
    return (String.ofList content, rest)

/-- Read one part of a key. -/
def readKeyPart (supply : Nat) (characters : List Char) : Except Refusal (String × List Char) :=
  match characters with
  | [] => .error .malformed
  | first :: rest =>
      if isBare first then
        .ok (String.ofList (characters.takeWhile isBare), characters.dropWhile isBare)
      else if first == Quoted.single then do
        let (content, after) ← readLiteral false [] rest
        return (String.ofList content, after)
      else if first == Quoted.double then do
        let (content, after) ← readBasic false supply [] rest
        return (String.ofList content, after)
      else .error .malformed

/-- Read a key, whose parts are divided by dots. -/
def readKey : (supply : Nat) → List Char → Except Refusal (List String × List Char)
  | 0, _ => .error .malformed
  | supply + 1, characters => do
      let (part, rest) ← readKeyPart supply characters
      match skipBlanks rest with
      | '.' :: after =>
          let (others, last) ← readKey supply (skipBlanks after)
          return (part :: others, last)
      | after => return ([part], after)

/-- Whether a character is a digit of a base up to sixteen. -/
def isDigitOf (base : Nat) (character : Char) : Bool :=
  match Digit.hexValue? character with
  | some value => value < base
  | none => false

/-- Split digits off the front, between which single underscores may stand. -/
def splitDigits (base : Nat) : (done : List Char) → List Char → List Char × List Char
  | done, '_' :: next :: rest =>
      if !done.isEmpty && isDigitOf base next then splitDigits base (next :: done) rest
      else (done.reverse, '_' :: next :: rest)
  | done, character :: rest =>
      if isDigitOf base character then splitDigits base (character :: done) rest
      else (done.reverse, character :: rest)
  | done, [] => (done.reverse, [])

/-- The number that digits spell in a base. -/
def numberIn (base : Nat) (digits : List Char) : Nat :=
  (digits.filterMap Digit.hexValue?).foldl (fun total digit => base * total + digit) 0

/-- Read a number in one of the bases with a mark. -/
def readMarked? (characters : List Char) : Option (Value × List Char) :=
  let inBase (base : Nat) (rest : List Char) : Option (Value × List Char) :=
    match splitDigits base [] rest with
    | ([], _) => none
    | (digits, after) => some (.whole (Int.ofNat (numberIn base digits)), after)
  match characters with
  | '0' :: 'x' :: rest => inBase 16 rest
  | '0' :: 'o' :: rest => inBase 8 rest
  | '0' :: 'b' :: rest => inBase 2 rest
  | _ => none

/-- The digits of a fraction, if a point with a digit behind it stands at the front. -/
def splitFraction? (characters : List Char) : Option (List Char × List Char) :=
  match characters with
  | '.' :: rest =>
      match splitDigits 10 [] rest with
      | ([], _) => none
      | found => some found
  | _ => none

/-- The exponent, if a mark with digits behind it stands at the front. -/
def splitExponent? (characters : List Char) : Option (Int × List Char) :=
  match characters with
  | mark :: rest =>
      if mark == 'e' || mark == 'E' then
        let (negative, unsigned) := Whole.splitSign rest
        match splitDigits 10 [] unsigned with
        | ([], _) => none
        | (digits, after) => some (Whole.signed negative (numberIn 10 digits), after)
      else none
  | [] => none

/-- Read a decimal number after its sign. -/
def readDecimal (negative : Bool) (characters : List Char) : Except Refusal (Value × List Char) :=
  let (digits, rest) :=
    match characters with
    | '0' :: rest => (['0'], rest)
    | _ => splitDigits 10 [] characters
  if digits.isEmpty then .error .malformed
  else
    let fraction := splitFraction? rest
    let (fractionDigits, afterFraction) := fraction.getD ([], rest)
    let exponent := splitExponent? afterFraction
    if fraction.isNone && exponent.isNone then
      if Whole.digitLimit < digits.length then .error (.tooManyDigits digits.length)
      else .ok (.whole (Whole.signed negative (numberIn 10 digits)), rest)
    else
      let (power, after) := exponent.getD (0, afterFraction)
      .ok (.double (Binary.ofDecimal negative (numberIn 10 (digits ++ fractionDigits))
        (power - Int.ofNat fractionDigits.length)), after)

/-- Read a number or one of the words for numbers without digits. -/
def readNumber (characters : List Char) : Except Refusal (Value × List Char) :=
  match readMarked? characters with
  | some found => .ok found
  | none =>
      let (negative, unsigned) := Whole.splitSign characters
      match unsigned with
      | 'i' :: 'n' :: 'f' :: rest => .ok (.double (Binary.infinity negative), rest)
      | 'n' :: 'a' :: 'n' :: rest => .ok (.double Binary.undefinedNumber, rest)
      | _ => readDecimal negative unsigned

end TypeGauge.Data.Toml
