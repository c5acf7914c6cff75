/-!
# Plain text

Text that is not shown on a terminal goes without the sequences that would steer one.
Such a sequence is the escape character and a square bracket, then numbers with
semicolons and question marks among them, then a letter that tells what to do.  An
escape character that starts no such sequence stays.
-/

namespace TypeGauge.Report

/-- The character that starts a sequence for a terminal. -/
def escapeCharacter : Char :=
  '\x1b'

/-- Whether a character belongs to the numbers of a sequence. -/
def isParameter (character : Char) : Bool :=
  character.isDigit || character == ';' || character == '?'

/-- What follows the sequence that a text starts with, if it starts with one. -/
def afterSequence? : List Char → Option (List Char)
  | first :: second :: rest =>
      if first == escapeCharacter && second == '[' then
        match rest.dropWhile isParameter with
        | last :: after => if last.isAlpha then some after else none
        | [] => none
      else none
  | _ => none

/-- Leave out the sequences for a terminal. -/
def dropSequences : (supply : Nat) → List Char → List Char
  | 0, characters => characters
  | _ + 1, [] => []
  | supply + 1, character :: rest =>
      match afterSequence? (character :: rest) with
      | some after => dropSequences supply after
      | none => character :: dropSequences supply rest

/-- A text without sequences for a terminal. -/
def plainText (text : String) : String :=
  String.ofList (dropSequences text.length text.toList)

end TypeGauge.Report
