import TypeGauge.Report.Picture
import TypeGauge.Text.Quoted
import TypeGauge.Text.Space

/-!
# Console text

A console shows text line by line.  It leaves out the control characters that would
move the cursor, and it draws the picture for a short code, a name between two colons.

A console also knows tags, words in square brackets that style what follows.  A text
from outside is shown with its tags as they stand: they are set apart, so that no short
code reaches into one or out of it, and a backslash before a square bracket that opens
no tag is taken off.  A text from outside that ends in a single backslash is given
another one, so that the backslash cannot join what follows.
-/

namespace TypeGauge.Report

open TypeGauge.Text

/-- The name between the colon just read and the next one, if no blank comes before it. -/
def codeName? (characters : List Char) : Option (List Char × List Char) :=
  let name := characters.takeWhile fun character => character != ':' && !Space.isBlank character
  match characters.drop name.length with
  | ':' :: rest => some (name, rest)
  | _ => none

/-- Draw the pictures for short codes; the colons of a name that is no short code stay. -/
def drawPictures : (supply : Nat) → List Char → List Char
  | 0, characters => characters
  | _ + 1, [] => []
  | supply + 1, character :: rest =>
      if character == ':' then
        match codeName? rest with
        | none => ':' :: drawPictures supply rest
        | some (name, after) =>
            match Picture.ofCode? (String.ofList name) with
            | some picture => picture ++ drawPictures supply after
            | none => ':' :: (name ++ ':' :: drawPictures supply after)
      else character :: drawPictures supply rest

/-- Whether a character may stand first in a tag. -/
def startsTag (character : Char) : Bool :=
  character.isLower || character == '#' || character == '/' || character == '@'

/-- The tag that a text starts with, and what follows it. -/
def tag? : List Char → Option (List Char × List Char)
  | bracket :: first :: rest =>
      if bracket == '[' && startsTag first then
        let body := rest.takeWhile fun character => character != '[' && character != ']'
        match rest.drop body.length with
        | ']' :: after => some (bracket :: first :: (body ++ [']']), after)
        | _ => none
      else none
  | _ => none

/-- Split a text into its tags and what stands between them. -/
def pieces : (supply : Nat) → List Char → List (List Char)
  | 0, characters => [characters]
  | _ + 1, [] => [[]]
  | supply + 1, character :: rest =>
      match tag? (character :: rest) with
      | some (tag, after) => [] :: tag :: pieces supply after
      | none =>
          match pieces supply rest with
          | piece :: others => (character :: piece) :: others
          | [] => [[character]]

/-- Take the backslash off before every opening bracket. -/
def freeBrackets : List Char → List Char
  | first :: second :: rest =>
      if first == Quoted.backslash && second == '[' then second :: freeBrackets rest
      else first :: freeBrackets (second :: rest)
  | characters => characters

/-- A piece of a text as the console shows it. -/
def shownPiece (piece : List Char) : List Char :=
  let freed := freeBrackets piece
  drawPictures freed.length freed

/-- The control characters that are left out. -/
def isLeftOut (character : Char) : Bool :=
  [7, 8, 11, 12, 13].contains character.toNat

/-- A text as the console shows it. -/
def consoleText (text : String) : String :=
  let shown := (pieces text.length text.toList).flatMap shownPiece
  String.ofList (shown.filter fun character => !isLeftOut character)

/-- The lines that the console shows a text on. -/
def consoleLines (text : String) : List String :=
  (consoleText text).splitOn "\n"

/-- A text from outside, guarded against joining what follows. -/
def guarded (text : String) : String :=
  match text.toList.reverse with
  | last :: rest =>
      if last == Quoted.backslash && rest.head? != some Quoted.backslash then
        text.push Quoted.backslash
      else text
  | [] => text

end TypeGauge.Report
