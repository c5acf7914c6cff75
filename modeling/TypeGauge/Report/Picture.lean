import TypeGauge.Report.Picture.Figure
import TypeGauge.Report.Picture.Flag
import TypeGauge.Report.Picture.Symbol
import TypeGauge.Text.Digit
import TypeGauge.Text.LetterCase

/-!
# Pictures

A picture is a short sequence of characters that is drawn as one.  Pictures have names,
which count in any letter case.  A flag is also named after its region with an opening
in front, a figure with a tone of skin has the tone at the end of its name, and a
picture may be asked for in colour or as plain text by one more word at the end.
-/

namespace TypeGauge.Report.Picture

open TypeGauge.Text

/-- The words of a list in pairs. -/
def pairs : List String → List (String × String)
  | name :: content :: rest => (name, content) :: pairs rest
  | _ => []

/-- The entries of lines of names and contents. -/
def entries (lines : List String) : List (String × String) :=
  lines.flatMap fun line => pairs (line.splitOn " ")

/-- The characters with the code points that are written in hexadecimal. -/
def sequence (codes : String) : List Char :=
  (codes.splitOn "-").map fun code => Char.ofNat ((Digit.hexNumber? code.toList).getD 0)

/-- The sign of the first letter in flags. -/
def firstRegional : Nat :=
  0x1F1E6

/-- The flag of a region. -/
def flag (letters : String) : List Char :=
  letters.toList.map fun letter => Char.ofNat (firstRegional + (letter.toNat - 'A'.toNat))

/-- Faces, animals, objects and signs by name. -/
def symbols : List (String × List Char) :=
  (entries symbolLines).map fun entry => (entry.1, sequence entry.2)

/-- People and parts of the body by name. -/
def figures : List (String × List Char) :=
  (entries figureLines).map fun entry => (entry.1, sequence entry.2)

/-- Flags by the name of the region. -/
def flags : List (String × List Char) :=
  (entries flagLines).map fun entry => (entry.1, flag entry.2)

/-- What stands before the region in the longer name of a flag. -/
def flagOpening : String :=
  "flag_for_"

/-- The ends of names that tell a tone of skin, with the character of the tone. -/
def tones : List (String × Char) :=
  [("_light_skin_tone", Char.ofNat 0x1F3FB), ("_medium-light_skin_tone", Char.ofNat 0x1F3FC),
    ("_medium_skin_tone", Char.ofNat 0x1F3FD), ("_medium-dark_skin_tone", Char.ofNat 0x1F3FE),
    ("_dark_skin_tone", Char.ofNat 0x1F3FF)]

/-- The mark behind a character that is to be drawn as plain text. -/
def textMark : Char :=
  '\uFE0E'

/-- The mark behind a character that is to be drawn in colour. -/
def colourMark : Char :=
  '\uFE0F'

/-- The ends of names that tell how a picture is to be drawn, with their marks. -/
def manners : List (String × Char) :=
  [("-emoji", colourMark), ("-text", textMark)]

/-- What comes before a given end of a text. -/
def beforeEnd? (ending name : String) : Option String :=
  if ending.toList.isSuffixOf name.toList then
    some (String.ofList (name.toList.take (name.length - ending.length)))
  else none

/-- What comes after a given opening of a text. -/
def afterOpening? (opening name : String) : Option String :=
  if opening.toList.isPrefixOf name.toList then
    some (String.ofList (name.toList.drop opening.length))
  else none

/-- Split the first of several ends off a name, with what it stands for. -/
def splitEnd? (endings : List (String × Char)) (name : String) : Option (String × Char) :=
  endings.findSome? fun ending => (beforeEnd? ending.1 name).map (·, ending.2)

/-- Give a figure a tone, which comes after its first character in place of a mark of colour. -/
def toned (tone : Char) : List Char → List Char
  | [] => []
  | first :: rest => first :: tone :: (if rest.head? == some colourMark then rest.drop 1 else rest)

/-- The flag with a name. -/
def flag? (name : String) : Option (List Char) :=
  flags.lookup ((afterOpening? flagOpening name).getD name)

/-- The figure with a name, in a tone or without. -/
def figure? (name : String) : Option (List Char) :=
  match splitEnd? tones name with
  | some (plain, tone) => (figures.lookup plain).map (toned tone)
  | none => figures.lookup name

/-- The picture with a name in lower case. -/
def named? (name : String) : Option (List Char) :=
  symbols.lookup name <|> flag? name <|> figure? name

/-- The picture that a short code asks for. -/
def ofCode? (code : String) : Option (List Char) :=
  match splitEnd? manners code with
  | some (name, mark) => (named? (LetterCase.lowered name)).map (· ++ [mark])
  | none => named? (LetterCase.lowered code)

end TypeGauge.Report.Picture
