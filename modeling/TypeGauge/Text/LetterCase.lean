/-!
# Letter case

Names that count in any letter case are compared in lower case.  Lower case is defined
here for the letters of the two Latin blocks of the character standard and for the two
signs of units that are letters of these blocks in disguise; other characters stay.
-/

namespace TypeGauge.Text.LetterCase

/-- Whether a code point is a capital letter of the second Latin block. -/
def isLatinCapital (code : Nat) : Bool :=
  0xC0 ≤ code && code ≤ 0xDE && code != 0xD7

/-- A character in lower case. -/
def lower (character : Char) : Char :=
  if character == '\u212A' then 'k'
  else if character == '\u212B' then '\u00E5'
  else if isLatinCapital character.toNat then Char.ofNat (character.toNat + 32)
  else character.toLower

/-- A text in lower case. -/
def lowered (text : String) : String :=
  String.ofList (text.toList.map lower)

end TypeGauge.Text.LetterCase
