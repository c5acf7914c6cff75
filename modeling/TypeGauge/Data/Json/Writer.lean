import TypeGauge.Data.Value
import TypeGauge.Number.Shortest
import TypeGauge.Text.Digit
import TypeGauge.Text.Quoted
import TypeGauge.Text.Surrogate

/-!
# Writing documents in object notation

The written form is plain ASCII: every other character is escaped by its code
units in hexadecimal, and so is one half of a surrogate pair.  Doubles have their
shortest decimals.  A document is written either on one line or with every part
on a line of its own, indented by two blanks for each level.  The notation has no
moments, so they stand as texts.
-/

namespace TypeGauge.Data.Json

open TypeGauge.Number TypeGauge.Text

/-- A code unit as an escape. -/
def unitEscape (unit : Nat) : String :=
  "\\u" ++ Digit.hexadecimal 4 unit

/-- A character inside a quoted text. -/
def escapeCharacter (character : Char) : String :=
  let code := Surrogate.codeOf character
  if character == Quoted.double || character == Quoted.backslash then
    String.ofList [Quoted.backslash, character]
  else if character == '\n' then "\\n"
  else if character == '\r' then "\\r"
  else if character == '\t' then "\\t"
  else if code == 0x08 then "\\b"
  else if code == 0x0C then "\\f"
  else if 0x20 ≤ code && code ≤ 0x7E then character.toString
  else if code < 0x10000 then unitEscape code
  else unitEscape (0xD800 + (code - 0x10000) / 0x400) ++ unitEscape (0xDC00 + code % 0x400)

/-- A text between double quotes. -/
def quote (content : String) : String :=
  "\"" ++ String.join (content.toList.map escapeCharacter) ++ "\""

/-- The names of the doubles without digits in documents. -/
def documentNames : Shortest.SpecialNames :=
  ⟨"NaN", "Infinity"⟩

/-- How the parts of a document are set apart. -/
structure Style where
  /-- What stands before a part at a level of nesting. -/
  breakBefore : Nat → String
  /-- What stands between a name and its value. -/
  afterName : String

/-- Everything on one line. -/
def Style.compact : Style :=
  ⟨fun _ => "", ":"⟩

/-- Every part on a line of its own, indented by two blanks for each level. -/
def Style.indented : Style :=
  ⟨fun level => "\n" ++ String.ofList (List.replicate (2 * level) ' '), ": "⟩

/-- Put parts between an opening and a closing sign. -/
def Style.enclose (style : Style) (level : Nat) (opening closing : String)
    (parts : List String) : String :=
  if parts.isEmpty then opening ++ closing
  else
    opening ++ style.breakBefore (level + 1) ++
      String.intercalate ("," ++ style.breakBefore (level + 1)) parts ++
      style.breakBefore level ++ closing

mutual

/-- Write a value at a level of nesting. -/
def writeAt (style : Style) (level : Nat) : Value → String
  | .null => "null"
  | .truth flag => if flag then "true" else "false"
  | .whole number => toString number
  | .double number => Shortest.write Shortest.standard documentNames number
  | .text content => quote content
  | .moment instant => quote instant.text
  | .list items => style.enclose level "[" "]" (writeItems style (level + 1) items)
  | .object fields => style.enclose level "\x7b" "\x7d" (writeFields style (level + 1) fields)

/-- Write the items of a list. -/
def writeItems (style : Style) (level : Nat) : List Value → List String
  | [] => []
  | item :: rest => writeAt style level item :: writeItems style level rest

/-- Write the fields of an object. -/
def writeFields (style : Style) (level : Nat) : List (String × Value) → List String
  | [] => []
  | (name, value) :: rest =>
      (quote name ++ style.afterName ++ writeAt style level value) ::
        writeFields style level rest

end

/-- Write a value as a document. -/
def write (style : Style) (value : Value) : String :=
  writeAt style 0 value

end TypeGauge.Data.Json
