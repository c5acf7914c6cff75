import TypeGauge.Text.Digit
import TypeGauge.Text.Printable
import TypeGauge.Text.Surrogate

/-!
# Quoted text

Quoted text stands between single quotes, or between double quotes when it
contains a single quote and no double one.  The backslash, the surrounding
quote, the line feed, the carriage return and the tab have two-character
escapes; every other character that is not printable is written as its code
point in two, four or eight hexadecimal digits.
-/

namespace TypeGauge.Text.Quoted

open TypeGauge.Text.Digit TypeGauge.Text.Printable

/-- The single quote. -/
def single : Char := '\x27'

/-- The double quote. -/
def double : Char := '\x22'

/-- The backslash. -/
def backslash : Char := '\x5c'

/-- The quote that surrounds a text. -/
def quoteFor (characters : List Char) : Char :=
  if characters.contains single && !characters.contains double then double else single

/-- A character as it stands between the given quotes. -/
def escape (quote character : Char) : String :=
  if character == quote || character == backslash then String.ofList [backslash, character]
  else if character == '\n' then "\\n"
  else if character == '\r' then "\\r"
  else if character == '\t' then "\\t"
  else if isPrintable character then character.toString
  else
    let code := Surrogate.codeOf character
    if code < 0x100 then "\\x" ++ hexadecimal 2 code
    else if code < 0x10000 then "\\u" ++ hexadecimal 4 code
    else "\\U" ++ hexadecimal 8 code

/-- A text between quotes. -/
def quoted (text : String) : String :=
  let quote := quoteFor text.toList
  quote.toString ++ String.join (text.toList.map (escape quote)) ++ quote.toString

end TypeGauge.Text.Quoted
