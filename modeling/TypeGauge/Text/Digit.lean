/-!
# Decimal digits

Every script's decimal digits stand in ten consecutive code points, in
ascending order.  The table lists the code point of each script's zero, so the
value of a digit is its distance from the zero below it.
-/

namespace TypeGauge.Text.Digit

/-- The code points of the digit zero in every script that has decimal digits. -/
def zeros : List Nat :=
  [0x30, 0x660, 0x6F0, 0x7C0, 0x966, 0x9E6, 0xA66, 0xAE6,
    0xB66, 0xBE6, 0xC66, 0xCE6, 0xD66, 0xDE6, 0xE50, 0xED0,
    0xF20, 0x1040, 0x1090, 0x17E0, 0x1810, 0x1946, 0x19D0, 0x1A80,
    0x1A90, 0x1B50, 0x1BB0, 0x1C40, 0x1C50, 0xA620, 0xA8D0, 0xA900,
    0xA9D0, 0xA9F0, 0xAA50, 0xABF0, 0xFF10, 0x104A0, 0x10D30, 0x11066,
    0x110F0, 0x11136, 0x111D0, 0x112F0, 0x11450, 0x114D0, 0x11650, 0x116C0,
    0x11730, 0x118E0, 0x11950, 0x11C50, 0x11D50, 0x11DA0, 0x16A60, 0x16AC0,
    0x16B50, 0x1D7CE, 0x1D7D8, 0x1D7E2, 0x1D7EC, 0x1D7F6, 0x1E140, 0x1E2F0,
    0x1E950, 0x1FBF0]

/-- The value of a decimal digit of any script. -/
def value? (character : Char) : Option Nat :=
  (zeros.find? fun nought => nought ≤ character.toNat && character.toNat < nought + 10).map
    fun nought => character.toNat - nought

/-- The value of a digit of the basic ten, `0` to `9`. -/
def basicValue? (character : Char) : Option Nat :=
  if character.isDigit then some (character.toNat - 48) else none

/-- The number that a sequence of digit values spells in base ten. -/
def number (digits : List Nat) : Nat :=
  digits.foldl (fun total digit => 10 * total + digit) 0

/-- The value of a hexadecimal digit in either letter case. -/
def hexValue? (character : Char) : Option Nat :=
  if character.isDigit then some (character.toNat - 48)
  else if 'a' ≤ character ∧ character ≤ 'f' then some (character.toNat - 87)
  else if 'A' ≤ character ∧ character ≤ 'F' then some (character.toNat - 55)
  else none

/-- The number that a sequence of hexadecimal digits spells. -/
def hexNumber? (characters : List Char) : Option Nat :=
  characters.foldlM
    (fun total character => (hexValue? character).map fun digit => 16 * total + digit) 0

/-- Lower-case hexadecimal digits of a number, padded with zeros to a width. -/
def hexadecimal (width number : Nat) : String :=
  let digits := Nat.toDigits 16 number
  String.ofList (List.replicate (width - digits.length) '0' ++ digits)

end TypeGauge.Text.Digit
