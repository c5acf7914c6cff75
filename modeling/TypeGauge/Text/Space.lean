/-!
# White space

White space is the white-space property of the character standard, a finite
table of code points.  Stripping a text removes the longest run of white space
at either end and nothing in between.
-/

namespace TypeGauge.Text.Space

/-- The white-space property of the character standard. -/
def isWhite (character : Char) : Bool :=
  let code := character.toNat
  (9 ≤ code && code ≤ 13) || code == 32 || code == 0x85 || code == 0xA0 ||
    code == 0x1680 || (0x2000 ≤ code && code ≤ 0x200A) || code == 0x2028 ||
    code == 0x2029 || code == 0x202F || code == 0x205F || code == 0x3000

/-- White space and the separators of files, groups, records and units. -/
def isBlank (character : Char) : Bool :=
  isWhite character || (0x1C ≤ character.toNat && character.toNat ≤ 0x1F)

/-- Remove every leading and every trailing white-space character. -/
def strip (characters : List Char) : List Char :=
  ((characters.dropWhile isWhite).reverse.dropWhile isWhite).reverse

end TypeGauge.Text.Space
