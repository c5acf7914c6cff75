/-!
# Places in a text

A place in a text is an offset in characters from its start.  People are told
the line, counted from one, and the column, counted from one in characters.
-/

namespace TypeGauge.Text.Location

/-- A line and a column, both counted from one. -/
structure LineColumn where
  line : Nat
  column : Nat
deriving DecidableEq, Repr, Inhabited

/-- The line and the column of an offset. -/
def ofOffset (characters : List Char) (offset : Nat) : LineColumn :=
  (characters.take offset).foldl
    (fun place character =>
      if character == '\n' then ⟨place.line + 1, 1⟩ else ⟨place.line, place.column + 1⟩)
    ⟨1, 1⟩

end TypeGauge.Text.Location
