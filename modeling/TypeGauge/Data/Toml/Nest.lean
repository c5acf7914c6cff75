import TypeGauge.Data.Value

/-!
# Nested tables

A settings file fills nested tables piece by piece, and each table may be opened
only once.  `Marks` remembers which tables have been opened and which values are
complete, and `update` changes a table that lies behind a key, creating the tables
on the way.  A list of tables stands for its last table.
-/

namespace TypeGauge.Data.Toml

/-- The fields of a table. -/
abbrev Fields : Type :=
  List (String × Value)

/-- What is remembered about a key. -/
inductive Mark where
  /-- The table has been opened. -/
  | opened
  /-- The value is complete, with everything beneath it. -/
  | complete
deriving DecidableEq, Repr, Inhabited

/-- What is remembered about keys. -/
structure Marks where
  /-- The marks that hold now. -/
  current : List (List String × Mark)
  /-- Tables that count as opened from the next header on. -/
  pending : List (List String)
deriving DecidableEq, Repr, Inhabited

namespace Marks

/-- Nothing is remembered. -/
def empty : Marks :=
  ⟨[], []⟩

/-- Whether the table behind a key has been opened. -/
def isOpened (marks : Marks) (key : List String) : Bool :=
  marks.current.contains (key, .opened)

/-- Whether a key lies in a complete value. -/
def isComplete (marks : Marks) (key : List String) : Bool :=
  marks.current.any fun entry => entry.2 == .complete && entry.1.isPrefixOf key

/-- Remember a mark. -/
def set (marks : Marks) (key : List String) (mark : Mark) : Marks :=
  { marks with current := (key, mark) :: marks.current }

/-- Forget everything about a key and the keys beneath it. -/
def forget (marks : Marks) (key : List String) : Marks :=
  { marks with current := marks.current.filter fun entry => !key.isPrefixOf entry.1 }

/-- Count a table as opened from the next header on. -/
def postpone (marks : Marks) (key : List String) : Marks :=
  { marks with pending := key :: marks.pending }

/-- A header has been met. -/
def settle (marks : Marks) : Marks :=
  ⟨marks.pending.map (fun key => (key, Mark.opened)) ++ marks.current, []⟩

end Marks

/-- Change the table behind a key; nothing comes back when something else stands there. -/
def update (throughLists : Bool) (change : Fields → Option Fields) :
    List String → Fields → Option Fields
  | [], fields => change fields
  | name :: rest, fields =>
      match Value.lookup? name fields with
      | none =>
          (update throughLists change rest []).map fun inner =>
            Value.putField name (.object inner) fields
      | some (.object inner) =>
          (update throughLists change rest inner).map fun changed =>
            Value.putField name (.object changed) fields
      | some (.list items) =>
          match throughLists, items.getLast? with
          | true, some (.object inner) =>
              (update throughLists change rest inner).map fun changed =>
                Value.putField name (.list (items.dropLast ++ [.object changed])) fields
          | _, _ => none
      | some _ => none

/-- Put a value under a name that is not yet there. -/
def insertNew (name : String) (value : Value) (fields : Fields) : Option Fields :=
  if (Value.lookup? name fields).isSome then none else some (Value.putField name value fields)

/-- Add an empty table to the list of tables under a name. -/
def appendTable (name : String) (fields : Fields) : Option Fields :=
  match Value.lookup? name fields with
  | none => some (Value.putField name (.list [.object []]) fields)
  | some (.list items) => some (Value.putField name (.list (items ++ [.object []])) fields)
  | some _ => none

end TypeGauge.Data.Toml
