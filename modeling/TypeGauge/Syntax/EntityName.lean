import TypeGauge.Data.ValueText
import TypeGauge.Syntax.Node

/-!
# Entity names

A type is referred to by an identifier or by a qualified name, a tree of
qualified names over identifiers.  Its dotted form joins the names at the leaves
from left to right.  A tree with a leaf that has no name has no dotted form.
-/

namespace TypeGauge.Syntax

open TypeGauge.Data

/-- Join the dotted forms of the two sides, if both have one. -/
def joinNames (left right : Value) : Value :=
  if left.isNull || right.isNull then .null
  else .text (left.shown ++ "." ++ right.shown)

mutual

/-- The dotted form of an entity name, null when it has none. -/
def dottedName : Value → Value
  | .object fields =>
      let declared := (Value.lookup? "type" fields).getD .null
      if declared.isText "Identifier" then (Value.lookup? "name" fields).getD .null
      else if declared.isText "TSQualifiedName" then
        joinNames (dottedNameUnder "left" fields) (dottedNameUnder "right" fields)
      else .null
  | _ => .null

/-- The dotted form of the entity name under a key. -/
def dottedNameUnder (key : String) : List (String × Value) → Value
  | [] => .null
  | (name, value) :: rest => if name == key then dottedName value else dottedNameUnder key rest

end

/-- Looking a side up and then rendering it is the same as rendering it in place. -/
theorem dottedNameUnder_eq (key : String) (fields : List (String × Value)) :
    dottedNameUnder key fields = dottedName ((Value.lookup? key fields).getD .null) := by
  induction fields with
  | nil => simp [dottedNameUnder, Value.lookup?, dottedName]
  | cons head rest hypothesis =>
      obtain ⟨name, value⟩ := head
      by_cases same : name = key <;> simp [dottedNameUnder, Value.lookup?, same, hypothesis]

end TypeGauge.Syntax
