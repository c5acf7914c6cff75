import TypeGauge.Syntax.Ascription
import TypeGauge.Syntax.EntityName

/-!
# Re-exposed validators

An alias re-exposes a validator when it names the validator's static type: a
reference to the marker with the type query of an identifier as its only type
argument, possibly inside one read-only wrapper.
-/

namespace TypeGauge.Check

open TypeGauge.Data TypeGauge.Syntax

/-- The wrapper that is looked through once. -/
def readonlyWrapper : String :=
  "Readonly"

/-- The only type argument of a reference to the given name, or to something nameless. -/
def onlyArgument? (node : Value) (name : Option String) : Except Fault (Option Value) := do
  if isNodeOf node "TSTypeReference" && (dottedName (node.field "typeName")).isName name then
    match ← typeArguments node with
    | [argument] => return some argument
    | _ => return none
  else return none

/-- The identifier that a type query asks about, null for anything else. -/
def queriedName (query : Value) : Value :=
  let expression := query.field "exprName"
  if isNodeOf query "TSTypeQuery" && isNodeOf expression "Identifier" then
    expression.field "name"
  else .null

/-- The validator whose static type a reference names, null for anything else. -/
def staticOfTarget (node : Value) (marker : Option String) : Except Fault Value := do
  match ← onlyArgument? node marker with
  | some query => return queriedName query
  | none => return .null

/-- The validator that a type re-exposes, null when it re-exposes none. -/
def reexposed (node : Value) (marker : Option String) : Except Fault Value := do
  let direct ← staticOfTarget node marker
  if !direct.isNull then return direct
  else
    match ← onlyArgument? node (some readonlyWrapper) with
    | some inside => staticOfTarget inside marker
    | none => return .null

end TypeGauge.Check
