import TypeGauge.Score.Arithmetic
import TypeGauge.Syntax.Node

/-!
# Validator calls

A validator is constructed by calling a method of the validator namespace.  Its
score comes from the name of the method and the shape of the arguments of that one
call: calls inside the arguments are not looked at.
-/

namespace TypeGauge.Check

open TypeGauge.Data TypeGauge.Score TypeGauge.Syntax

/-- Whether a node calls some method of the given namespace, or of a nameless one. -/
def isValidatorCall (node : Value) (namespaceName : Option String) : Bool :=
  let callee := node.field "callee"
  let owner := callee.field "object"
  isNodeOf node "CallExpression" && isNodeOf callee "MemberExpression" &&
    isNodeOf owner "Identifier" && (owner.field "name").isName namespaceName

/-- The name of the method that a node calls, null when it is computed. -/
def calledMethod (node : Value) : Except Fault Value := do
  requireObject node
  let property := (node.field "callee").field "property"
  return if isNodeOf property "Identifier" then property.field "name" else .null

/-- The methods that take the shape of an object. -/
def shapeMethods : List String :=
  ["interface", "strictInterface"]

/-- The methods that combine their arguments. -/
def combiningMethods : List String :=
  ["union", "intersection"]

/-- The scores of the methods whose arguments do not matter. -/
def flatScores : List (String × Nat) :=
  [("optional", 2), ("array", 2), ("instanceIsA", 2), ("instanceOf", 2), ("record", 3),
    ("map", 3), ("string", 1), ("number", 1), ("boolean", 1)]

/-- The score of a method whose arguments do not matter; a method that is not known scores one. -/
def flatScore (method : Value) : Nat :=
  match method with
  | .text name => (flatScores.lookup name).getD 1
  | _ => 1

/-- Whether a method is one of those listed. -/
def isOneOf (method : Value) (names : List String) : Bool :=
  names.any fun name => method.isText name

/-- The points of a call: three for each property of a shape and two for each combined argument. -/
def validatorPoints (node : Value) : Except Fault Nat := do
  let method ← calledMethod node
  if method.isNull then return 0
  else
    let arguments := (node.field "arguments").orElse (.list [])
    requireName method
    if isOneOf method shapeMethods then
      let shape ← if arguments.isPresent then firstPart arguments else pure .null
      if isNodeOf shape "ObjectExpression" then
        let count ← partCount ((shape.field "properties").orElse (.list []))
        return 10 + 3 * count
      else return 0
    else if isOneOf method combiningMethods then return 2 * (← partCount arguments)
    else return flatScore method

/-- The score of a validator call. -/
def validatorScore {α : Type} (arithmetic : Arithmetic α) (node : Value) : Except Fault α :=
  (validatorPoints node).map arithmetic.ofNat

/-- Whether a declared binding carries a type of its own. -/
def hasExplicitCheck (declarator : Value) : Except Fault Bool := do
  requireObject declarator
  let binding := declarator.field "id"
  return binding.isObject && (binding.field "typeAnnotation").isPresent

/-- The name that a declarator binds, null for a pattern. -/
def declaredName (declarator : Value) : Except Fault Value := do
  requireObject declarator
  let binding := declarator.field "id"
  return if isNodeOf binding "Identifier" then binding.field "name" else .null

end TypeGauge.Check
