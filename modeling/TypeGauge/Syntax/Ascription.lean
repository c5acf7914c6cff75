import TypeGauge.Syntax.Node

/-!
# Ascribed types and type arguments

A member, a parameter or a binding carries its type inside a wrapper node, and
both the wrapper and the type stand under the same key.  Type arguments stand
under one of two keys, depending on the age of the front-end; the newer one wins
unless it is empty.
-/

namespace TypeGauge.Syntax

open TypeGauge.Data

/-- The key under which wrappers and types stand. -/
def ascriptionKey : String :=
  "typeAnnotation"

/-- The type inside a holder's wrapper, null when the holder has none. -/
def ascribedType (holder : Value) : Value :=
  let inside := (holder.field ascriptionKey).field ascriptionKey
  if inside.isObject then inside else .null

/-- The nodes among the type arguments of a reference. -/
def typeArguments (node : Value) : Except Fault (List Value) := do
  requireObject node
  let arguments := (node.field "typeArguments").orElse (node.field "typeParameters")
  if arguments.isObject then nodesUnder arguments "params" else return []

end TypeGauge.Syntax
