import TypeGauge.Syntax.Node

/-!
# Kinds of type expressions

Scoring looks at type expressions by kind.  Twenty-four node types of the front-end
fall into fourteen kinds, and every other type is of unknown kind.
-/

namespace TypeGauge.Types

open TypeGauge.Data

/-- What scoring distinguishes about a type expression. -/
inductive TypeKind where
  | primitive
  /-- The types that cut an expression short: never, unknown and any. -/
  | shortCircuit
  | interface
  | typeLiteral
  | union
  | intersection
  | array
  | tuple
  | reference
  | conditional
  | mapped
  | function
  | rest
  | optional
  | unknown
deriving DecidableEq, Repr, Inhabited

/-- Every kind. -/
def TypeKind.all : List TypeKind :=
  [.primitive, .shortCircuit, .interface, .typeLiteral, .union, .intersection, .array, .tuple,
    .reference, .conditional, .mapped, .function, .rest, .optional, .unknown]

/-- The name of a kind. -/
def TypeKind.label : TypeKind → String
  | .primitive => "PRIMITIVE"
  | .shortCircuit => "SHORT_CIRCUIT"
  | .interface => "INTERFACE"
  | .typeLiteral => "TYPE_LITERAL"
  | .union => "UNION"
  | .intersection => "INTERSECTION"
  | .array => "ARRAY"
  | .tuple => "TUPLE"
  | .reference => "TYPE_REFERENCE"
  | .conditional => "CONDITIONAL"
  | .mapped => "MAPPED"
  | .function => "FUNCTION"
  | .rest => "REST"
  | .optional => "OPTIONAL"
  | .unknown => "UNKNOWN"

/-- The kind with a name. -/
def TypeKind.ofLabel? (label : String) : Option TypeKind :=
  TypeKind.all.find? fun kind => kind.label == label

/-- The kind of a type expression whose node has the given type. -/
def TypeKind.ofTypeName (typeName : String) : TypeKind :=
  match typeName with
  | "TSStringKeyword" | "TSNumberKeyword" | "TSBooleanKeyword" | "TSNullKeyword"
  | "TSUndefinedKeyword" | "TSVoidKeyword" | "TSSymbolKeyword" | "TSBigIntKeyword" => .primitive
  | "TSNeverKeyword" | "TSUnknownKeyword" | "TSAnyKeyword" => .shortCircuit
  | "TSInterfaceDeclaration" => .interface
  | "TSTypeLiteral" => .typeLiteral
  | "TSUnionType" => .union
  | "TSIntersectionType" => .intersection
  | "TSArrayType" => .array
  | "TSTupleType" => .tuple
  | "TSTypeReference" => .reference
  | "TSConditionalType" => .conditional
  | "TSMappedType" => .mapped
  | "TSFunctionType" | "TSMethodSignature" => .function
  | "TSRestType" => .rest
  | "TSOptionalType" => .optional
  | _ => .unknown

/-- The kind of a type expression by what its node declares itself to be. -/
def TypeKind.ofValue (declared : Value) : Except Fault TypeKind := do
  Syntax.requireName declared
  match declared with
  | .text typeName => return TypeKind.ofTypeName typeName
  | _ => return .unknown

/-- Names of kinds are read back. -/
theorem TypeKind.ofLabel?_label (kind : TypeKind) : TypeKind.ofLabel? kind.label = some kind := by
  cases kind <;> rfl

end TypeGauge.Types
