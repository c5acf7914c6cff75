import TypeGauge.Check.Severity
import TypeGauge.Data.Value
import TypeGauge.Files.Path

/-!
# Diagnostics

A diagnostic is a finding about a place in a file.  Its written form is one line
that names the place, the severity, the message and the rule.
-/

namespace TypeGauge.Check

open TypeGauge.Data TypeGauge.Files

/-- What a diagnostic is about. -/
inductive DiagnosticType where
  | complexInterface
  | missingCheck
  | parseError
deriving DecidableEq, Repr, Inhabited

namespace DiagnosticType

/-- The identifier of a rule. -/
def label : DiagnosticType → String
  | .complexInterface => "complexInterfaceNeedsCheck"
  | .missingCheck => "missingIanitorCheckType"
  | .parseError => "parseError"

/-- The rule with an identifier. -/
def ofLabel? (label : String) : Option DiagnosticType :=
  [.complexInterface, .missingCheck, .parseError].find? fun type => type.label == label

end DiagnosticType

/-- A finding about a place in a file. -/
structure Diagnostic (α : Type) where
  type : DiagnosticType
  file : Path
  line : Int
  column : Int
  message : String
  severity : Severity
  /-- The score of the declaration, if the finding is about one. -/
  score : Option α
  /-- The name of the interface, if the finding is about one, and null otherwise. -/
  name : Value
deriving Inhabited

namespace Diagnostic

variable {α : Type}

/-- The written form of a diagnostic. -/
def text (diagnostic : Diagnostic α) : String :=
  diagnostic.file.text ++ ":" ++ toString diagnostic.line ++ ":" ++ toString diagnostic.column ++
    ": " ++ diagnostic.severity.word ++ " " ++ diagnostic.message ++ " [" ++
    diagnostic.type.label ++ "]"

/-- Whether one diagnostic stands before or at the place of another. -/
def notAfter (first second : Diagnostic α) : Bool :=
  first.line < second.line || (first.line == second.line && first.column ≤ second.column)

/-- Diagnostics by place; those about the same place stay in the order they were made in. -/
def sort (diagnostics : List (Diagnostic α)) : List (Diagnostic α) :=
  diagnostics.mergeSort notAfter

/-- The number of diagnostics of a severity. -/
def count (severity : Severity) (diagnostics : List (Diagnostic α)) : Nat :=
  (diagnostics.filter fun diagnostic => diagnostic.severity == severity).length

/-- Whether some diagnostic is an error. -/
def anyError (diagnostics : List (Diagnostic α)) : Bool :=
  diagnostics.any fun diagnostic => diagnostic.severity == .error

/-- The written form of several diagnostics, one on a line. -/
def textAll (diagnostics : List (Diagnostic α)) : String :=
  String.intercalate "\n" (diagnostics.map text)

/-- A diagnostic as a document. -/
def toValue (diagnostic : Diagnostic Float) : Value :=
  .object
    [("type", .text diagnostic.type.label), ("file", .text diagnostic.file.text),
      ("line", .whole diagnostic.line), ("column", .whole diagnostic.column),
      ("message", .text diagnostic.message), ("severity", .text diagnostic.severity.word),
      ("score", (diagnostic.score.map Value.double).getD .null), ("name", diagnostic.name)]

end Diagnostic

end TypeGauge.Check
