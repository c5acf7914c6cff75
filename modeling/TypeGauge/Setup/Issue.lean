/-!
# Issues

A value among the settings that cannot be used is an issue.  It names the keys that lead
to the value and what is wrong with it.
-/

namespace TypeGauge.Setup

/-- What is wrong with a value. -/
inductive Complaint where
  | notModel
  | notNumberText
  | notNumber
  | notWholeText
  | notWhole
  | fraction
  | sizeOfWhole
  | notFinite
  | notTruthText
  | notTruth
  | notText
  | halfCharacter
deriving DecidableEq, Repr, Inhabited

/-- The identifier of a complaint. -/
def Complaint.label : Complaint → String
  | .notModel => "model_type"
  | .notNumberText => "float_parsing"
  | .notNumber => "float_type"
  | .notWholeText => "int_parsing"
  | .notWhole => "int_type"
  | .fraction => "int_from_float"
  | .sizeOfWhole => "int_parsing_size"
  | .notFinite => "finite_number"
  | .notTruthText => "bool_parsing"
  | .notTruth => "bool_type"
  | .notText => "string_type"
  | .halfCharacter => "string_unicode"

/-- A value that cannot be used, by the keys that lead to it. -/
structure Issue where
  place : List String
  complaint : Complaint
deriving DecidableEq, Repr, Inhabited

/-- The written form of an issue. -/
def Issue.text (issue : Issue) : String :=
  String.intercalate "." issue.place ++ ": " ++ issue.complaint.label

/-- The same issue seen from one key further up. -/
def Issue.under (key : String) (issue : Issue) : Issue :=
  { issue with place := key :: issue.place }

/-- The written form of several issues. -/
def issuesText (issues : List Issue) : String :=
  String.intercalate "; " (issues.map Issue.text)

end TypeGauge.Setup
