import TypeGauge.Data.Json.Reader
import TypeGauge.Data.Merge
import TypeGauge.Nesting
import TypeGauge.Setup.Environment

/-!
# Settings from variables

The policy as a whole may be given as a document, and its fields one by one over that.
A key of such a policy that spells the alternate name of a field in any letter case is
that name.  The other settings are the texts of their variables.
-/

namespace TypeGauge.Setup

open TypeGauge.Data TypeGauge.Text

/-- Put a text where keys lead; a key that leads to something other than an object leads nowhere. -/
def placeUnder (content : String) :
    List String → List (String × Value) → List (String × Value)
  | [], fields => fields
  | [last], fields => Value.putField last (.text content) fields
  | key :: rest, fields =>
      match Value.lookup? key fields with
      | none => Value.putField key (.object (placeUnder content rest [])) fields
      | some (.object inner) => Value.putField key (.object (placeUnder content rest inner)) fields
      | some _ => fields

/-- The key that a name in a policy from the environment stands for. -/
def environmentKey (name : String) : String :=
  let lowered := LetterCase.lowered name
  match PolicyField.all.find? fun field => LetterCase.lowered field.alternate == lowered with
  | some field => field.alternate
  | none => name

/-- A policy from the environment with its keys put right. -/
def withEnvironmentKeys (fields : List (String × Value)) : List (String × Value) :=
  fields.foldl (fun done entry => Value.putField (environmentKey entry.1) entry.2 done) []

namespace Environment

/-- The policy that is given field by field. -/
def policyFields (environment : Environment) : List (String × Value) :=
  environment.lowered.assignments.foldl
    (fun fields entry =>
      match policyPath? entry.1 with
      | some keys => placeUnder entry.2 keys fields
      | none => fields)
    []

/-- The policy that the environment gives, if it gives one. -/
def policyValue (environment : Environment) : Except Interruption (Option Value) :=
  match environment.lowered.value? (settingName policyKey) with
  | none =>
      match environment.policyFields with
      | [] => .ok none
      | fields => .ok (some (.object (withEnvironmentKeys fields)))
  | some content =>
      match Json.readDocument Nesting.documentRoom content.toList with
      | .error .tooDeep => .error (.fault .tooDeep)
      | .error _ => .error (.malformedVariable policyKey)
      | .ok .null => .ok none
      | .ok (.object fields) =>
          .ok (some (.object
            (withEnvironmentKeys (mergeFields fields environment.policyFields))))
      | .ok other => .ok (some other)

/-- The settings outside the policy that the environment gives. -/
def plainFields (environment : Environment) : List (String × Value) :=
  PlainField.all.filterMap fun field =>
    (environment.lowered.value? (settingName field.name)).map
      fun content => (field.name, .text content)

/-- The settings that the environment gives. -/
def settingFields (environment : Environment) : Except Interruption (List (String × Value)) := do
  match ← environment.policyValue with
  | none => return environment.plainFields
  | some policy => return (policyKey, policy) :: environment.plainFields

end Environment

end TypeGauge.Setup
