import TypeGauge.Data.Value
import TypeGauge.Number.DecimalText
import TypeGauge.Number.SettingText
import TypeGauge.Setup.Draft
import TypeGauge.Setup.Issue
import TypeGauge.Text.Surrogate

/-!
# Reading settings

Settings arrive as a document.  A field is read leniently: numbers may be given as
texts or truth values, and truth values as words or as nought and one.  A field that
cannot be read is an issue that names where it stood and what is wrong with it, and
the issues of all fields are collected.  Fields with other names are ignored.
-/

namespace TypeGauge.Setup

open TypeGauge.Data TypeGauge.Number TypeGauge.Text

/-- The outcome of reading a part of the settings: a result or the issues with it. -/
abbrev Reading (α : Type) : Type :=
  Except (List Issue) α

/-- A result without issues. -/
def Reading.of {α : Type} (result : α) : Reading α :=
  .ok result

/-- Read one more part, and keep the issues of both when there are any. -/
def Reading.along {α β : Type} (function : Reading (α → β)) (argument : Reading α) : Reading β :=
  match function, argument with
  | .ok apply, .ok value => .ok (apply value)
  | .error issues, .ok _ => .error issues
  | .ok _, .error issues => .error issues
  | .error first, .error second => .error (first ++ second)

/-- Read a number. -/
def readNumber (value : Value) : Except Complaint Float :=
  match value with
  | .double number => .ok number
  | .whole number =>
      match Binary.parts (Binary.ofInt number) with
      | .finite .. => .ok (Binary.ofInt number)
      | _ => .error .notNumber
  | .truth flag => .ok (Binary.ofInt (if flag then 1 else 0))
  | .text content =>
      match DecimalText.ofSetting? content with
      | some number => .ok number
      | none => .error .notNumberText
  | _ => .error .notNumber

/-- Whole numbers that are given as doubles lie strictly between this and its negative. -/
def wholeDoubleBound : Int :=
  Int.ofNat (Binary.twoTo 63)

/-- Read a whole number that is given as a double. -/
def readWholeDouble (number : Float) : Except Complaint Int :=
  match Binary.parts number with
  | .finite .. =>
      match Binary.exactInt? number with
      | none => .error .fraction
      | some exact =>
          if -wholeDoubleBound < exact && exact < wholeDoubleBound then .ok exact
          else .error .sizeOfWhole
  | _ => .error .notFinite

/-- Read a whole number. -/
def readWhole (value : Value) : Except Complaint Int :=
  match value with
  | .whole number => .ok number
  | .double number => readWholeDouble number
  | .truth flag => .ok (if flag then 1 else 0)
  | .text content =>
      match SettingText.readWhole content with
      | .ok number => .ok number
      | .error .malformed => .error .notWholeText
      | .error (.tooManyDigits _) => .error .sizeOfWhole
  | _ => .error .notWhole

/-- The words for yes. -/
def wordsForTrue : List String :=
  ["1", "true", "t", "yes", "y", "on"]

/-- The words for no. -/
def wordsForFalse : List String :=
  ["0", "false", "f", "no", "n", "off"]

/-- The truth value that a whole number stands for. -/
def truthOfWhole (number : Int) : Except Complaint Bool :=
  if number == 0 then .ok false else if number == 1 then .ok true else .error .notTruthText

/-- Whether a whole number is small enough to be asked for its truth value. -/
def isSmall (number : Int) : Bool :=
  -wholeDoubleBound ≤ number && number < wholeDoubleBound

/-- Read a truth value. -/
def readTruth (value : Value) : Except Complaint Bool :=
  match value with
  | .truth flag => .ok flag
  | .whole number => if isSmall number then truthOfWhole number else .error .notTruth
  | .double number =>
      match readWholeDouble number with
      | .ok exact => truthOfWhole exact
      | .error _ => .error .notTruth
  | .text content =>
      let lowered := content.toLower
      if wordsForTrue.contains lowered then .ok true
      else if wordsForFalse.contains lowered then .ok false
      else .error .notTruthText
  | _ => .error .notTruth

/-- Read a text. -/
def readPlainText (value : Value) : Except Complaint String :=
  match value with
  | .text content => .ok content
  | _ => .error .notText

/-- Whether a value is a text with half of a surrogate pair in it. -/
def hasHalf (value : Value) : Bool :=
  match value with
  | .text content => content.toList.any Surrogate.isStandIn
  | _ => false

/-- Read a value in which no text has half of a surrogate pair. -/
def readUnhalved {α : Type} (read : Value → Except Complaint α) (value : Value) :
    Except Complaint α :=
  if hasHalf value then .error .halfCharacter else read value

/-- Read the value under the first of several keys that is there. -/
def readUnder {α : Type} (read : Value → Except Complaint α) (fields : List (String × Value)) :
    List String → Reading (Option α)
  | [] => .ok none
  | key :: rest =>
      match Value.lookup? key fields with
      | none => readUnder read fields rest
      | some value =>
          match readUnhalved read value with
          | .ok result => .ok (some result)
          | .error complaint => .error [⟨[key], complaint⟩]

/-- Read a field of the policy; its alternate name comes first. -/
def readPolicyField {α : Type} (read : Value → Except Complaint α)
    (fields : List (String × Value)) (field : PolicyField) : Reading (Option α) :=
  readUnder read fields [field.alternate, field.name]

/-- Read a policy. -/
def readPolicy (value : Value) : Reading PolicyDraft :=
  match value with
  | .object fields =>
      (Reading.of PolicyDraft.mk)
        |>.along (readPolicyField readNumber fields .baseThreshold)
        |>.along (readPolicyField readNumber fields .warnThreshold)
        |>.along (readPolicyField readNumber fields .errorThreshold)
        |>.along (readPolicyField readNumber fields .interfacePenalty)
        |>.along (readPolicyField readTruth fields .performanceMode)
        |>.along (readPolicyField readWhole fields .entryDepth)
  | _ => .error [⟨[], .notModel⟩]

/-- Read the policy among the settings. -/
def readPolicyAmong (fields : List (String × Value)) : Reading PolicyDraft :=
  match Value.lookup? policyKey fields with
  | none => .ok .empty
  | some value =>
      match readPolicy value with
      | .ok draft => .ok draft
      | .error issues => .error (issues.map (Issue.under policyKey))

/-- Read settings. -/
def readSettings (fields : List (String × Value)) : Reading SettingsDraft :=
  let plain (field : PlainField) := readUnder readPlainText fields [field.name]
  (Reading.of SettingsDraft.mk)
    |>.along (readPolicyAmong fields)
    |>.along (plain .validatorNamespace)
    |>.along (plain .staticMarker)
    |>.along (plain .logLevel)

end TypeGauge.Setup
