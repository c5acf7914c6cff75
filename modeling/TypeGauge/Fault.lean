import TypeGauge.Data.ValueText

/-!
# Faults

A syntax tree that is not well formed is refused at the first part that cannot
be used, and the fault says what was wanted of it.  Scoring, the exemption
protocol and the rendering of scores have faults of their own.  `message` is the
one place that words them.
-/

namespace TypeGauge

open TypeGauge.Data
open TypeGauge.Text.Quoted (quoted)

/-- Why an analysis stops. -/
inductive Fault where
  /-- A field was asked of a value that is not an object. -/
  | noFields (kind : Kind)
  /-- The parts of a value without parts were asked for. -/
  | notIterable (kind : Kind)
  /-- The length of a value without length was asked for. -/
  | noLength (kind : Kind)
  /-- A list or an object was used as a name. -/
  | notAName (kind : Kind)
  /-- The first part was asked of a value without positions. -/
  | noPositions (kind : Kind)
  /-- The first part was asked of an object, whose parts have names only. -/
  | noFirstPart
  /-- A position is neither a number nor a text. -/
  | notNumeric (kind : Kind)
  /-- A position is a text that is no whole number. -/
  | notWhole (text : String)
  /-- A whole number has too many digits. -/
  | tooManyDigits (count : Nat)
  /-- A position is not a number. -/
  | undefinedPosition
  /-- A position is infinite. -/
  | infinitePosition
  /-- A depth below zero has no weight. -/
  | negativeDepth
  /-- A name was registered after the declarations were closed. -/
  | lateRegistration (name : Value)
  /-- A name was looked up before the declarations were closed. -/
  | earlyLookup
  /-- A score has too many digits to be shown. -/
  | unshowableScore
  /-- A text was wanted for display. -/
  | notText (kind : Kind)
  /-- The nesting is too deep to follow. -/
  | tooDeep
deriving Inhabited

/-- At most this many characters of a text that is no whole number are quoted. -/
def quotationLimit : Nat :=
  200

/-- The wording of a number with too many digits. -/
def digitLimitMessage (count : Nat) : String :=
  "Exceeds the limit (4300 digits) for integer string conversion: value has " ++
    toString count ++ " digits; use sys.set_int_max_str_digits() to increase the limit"

/-- The wording of a fault. -/
def Fault.message : Fault → String
  | .noFields kind => "'" ++ kind.label ++ "' object has no attribute 'get'"
  | .notIterable kind => "'" ++ kind.label ++ "' object is not iterable"
  | .noLength kind => "object of type '" ++ kind.label ++ "' has no len()"
  | .notAName kind => "unhashable type: '" ++ kind.label ++ "'"
  | .noPositions kind => "'" ++ kind.label ++ "' object is not subscriptable"
  | .noFirstPart => "0"
  | .notNumeric kind =>
      "int() argument must be a string, a bytes-like object or a real number, not '" ++
        kind.label ++ "'"
  | .notWhole text =>
      "invalid literal for int() with base 10: " ++
        String.ofList ((quoted text).toList.take quotationLimit)
  | .tooManyDigits count => digitLimitMessage count
  | .undefinedPosition => "cannot convert float NaN to integer"
  | .infinitePosition => "cannot convert float infinity to integer"
  | .negativeDepth => "math domain error"
  | .lateRegistration name =>
      "Cannot register exemption " ++ name.inner ++ " after the scan completed"
  | .earlyLookup => "Exemptions are incomplete until the declaration scan completes"
  | .unshowableScore => "[<class 'decimal.InvalidOperation'>]"
  | .notText kind => "expected string or bytes-like object, got '" ++ kind.label ++ "'"
  | .tooDeep => "maximum recursion depth exceeded"

end TypeGauge
