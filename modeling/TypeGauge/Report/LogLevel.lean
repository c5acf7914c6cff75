import TypeGauge.Data.Value

/-!
# Log levels

A log shows the records at or above a level.  A level is given by a number, which is
taken as it is, or by a name in any letter case; a name that is not known stands for
the level of warnings.  A log without a level of its own shows warnings.
-/

namespace TypeGauge.Report

open TypeGauge.Data

/-- The levels that have names. -/
def namedLevels : List (String × Int) :=
  [("CRITICAL", 50), ("FATAL", 50), ("ERROR", 40), ("WARNING", 30), ("WARN", 30), ("INFO", 20),
    ("DEBUG", 10), ("NOTSET", 0)]

/-- The level of warnings. -/
def warningLevel : Int :=
  30

/-- The level that shows most. -/
def debugLevel : Int :=
  10

/-- A character in upper case, as far as the names of levels are concerned. -/
def upperCharacter (character : Char) : Char :=
  if character == '\u0131' then 'I'
  else if character == '\u017F' then 'S'
  else character.toUpper

/-- The level that a name stands for. -/
def levelOfName (name : String) : Int :=
  (namedLevels.lookup (String.ofList (name.toList.map upperCharacter))).getD warningLevel

/-- The level of a log that may have to be verbose. -/
def logThreshold (isVerbose : Bool) (level : Value) : Value :=
  if isVerbose then .whole debugLevel
  else
    match level with
    | .text name => .whole (levelOfName name)
    | other => other

/-- The level that counts for the parts of a log. -/
def effectiveLevel (threshold : Value) : Value :=
  threshold.orElse (.whole warningLevel)

end TypeGauge.Report
