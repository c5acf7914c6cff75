import TypeGauge.Interruption
import TypeGauge.Setup.Field
import TypeGauge.Text.LetterCase

/-!
# Environments

An environment is a list of variables.  A variable replaces the setting that it is named
after, and a name may lead below the policy: the parts of the name are then keys of nested
objects.  Further variables can be laid over an environment if each of them can be set.
-/

namespace TypeGauge.Setup

open TypeGauge.Text

/-- The variables of an environment in order, without repetition of names. -/
structure Environment where
  assignments : List (String × String)
deriving Inhabited

namespace Environment

/-- The environment without variables. -/
def empty : Environment :=
  ⟨[]⟩

/-- Set a variable in a list: one that is there keeps its place, another comes last. -/
def assign (name value : String) : List (String × String) → List (String × String)
  | [] => [(name, value)]
  | (other, old) :: rest =>
      if other == name then (name, value) :: rest else (other, old) :: assign name value rest

/-- Set a variable. -/
def put (environment : Environment) (name value : String) : Environment :=
  ⟨assign name value environment.assignments⟩

/-- Lay one environment over another. -/
def overlay (lower upper : Environment) : Environment :=
  upper.assignments.foldl (fun environment entry => environment.put entry.1 entry.2) lower

/-- The value of the variable with exactly the given name. -/
def value? (environment : Environment) (name : String) : Option String :=
  environment.assignments.lookup name

/-- The environment with all names in lower case; of names that fall together the last counts. -/
def lowered (environment : Environment) : Environment :=
  environment.assignments.foldl
    (fun lower entry => lower.put (LetterCase.lowered entry.1) entry.2)
    empty

/-- The dotted names of the settings that variables replace, in alphabetical order. -/
def overrides (environment : Environment) : List String :=
  let replaced := SettingKey.all.filter fun key => (environment.value? key.variableName).isSome
  (replaced.map SettingKey.dotted).mergeSort fun first second => !(second < first)

/-- Why a variable cannot be set. -/
def fault? (entry : String × String) : Option VariableFault :=
  let zero := Char.ofNat 0
  if entry.1.toList.contains zero || entry.2.toList.contains zero then some .zeroCharacter
  else if entry.1.toList.contains '=' then some .equalsSign
  else if entry.1 == "" then some .nameless
  else none

/-- Why the variables cannot be set, which the first that cannot be set tells. -/
def firstFault? (environment : Environment) : Option VariableFault :=
  environment.assignments.findSome? fault?

end Environment

/-- The parts of a name between separators, each taken as early as possible. -/
def nameParts : List Char → List (List Char)
  | [] => [[]]
  | '_' :: '_' :: rest => [] :: nameParts rest
  | character :: rest => (nameParts rest).modifyHead (character :: ·)

namespace Environment

/-- The name of the variable of a setting, in lower case. -/
def settingName (name : String) : String :=
  LetterCase.lowered variableStart ++ name

/-- What the names of variables for parts of the policy start with, in lower case. -/
def policyStart : String :=
  settingName policyKey ++ variableSeparator

/-- The keys to which the name of a variable leads below the policy, if it leads there. -/
def policyPath? (name : String) : Option (List String) :=
  if policyStart.toList.isPrefixOf name.toList then
    some ((nameParts (name.toList.drop policyStart.length)).map String.ofList)
  else none

end Environment

end TypeGauge.Setup
