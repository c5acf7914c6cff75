import TypeGauge.Fault
import TypeGauge.Files.Tree
import TypeGauge.Text.Octets

/-!
# Interruptions

Most of what can be wrong with a file or with the settings is reported, and the run
goes on.  An interruption is what ends a whole run instead.  A step that can meet
either has a setback: its own refusal or an interruption.
-/

namespace TypeGauge

open TypeGauge.Files TypeGauge.Text

/-- Why a variable cannot be set. -/
inductive VariableFault where
  /-- The name or the value contains the character with code zero. -/
  | zeroCharacter
  /-- The name contains the sign between names and values. -/
  | equalsSign
  /-- There is no name. -/
  | nameless
deriving DecidableEq, Repr, Inhabited

/-- The wording of why a variable cannot be set. -/
def VariableFault.message : VariableFault → String
  | .zeroCharacter => "embedded null byte"
  | .equalsSign => "illegal environment variable name"
  | .nameless => "[Errno 22] Invalid argument"

/-- What ends a whole run. -/
inductive Interruption where
  /-- A syntax tree, a number or a score that cannot be used. -/
  | fault (fault : Fault)
  /-- A path that no file can have. -/
  | unusablePath
  /-- A home directory that cannot be found. -/
  | homeless
  /-- A path that cannot be asked about. -/
  | inaccessible (fault : AccessFault) (path : Path)
  /-- A settings file that is no text. -/
  | undecodable (fault : Octets.Fault)
  /-- A variable that should hold a document and does not. -/
  | malformedVariable (setting : String)
  /-- A variable that cannot be set. -/
  | unsettable (fault : VariableFault)
  /-- What the library that puts settings together complains of in its own words. -/
  | complaint (words : String)
deriving Inhabited

/-- The wording of an interruption. -/
def Interruption.message : Interruption → String
  | .fault cause => cause.message
  | .unusablePath => "embedded null byte"
  | .homeless => "Could not determine home directory."
  | .inaccessible cause path => cause.message path
  | .undecodable cause => cause.message
  | .malformedVariable setting =>
      "error parsing value for field \"" ++ setting ++ "\" from source \"EnvSettingsSource\""
  | .unsettable cause => cause.message
  | .complaint words => words

/-- What keeps a step from its result. -/
inductive Setback (ρ : Type) where
  /-- The step refuses its input, which is reported. -/
  | refused (reason : ρ)
  /-- The whole run ends. -/
  | interrupted (interruption : Interruption)
deriving Inhabited

/-- Ask something about a path. -/
def askPath {ρ : Type} (path : Path) (answer : Except AccessFault Bool) :
    Except (Setback ρ) Bool :=
  match answer with
  | .ok isSo => .ok isSo
  | .error fault => .error (.interrupted (.inaccessible fault path))

end TypeGauge
