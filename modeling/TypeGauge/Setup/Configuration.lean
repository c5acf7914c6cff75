import TypeGauge.Data.Json.Reader
import TypeGauge.Data.Toml.Reader
import TypeGauge.Nesting
import TypeGauge.Setup.Host
import TypeGauge.Setup.Library
import TypeGauge.Text.Location

/-!
# Configurations

The settings of a run are the standard ones, with those of a settings file laid over
them and those of the variables over both, which is left to the settings library.  A
file that cannot be understood is rejected as a whole, and the variables still count.
When what comes out cannot be used, everything is standard.  A configuration tells the
settings and where they come from.
-/

namespace TypeGauge.Setup

open TypeGauge.Data TypeGauge.Files TypeGauge.Text

/-- Why settings are rejected. -/
inductive Rejection where
  /-- The file is no settings file. -/
  | malformedSettings (path : Path)
  /-- The file is no document: what is wrong, where, and at which offset. -/
  | malformedDocument (path : Path) (complaint : Json.Complaint) (place : Location.LineColumn)
      (offset : Nat)
  /-- The settings are no table. -/
  | notTable (path : Path)
  /-- Some settings cannot be used. -/
  | invalid (issues : List Issue)
deriving Inhabited

/-- The wording of a rejection. -/
def Rejection.message : Rejection → String
  | .malformedSettings path => "Syntax error in " ++ path.text
  | .malformedDocument path complaint place offset =>
      "Syntax error in " ++ path.text ++ ": " ++ complaint.message ++ ": line " ++
        toString place.line ++ " column " ++ toString place.column ++ " (char " ++
        toString offset ++ ")"
  | .notTable path => "ianitorlint settings in " ++ path.text ++ " must be a table."
  | .invalid issues => "validation: " ++ issuesText issues

/-- Settings and where they come from. -/
structure Configuration where
  /-- The settings that were given. -/
  given : SettingsDraft
  /-- The path of the settings file, whether there is one or not. -/
  path : Path
  isFileLoaded : Bool
  /-- The dotted names of the settings that the environment replaces. -/
  overrides : List String
  rejection : Option Rejection
deriving Inhabited

/-- The settings of a configuration. -/
def Configuration.settings (configuration : Configuration) : Settings Float :=
  configuration.given.complete

/-- The variable that names the settings file. -/
def pathVariable : String :=
  "IANITORLINT_CONFIG"

/-- The settings file of a run that names none. -/
def standardPath : String :=
  "ianitorlint.toml"

/-- The name of project files, which hold settings for many tools. -/
def projectFileName : String :=
  "pyproject.toml"

/-- The key of the tools in a project file. -/
def toolsKey : String :=
  "tool"

/-- The key of these settings among the tools. -/
def toolKey : String :=
  "ianitorlint"

/-- The settings file that is named, by the run itself or else by a variable. -/
def namedPath? (explicit : Option Path) (environment : Environment) : Option Path :=
  match explicit, environment.value? pathVariable with
  | some path, _ => some path
  | none, some name => if name == "" then none else some (Path.ofText name)
  | none, none => none

/-- The path of the settings file. -/
def settingsPath (host : Host) (explicit : Option Path) (environment : Environment) :
    Except Interruption Path :=
  match namedPath? explicit environment with
  | some path => host.expand path
  | none => .ok (Path.ofText standardPath)

/-- A step of loading a configuration. -/
abbrev LoadM (α : Type) : Type :=
  Except (Setback Rejection) α

/-- Reject the settings. -/
def reject {α : Type} (rejection : Rejection) : LoadM α :=
  .error (.refused rejection)

/-- End the run. -/
def interrupt {α : Type} (interruption : Interruption) : LoadM α :=
  .error (.interrupted interruption)

/-- Read the document in a file in object notation. -/
def readDocumentFile (path : Path) (characters : List Char) : LoadM Value :=
  match Json.readDocument Nesting.documentRoom characters with
  | .ok value => .ok value
  | .error (.complaint complaint remaining) =>
      let offset := Json.offsetOf characters remaining
      reject (.malformedDocument path complaint (Location.ofOffset characters offset) offset)
  | .error (.tooManyDigits count) => interrupt (.fault (.tooManyDigits count))
  | .error .tooDeep => interrupt (.fault .tooDeep)

/-- Read the document in a file with tables. -/
def readTableFile (path : Path) (characters : List Char) : LoadM Value :=
  match Toml.readDocument Nesting.documentRoom characters with
  | .ok value => .ok value
  | .error .malformed => reject (.malformedSettings path)
  | .error (.tooManyDigits count) => interrupt (.fault (.tooManyDigits count))
  | .error .tooDeep => interrupt (.fault .tooDeep)

/-- Whether a file is in object notation, which its ending tells. -/
def isDocumentFile (path : Path) : Bool :=
  path.ending.toLower == ".json"

/-- The part of a document that holds the settings. -/
def settingsPart (path : Path) (document : Value) : LoadM Value :=
  if path.name == projectFileName && document.isObject then
    match (document.field? toolsKey).getD (.object []) with
    | .object tools => .ok ((Value.lookup? toolKey tools).getD (.object []))
    | other => interrupt (.fault (.noFields other.kind))
  else .ok document

/-- The settings that a file gives; a file that is not there gives none. -/
def fileFields (tree : Tree) (path : Path) : LoadM (List (String × Value)) := do
  if ← askPath path (tree.isFile path) then
    let octets ←
      match tree.read path with
      | .ok octets => pure octets
      | .error fault => interrupt (.inaccessible fault path)
    let characters ←
      match Octets.decodeText octets with
      | .ok characters => pure characters
      | .error fault => interrupt (.undecodable fault)
    let document ←
      if isDocumentFile path then readDocumentFile path characters
      else readTableFile path characters
    match ← settingsPart path document with
    | .object fields => return fields
    | _ => reject (.notTable path)
  else return []

/-- The sources of settings: variables count for more than what a file gives. -/
def sources : List Source :=
  [.environment, .given]

section Loading

variable (library : Library)

/-- Put a configuration together from what the file gives. -/
def assemble (path : Path) (environment added : Environment) (isFileLoaded : Bool)
    (rejection : Option Rejection) (fields : List (String × Value)) :
    Except Interruption Configuration :=
  match added.firstFault? with
  | some fault => .error (.unsettable fault)
  | none =>
      match library.build sources environment fields with
      | .ok draft => .ok ⟨draft, path, isFileLoaded, environment.overrides, rejection⟩
      | .error (.refused issues) =>
          .ok ⟨.empty, path, isFileLoaded, environment.overrides, some (.invalid issues)⟩
      | .error (.interrupted interruption) => .error interruption

/-- Load the configuration of a run on a host, to whose variables others are added. -/
def loadConfiguration (host : Host) (explicit : Option Path) (added : Environment) :
    Except Interruption Configuration := do
  let environment := host.environment added
  let path ← settingsPath host explicit environment
  match fileFields host.tree path with
  | .error (.interrupted interruption) => .error interruption
  | .error (.refused rejection) =>
      assemble library path environment added false (some rejection) []
  | .ok fields =>
      match host.tree.isFile path with
      | .error fault => .error (.inaccessible fault path)
      | .ok isLoaded => assemble library path environment added isLoaded none fields

end Loading

end TypeGauge.Setup
