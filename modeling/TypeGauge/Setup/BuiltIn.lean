import TypeGauge.Setup.Library
import TypeGauge.Setup.Reading
import TypeGauge.Setup.VariableLayer

/-!
# A settings library of its own

The program runs with a library that takes the documented steps and has no options: a file
that sets one is complained of.  Among given fields a name may be written in any letter
case, and the first field of a name counts.
-/

namespace TypeGauge.Setup

open TypeGauge.Data TypeGauge.Text

/-- The first value whose key is a name in any letter case. -/
def firstNamed? (name : String) (fields : List (String × Value)) : Option Value :=
  (fields.find? fun entry => LetterCase.lowered entry.1 == name).map Prod.snd

/-- The settings among fields, each under its proper name. -/
def namedSettings (fields : List (String × Value)) : List (String × Value) :=
  topNames.filterMap fun name => (firstNamed? name fields).map (name, ·)

/-- The keys that are options of the documented library. -/
def optionNames : List String :=
  ["__pydantic_self__", "_build_sources", "_case_sensitive", "_cli_avoid_json",
    "_cli_enforce_required", "_cli_exit_on_error", "_cli_flag_prefix_char",
    "_cli_hide_none_type", "_cli_ignore_unknown_args", "_cli_implicit_flags",
    "_cli_kebab_case", "_cli_parse_args", "_cli_parse_none_str", "_cli_prefix",
    "_cli_prog_name", "_cli_settings_source", "_cli_shortcuts",
    "_cli_use_class_docs_for_groups", "_env_file", "_env_file_encoding",
    "_env_ignore_empty", "_env_nested_delimiter", "_env_nested_max_split",
    "_env_parse_enums", "_env_parse_none_str", "_env_prefix", "_env_prefix_target",
    "_nested_model_default_partial_update", "_secrets_dir"]

/-- The steps of the library without its options. -/
def plainSteps : LibrarySteps where
  readNumber := readUnhalved readNumber
  readTruth := readUnhalved readTruth
  readWhole := readUnhalved readWhole
  readText := readUnhalved readPlainText
  isOption := optionNames.contains
  variableLayer := Environment.settingFields
  givenLayer := namedSettings
  merge := mergeFields
  validate := readSettings

/-- The library that the program runs with. -/
def Library.builtIn : Library where
  toLibrarySteps := plainSteps
  build order environment given :=
    match given.find? fun entry => plainSteps.isOption entry.1 with
    | some (name, _) => .error (.interrupted (.complaint ("no such option: " ++ name)))
    | none => plainSteps.buildLayers order environment given

end TypeGauge.Setup
