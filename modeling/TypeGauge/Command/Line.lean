import TypeGauge.Command.Options
import TypeGauge.Number.DecimalText
import TypeGauge.Number.Whole
import TypeGauge.Setup.Draft

/-!
# Command lines

A command line names a command and may name a settings file before it.  The words
after the command are read by the command's own grammar.  The options of a command
replace parts of the policy; where an option is repeated the last one counts.
-/

namespace TypeGauge.Command

open TypeGauge.Number TypeGauge.Setup

/-- What can be asked for. -/
inductive CommandName where
  | check
  | score
  | config
  | version
deriving DecidableEq, Repr, Inhabited

/-- The word for a command. -/
def CommandName.word : CommandName → String
  | .check => "check"
  | .score => "score"
  | .config => "config"
  | .version => "version"

/-- The command with a word. -/
def CommandName.ofWord? (word : String) : Option CommandName :=
  [.check, .score, .config, .version].find? fun name => name.word == word

/-- The options before the command. -/
inductive GeneralOption where
  | config
  | verbose
deriving DecidableEq, Repr, Inhabited

/-- The grammar of the options before the command. -/
def generalGrammar : Grammar GeneralOption where
  options := [⟨.config, "--config", some 'c', true⟩, ⟨.verbose, "--verbose", some 'v', false⟩]
  isMixed := false

/-- A command line up to its command. -/
structure Opening where
  configPath : Option String
  isVerbose : Bool
  command : CommandName
  /-- The words after the command. -/
  rest : List String
deriving Inhabited

/-- Read a command line up to its command. -/
def readOpening (words : List String) : Except UsageFault Opening := do
  let parsed ← generalGrammar.read words
  match parsed.arguments with
  | [] => .error .missingCommand
  | name :: rest =>
      match CommandName.ofWord? name with
      | none => .error (.unknownCommand name)
      | some command =>
          return ⟨parsed.last? .config, (parsed.last? .verbose).isSome, command, rest⟩

/-- The forms that diagnostics are written in. -/
inductive OutputForm where
  | table
  | json
  | text
deriving DecidableEq, Repr, Inhabited

/-- The word for a form. -/
def OutputForm.word : OutputForm → String
  | .table => "table"
  | .json => "json"
  | .text => "text"

/-- The form with a word. -/
def OutputForm.ofWord? (word : String) : Option OutputForm :=
  [.table, .json, .text].find? fun form => form.word == word

/-- The parts of the policy that a command line replaces. -/
structure Replacement where
  baseThreshold : Option Float
  entryDepth : Option Int
  performanceMode : Option Bool
deriving Inhabited

/-- The settings with some parts of the policy replaced. -/
def Replacement.apply (replacement : Replacement) (settings : Settings Float) : Settings Float :=
  let policy := settings.policy
  { settings with
    policy :=
      { policy with
        baseThreshold := replacement.baseThreshold.getD policy.baseThreshold
        entryDepth := replacement.entryDepth.getD policy.entryDepth
        performanceMode := replacement.performanceMode.getD policy.performanceMode } }

/-- The options of the commands that look at dumps. -/
inductive DumpOption where
  | form
  | baseThreshold
  | entryDepth
  | capped
  | uncapped
deriving DecidableEq, Repr, Inhabited

/-- The option for the depth at which declarations are scored. -/
def entryDepthForm : OptionForm DumpOption :=
  ⟨.entryDepth, "--entry-depth", none, true⟩

/-- The grammar of the command that checks dumps. -/
def checkGrammar : Grammar DumpOption where
  options :=
    [⟨.form, "--format", some 'f', true⟩, ⟨.baseThreshold, "--base-threshold", none, true⟩,
      entryDepthForm, ⟨.capped, "--performance-mode", none, false⟩,
      ⟨.uncapped, "--no-performance-mode", none, false⟩]
  isMixed := true

/-- The grammar of the command that lists scores. -/
def scoreGrammar : Grammar DumpOption where
  options := [entryDepthForm]
  isMixed := true

/-- The grammar of the commands without options. -/
def bareGrammar : Grammar DumpOption where
  options := []
  isMixed := true

/-- Read the value of an option, if the option is there. -/
def readOption {α : Type} (name : String) (read : String → Option α) :
    Option String → Except UsageFault (Option α)
  | none => .ok none
  | some word =>
      match read word with
      | some value => .ok (some value)
      | none => .error (.badValue name word)

/-- Read a whole number from a word. -/
def wholeOfWord? (word : String) : Option Int :=
  (Whole.read word.toList).toOption

/-- Whether sums are capped, as the last of the two options says. -/
def cappingOf? (parsed : Parsed DumpOption) : Option Bool :=
  let relevant := parsed.options.filter fun entry => entry.1 == .capped || entry.1 == .uncapped
  relevant.getLast?.map fun entry => entry.1 == .capped

/-- The parts of the policy that options replace. -/
def readReplacement (parsed : Parsed DumpOption) : Except UsageFault Replacement := do
  let base ←
    readOption "--base-threshold" DecimalText.ofArgument? (parsed.last? .baseThreshold)
  let depth ← readOption "--entry-depth" wholeOfWord? (parsed.last? .entryDepth)
  return ⟨base, depth, cappingOf? parsed⟩

/-- What is asked for. -/
inductive Request where
  | check (paths : List String) (form : OutputForm) (replacement : Replacement)
  | score (path : String) (replacement : Replacement)
  | config
  | version
deriving Inhabited

/-- Read the words after a command that takes none. -/
def readBare (request : Request) (words : List String) : Except UsageFault Request := do
  let parsed ← bareGrammar.read words
  match parsed.arguments with
  | [] => return request
  | word :: _ => .error (.extraArgument word)

/-- Read the words after the command that checks dumps. -/
def readCheck (words : List String) : Except UsageFault Request := do
  let parsed ← checkGrammar.read words
  let form ← readOption "--format" OutputForm.ofWord? (parsed.last? .form)
  let replacement ← readReplacement parsed
  if parsed.arguments.isEmpty then .error .missingArgument
  else return .check parsed.arguments (form.getD .table) replacement

/-- Read the words after the command that lists scores. -/
def readScore (words : List String) : Except UsageFault Request := do
  let parsed ← scoreGrammar.read words
  let replacement ← readReplacement parsed
  match parsed.arguments with
  | [] => .error .missingArgument
  | [path] => return .score path replacement
  | _ :: word :: _ => .error (.extraArgument word)

/-- Read the words after a command. -/
def readRequest (command : CommandName) (words : List String) : Except UsageFault Request :=
  match command with
  | .check => readCheck words
  | .score => readScore words
  | .config => readBare .config words
  | .version => readBare .version words

end TypeGauge.Command
