/-!
# Options on a command line

A command line is a list of words.  A word that starts with a dash is a long option,
which may carry its value after an equals sign, or a cluster of short options, the
last of which may carry its value in the rest of the word.  An option without a value
takes the next word, whatever it is.  Two dashes end the options.  The first other word
ends them too unless options and arguments may be mixed.
-/

namespace TypeGauge.Command

/-- What is wrong with a command line. -/
inductive UsageFault where
  | unknownOption (name : String)
  | missingValue (name : String)
  | unexpectedValue (name : String)
  | badValue (name value : String)
  | missingCommand
  | unknownCommand (name : String)
  | missingArgument
  | extraArgument (word : String)
deriving DecidableEq, Repr, Inhabited

/-- The wording of a fault. -/
def UsageFault.message : UsageFault → String
  | .unknownOption name => "No such option: " ++ name
  | .missingValue name => "Option '" ++ name ++ "' requires an argument."
  | .unexpectedValue name => "Option '" ++ name ++ "' does not take a value."
  | .badValue name value => "Invalid value for '" ++ name ++ "': '" ++ value ++ "'"
  | .missingCommand => "Missing command."
  | .unknownCommand name => "No such command '" ++ name ++ "'."
  | .missingArgument => "Missing argument."
  | .extraArgument word => "Got unexpected extra argument (" ++ word ++ ")"

/-- An option: what it stands for, how it is written, and whether it takes a value. -/
structure OptionForm (κ : Type) where
  key : κ
  /-- The written form with two dashes. -/
  long : String
  /-- The letter of the written form with one dash, if there is one. -/
  short : Option Char
  takesValue : Bool

/-- The options of a command, and whether arguments may stand between them. -/
structure Grammar (κ : Type) where
  options : List (OptionForm κ)
  isMixed : Bool

/-- The options and arguments of a command line, in order; a flag has an empty value. -/
structure Parsed (κ : Type) where
  options : List (κ × String)
  arguments : List String
deriving Inhabited

/-- What a single word of a command line is. -/
inductive Word (κ : Type) where
  /-- The end of the options. -/
  | separator
  | argument
  /-- Options that are complete. -/
  | options (found : List (κ × String))
  /-- Options the last of which takes the next word. -/
  | awaiting (found : List (κ × String)) (key : κ) (name : String)
  | wrong (fault : UsageFault)

variable {κ : Type}

/-- Read a cluster of short options. -/
def readCluster (forms : List (OptionForm κ)) (found : List (κ × String)) : List Char → Word κ
  | [] => .options found
  | letter :: rest =>
      let name := String.ofList ['-', letter]
      match forms.find? fun form => form.short == some letter with
      | none => .wrong (.unknownOption name)
      | some form =>
          if form.takesValue then
            if rest.isEmpty then .awaiting found form.key name
            else .options (found ++ [(form.key, String.ofList rest)])
          else readCluster forms (found ++ [(form.key, "")]) rest

/-- Split a word at its first equals sign. -/
def splitValue (word : List Char) : String × Option String :=
  let name := word.takeWhile (· != '=')
  match word.drop name.length with
  | [] => (String.ofList name, none)
  | _ :: value => (String.ofList name, some (String.ofList value))

/-- Read a long option. -/
def readLong (form : OptionForm κ) (value : Option String) : Word κ :=
  match form.takesValue, value with
  | true, some given => .options [(form.key, given)]
  | true, none => .awaiting [] form.key form.long
  | false, none => .options [(form.key, "")]
  | false, some _ => .wrong (.unexpectedValue form.long)

/-- What a word of a command line is. -/
def classify (forms : List (OptionForm κ)) (word : String) : Word κ :=
  match word.toList with
  | ['-', '-'] => .separator
  | '-' :: second :: rest =>
      let (name, value) := splitValue word.toList
      match forms.find? fun form => form.long == name with
      | some form => readLong form value
      | none =>
          if second == '-' then .wrong (.unknownOption name)
          else readCluster forms [] (second :: rest)
  | _ => .argument

/-- Put an argument in front. -/
def Parsed.withArgument (parsed : Parsed κ) (argument : String) : Parsed κ :=
  { parsed with arguments := argument :: parsed.arguments }

/-- Put options in front. -/
def Parsed.withOptions (parsed : Parsed κ) (found : List (κ × String)) : Parsed κ :=
  { parsed with options := found ++ parsed.options }

/-- Read the words of a command line. -/
def Grammar.read (grammar : Grammar κ) : List String → Except UsageFault (Parsed κ)
  | [] => .ok ⟨[], []⟩
  | word :: rest =>
      match classify grammar.options word with
      | .separator => .ok ⟨[], rest⟩
      | .argument =>
          if grammar.isMixed then (grammar.read rest).map fun parsed => parsed.withArgument word
          else .ok ⟨[], word :: rest⟩
      | .options found => (grammar.read rest).map fun parsed => parsed.withOptions found
      | .awaiting found key name =>
          match rest with
          | [] => .error (.missingValue name)
          | value :: more =>
              (grammar.read more).map fun parsed => parsed.withOptions (found ++ [(key, value)])
      | .wrong fault => .error fault

/-- The value of the last option that stands for something. -/
def Parsed.last? [DecidableEq κ] (parsed : Parsed κ) (key : κ) : Option String :=
  (parsed.options.reverse.find? fun entry => entry.1 == key).map Prod.snd

end TypeGauge.Command
