import TypeGauge.Data.Toml.Moment
import TypeGauge.Data.Toml.Nest
import TypeGauge.Data.Toml.Token

/-!
# Reading settings files

A settings file is a sequence of statements, one on a line: a key with a value, the
header of a table, or the header of one more table of a list.  A table is opened
once, a key is set once, and what is written inside brackets or braces is complete.

The supply argument bounds the number of calls.  A supply of twice the number of
characters and two more is never used up, because every second call consumes a
character.
-/

namespace TypeGauge.Data.Toml

open TypeGauge.Text

/-- Insist on a result. -/
def insist {α : Type} (result : Option α) : Except Refusal α :=
  match result with
  | some value => .ok value
  | none => .error .malformed

/-- Whether a value has parts. -/
def hasParts (value : Value) : Bool :=
  match value with
  | .list _ => true
  | .object _ => true
  | _ => false

/-- Read a date, a time or a number. -/
def readPlain (characters : List Char) : Except Refusal (Value × List Char) :=
  match readMoment? characters with
  | some (some moment, rest) => .ok (.moment moment, rest)
  | some (none, _) => .error .malformed
  | none => readNumber characters

/-- The last part of a key and the parts before it. -/
def splitKey (key : List String) : List String × String :=
  (key.dropLast, key.getLast?.getD "")

mutual

/-- Read a value at the front of the characters. -/
def readValue : (supply room : Nat) → List Char → Except Refusal (Value × List Char)
  | 0, _, _ => .error .malformed
  | supply + 1, room, characters =>
      match characters with
      | [] => .error .malformed
      | '[' :: rest =>
          match room with
          | 0 => .error .tooDeep
          | room + 1 => do
              match ← skipSpacing supply rest with
              | ']' :: after => return (.list [], after)
              | items => readItems supply room [] items
      | '\x7b' :: rest =>
          match room with
          | 0 => .error .tooDeep
          | room + 1 =>
              match skipBlanks rest with
              | '\x7d' :: after => .ok (.object [], after)
              | pairs => readPairs supply room [] .empty pairs
      | 't' :: 'r' :: 'u' :: 'e' :: rest => .ok (.truth true, rest)
      | 'f' :: 'a' :: 'l' :: 's' :: 'e' :: rest => .ok (.truth false, rest)
      | first :: _ =>
          if first == Quoted.double || first == Quoted.single then do
            let (content, after) ← readText supply first characters
            return (.text content, after)
          else readPlain characters

/-- Read the items of a list up to its closing bracket. -/
def readItems :
    (supply room : Nat) → (done : List Value) → List Char → Except Refusal (Value × List Char)
  | 0, _, _, _ => .error .malformed
  | supply + 1, room, done, characters => do
      let (item, rest) ← readValue supply room characters
      match ← skipSpacing supply rest with
      | ']' :: after => return (.list (item :: done).reverse, after)
      | ',' :: after =>
          match ← skipSpacing supply after with
          | ']' :: last => return (.list (item :: done).reverse, last)
          | items => readItems supply room (item :: done) items
      | _ => .error .malformed

/-- Read the pairs of a table in braces up to its closing brace. -/
def readPairs :
    (supply room : Nat) → (done : Fields) → Marks → List Char →
      Except Refusal (Value × List Char)
  | 0, _, _, _, _ => .error .malformed
  | supply + 1, room, done, marks, characters => do
      let (key, rest) ← readKey supply characters
      match rest with
      | '=' :: afterSign =>
          let (value, afterValue) ← readValue supply room (skipBlanks afterSign)
          if marks.isComplete key then .error .malformed
          else
            let (above, name) := splitKey key
            let fields ← insist (update false (insertNew name value) above done)
            match skipBlanks afterValue with
            | '\x7d' :: after => return (.object fields, after)
            | ',' :: after =>
                let remembered := if hasParts value then marks.set key .complete else marks
                readPairs supply room fields remembered (skipBlanks after)
            | _ => .error .malformed
      | _ => .error .malformed

end

/-- What has been read of a file. -/
structure Progress where
  fields : Fields
  marks : Marks
  /-- The key of the table that statements belong to. -/
  header : List String
deriving Inhabited

/-- The tables on the way to a key, which a dotted key opens. -/
def tablesOnTheWay (header key : List String) : List (List String) :=
  (List.range key.length).filterMap fun count =>
    if count == 0 then none else some (header ++ key.take count)

/-- Set a key to a value in the current table. -/
def Progress.assign (progress : Progress) (key : List String) (value : Value) :
    Except Refusal Progress := do
  let onTheWay := tablesOnTheWay progress.header key
  if onTheWay.any progress.marks.isOpened then .error .malformed
  else
    let marks := onTheWay.foldl Marks.postpone progress.marks
    let (above, name) := splitKey key
    let table := progress.header ++ above
    if marks.isComplete table then .error .malformed
    else
      let fields ← insist (update true (insertNew name value) table progress.fields)
      let marked := if hasParts value then marks.set (progress.header ++ key) .complete else marks
      return { progress with fields := fields, marks := marked }

/-- Open a table. -/
def Progress.openTable (progress : Progress) (key : List String) : Except Refusal Progress := do
  let marks := progress.marks.settle
  if marks.isOpened key || marks.isComplete key then .error .malformed
  else
    let fields ← insist (update true some key progress.fields)
    return ⟨fields, marks.set key .opened, key⟩

/-- Open one more table of a list. -/
def Progress.openListed (progress : Progress) (key : List String) : Except Refusal Progress := do
  let marks := progress.marks.settle
  if marks.isComplete key then .error .malformed
  else
    let (above, name) := splitKey key
    let fields ← insist (update true (appendTable name) above progress.fields)
    return ⟨fields, (marks.forget key).set key .opened, key⟩

/-- Read one statement, without the rest of its line. -/
def readStatement (supply room : Nat) (progress : Progress) (characters : List Char) :
    Except Refusal (Progress × List Char) := do
  match characters with
  | '[' :: '[' :: rest =>
      let (key, after) ← readKey supply (skipBlanks rest)
      match after with
      | ']' :: ']' :: last => return (← progress.openListed key, last)
      | _ => .error .malformed
  | '[' :: rest =>
      let (key, after) ← readKey supply (skipBlanks rest)
      match after with
      | ']' :: last => return (← progress.openTable key, last)
      | _ => .error .malformed
  | _ =>
      let (key, after) ← readKey supply characters
      match after with
      | '=' :: rest =>
          let (value, last) ← readValue supply room (skipBlanks rest)
          return (← progress.assign key value, last)
      | _ => .error .malformed

/-- Read the statements of a file. -/
def readStatements (room : Nat) :
    (supply : Nat) → Progress → List Char → Except Refusal Progress
  | 0, progress, _ => .ok progress
  | supply + 1, progress, characters => do
      let (next, rest) ←
        match skipBlanks characters with
        | [] => pure (progress, [])
        | '\n' :: rest => pure (progress, '\n' :: rest)
        | '#' :: rest => pure (progress, '#' :: rest)
        | statement => readStatement supply room progress statement
      match ← skipComment (skipBlanks rest) with
      | [] => return next
      | '\n' :: after => readStatements room supply next after
      | _ => .error .malformed

/-- Read a whole text as a settings file. -/
def readDocument (room : Nat) (characters : List Char) : Except Refusal Value := do
  let supply := 2 * characters.length + 2
  let progress ← readStatements room supply ⟨[], .empty, []⟩ characters
  return .object progress.fields

end TypeGauge.Data.Toml
