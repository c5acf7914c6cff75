import TypeGauge.Data.Json.Reader
import TypeGauge.Dump.Notice
import TypeGauge.Interruption
import TypeGauge.Nesting
import TypeGauge.Syntax.Node
import TypeGauge.Text.Location

/-!
# Loading dumps

A dump is a file that holds the syntax tree of a program, either as the whole
document or under a key of it.  The document may tell the path of the source that it
was made from.  A file that holds no such thing is refused, and the refusal says why.
-/

namespace TypeGauge.Dump

open TypeGauge.Data TypeGauge.Files TypeGauge.Syntax TypeGauge.Text

/-- Why a dump is refused. -/
inductive DumpRefusal where
  | unreadable (cause : AccessFault)
  | undecodable (cause : Octets.Fault)
  | malformed (complaint : Json.Complaint) (place : Location.LineColumn)
  | tooDeepToLoad
  | notObject
  | notProgram
  | tooDeepToAnalyze
deriving DecidableEq, Repr, Inhabited

namespace DumpRefusal

/-- The wording of a refusal of the dump at a path. -/
def message (refusal : DumpRefusal) (path : Path) : String :=
  match refusal with
  | .unreadable cause => "Cannot read AST dump: " ++ cause.message path
  | .undecodable cause => "Cannot read AST dump: " ++ cause.message
  | .malformed complaint _ => "Invalid JSON: " ++ complaint.message
  | .tooDeepToLoad => "AST nesting too deep to load"
  | .notObject => "AST root must be an object"
  | .notProgram => "AST root is not a Program node"
  | .tooDeepToAnalyze => "AST nesting too deep to analyze"

/-- The line and the column that a refusal is about, if it is about a place. -/
def place? : DumpRefusal → Option Location.LineColumn
  | .malformed _ place => some place
  | _ => none

/-- A refusal of the dump at a path, with the place that it is about. -/
def notice (refusal : DumpRefusal) (path : Path) : Notice where
  message := refusal.message path
  details :=
    ("path", .text path.text) ::
      match refusal.place? with
      | some place =>
          [("line", .whole (Int.ofNat place.line)), ("column", .whole (Int.ofNat place.column))]
      | none => []

end DumpRefusal

/-- A program and the path that reports on it name. -/
structure Loaded where
  program : Value
  source : Path
deriving Inhabited

/-- The keys under which a document may tell the path of its source. -/
def sourceKeys : List String :=
  ["filePath", "sourceFile"]

/-- The key under which a document may hold the program. -/
def programKey : String :=
  "ast"

/-- The path of the source that a document tells, if it tells one. -/
def sourceOf? (document : Value) : Option Path :=
  sourceKeys.findSome? fun key =>
    match document.field key with
    | .text content => some (Path.ofText content)
    | _ => none

/-- Refuse a dump. -/
def refuseDump {α : Type} (refusal : DumpRefusal) : Except (Setback DumpRefusal) α :=
  .error (.refused refusal)

/-- The text of the file at a path. -/
def readText (tree : Tree) (path : Path) : Except (Setback DumpRefusal) (List Char) :=
  if Tree.isUnusable path then .error (.interrupted .unusablePath)
  else
    match tree.read path with
    | .error cause => refuseDump (.unreadable cause)
    | .ok octets =>
        match Octets.decodeText octets with
        | .error cause => refuseDump (.undecodable cause)
        | .ok characters => .ok characters

/-- The document that a text holds. -/
def readDocument (characters : List Char) : Except (Setback DumpRefusal) Value :=
  match Json.readDocument Nesting.documentRoom characters with
  | .ok document => .ok document
  | .error (.complaint complaint remaining) =>
      let offset := Json.offsetOf characters remaining
      refuseDump (.malformed complaint (Location.ofOffset characters offset))
  | .error .tooDeep => refuseDump .tooDeepToLoad
  | .error (.tooManyDigits count) => .error (.interrupted (.fault (.tooManyDigits count)))

/-- The program that the document of the dump at a path holds. -/
def programOf (path : Path) (document : Value) : Except (Setback DumpRefusal) Loaded :=
  if document.isObject then
    let program := (document.field? programKey).getD document
    if isNodeOf program "Program" then .ok ⟨program, (sourceOf? document).getD path⟩
    else refuseDump .notProgram
  else refuseDump .notObject

/-- Load the dump at a path. -/
def loadProgram (tree : Tree) (path : Path) : Except (Setback DumpRefusal) Loaded := do
  let characters ← readText tree path
  let document ← readDocument characters
  programOf path document

end TypeGauge.Dump
