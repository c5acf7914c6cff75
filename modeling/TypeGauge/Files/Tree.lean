import TypeGauge.Files.Path
import TypeGauge.Text.Quoted

/-!
# File trees

An analysis reads from a file tree: a list of directories and files by the
paths that lead to them without detours.  A path is followed name by name, so a
file in the middle of a path, a missing name and an overlong name are told
apart, and two dots lead back to the directory before.  The working directory and
those above it are always there.
-/

namespace TypeGauge.Files

open TypeGauge.Text.Quoted (quoted)

/-- What stands under a name. -/
inductive Entry where
  | directory
  | file (octets : List UInt8)
deriving DecidableEq, Inhabited

/-- Files and directories by the direct paths to them. -/
structure Tree where
  entries : List (Path × Entry)
deriving Inhabited

/-- Why a path leads nowhere or cannot be read. -/
inductive AccessFault where
  | missing
  | notDirectory
  | isDirectory
  | nameTooLong
deriving DecidableEq, Repr, Inhabited

/-- The number that the operating system gives to a fault. -/
def AccessFault.number : AccessFault → Nat
  | .missing => 2
  | .notDirectory => 20
  | .isDirectory => 21
  | .nameTooLong => 36

/-- What the operating system calls a fault. -/
def AccessFault.words : AccessFault → String
  | .missing => "No such file or directory"
  | .notDirectory => "Not a directory"
  | .isDirectory => "Is a directory"
  | .nameTooLong => "File name too long"

/-- The wording of a fault at a path. -/
def AccessFault.message (fault : AccessFault) (path : Path) : String :=
  "[Errno " ++ toString fault.number ++ "] " ++ fault.words ++ ": " ++ quoted path.text

/-- A name has at most this many octets. -/
def nameLimit : Nat :=
  255

/-- A path has fewer octets than this. -/
def pathLimit : Nat :=
  4096

namespace Tree

/-- The names that lead from one direct path to another beneath it. -/
def namesFrom? (upper lower : Path) : Option (List String) :=
  if upper.root == lower.root && upper.parts.isPrefixOf lower.parts &&
      upper.parts.length < lower.parts.length then
    some (lower.parts.drop upper.parts.length)
  else none

/-- What stands at a direct path; whatever has something beneath it is a directory. -/
def at? (tree : Tree) (path : Path) : Option Entry :=
  if path.isAtOrAbove then some .directory
  else
    match tree.entries.find? (fun entry => entry.1 == path) with
    | some entry => some entry.2
    | none =>
        if tree.entries.any fun entry => (namesFrom? path entry.1).isSome then some .directory
        else none

/-- Take one step along a path from a direct path. -/
def step (tree : Tree) (path : Path) (part : String) : Except AccessFault Path :=
  match tree.at? path with
  | none => .error .missing
  | some (.file _) => .error .notDirectory
  | some .directory =>
      if part == ".." then .ok path.parent
      else if nameLimit < part.utf8ByteSize then .error .nameTooLong
      else if (tree.at? (path.beneath [part])).isSome then .ok (path.beneath [part])
      else .error .missing

/-- The direct path that a path leads to from where it starts. -/
def follow (tree : Tree) (path : Path) : Except AccessFault Path :=
  if pathLimit ≤ path.text.utf8ByteSize then .error .nameTooLong
  else path.parts.foldlM tree.step ⟨path.root, []⟩

/-- What a path leads to. -/
def entry (tree : Tree) (path : Path) : Except AccessFault Entry := do
  match tree.at? (← tree.follow path) with
  | some entry => return entry
  | none => .error .missing

/-- Whether a path contains the character with code zero, which no file name can. -/
def isUnusable (path : Path) : Bool :=
  path.text.toList.contains (Char.ofNat 0)

/-- Ask something of what a path leads to; a path that leads nowhere answers no. -/
def ask (tree : Tree) (path : Path) (question : Entry → Bool) : Except AccessFault Bool :=
  if isUnusable path then .ok false
  else
    match tree.entry path with
    | .ok entry => .ok (question entry)
    | .error .nameTooLong => .error .nameTooLong
    | .error _ => .ok false

/-- Whether a path leads anywhere. -/
def doesExist (tree : Tree) (path : Path) : Except AccessFault Bool :=
  tree.ask path fun _ => true

/-- Whether a path leads to a directory. -/
def isDirectory (tree : Tree) (path : Path) : Except AccessFault Bool :=
  tree.ask path fun entry => entry == .directory

/-- Whether a path leads to a file. -/
def isFile (tree : Tree) (path : Path) : Except AccessFault Bool :=
  tree.ask path fun entry => entry != .directory

/-- The octets of the file that a path leads to. -/
def read (tree : Tree) (path : Path) : Except AccessFault (List UInt8) := do
  match ← tree.entry path with
  | .directory => .error .isDirectory
  | .file octets => return octets

/-- The order of paths in listings: part by part, by code points. -/
def partsAtMost : List String → List String → Bool
  | [], _ => true
  | _ :: _, [] => false
  | first :: rest, second :: others =>
      if first == second then partsAtMost rest others else first < second

/-- The names beneath a directory that lead to files with an ending, in order. -/
def filesBeneath (tree : Tree) (path : Path) (ending : String) : List (List String) :=
  match tree.follow path with
  | .error _ => []
  | .ok upper =>
      let found := tree.entries.filterMap fun entry =>
        match entry.2, namesFrom? upper entry.1 with
        | .file _, some names => if entry.1.name.endsWith ending then some names else none
        | _, _ => none
      found.mergeSort partsAtMost

/-- A path that leads to a file can be used, and leads to octets. -/
theorem exists_octets {tree : Tree} {path : Path} (isFile : tree.isFile path = .ok true) :
    isUnusable path = false ∧ ∃ octets, tree.entry path = .ok (.file octets) := by
  rw [Tree.isFile, ask] at isFile
  cases unusable : isUnusable path with
  | true => simp [unusable] at isFile
  | false =>
      refine ⟨rfl, ?_⟩
      simp only [unusable, Bool.false_eq_true, if_false] at isFile
      cases found : tree.entry path with
      | error fault =>
          rw [found] at isFile
          cases fault <;> cases isFile
      | ok entry =>
          rw [found] at isFile
          cases entry with
          | directory => cases isFile
          | file octets => exact ⟨octets, rfl⟩

theorem read_of_entry {tree : Tree} {path : Path} {octets : List UInt8}
    (found : tree.entry path = .ok (.file octets)) : tree.read path = .ok octets := by
  rw [read, found]
  rfl

end Tree

end TypeGauge.Files
