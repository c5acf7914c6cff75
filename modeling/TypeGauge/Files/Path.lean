/-!
# Paths

A path has a root, which is empty for a relative path, and a list of parts.
Empty parts and parts that are a single dot are dropped when a path is read;
parts of two dots stay.  Two leading slashes are a root of their own, three or
more are one.  The written form of the path without root and parts is a dot.
-/

namespace TypeGauge.Files

/-- Where a path starts. -/
inductive Root where
  | relative
  | slash
  | doubleSlash
deriving DecidableEq, Repr, Inhabited

/-- The written form of a root. -/
def Root.text : Root → String
  | .relative => ""
  | .slash => "/"
  | .doubleSlash => "//"

/-- A path in normal form. -/
structure Path where
  root : Root
  parts : List String
deriving DecidableEq, Repr, Inhabited

namespace Path

/-- The root that a number of leading slashes gives. -/
def rootOf (slashes : Nat) : Root :=
  if slashes == 0 then .relative else if slashes == 2 then .doubleSlash else .slash

/-- Read a path. -/
def ofText (text : String) : Path where
  root := rootOf (text.toList.takeWhile (· == '/')).length
  parts := (text.splitOn "/").filter fun part => part != "" && part != "."

/-- The written form of a path. -/
def text (path : Path) : String :=
  let written := path.root.text ++ String.intercalate "/" path.parts
  if written == "" then "." else written

/-- The last part of a path. -/
def name (path : Path) : String :=
  path.parts.getLast?.getD ""

/-- The end of the last part from its last dot on, if something stands before and after it. -/
def ending (path : Path) : String :=
  let reversed := path.name.toList.reverse
  let after := reversed.takeWhile (· != '.')
  let before := (reversed.dropWhile (· != '.')).drop 1
  if after.isEmpty || before.isEmpty then "" else String.ofList ('.' :: after.reverse)

/-- The path of something beneath a directory. -/
def beneath (path : Path) (parts : List String) : Path where
  root := path.root
  parts := path.parts ++ parts

/-- Whether a direct path leads to where paths start, or further up. -/
def isAtOrAbove (path : Path) : Bool :=
  path.parts.all (· == "..")

/-- The direct path that leads one directory up; nothing is above a root. -/
def parent (path : Path) : Path where
  root := path.root
  parts :=
    if path.isAtOrAbove then
      if path.root == .relative then path.parts ++ [".."] else path.parts
    else path.parts.dropLast

/-- The direct path to what a path leads to, if there are no links on the way. -/
def direct (path : Path) : Path :=
  path.parts.foldl
    (fun done part => if part == ".." then done.parent else done.beneath [part])
    ⟨path.root, []⟩

end Path

end TypeGauge.Files
