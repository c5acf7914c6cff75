import TypeGauge.Setup.Environment

/-!
# Hosts

A run takes place on a host, which has files, variables and accounts with home directories.
A relative path whose first part begins with a tilde leads from a home directory: the name
after the tilde is that of an account, and without a name the home is the one that the
variable `HOME` gives or else that of the account that runs.
-/

namespace TypeGauge.Setup

open TypeGauge.Files

/-- The home directories of accounts. -/
structure Accounts where
  /-- The home of the account that runs. -/
  own? : Option String
  /-- The home of the account with a name. -/
  home? : String → Option String

/-- Accounts of which none has a home directory. -/
def Accounts.nobody : Accounts :=
  ⟨none, fun _ => none⟩

/-- What a run finds around it. -/
structure Host where
  tree : Tree
  assigned : Environment
  accounts : Accounts

/-- The variable that gives the home directory. -/
def homeVariable : String :=
  "HOME"

/-- The character that stands for a home directory. -/
def homeSign : Char :=
  '~'

/-- The path of a home directory, where slashes alone are the root. -/
def homePath (home : String) : Path :=
  Path.ofText (if home.toList.all (· == '/') then "/" else home)

namespace Host

/-- The variables of a host with others laid over them. -/
def environment (host : Host) (added : Environment) : Environment :=
  host.assigned.overlay added

/-- The home directory that a name after a tilde stands for. -/
def home? (host : Host) (name : String) : Option String :=
  if name == "" then (host.assigned.value? homeVariable).or host.accounts.own?
  else host.accounts.home? name

/-- Follow a tilde at the front of a path; a home that is again behind a tilde is none. -/
def expand (host : Host) (path : Path) : Except Interruption Path :=
  match path.root, path.parts with
  | .relative, first :: rest =>
      match first.toList with
      | [] => .ok path
      | sign :: name =>
          if sign != homeSign then .ok path
          else if name.contains (Char.ofNat 0) then .error .unusablePath
          else
            match host.home? (String.ofList name) with
            | none => .error .homeless
            | some home =>
                if home.toList.head? == some homeSign then .error .homeless
                else .ok ((homePath home).beneath rest)
  | _, _ => .ok path

end Host

end TypeGauge.Setup
