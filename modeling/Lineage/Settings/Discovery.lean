import Lineage.Failure
import Lineage.Fields
import Lineage.FileTree

/-!
# Discovery — which configuration file applies

A file that is named outright is taken if it is a regular file, and otherwise none is. When none is named, a variable
of the environment may name one in the same way. Else it is the nearest file of the usual name, from a start
folder upwards; folders of that name are passed over.
-/

set_option autoImplicit false

namespace Lineage

/-- The variables that a program is given. -/
abbrev Environment := List (String × String)

namespace Discovery

/-- The usual name of the configuration file. -/
def fileName : String := "offspring.toml"

/-- The variable that names a configuration file. -/
def variableName : String := "OFFSPRING_CONFIG"

/-- The text of the home folder: without slashes at its end, unless nothing else is left. -/
def homeText (s : String) : String :=
  let cs := (s.toList.reverse.dropWhile (· = '/')).reverse
  if cs.isEmpty then "/" else String.ofList cs

/-- A path whose first name may stand for the home folder. -/
def expand (t : FileTree) (env : Environment) (p : Path) : Except Failure Path :=
  match p.anchor, p.names with
  | .here, n :: ns =>
    if n = "~" then
      let home := Path.ofText t.root (homeText ((Fields.get? env "HOME").getD "/"))
      .ok { home with names := home.names ++ ns }
    else if n.startsWith "~" then .error (.misuse .runtime "Could not determine home directory.")
    else .ok p
  | _, _ => .ok p

/-- Where the file may lie: in a folder and all above it, the nearest first. -/
def candidates (at_ : List String) : List Path := (FileTree.upwards at_).map fun l => ⟨.root, l ++ [fileName]⟩

/-- A path, if it leads to a regular file. -/
def existing (t : FileTree) (p : Path) : Option Path := if t.isFile p then some p else none

/-- The file that the environment names, or else the nearest one. The start is a path from the root. -/
def find (t : FileTree) (env : Environment) (start : Option Path) : Except Failure (Option Path) :=
  match Fields.get? env variableName with
  | some s =>
    if s = "" then .ok (nearest start) else (expand t env (Path.ofText t.root s)).map (existing t)
  | none => .ok (nearest start)
where
  /-- The nearest file of the usual name. -/
  nearest (start : Option Path) : Option Path :=
    match t.resolve (start.getD ⟨.here, []⟩) with
    | some l => (candidates l).find? t.isFile
    | none => none

/-- The file that is named outright, or else the one that is found. -/
def choose (t : FileTree) (env : Environment) (given : Option String) (start : Option Path) :
    Except Failure (Option Path) :=
  match given with
  | some s => if s = "" then find t env start else .ok (existing t (Path.ofText t.root s))
  | none => find t env start

end Discovery

end Lineage
