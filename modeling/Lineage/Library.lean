import Lineage.Failure
import Lineage.World

/-!
# Library — the modules that can be imported

A library lists modules by their full names, each with what it exports. A module is found by its full name; when it is
missing, the outermost part of the name that is missing is named (`Library.missing`).
-/

set_option autoImplicit false

namespace Lineage

/-- Modules by name, each with its exports. -/
abbrev Library := List (String × Fields)

namespace Library

/-- What stands before the last dot of a name. -/
def parentOf (name : List Char) : List Char := ((name.reverse.dropWhile (· ≠ '.')).drop 1).reverse

theorem length_parentOf_lt {name : List Char} (h : parentOf name ≠ []) : (parentOf name).length < name.length := by
  unfold parentOf at h ⊢
  have hd : (name.reverse.dropWhile (· ≠ '.')).length ≤ name.length := by
    simpa using (List.dropWhile_sublist (fun c => decide (c ≠ '.')) (l := name.reverse)).length_le
  have hp : 0 < ((name.reverse.dropWhile (· ≠ '.')).drop 1).length := by
    cases hl : (name.reverse.dropWhile (· ≠ '.')).drop 1 with
    | nil => rw [hl] at h; simp at h
    | cons => simp
  simp only [List.length_reverse, List.length_drop] at hp ⊢
  omega

/-- The part of a missing name that is missed first, from the outside. -/
def missing (lib : Library) (name : List Char) : List Char :=
  if _h : parentOf name ≠ [] then
    if Fields.has lib (String.ofList (parentOf name)) then name else missing lib (parentOf name)
  else name
termination_by name.length
decreasing_by exact length_parentOf_lt (by assumption)

/-- The exports of a module. -/
def load (lib : Library) (name : String) : Except Failure Fields :=
  if name = "" then .error .emptyModuleName
  else if name.startsWith "." then .error (.relativeModule name)
  else match Fields.get? lib name with
    | some exports => .ok exports
    | none => .error (.moduleNotFound (String.ofList (missing lib name.toList)))

/-- The package's own modules. -/
def packageModules : List String :=
  ["offspring", "offspring.cli", "offspring.commands", "offspring.commands._context", "offspring.commands.check",
    "offspring.commands.inspect_cmd", "offspring.commands.type_cmd", "offspring.config", "offspring.config.discovery",
    "offspring.config.logging", "offspring.config.models", "offspring.config.settings", "offspring.domain",
    "offspring.domain.assertions", "offspring.domain.classes", "offspring.domain.enums", "offspring.domain.errors",
    "offspring.domain.natives", "offspring.domain.predicates", "offspring.domain.unions", "offspring.output",
    "offspring.output.console", "offspring.output.formatters", "offspring.output.renderers", "offspring.plugins",
    "offspring.plugins.hookspecs", "offspring.plugins.manager", "offspring.services", "offspring.services.introspect",
    "offspring.services.result", "offspring.system"]

/-- The modules of the package that export the base class. -/
def baseModules : List String := ["offspring", "offspring.domain.classes"]

/-- The modules that are always there: one foreign one, and those of the package. -/
def standard : Library :=
  ("json", []) :: packageModules.map fun n => (n, if baseModules.contains n then [("Object", .cls baseIndex)] else [])

end Library

end Lineage
