import Lineage.Composition
import Lineage.Plugin
import Lineage.Validation

/-!
# Sections — the settings of a type system

The settings have a section for types, which fixes the delimiter between alternatives and the names that classes do not
inherit, and a section for plugins. What a section leaves out has a default, and what it does not know is
passed over.
-/

set_option autoImplicit false

namespace Lineage

/-- The section for types. -/
structure TypeSection where
  delimiter : String
  excluded : List String

/-- The section for plugins. -/
structure PluginSection where
  autoload : Bool

namespace TypeSection

/-- The section when nothing is said. -/
def standard : TypeSection := ⟨Union.defaultDelimiter, defaultExcluded⟩

/-- A delimiter, which separates nothing when it is empty. -/
def delimiterOf (d : Document) : Checked String := do
  let s ← Validation.text d
  if s = "" then .complain "value_error" "Value error, union_delimiter must not be empty" else .ok s

/-- The section that a document describes. -/
def ofDocument : Document → Checked TypeSection :=
  Validation.record "TypesConfig" fun es =>
    .both TypeSection.mk (Validation.optional es "union_delimiter" delimiterOf standard.delimiter)
      (Validation.optional es "excluded_fields" Validation.texts standard.excluded)

/-- The section as a document. -/
def toDocument (s : TypeSection) : Document :=
  .table [("union_delimiter", .text s.delimiter), ("excluded_fields", .ofTexts s.excluded)]

end TypeSection

namespace PluginSection

/-- The section when nothing is said. -/
def standard : PluginSection := ⟨false⟩

/-- The section that a document describes. -/
def ofDocument : Document → Checked PluginSection :=
  Validation.record "PluginsConfig" fun es =>
    (Validation.optional es "autoload" Validation.bool standard.autoload).map PluginSection.mk

/-- The section as a document. -/
def toDocument (s : PluginSection) : Document := .table [("autoload", .bool s.autoload)]

end PluginSection

namespace World

/-- A new type system under a name, made to the settings. -/
def addConfigured (w : World) (name : String) (types : TypeSection) (plugins : PluginSection) (shared : Option Nat)
    (entries : List EntryPoint) : World :=
  w.addSystem name types.delimiter (Composition.distinct types.excluded) plugins.autoload shared entries

end World

end Lineage
