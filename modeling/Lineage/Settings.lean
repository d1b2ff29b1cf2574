import Lineage.Sections
import Lineage.Settings.Layer

/-!
# Settings — flags, environment, configuration file and defaults in one

Settings are read from layers that are laid over each other: flags over variables of the environment over the
configuration file. Each part that no layer gives has its default. Which configuration file was read is part of
the settings and can be said by no layer below the flags.
-/

set_option autoImplicit false

namespace Lineage

/-- The settings of a type system and of the command line. -/
structure Settings where
  configPath : Option String
  jsonOutput : Bool
  verbose : Bool
  logJson : Bool
  types : TypeSection
  plugins : PluginSection

namespace Settings

/-- The settings when nothing is said. -/
def standard : Settings := ⟨none, false, false, false, .standard, .standard⟩

/-- The names of the settings. -/
def names : List String := Layer.schema.map (·.1)

/-- A path as text, in its plain form. -/
def pathText (root : String) : Document → Checked String
  | .text s => .ok ((Path.ofText root s).text root)
  | _ => .complain "path_type" "Input is not a valid path for <class 'pathlib.Path'>"

/-- The complaints about entries that are no settings. -/
def extras (es : List (String × Document)) : List Complaint :=
  (es.filter fun e => !names.contains e.1).map fun e => ⟨[.inl e.1], "extra_forbidden", "Extra inputs are not permitted"⟩

/-- The settings that are known, without regard to others. -/
def known (root : String) (es : List (String × Document)) : Checked Settings :=
  let field {α : Type} (key : String) (check : Document → Checked α) (absent : α) := Validation.optional es key check absent
  .and (.and (.and (.and (.and ((field "config_path" (Validation.nullable (pathText root)) none).map Settings.mk)
    (field "json_output" Validation.bool false)) (field "verbose" Validation.bool false))
    (field "log_json" Validation.bool false)) (field "types" TypeSection.ofDocument .standard))
    (field "plugins" PluginSection.ofDocument .standard)

/-- The settings of a table. -/
def ofEntries (root : String) (es : List (String × Document)) : Checked Settings :=
  match extras es with
  | [] => known root es
  | cs => .error ((known root es).complaints ++ cs)

/-- The settings of the layers of a file, of the environment and of flags, each laid over the ones before. -/
def ofLayers (root : String) (file environment flags : Document) : Checked Settings :=
  ofEntries root (file.overlay (environment.overlay flags)).entries

/-- What constructs settings: it may fail, and it has a slot for the configuration file that is to be read meanwhile. -/
abbrev Loading := ExceptT Failure (StateM (Option Path))

/-- Constructs settings from the file in the slot, from the environment and from flags. -/
def construct (t : FileTree) (env : Environment) (flags : List (String × Document)) : Loading Settings := do
  let file ← Layer.ofFile t (← getThe (Option Path))
  let environment ← Layer.ofEnvironment env
  (ofLayers t.root file environment (.table flags)).toExcept

/-- The flag that says which configuration file was read. -/
def origin (t : FileTree) (path : Option Path) : String × Document :=
  ("config_path", Document.ofText? (path.map (·.text t.root)))

/-- Constructs settings with the configuration file that applies, which is in the slot until the construction ends. -/
def fromCli (t : FileTree) (env : Environment) (given : Option String) (start : Option Path)
    (flags : List (String × Document)) : Loading Settings := do
  let path ← Discovery.choose t env given start
  set path
  try construct t env (origin t path :: flags)
  finally set (none : Option Path)

/-- The settings that are constructed before any file was put into the slot. -/
def direct (root : String) (env : Environment) (flags : List (String × Document)) : Except Failure Settings :=
  ((construct ⟨root, [], [], []⟩ env flags).run.run none).1

/-- The settings of a first call with the configuration file that applies. -/
def load (t : FileTree) (env : Environment) (given : Option String) (start : Option Path)
    (flags : List (String × Document)) : Except Failure Settings :=
  ((fromCli t env given start flags).run.run none).1

/-- The settings as a document. -/
def toDocument (s : Settings) : Document :=
  .table [("config_path", .ofText? s.configPath), ("json_output", .bool s.jsonOutput), ("verbose", .bool s.verbose),
    ("log_json", .bool s.logJson), ("types", s.types.toDocument), ("plugins", s.plugins.toDocument)]

end Settings

end Lineage
