import Lineage.World

/-!
# Plugin — registering the listeners of definition events

A manager keeps its plugins in the order of registration, each under a name of its own. Neither a name nor a plugin is
registered twice. Advertised plugins are loaded in the order in which they are listed: other groups and taken
names are passed over, and the first that cannot be loaded stops the loading, keeping what was loaded.
-/

set_option autoImplicit false

namespace Lineage

/-- The group under which plugins are advertised. -/
def entryPointGroup : String := "offspring.plugins"

/-- The logger of the plugin managers. -/
def pluginLogger : String := "offspring.plugins.manager"

namespace Manager

/-- The names of the plugins, in the order of registration. -/
def names (m : Manager) : List String := m.plugins.map (·.1)

/-- Whether a plugin is registered, under whatever name. -/
def holds (m : Manager) (serial : Nat) : Bool := m.plugins.any (·.2.serial = serial)

/-- The manager with one more plugin, unless its name or the plugin itself is registered already. -/
def register? (m : Manager) (name : String) (p : Plugin) : Option Manager :=
  if m.names.contains name || m.holds p.serial then none
  else some { m with plugins := m.plugins ++ [(name, p)] }

/-- The manager without a plugin that it holds. -/
def unregister? (m : Manager) (serial : Nat) : Option Manager :=
  if m.holds serial then some { m with plugins := m.plugins.filter (·.2.serial ≠ serial) } else none

/-- The plugins that listen to a hook, in the order in which they are told: the last registered first. -/
def listeners (m : Manager) (hook : HookName) : List Plugin :=
  (m.plugins.reverse.map (·.2)).filter (·.hooks.contains hook)

/-- Loads advertised plugins one after the other and counts them, up to the first that fails. -/
def loadEntries (m : Manager) (count : Nat) : List EntryPoint → Manager × Except Failure Nat
  | [] => (m, .ok count)
  | e :: r =>
    if e.group ≠ entryPointGroup ∨ m.names.contains e.name then loadEntries m count r
    else match e.plugin with
      | .error t => (m, .error (.brokenEntryPoint t))
      | .ok p => match m.register? e.name p with
        | some m' => loadEntries m' (count + 1) r
        | none => (m, .error .refusedPlugin)

end Manager

namespace Plugin

/-- The name a plugin is registered under unless another is given. -/
def defaultName (p : Plugin) : String := p.className

end Plugin

namespace World

/-- Adds a record to the log of the program. -/
def log (w : World) (logger : String) (level : Level) (event : String) (error : Option Failure) : World :=
  { w with records := w.records ++ [⟨logger, level, event, [], error⟩] }

/-- Registers a plugin. -/
def registerPlugin (w : World) (manager : Nat) (name : Option String) (p : Plugin) : Except Failure (World × String) :=
  let resolved := match name with
    | some n => if n = "" then p.defaultName else n
    | none => p.defaultName
  match (w.managers[manager]?).bind (·.register? resolved p) with
  | some m => .ok ((w.modifyManager manager fun _ => m).log pluginLogger .debug ("Registered plugin " ++ resolved) none,
      resolved)
  | none => .error .refusedPlugin

/-- Loads the advertised plugins. A failure is put on record and goes no further. -/
def discover (w : World) (manager : Nat) (entries : List EntryPoint) : World :=
  match w.managers[manager]? with
  | none => w
  | some m =>
    let (m, outcome) := m.loadEntries 0 entries
    let w := w.modifyManager manager fun _ => { m with loaded := true }
    match outcome with
    | .ok n => w.log pluginLogger .debug ("Loaded " ++ toString n ++ " plugins from " ++ entryPointGroup) none
    | .error e => w.log pluginLogger .warning ("Failed to load " ++ entryPointGroup ++ " entry points") (some e)

/-- A new type system under a name, with a manager of its own or one it shares. -/
def addSystem (w : World) (name delimiter : String) (excluded : List String) (autoload : Bool) (shared : Option Nat)
    (entries : List EntryPoint) : World :=
  let (w, m) := match shared with
    | some m => (w, m)
    | none => w.addManager
  let loaded := (w.managers[m]?).elim false (·.loaded)
  let w := if autoload && !loaded then w.discover m entries else w
  { w with systems := Fields.set w.systems name ⟨delimiter, [], excluded, m⟩ }

/-- The world with a system under a name: the default one is made when there is none. -/
def ensureSystem (w : World) (name : String) : World :=
  if (w.system? name).isSome then w else w.addSystem name Union.defaultDelimiter defaultExcluded false none []

end World

end Lineage
