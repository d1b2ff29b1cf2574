import Lineage.Composition
import Lineage.Failure
import Lineage.Union
import Lineage.Value.Equality

/-!
# World — everything that has an identity

Classes, functions, instances, outside objects and shared cells are numbered, and a world says what each number
stands for. Type systems live here too, each with its registry of closed enumerations, its excluded fields and the
plugin manager it uses; so do the log of the plugins and the records written for the log of the program.

Tables only grow at the end, so a number once given keeps its meaning; what can change behind a number is said by
one update function per table. Classes and instances are made and changed through `World.commit` only, which does what
one line of the journal says and writes that line down: the journal tells what became of every class. An
`Action` is a computation that may change the world and may fail; a failing action keeps the changes it made.
-/

set_option autoImplicit false

namespace Lineage

/-! ## What the numbers stand for -/

/-- The methods of the base class. -/
inductive BaseMethod where
  | class_
  | type
  | typeOf
  | debugString
  | repr
deriving DecidableEq, Repr

/-- What a function does when it is called. -/
inductive Behaviour where
  | base (method : BaseMethod)
  | returns (v : Value)
  | raises (text : String)
  /-- The given text followed by the type name that the receiver reports. -/
  | announces (lead : String)
  | assigns (key : String)
  | reads (key : String)
  | forwards (method : String)
  | isOneOf (names : List Value)
  | itself
  /-- On a class: an instance of it made with the arguments. -/
  | makes
  /-- On a class: its type name. -/
  | namesClass
  | constant (v : Value)
  /-- Works on direct instances of the class it was written in, and on nothing else. -/
  | probes (owner : Nat)

/-- What a class hands to a function it holds when the function is read from it. -/
inductive Binding where
  | receiver
  | cls
  | nothing
deriving DecidableEq

/-- How a function is bound when it is read from a class. -/
def Behaviour.binding : Behaviour → Binding
  | makes | namesClass => .cls
  | constant _ => .nothing
  | _ => .receiver

/-- A type question that an outside object may answer. -/
inductive Capability where
  | absent
  | returns (v : Value)
  | raises (text : String)
  | holds (v : Value)
  /-- Reading the capability raises an error. -/
  | readRaises (text : String)
  /-- Reading the capability says that it is not there. -/
  | readMissing (text : String)
  | names (accepted : List Value)

/-- An outside object. -/
structure ForeignRecord where
  type : Capability
  typeOf : Capability
  attributes : Fields

/-- An instance: its class and its own attributes. -/
structure InstanceRecord where
  cls : Nat
  attributes : Fields
deriving Inhabited

namespace InstanceRecord

/-- The instance with an attribute set. Setting its class makes it an instance of that class. -/
def assign (r : InstanceRecord) (key : String) (x : Value) : InstanceRecord :=
  if key = "__class__" then
    match x with
    | .cls i => { r with cls := i }
    | _ => r
  else { r with attributes := Fields.set r.attributes key x }

/-- The instance without an attribute of its own. -/
def erase (r : InstanceRecord) (key : String) : InstanceRecord := { r with attributes := Fields.erase r.attributes key }

end InstanceRecord

/-- The contents of a shared list or dictionary. -/
inductive Cell where
  | list (items : List Value)
  | dict (entries : List (Value × Value))

/-! ## The journal -/

/-- What has attributes that the journal follows: a class or an instance. -/
inductive Holder where
  | cls (index : Nat)
  | inst (index : Nat)
deriving DecidableEq, Repr

/-- One line of the journal: a class or an instance was made, or one of its attributes was set or removed. -/
inductive Entry where
  | built (cls : Nat) (birth : Birth)
  | made (inst : Nat) (cls : Nat)
  | assigned (on : Holder) (key : String) (v : Value)
  | erased (on : Holder) (key : String)

/-! ## Plugins -/

/-- The two definition events. -/
inductive HookName where
  | classCreated
  | enumDefined
deriving DecidableEq, Repr

/-- What a plugin does besides writing to the log. -/
inductive PluginKind where
  | plain
  | failOn (hook : HookName) (text : String)
  /-- Sets a member on every new class. -/
  | inject (field : String) (v : Value)
  /-- Adds a key to the excluded fields of the main system. -/
  | exclude (field : String)
  /-- Defines in the main system an enumeration named like the new class. -/
  | defineEnum
  /-- Defines in the main system a class named like the new enumeration. -/
  | defineClass

/-- A plugin: the name it signs with, its identity, which hooks it implements, and what it does in them. -/
structure Plugin where
  id : String
  serial : Nat
  className : String
  isModule : Bool
  hooks : List HookName
  kind : PluginKind

/-- The plugins of one or more systems, in the order of registration. -/
structure Manager where
  plugins : List (String × Plugin)
  loaded : Bool

/-- An advertised plugin: what loading it gives, or the error it raises. -/
structure EntryPoint where
  name : String
  group : String
  plugin : Except String Plugin

/-- What a definition event tells of: a class with its parents, or an enumeration under its name. -/
inductive News where
  | cls (index : Nat) (parents : List Nat)
  | enum (name : String) (e : Value)

/-- The hook that an event belongs to. -/
def News.hook : News → HookName
  | .cls _ _ => .classCreated
  | .enum _ _ => .enumDefined

/-- One line of the plugin log: which plugin was told of what, and the classes as they were then. -/
structure Event where
  plugin : Plugin
  news : News
  classes : List ClassRecord

/-! ## Log records -/

/-- The severity of a log record: the greater its number, the more severe. Any number is a severity; five are in
common use. -/
structure Level where
  number : Int
deriving DecidableEq, Repr

namespace Level

def debug : Level := ⟨10⟩

def info : Level := ⟨20⟩

def warning : Level := ⟨30⟩

def error : Level := ⟨40⟩

def critical : Level := ⟨50⟩

end Level

/-- A record written to the log, with named values and the error it reports. -/
structure Record where
  logger : String
  level : Level
  event : String
  values : List (String × Value)
  error : Option Failure

/-! ## Systems and the world -/

/-- A type system: its delimiter, its enumerations in order of definition, its excluded fields and its plugins. -/
structure System where
  delimiter : String
  enums : List (String × Value)
  excluded : List String
  manager : Nat

/-- Everything that has an identity, and everything that was recorded. -/
structure World where
  classes : List ClassRecord
  instances : List InstanceRecord
  /-- What was done to classes and instances, in its order. No answer shows it; laws about whole runs read it. -/
  journal : List Entry
  behaviours : List Behaviour
  foreigns : List ForeignRecord
  cells : List Cell
  enumCount : Nat
  systems : List (String × System)
  managers : List Manager
  asked : List (Nat × Value)
  events : List Event
  records : List Record

/-- A computation in a world, which keeps its changes when it fails. -/
abbrev Action := ExceptT Failure (StateM World)

/-- The base class: its five methods are the first five functions of every world. -/
def baseClass : ClassRecord where
  label := "Object"
  qualifiedName := "Object"
  module := .ofString "offspring.domain.classes"
  doc := .ofString "Default ancestor of every class built without explicit parents."
  body := [(typeNameKey, .ofString baseTypeName), ("class_", .function 0), ("type", .function 1),
    ("type_of", .function 2), ("to_debug_string", .function 3), ("__repr__", .function 4),
    (membershipKey, .set true [.ofString baseTypeName])]

/-- The number of the base class. -/
def baseIndex : Nat := 0

/-- The world before anything happens: the base class, and no type system. -/
def World.initial : World where
  classes := [baseClass]
  instances := []
  journal := []
  behaviours := [.base .class_, .base .type, .base .typeOf, .base .debugString, .base .repr]
  foreigns := []
  cells := []
  enumCount := 0
  systems := []
  managers := []
  asked := []
  events := []
  records := []

namespace World

/-! ## Growing -/

/-- A new function, and its number. -/
def addBehaviour (w : World) (b : Behaviour) : World × Nat :=
  ({ w with behaviours := w.behaviours ++ [b] }, w.behaviours.length)

/-- A new outside object, and its number. -/
def addForeign (w : World) (f : ForeignRecord) : World × Nat :=
  ({ w with foreigns := w.foreigns ++ [f] }, w.foreigns.length)

/-- A new shared cell, and its address. -/
def addCell (w : World) (c : Cell) : World × Nat :=
  ({ w with cells := w.cells ++ [c] }, w.cells.length)

/-- A new plugin manager, and its number. -/
def addManager (w : World) : World × Nat :=
  ({ w with managers := w.managers ++ [⟨[], false⟩] }, w.managers.length)

/-! ## Looking up -/

/-- The class with a number. -/
def class? (w : World) (i : Nat) : Option ClassRecord := w.classes[i]?

/-- The class of an instance. -/
def classOf? (w : World) (i : Nat) : Option Nat := w.instances[i]?.map (·.cls)

/-- The system with a name. -/
def system? (w : World) (name : String) : Option System := Fields.get? w.systems name

/-! ## Changing -/

/-- The world with a class changed. -/
def modifyClass (w : World) (i : Nat) (f : ClassRecord → ClassRecord) : World :=
  { w with classes := w.classes.modify i f }

/-- The world with an instance changed. -/
def modifyInstance (w : World) (i : Nat) (f : InstanceRecord → InstanceRecord) : World :=
  { w with instances := w.instances.modify i f }

/-- The world with the attributes of an outside object changed. -/
def modifyForeign (w : World) (i : Nat) (f : Fields → Fields) : World :=
  { w with foreigns := w.foreigns.modify i fun r => { r with attributes := f r.attributes } }

/-- The world with the contents of a cell replaced. -/
def setCell (w : World) (i : Nat) (c : Cell) : World := { w with cells := w.cells.set i c }

/-- The world with a system changed. -/
def modifySystem (w : World) (name : String) (f : System → System) : World :=
  { w with systems := w.systems.map fun e => if e.1 = name then (e.1, f e.2) else e }

/-- The world with the keys that a system does not hand down changed. -/
def changeExcluded (w : World) (sys : String) (f : List String → List String) : World :=
  w.modifySystem sys fun s => { s with excluded := f s.excluded }

/-- The world with a plugin manager changed. -/
def modifyManager (w : World) (i : Nat) (f : Manager → Manager) : World :=
  { w with managers := w.managers.modify i f }

theorem class?_modifyClass (w : World) (i j : Nat) (f : ClassRecord → ClassRecord) :
    (w.modifyClass j f).class? i = (w.class? i).map fun c => if j = i then f c else c := by
  show (w.classes.modify j f)[i]? = _
  rw [List.getElem?_modify]
  rfl

theorem instances_modifyInstance (w : World) (i j : Nat) (f : InstanceRecord → InstanceRecord) :
    (w.modifyInstance j f).instances[i]? = (w.instances[i]?).map fun r => if j = i then f r else r := by
  show (w.instances.modify j f)[i]? = _
  rw [List.getElem?_modify]
  rfl

theorem system?_modifySystem (w : World) (sys other : String) (f : System → System) :
    (w.modifySystem sys f).system? other = (w.system? other).map fun s => if other = sys then f s else s := by
  unfold system? modifySystem
  dsimp only
  induction w.systems with
  | nil => rfl
  | cons e r ih =>
    obtain ⟨name, s⟩ := e
    by_cases hother : name = other
    · subst hother
      by_cases hsys : name = sys
      · simp [Fields.get?, hsys]
      · simp [Fields.get?, hsys]
    · by_cases hsys : name = sys
      · simpa [Fields.get?, hsys, hsys ▸ hother] using ih
      · simpa [Fields.get?, hsys, hother] using ih

/-! ## Making and changing classes and instances -/

/-- The world in which a line of the journal has been carried out. A new class is composed from its parents as they
are at that moment; a new instance has no attributes. -/
def perform (w : World) : Entry → World
  | .built _ b => { w with classes := w.classes ++ [Composition.classOf b (b.parents.filterMap w.class?)] }
  | .made _ c => { w with instances := w.instances ++ [⟨c, []⟩] }
  | .assigned (.cls i) key x => w.modifyClass i (·.assign key x)
  | .assigned (.inst i) key x => w.modifyInstance i (·.assign key x)
  | .erased (.cls i) key => w.modifyClass i (·.erase key)
  | .erased (.inst i) key => w.modifyInstance i (·.erase key)

/-- The world in which a line of the journal has been carried out and written down. -/
def commit (w : World) (e : Entry) : World := { w.perform e with journal := w.journal ++ [e] }

@[simp] theorem commit_journal (w : World) (e : Entry) : (w.commit e).journal = w.journal ++ [e] := rfl

/-- A line of the journal touches classes and instances, and nothing else. -/
theorem commit_eq (w : World) (e : Entry) :
    ∃ classes instances, w.commit e = { w with classes, instances, journal := w.journal ++ [e] } := by
  cases e with
  | assigned on => cases on <;> exact ⟨_, _, rfl⟩
  | erased on => cases on <;> exact ⟨_, _, rfl⟩
  | _ => exact ⟨_, _, rfl⟩

@[simp] theorem commit_systems (w : World) (e : Entry) : (w.commit e).systems = w.systems := by
  obtain ⟨_, _, h⟩ := w.commit_eq e
  rw [h]

@[simp] theorem commit_behaviours (w : World) (e : Entry) : (w.commit e).behaviours = w.behaviours := by
  obtain ⟨_, _, h⟩ := w.commit_eq e
  rw [h]

/-- A new class, and its number. -/
def addClass (w : World) (b : Birth) : World × Nat := (w.commit (.built w.classes.length b), w.classes.length)

/-- A new instance, and its number. -/
def addInstance (w : World) (cls : Nat) : World × Nat :=
  (w.commit (.made w.instances.length cls), w.instances.length)

/-! ## Reading cells -/

/-- A value with its cells replaced by what they hold, through as many cells inside cells as `fuel` allows. A cell on
the path, which is being read already, is left unread. -/
def readCells (cells : List Cell) : Nat → List Nat → Value → Value
  | 0, _, v => v
  | fuel + 1, path, v => v.mapShared fun k a =>
    if path.contains a then .shared k a
    else match cells[a]? with
      | some (.list xs) => .list (xs.map (readCells cells fuel (a :: path)))
      | some (.dict es) =>
        .dict (es.map fun e => (readCells cells fuel (a :: path) e.1, readCells cells fuel (a :: path) e.2))
      | none => .shared k a

/-- A value with its cells replaced by what they hold now. A cell inside itself is left unread. No path is longer than
there are cells, so the fuel never runs out. -/
def read (w : World) (v : Value) : Value := readCells w.cells (w.cells.length + 1) [] v

end World

end Lineage
