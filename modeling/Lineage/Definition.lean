import Lineage.Composition
import Lineage.Plugin
import Lineage.Query

/-!
# Definition — new enumerations and new classes

Defining goes in three steps. First the arguments are checked, and nothing has happened when they are refused. Then the
new thing is entered: an enumeration into the registry of its system, a class into the world. Last the plugins
are told, the most recent first; an error of one stops the rest and reaches the caller, but what was entered stays.

A plugin may define things in turn. The functions that tell plugins take what these do as a `Reaction`;
`react` ties the knot with a bound on the nesting.
-/

set_option autoImplicit false

namespace Lineage.Definition

/-! ## Telling the plugins -/

/-- What a plugin does when it is told of an event, besides being put on the log. -/
abbrev Reaction := Plugin → News → Action Unit

/-- The world in which it is on the log that a plugin was told. -/
def note (w : World) (p : Plugin) (news : News) : World := { w with events := w.events ++ [⟨p, news, w.classes⟩] }

/-- Tells one plugin: the event is logged first, then the plugin does what it does, if it does anything. -/
def tellOne (react : Reaction) (p : Plugin) (news : News) : Action Unit := do
  modify fun w => note w p news
  match p.kind with
  | .plain => return ()
  | _ => react p news

/-- Tells plugins one after the other. -/
def tellAll (react : Reaction) (news : News) : List Plugin → Action Unit
  | [] => return ()
  | p :: r => do
    tellOne react p news
    tellAll react news r

/-- Tells the listeners of a manager. -/
def announce (react : Reaction) (manager : Nat) (news : News) : Action Unit := do
  let w ← get
  tellAll react news (((w.managers[manager]?).map (·.listeners news.hook)).getD [])

/-! ## Enumerations -/

/-- The logger of the registries. -/
def enumLogger : String := "offspring.domain.enums"

/-- The entries that a mapping has at the moment. -/
def entriesOf (w : World) (members : Value) : List (Value × Value) :=
  match members with
  | .shared _ a => match w.cells[a]? with
    | some (.dict es) => es
    | _ => []
  | v => v.entries?.getD []

/-- The name and the members that a definition asks for, if they are acceptable. -/
def checkEnum (w : World) (enums : List (String × Value)) (name members : Value) :
    Except Failure (String × List (Value × Value)) :=
  match name.string? with
  | none => .error (.enumNameNotText (Access.className w name))
  | some n =>
    if !members.isMapping then .error (.enumMembersNotMapping n (Access.className w members))
    else if let some c := name.unhashable? then .error (.unhashable c)
    else if Fields.has enums n then .error (.duplicateEnum n)
    else .ok (n, entriesOf w members)

/-- The world in which a name is registered with its members, and the enumeration. -/
def registerEnum (w : World) (sys name : String) (members : List (Value × Value)) : World × Value :=
  let e := Value.enum w.enumCount name members
  (({ w with enumCount := w.enumCount + 1 }).modifySystem sys fun s => { s with enums := s.enums ++ [(name, e)] }, e)

/-- The world in which an enumeration is registered and put on record, and the enumeration. -/
def enterEnum (w : World) (sys name : String) (members : List (Value × Value)) : World × Value :=
  let (w, e) := registerEnum w sys name members
  (w.log enumLogger .debug ("Defined enum " ++ name ++ " with " ++ toString members.length ++ " members") none, e)

/-- Defines an enumeration. -/
def defineEnumWith (react : Reaction) (sys : String) (name members : Value) : Action Value := do
  let s ← Query.system sys
  let (n, entries) ← checkEnum (← get) s.enums name members
  let (w, e) := enterEnum (← get) sys n entries
  set w
  announce react s.manager (.enum n e)
  return e

/-! ## Classes -/

/-- The logger of the class builders. -/
def classLogger : String := "offspring.domain.classes"

/-- The frame of the builder. -/
def buildFrame : Frame := .library "build" "offspring.domain.classes"

/-- A request for a class: who builds it, and where errors are blamed. -/
structure Blueprint where
  sys : String
  manager : Nat
  excluded : List String
  name : Value
  parents : List Value
  own : Fields
  /-- The function that tests the place it was written in, if the body ends with one. -/
  probe : Option String
  inner : List Frame
  depth : Int
  callers : List Frame

/-- The place that errors of the builder itself are blamed on. -/
def Blueprint.site (b : Blueprint) : Option Frame := CallStack.locate b.callers (buildFrame :: b.inner) b.depth

/-- The parents as classes; the first that is none is refused. -/
def checkParents (site : Option Frame) : Nat → List Value → Action (List Nat)
  | _, [] => return []
  | index, p :: r => match p with
    | .cls i => do
      let some _ := (← get).class? i | throw .tooDeep
      return i :: (← checkParents site (index + 1) r)
    | p => do throw (.parentNotClass index (← Query.typeName p) site)

/-- Checks what a class is named. -/
def checkName (b : Blueprint) : Action Unit := do
  Query.requireArgument b.sys (.ofInt 1) b.name (.ofString "string")
    (CallStack.locate b.callers (Query.assertionFrame "assert_argument" :: buildFrame :: b.inner) (b.depth + 1))
  if !((← get).read b.name).isTruthy then throw (.emptyClassName b.site)

/-- The reserved key that a body defines, if it does. -/
def reservedIn? (own : Fields) : Option String :=
  reservedKeys.find? (Fields.has own)

/-- The text that names a class, once everything else is accepted. -/
def classText (w : World) (name : Value) : Except Failure String :=
  if let some c := name.unhashable? then .error (.unhashable c)
  else match name.string? with
    | none => .error (.misuse .type ("type.__new__() argument 1 must be str, not " ++ Access.className w name))
    | some n =>
      if n.toList.contains (Char.ofNat 0) then .error (.misuse .value "type name must not contain null characters")
      else .ok n

/-- The keys of a body that are not members. -/
def descriptionKeys : List String := ["__module__", "__qualname__", "__doc__", "__classcell__"]

/-- The qualified name that a body asks for. -/
def qualifiedName (w : World) (name : String) (own : Fields) : Except Failure String :=
  match Fields.get? own "__qualname__" with
  | none => .ok name
  | some q => match q.string? with
    | some s => .ok s
    | none => .error (.misuse .type ("type __qualname__ must be a str, not " ++ Access.className w q))

/-- The key of the cell through which the methods of a body reach their class. The language alone fills it. -/
def cellKey : String := "__classcell__"

/-- What stands in place of the cell, in the body or else handed down by a parent. -/
def cell? (w : World) (b : Blueprint) (parents : List Nat) : Option Value :=
  Fields.get? (Composition.compose b.excluded ((parents.filterMap w.class?).map (·.body)) b.own) cellKey

/-- The most characters of a class that the message about the cell shows. -/
def maxShownClass : Nat := 200

/-- What the class is built from, its name and its parents being accepted. -/
def birth (w : World) (b : Blueprint) (name : String) (parents : List Nat) : Except Failure Birth := do
  let qualified ← qualifiedName w name b.own
  if let some c := cell? w b parents then
    throw (.misuse .type
      ("__classcell__ must be a nonlocal cell, not " ++ (Access.classRepr w c).take maxShownClass))
  return {
    name
    qualifiedName := qualified
    module := (Fields.get? b.own "__module__").getD (.ofString "offspring.domain.classes")
    doc := (Fields.get? b.own "__doc__").getD .nil
    excluded := b.excluded
    parents
    own := b.own.filter fun e => !descriptionKeys.contains e.1
    manager := b.manager }

/-- The parents that a class has: those that are given, or the base class when none is. -/
def effectiveParents (given : List Nat) : List Nat := if given.isEmpty then [baseIndex] else given

/-- Checks a request and says what the class is built from. Nothing is built yet. -/
def examine (b : Blueprint) : Action Birth := do
  checkName b
  let given ← checkParents b.site 2 b.parents
  if let some key := reservedIn? b.own then
    throw (.reservedKey (← Access.shown b.name) key b.site)
  let w ← get
  let name ← classText w b.name
  birth w b name (effectiveParents given)

/-- The type names of classes. -/
def typeNames (classes : List ClassRecord) (is : List Nat) : List String :=
  is.filterMap fun i => (classes[i]?).map (·.typeName)

/-- The world with a new class, and its number. -/
def enterClass (w : World) (b : Birth) : World × Nat :=
  let (w, i) := w.addClass b
  (w.log classLogger .debug
    ("Built class " ++ b.name ++ " from " ++ String.intercalate ", " (typeNames w.classes b.parents)) none, i)

/-- The blueprint with the function that tests its place at the end of the body. The language fills the cell for it, over
anything that stands there. -/
def addProbe (b : Blueprint) : Action Blueprint := do
  match b.probe with
  | none => return b
  | some m =>
    let w ← get
    let (w, f) := w.addBehaviour (.probes w.classes.length)
    set w
    return { b with own := Fields.set (Fields.erase b.own cellKey) m (.function f), excluded := cellKey :: b.excluded }

/-- Builds a class. -/
def buildWith (react : Reaction) (b : Blueprint) : Action Value := do
  let birth ← examine (← addProbe b)
  let (w, i) := enterClass (← get) birth
  set w
  announce react birth.manager (.cls i birth.parents)
  return .cls i

/-- Defines a class in a system on behalf of callers: the module, unless given, is that of the frame `depth` steps out. -/
def defineClassFor (callers : List Frame) (react : Reaction) (sys : String) (name : Value) (parents : List Value)
    (module : Option Value) (inner : List Frame) (depth : Int) : Action Value := do
  let s ← Query.system sys
  let here := Query.systemFrame "define_class" :: inner
  let module ← match module with
    | some m => pure m
    | none => match (here ++ callers)[depth.toNat]? with
      | some f => pure (.ofString (CallStack.moduleOf f))
      | none => throw .stackTooShallow
  let own := if ((← get).read module).isTruthy then [("__module__", module)] else []
  buildWith react ⟨sys, s.manager, s.excluded, name, parents, own, none, here, depth + 1, callers⟩

/-- Defines a class in a system. -/
def defineClassWith (react : Reaction) (sys : String) (name : Value) (parents : List Value) (module : Option Value)
    (inner : List Frame) (depth : Int) (stack : CallStack) : Action Value :=
  defineClassFor stack.callers react sys name parents module inner depth

/-! ## What plugins do -/

/-- What a plugin may define in turn. -/
inductive Nested where
  | enum (name : String) (members : List (Value × Value))
  | cls (name : String)

/-- A way to define what a plugin asks for. -/
abbrev Definer := Nested → Action Value

/-- The system in which plugins define. -/
def mainSystem : String := "main"

/-- What a plugin of its kind does with an event, given a way to define in turn. -/
def reactWith (define : Definer) : Reaction := fun p news => do
  match p.kind, news with
  | .failOn hook text, news => if hook = news.hook then throw (.raised text)
  | .inject field v, .cls i _ => Access.write (.cls i) field v
  | .exclude field, .cls _ _ =>
    modify fun w => (w.ensureSystem mainSystem).changeExcluded mainSystem fun keys =>
      if keys.contains field then keys else keys ++ [field]
  | .defineEnum, .cls i _ =>
    let name := (((← get).class? i).map (·.typeName)).getD ""
    let _ ← define (.enum name [(.ofString "T", .ofString name)])
  | .defineClass, .enum name _ =>
    let _ ← define (.cls name)
  | _, _ => return ()

/-! ## The knot -/

/-- Defines what a plugin asks for, in the system for plugins, with definitions nested at most `depth` deep. -/
def defineNested : Nat → Definer
  | 0, _ => throw .tooDeep
  | depth + 1, d => do
    modify fun w => w.ensureSystem mainSystem
    match d with
    | .enum name members => defineEnumWith (reactWith (defineNested depth)) mainSystem (.ofString name) (.dict members)
    | .cls name => defineClassWith (reactWith (defineNested depth)) mainSystem (.ofString name) [] none [] 1 ⟨[]⟩

/-- How deep definitions may nest. Plugins define things under the name they are told of, so a chain of them ends at the
first name that is taken. -/
def maxNesting : Nat := 16

/-- What plugins do. -/
def react : Reaction := reactWith (defineNested maxNesting)

/-- Registers a closed enumeration under a name. -/
def defineEnum (sys : String) (name members : Value) : Action Value := defineEnumWith react sys name members

/-- Builds a class from a blueprint. -/
def build (b : Blueprint) : Action Value := buildWith react b

/-- Creates a class in a system, through the system or through the package. -/
def defineClass (sys : String) (throughPackage : Bool) (name : Value) (parents : List Value) (module : Option Value)
    (depth : Int) (stack : CallStack) : Action Value :=
  defineClassWith react sys name parents module
    (if throughPackage then [Query.packageFrame "define_class"] else []) depth stack

end Lineage.Definition
