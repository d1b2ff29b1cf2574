import Lineage.Script.Step

/-!
# Script — running steps one after the other

A session is a world together with what its steps have named: values, plugins, and the modules they made importable. A
step that fails answers with its failure, keeps the changes it made, and does not stop the session
(`Session.run`).
-/

set_option autoImplicit false

namespace Lineage.Script

/-- A world, and what has been named in it. -/
structure Session where
  world : World
  names : Bindings
  library : Library
  plugins : List (String × Plugin)
  pluginCount : Nat

/-- The session before its first step. -/
def Session.initial : Session := ⟨.initial, [], Library.standard, [], 0⟩

/-- A computation in a session, which keeps its changes when it fails. -/
abbrev Run := ExceptT Failure (StateM Session)

/-- Runs an action in the world of the session. -/
def lift {α : Type} (a : Action α) : Run α := do
  let s ← get
  let (r, w) := a.run s.world
  set { s with world := w }
  match r with
  | .ok x => return x
  | .error e => throw e

/-- The system that stands for the whole process. -/
def processSystem : String := "default"

/-! ## Terms -/

/-- The value of a term. -/
def eval (t : Term) : Run Value := do lift (t.eval (← get).names)

/-- The values of terms. -/
def evalList (ts : List Term) : Run (List Value) := do lift (evalAll (← get).names ts)

/-- The members of a body, keys that are no texts left out. -/
def evalBody (es : List (Term × Term)) : Run Fields := do
  let entries ← lift (evalEntries (← get).names es)
  return Fields.ofList (entries.filterMap fun e => e.1.string?.map (·, e.2))

/-- The name of an attribute. -/
def evalKey (t : Term) : Run String := do
  let v ← eval t
  match v.string? with
  | some s => return s
  | none => throw (.misuse .type ("attribute name must be string, not '" ++ Access.className (← get).world v ++ "'"))

/-- A new plugin, known by its name from now on. -/
def makePlugin (t : PluginTerm) : Run Plugin := do
  let kind ← match t.effect with
    | .plain k => pure k
    | .inject field v => do
      let v ← eval v
      pure (.inject field v)
  let s ← get
  let p : Plugin := ⟨t.id, s.pluginCount, t.className, t.isModule, t.hooks, kind⟩
  set { s with plugins := Fields.set s.plugins t.id p, pluginCount := s.pluginCount + 1 }
  return p

/-- The entry points that are advertised. -/
def evalAdverts : List Advert → Run (List EntryPoint)
  | [] => return []
  | a :: r => do
    let p ← match a.plugin with
      | .error t => pure (.error t)
      | .ok t => do
        let p ← makePlugin t
        pure (.ok p)
    return ⟨a.name, a.group, p⟩ :: (← evalAdverts r)

/-! ## Answers -/

/-- The values as a list. -/
def valueList (vs : List Value) : Answer := .list (vs.map .value)

/-- One line of the plugin log: classes by their type names, an enumeration by its name and its keys. -/
def eventAnswer (e : Event) : Answer :=
  match e.news with
  | .cls i ps =>
    .list [.text e.plugin.id, .text "class_created", .text (((e.classes[i]?).map (·.typeName)).getD ""),
      .document (.ofTexts (Definition.typeNames e.classes ps))]
  | .enum n v =>
    let keys := match v with
      | .enum _ _ ms => ms.map (·.1)
      | _ => []
    .list [.text e.plugin.id, .text "enum_defined", .text n, valueList keys]

/-- What is known of a class. -/
def classAnswer (v : Value) : Action Answer := do
  let w ← get
  match v with
  | .cls i =>
    let some c := w.class? i | throw .tooDeep
    return .record [("type_name", .text c.typeName),
      ("membership", .document (.ofTexts (Introspection.sorted c.membership))), ("repr", .text (← Access.repr v)),
      ("module", .value c.module), ("name", .text c.label), ("qualname", .text c.qualifiedName),
      ("mro", .document (.ofTexts [c.label, "object"])), ("doc", .value c.doc)]
  | v => throw (.noAttribute (.inst (Access.className w v)) "type_name")

/-- The members of a class as a table. -/
def fieldsOf (v : Value) : Action Value := do
  let w ← get
  match v with
  | .cls i =>
    let some c := w.class? i | throw .tooDeep
    return Access.dictOf c.fields
  | v => throw (.noAttribute (.inst (Access.className w v)) "fields")

/-- What is known of an enumeration. -/
def enumAnswer (v : Value) : Action Answer := do
  match v with
  | .enum _ name members =>
    return .record [("name", .text name), ("len", .document (.int members.length)),
      ("keys", valueList (members.map (·.1))),
      ("items", .list (members.map fun m => valueList [m.1, m.2])), ("repr", .text (← Access.repr v))]
  | v => throw (.noAttribute (.inst (Access.className (← get) v)) "name")

/-! ## Deeds that touch values -/

/-- The method of a value, called. -/
def callMethod (on : Value) (method : String) (args : List Value) : Action Value := do
  Access.call (← Access.read on method) args

/-- Whether two values are one and the same thing. -/
def isSame (a b : Value) : Bool :=
  match a, b with
  | .enum i _ _, .enum j _ _ => i = j
  | .foreign i _ _, .foreign j _ _ => i = j
  | .shared k x, .shared l y => k = l && x = y
  | a, b => a.category = b.category && a.className = b.className && a.equal b

/-- Refuses what cannot be hashed. -/
def checkHash (v : Value) : Action Unit := do
  if let some c := Access.unhashable? (← get) v then throw (.unhashable c)

/-- The parts of a closed enumeration. -/
def enumOf (v : Value) : Action (Nat × String × List (Value × Value)) := do
  match v with
  | .enum i n ms => return (i, n, ms)
  | v => throw (.misuse .type ("'" ++ Access.className (← get) v ++ "' object is not subscriptable"))

/-- A change of a member, which an enumeration always refuses. -/
def refuseMember (touch : EnumTouch) (on key : Value) : Action Unit := do
  let (_, name, _) ← enumOf on
  throw (.enumKey touch name key (← Access.shown key))

/-- Whether an enumeration has a key. -/
def hasMember (on key : Value) : Action Bool := do
  let (_, _, members) ← enumOf on
  if let some c := Access.unhashable? (← get) key then throw (.unhashable c)
  return (Access.memberOf? members key).isSome

/-- All cells once more, behind the others, holding each other as the others do. -/
def copyCells (w : World) : World :=
  let shift (v : Value) : Value := v.mapShared fun k a => .shared k (a + w.cells.length)
  { w with cells := w.cells ++ w.cells.map fun c => match c with
    | .list xs => .list (xs.map shift)
    | .dict es => .dict (es.map fun e => (shift e.1, shift e.2)) }

/-- A copy of an enumeration, of the same name and with the same keys. -/
def copyEnum (v : Value) (depth : CopyDepth) : Action Value := do
  let (_, name, members) ← enumOf v
  let w ← get
  let w' := { w with enumCount := w.enumCount + 1 }
  match depth with
  | .shallow =>
    set w'
    return .enum w.enumCount name members
  | .deep =>
    set (copyCells w')
    let shift (v : Value) : Value := v.mapShared fun k a => .shared k (a + w.cells.length)
    return .enum w.enumCount name (members.map fun m => (shift m.1, shift m.2))

/-- The enumeration under a name in a registry. -/
def registered? (sys : String) (name : Value) : Action (Option Value) := do
  if let some c := name.unhashable? then throw (.unhashable c)
  let s ← Query.system sys
  return name.string?.bind (Fields.get? s.enums)

/-! ## Deeds that define -/

/-- The parents among values that are known to be classes. -/
def classIndices (vs : List Value) : List Nat :=
  vs.filterMap fun v => match v with
    | .cls i => some i
    | _ => none

/-- The frame in which a class statement makes its class. -/
def statementFrame : Frame := .library "__new__" "offspring.domain.classes"

/-- The blueprint of a class statement, which names its place when it ends with a probe. -/
def statementBlueprint (sys : String) (s : System) (name : Value) (bases : List Value) (body : Fields)
    (probe : Option String) (stack : CallStack) : Definition.Blueprint :=
  let place : Fields := match probe with
    | some _ => [("__module__", .ofString "mod_statement"),
        ("__qualname__", .ofString ("step.<locals>." ++ name.string?.getD ""))]
    | none => []
  ⟨sys, s.manager, s.excluded, name, bases, Fields.update place body, probe, [statementFrame], 2, stack.callers⟩

/-! ## Deeds -/

/-- The manager of a system. -/
def managerOf (sys : String) : Action (Nat × Manager) := do
  let s ← Query.system sys
  match (← get).managers[s.manager]? with
  | some m => return (s.manager, m)
  | none => throw (.unknownName sys)

/-- Makes a type system with the given settings. -/
def newSystem (sys : String) (types plugins : Option Document) (share : Option String) (installed : List Advert) :
    Run Answer := do
  let types := (Validation.optional ((types.map fun d => ("types", d)).toList) "types" TypeSection.ofDocument .standard)
  let plugins := Validation.optional ((plugins.map fun d => ("plugins", d)).toList) "plugins"
    PluginSection.ofDocument .standard
  let (types, plugins) ← (Checked.both Prod.mk types plugins).toExcept
  let entries ← evalAdverts installed
  let shared ← match share with
    | some other => do
      lift (modify (·.ensureSystem other))
      let (m, _) ← lift (managerOf other)
      pure (some m)
    | none => pure none
  lift (modify (·.addConfigured sys types plugins shared entries))
  let (_, m) ← lift (managerOf sys)
  return .list [.text types.delimiter, .bool m.loaded]

/-- Changes the names that classes of a system do not inherit. -/
def exclude (sys : String) (add discard : List String) : Action Answer := do
  modify (·.changeExcluded sys fun keys => (Composition.distinct (keys ++ add)).filter (!discard.contains ·))
  return .document (.ofTexts (Introspection.sorted (← Query.system sys).excluded))

/-- Registers a plugin, a new one or one that is known. -/
def register (sys : String) (plugin : PluginTerm ⊕ String) (name : Option String) : Run Answer := do
  let p ← match plugin with
    | .inl t => makePlugin t
    | .inr id => match Fields.get? (← get).plugins id with
      | some p => pure p
      | none => throw (.unknownName id)
  let (i, _) ← lift (managerOf sys)
  match (← get).world.registerPlugin i name p with
  | .ok (w, resolved) =>
    modify fun s => { s with world := w }
    return .text resolved
  | .error e => throw e

/-- Unregisters a plugin. -/
def unregister (sys id : String) : Run Answer := do
  let some p := Fields.get? (← get).plugins id | throw (.unknownName id)
  let (i, m) ← lift (managerOf sys)
  match m.unregister? p.serial with
  | some m => lift (modify (·.modifyManager i fun _ => m))
  | none => throw .unknownPlugin
  return .nothing

/-- Runs a deed on a system from a place. -/
def perform (sys : String) (stack : CallStack) : Deed → Run Answer
  | .newSystem types plugins share installed => newSystem sys types plugins share installed
  | .say t => return .value (← eval t)
  | .asked t => do
    let v ← eval t
    match v with
    | .foreign i _ _ => return valueList ((← get).world.asked.filterMap fun e => if e.1 = i then some e.2 else none)
    | v => throw (.noAttribute (.inst (Access.className (← get).world v)) "asked")
  | .defineClass name parents module depth => do
    let name ← eval name
    let parents ← evalList parents
    let module ← match module with
      | some t => do
        let v ← eval t
        pure (some v)
      | none => pure none
    if sys = processSystem then return .value (← lift (Definition.defineClass sys true name parents none 2 stack))
    else return .value (← lift (Definition.defineClass sys false name parents module depth stack))
  | .statement name bases body probe => do
    let name ← eval name
    let bases ← evalList bases
    let body ← evalBody body
    let s ← lift (Query.system sys)
    return .value (← lift (Definition.build (statementBlueprint sys s name bases body probe stack)))
  | .build name parents excluded body depth => do
    let name ← eval name
    let parents ← evalList parents
    let excluded ← match excluded with
      | some ts => do
        let vs ← evalList ts
        pure (vs.filterMap Value.string?)
      | none => pure defaultExcluded
    let body ← evalBody body
    let s ← lift (Query.system sys)
    return .value (← lift (Definition.build ⟨sys, s.manager, excluded, name, parents, body, none, [], depth, stack.callers⟩))
  | .classInfo t => do lift (classAnswer (← eval t))
  | .fields t => do return .value (← lift (fieldsOf (← eval t)))
  | .writeField cls key value => do
    let v ← eval cls
    let _ ← evalList [key, value]
    let _ ← lift (fieldsOf v)
    throw (.misuse .type "'mappingproxy' object does not support item assignment")
  | .construct cls args => do
    let cls ← eval cls
    let args ← evalList args
    return .value (← lift (Access.call cls args))
  | .call on method args => do
    let on ← eval on
    let method ← evalKey method
    let args ← evalList args
    return .value (← lift (callMethod on method args))
  | .repr t => do return .text (← lift (Access.repr (← eval t)))
  | .debugString t => do return .value (← lift (callMethod (← eval t) "to_debug_string" []))
  | .same a b => do
    let a ← eval a
    let b ← eval b
    return .bool (isSame a b)
  | .equal a b => do
    let a ← eval a
    let b ← eval b
    let w := (← get).world
    return .bool ((w.read a).equal (w.read b))
  | .hash t => do
    lift (checkHash (← eval t))
    return .nothing
  | .read on key absent => do
    let on ← eval on
    let key ← evalKey key
    match absent with
    | none => return .value (← lift (Access.read on key))
    | some t =>
      let absent ← eval t
      return .value ((← lift (Access.read? on key)).getD absent)
  | .has on key => do
    let on ← eval on
    let key ← evalKey key
    return .bool (← lift (Access.read? on key)).isSome
  | .write on key value => do
    let on ← eval on
    let key ← evalKey key
    let value ← eval value
    lift (Access.write on key value)
    return .nothing
  | .erase on key => do
    let on ← eval on
    let key ← evalKey key
    lift (Access.erase on key)
    return .nothing
  | .append on value => do
    let on ← eval on
    let value ← eval value
    let _ ← lift (callMethod on "append" [value])
    return .value on
  | .typeName t => do return .text (← lift (Query.typeName (← eval t)))
  | .typeOf value expression => do
    let v ← eval value
    let e ← eval expression
    return .bool (← lift (Query.typeOf sys v e))
  | .findMatch value expression => do
    let v ← eval value
    let e ← eval expression
    return .document (.ofText? (← lift (Query.findMatch sys v e)))
  | .assertType value expression label depth direct => do
    let v ← eval value
    let e ← eval expression
    let l ← eval label
    let entry : Query.Entry := if direct then .direct else if sys = processSystem then .package else .system
    let _ ← lift (Query.typed entry sys v e l depth stack)
    return .bool true
  | .assertArgument index value expression depth direct => do
    let i ← eval index
    let v ← eval value
    let e ← eval expression
    let entry : Query.Entry := if direct then .direct else if sys = processSystem then .package else .system
    let _ ← lift (Query.typedArgument entry sys i v e depth stack)
    return .bool true
  | .defineEnum name members => do
    let name ← eval name
    let members ← eval members
    return .value (← lift (Definition.defineEnum sys name members))
  | .readItem on key => do
    let on ← eval on
    let key ← eval key
    lift do
      let (_, name, members) ← enumOf on
      return .value (← Access.readItem name members key)
  | .writeItem on key value => do
    let on ← eval on
    let key ← eval key
    let _ ← eval value
    lift (refuseMember .write on key)
    return .nothing
  | .eraseItem on key => do
    let on ← eval on
    let key ← eval key
    lift (refuseMember .delete on key)
    return .nothing
  | .hasItem on key => do
    let on ← eval on
    let key ← eval key
    return .bool (← lift (hasMember on key))
  | .enumInfo t => do lift (enumAnswer (← eval t))
  | .copyEnum t depth => do return .value (← lift (copyEnum (← eval t) depth))
  | .registry => do
    let s ← lift (Query.system sys)
    return .record [("names", .document (.ofTexts (s.enums.map (·.1)))), ("len", .document (.int s.enums.length))]
  | .registryGet name => do
    let name ← eval name
    return .value ((← lift (registered? sys name)).getD .nil)
  | .registryHas name => do
    let name ← eval name
    return .bool (← lift (registered? sys name)).isSome
  | .containsValue name value => do
    let name ← eval name
    let value ← eval value
    match ← lift (registered? sys name) with
    | some e => return .bool (Query.hasValue (← get).world e value)
    | none => return .bool false
  | .exclude add discard => lift (exclude sys add discard)
  | .register plugin name => register sys plugin name
  | .unregister id => unregister sys id
  | .plugins => do
    let (_, m) ← lift (managerOf sys)
    return .record [("names", .document (.ofTexts (Introspection.sorted m.names))),
      ("plugins", .document (.ofTexts (Introspection.sorted (m.plugins.map (·.2.id))))), ("loaded", .bool m.loaded)]
  | .discover installed => do
    let entries ← evalAdverts installed
    let (i, _) ← lift (managerOf sys)
    lift (modify (·.discover i entries))
    let (_, m) ← lift (managerOf sys)
    return .document (.ofTexts (Introspection.sorted m.names))
  | .announceClass cls parents => do
    let cls ← eval cls
    let parents ← evalList parents
    let (i, _) ← lift (managerOf sys)
    if let .cls c := cls then
      lift (Definition.announce Definition.react i (.cls c (classIndices parents)))
    return .list []
  | .announceEnum name members => do
    let name ← eval name
    let members ← eval members
    let (i, _) ← lift (managerOf sys)
    let w := (← get).world
    let entries := ((match members with
      | .shared _ a => match w.cells[a]? with
        | some (.dict es) => some es
        | _ => none
      | v => v.entries?).getD [])
    lift do
      modify fun w => { w with enumCount := w.enumCount + 1 }
      let n := name.string?.getD ""
      Definition.announce Definition.react i (.enum n (.enum w.enumCount n entries))
    return .list []
  | .takeLog => do
    let s ← get
    set { s with world := { s.world with events := [] } }
    return .list (s.world.events.map eventAnswer)
  | .addModule name exports => do
    let entries ← lift (evalEntries (← get).names (exports.map fun e => (.data (.ofString e.1), e.2)))
    let table : Fields := Fields.ofList (entries.filterMap fun e => e.1.string?.map (·, e.2))
    modify fun s => { s with library := Fields.set s.library name table }
    return .nothing
  | .describe raw => do return .document (← lift (Introspection.describe raw)).toDocument
  | .check raw expression enums => do
    return .document (← lift (Introspection.check sys raw expression enums)).toDocument
  | .inspect module => do
    let lib := (← get).library
    return .document (← lift (Introspection.inspect lib module)).toDocument

/-- Runs a step: its system is made if need be, and its result gets its name. -/
def Step.run (step : Step) : Run Answer := do
  match step.deed with
  | .newSystem _ _ _ _ => pure ()
  | _ => lift (modify (·.ensureSystem step.sys))
  let a ← perform step.sys step.stack step.deed
  if let some n := step.saveAs then
    modify fun s => { s with names := Fields.set s.names n a.toValue }
  return a

/-- Runs steps one after the other. Each answer comes with the world in which it was given. -/
def Session.run (s : Session) : List Step → Session × List (World × Except Failure Answer)
  | [] => (s, [])
  | step :: r =>
    let (a, s) := (Step.run step).run s
    let (last, answers) := s.run r
    (last, (s.world, a) :: answers)

end Lineage.Script
