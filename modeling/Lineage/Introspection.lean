import Lineage.Definition
import Lineage.EnumSpec
import Lineage.Library
import Lineage.Report

/-!
# Introspection — questions about types, answered with reports

Three operations: `describe` tells the type of a literal, `check` holds a literal against a type expression after
registering enumerations given as text, and `inspect` lists the classes and the enumerations that a module
exports. What a caller may expect to go wrong becomes the report of a failure with a fixed code.
-/

set_option autoImplicit false

namespace Lineage.Introspection

/-- The type of a literal, in its own words and by native category. -/
def describe (raw : String) : Action Report := do
  let v ← Literal.read raw
  return .success "type" [("value", .text (← Access.repr v)), ("type", .text (← Query.typeName v)),
    ("native", .text v.category.name)] []

/-- Registers the enumerations that texts spell, up to the first that is refused. -/
def defineAll (sys : String) : List String → Action Unit
  | [] => return ()
  | spec :: r => do
    let (name, members) ← EnumSpec.read spec
    let _ ← Definition.defineEnum sys (.ofString name) (.dict (members.map fun m => (.ofString m.1, m.2)))
    defineAll sys r

/-- Holds a literal against an expression in which the given enumerations may be named. -/
def check (sys raw expression : String) (enums : List String) : Action Report := do
  let refused ← tryCatch (do defineAll sys enums; return none) fun e =>
    if e.kind.isA .value then return some e.message else throw e
  if let some message := refused then return .failure "check" "INVALID_ENUM" message []
  let v ← Literal.read raw
  let data : List (String × Document) :=
    [("value", .text (← Access.repr v)), ("expression", .text expression), ("type", .text (← Query.typeName v))]
  let mismatch ← tryCatch
    (do Query.require sys v (.ofString expression) .nil none; return none) fun e =>
      if e.kind.isA .typeMismatch then return some e.message else throw e
  match mismatch with
  | some message => return .failure "check" "TYPE_MISMATCH" message data
  | none => return .success "check" (data ++ [("matched", .ofText? (← Query.findMatch sys v (.ofString expression)))]) []

/-- The names in the order of their code points. -/
def sorted (names : List String) : List String := names.mergeSort (fun a b => !decide (b < a))

/-- What is said of a class. -/
def describeClass (attr : String) (c : ClassRecord) : Document :=
  .table [("attr", .text attr), ("type_name", .text c.typeName), ("membership", .ofTexts (sorted c.membership)),
    ("fields", .ofTexts (sorted (c.fields.map (·.1))))]

/-- The text of the members of an enumeration. -/
def describeMembers : List (Value × Value) → Action (List (String × Document))
  | [] => return []
  | (k, v) :: r => do
    let text ← Access.repr v
    let key ← Access.shown k
    return (key, .text text) :: (← describeMembers r)

/-- The classes and the enumerations among exports, in the order of the exports. -/
def describeExports : Fields → Action (List Document × List Document)
  | [] => return ([], [])
  | (attr, v) :: r => do
    match v with
    | .cls i =>
      let described := ((← get).class? i).map (describeClass attr)
      let (classes, enums) ← describeExports r
      return (described.toList ++ classes, enums)
    | .enum _ name members =>
      let described := Document.table [("attr", .text attr), ("name", .text name),
        ("members", .table (Fields.ofList (← describeMembers members)))]
      let (classes, enums) ← describeExports r
      return (classes, described :: enums)
    | _ => describeExports r

/-- The exports that are shown, in the order of their names. -/
def publicExports (exports : Fields) : Fields :=
  (exports.filter fun e => !e.1.startsWith "_").mergeSort fun a b => !decide (b.1 < a.1)

/-- The logger of the operations. -/
def logger : String := "offspring.services.introspect"

/-- The classes and the enumerations that a module exports. -/
def inspect (lib : Library) (module : String) : Action Report := do
  match lib.load module with
  | .error e =>
    if e.kind.isA .importing then
      return .failure "inspect" "IMPORT_ERROR" ("Cannot import " ++ module ++ ": " ++ e.message) []
    else throw e
  | .ok exports =>
    let (classes, enums) ← describeExports (publicExports exports)
    modify fun w => w.log logger .debug ("Inspected " ++ module ++ ": " ++ toString classes.length ++ " classes, " ++
      toString enums.length ++ " enums") none
    let warnings := if classes.isEmpty && enums.isEmpty then [module ++ " exposes no offspring classes or enums"] else []
    return .success "inspect" [("module", .text module), ("classes", .list classes), ("enums", .list enums)] warnings

end Lineage.Introspection
