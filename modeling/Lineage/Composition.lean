import Lineage.Fields
import Lineage.Value

/-!
# Composition — what a new class inherits

Inheritance copies once. A new class gets the members of every parent, in argument order, later parents overwriting
earlier ones, without the bookkeeping and the excluded keys; then its own members are laid over them, excluded
or not. Its membership is its own name together with everything its parents are members of.

The type name and the membership are entries of the namespace like any other (`ClassRecord.typeName` and
`ClassRecord.membership` read them there). A new class gets its own last of all (`Composition.reserve`), over
whatever was copied under their keys.
-/

set_option autoImplicit false

namespace Lineage

/-- The type name of the class that every class without parents descends from. -/
def baseTypeName : String := "offspring.Object"

/-- The key under which a class keeps its own type name. -/
def typeNameKey : String := "__typename__"

/-- The key under which a class keeps its membership. -/
def membershipKey : String := "__typemap__"

/-- The keys that a class keeps for itself. -/
def reservedKeys : List String := [typeNameKey, membershipKey]

/-- The namespace keys that are not inherited unless a system says otherwise. -/
def defaultExcluded : List String := ["__init__", "__typemap__", "__typename__", "new"]

/-- The bookkeeping keys of a class namespace, which are neither inherited nor reported. -/
def bookkeepingKeys : List String :=
  ["__dict__", "__weakref__", "__module__", "__qualname__", "__doc__", "__firstlineno__", "__static_attributes__"]

/-- A class: the names its kind keeps apart, and its namespace, which may still change. -/
structure ClassRecord where
  label : String
  qualifiedName : String
  module : Value
  doc : Value
  body : Fields
deriving Inhabited

namespace ClassRecord

/-- The names in a set of texts. -/
def namesIn : Value → List String
  | .set _ names => names.filterMap Value.string?
  | _ => []

/-- The type name, as the namespace has it. -/
def typeName (c : ClassRecord) : String := ((Fields.get? c.body typeNameKey).bind Value.string?).getD ""

/-- The names of all the types that instances of the class are of, as the namespace has them. -/
def membership (c : ClassRecord) : List String := (Fields.get? c.body membershipKey).elim [] namesIn

/-- The members that inheritance copies and reports show, in their order. -/
def fields (c : ClassRecord) : Fields :=
  c.body.filter fun e => !bookkeepingKeys.contains e.1 && !reservedKeys.contains e.1

/-- The class with an attribute set. What its kind keeps apart is no member. -/
def assign (c : ClassRecord) (key : String) (x : Value) : ClassRecord :=
  if key = "__name__" then { c with label := x.string?.getD c.label }
  else if key = "__qualname__" then { c with qualifiedName := x.string?.getD c.qualifiedName }
  else if key = "__module__" then { c with module := x }
  else if key = "__doc__" then { c with doc := x }
  else { c with body := Fields.set c.body key x }

/-- The class without a member. -/
def erase (c : ClassRecord) (key : String) : ClassRecord := { c with body := Fields.erase c.body key }

end ClassRecord

/-- What a class is built from: the names it gets, the keys it does not inherit, the classes it inherits from,
and its own members; and the manager whose plugins are told of it. -/
structure Birth where
  name : String
  qualifiedName : String
  module : Value
  doc : Value
  excluded : List String
  parents : List Nat
  own : Fields
  manager : Nat

namespace Composition

/-- Whether a key of a parent is copied. -/
def isInherited (excluded : List String) (key : String) : Bool :=
  !bookkeepingKeys.contains key && !excluded.contains key

/-- The entries of a parent that are copied, in their order. -/
def inherited (excluded : List String) (parent : Fields) : Fields :=
  parent.filter fun e => isInherited excluded e.1

/-- The members copied from all parents. -/
def inheritedAll (excluded : List String) (parents : List Fields) : Fields :=
  parents.foldl (fun t p => Fields.update t (inherited excluded p)) []

/-- The members of a new class: the inherited ones, overwritten by its own. -/
def compose (excluded : List String) (parents : List Fields) (own : Fields) : Fields :=
  Fields.update (inheritedAll excluded parents) own

/-- The names without repetition, in the order in which they come first. -/
def distinct (names : List String) : List String :=
  names.foldl (fun seen n => if seen.contains n then seen else seen ++ [n]) []

/-- The membership of a new class. -/
def membership (name : String) (parents : List (List String)) : List String :=
  distinct (name :: parents.flatten)

/-- The members with the type name and the membership laid over them. -/
def reserve (name : String) (names : List String) (fs : Fields) : Fields :=
  Fields.set (Fields.set fs typeNameKey (.ofString name)) membershipKey (.set true (names.map .ofString))

/-- The members of a class that decides equality for itself; without a hash of its own it has none. -/
def withHash (fs : Fields) : Fields :=
  if Fields.has fs "__eq__" && !Fields.has fs "__hash__" then fs ++ [("__hash__", .nil)] else fs

/-- The class that a birth gives, its parents being as they are. -/
def classOf (b : Birth) (parents : List ClassRecord) : ClassRecord where
  label := b.name
  qualifiedName := b.qualifiedName
  module := b.module
  doc := b.doc
  body := withHash (reserve b.name (membership b.name (parents.map (·.membership)))
    (compose b.excluded (parents.map (·.body)) b.own))

end Composition

end Lineage
