import Lineage.Access
import Lineage.CallStack

/-!
# Query — type names, and membership of a value in a type expression

A value has one type name (`typeName`): what it reports itself when it is composite and can, its native category
otherwise. A value satisfies an expression when it satisfies one of the alternatives, tried from left to right; for
each alternative the first of three tests that applies decides (`satisfies`): the native category; the
value's own answer, if it is composite and can be asked, which is then final; the members of the registered
enumeration of that name.

`require` and `requireArgument` turn a negative answer into an error.
-/

set_option autoImplicit false

namespace Lineage.Query

/-- The system with a name, as it is now. -/
def system (name : String) : Action System := do
  match (← get).system? name with
  | some s => return s
  | none => throw (.unknownName name)

/-- Whether a member is what is asked for: of the same native category, and equal. -/
def isMember (w : World) (v member : Value) : Bool :=
  member.category = v.category && (w.read member).equal (w.read v)

/-- Whether a closed enumeration has a member equal to a value and of its category. -/
def hasValue (w : World) (e v : Value) : Bool :=
  match e with
  | .enum _ _ ms => ms.any fun m => isMember w v m.2
  | _ => false

/-- Whether a registry holds an enumeration of that name with that value. -/
def registryHas (w : World) (enums : List (String × Value)) (name : String) (v : Value) : Bool :=
  (Fields.get? enums name).elim false fun e => hasValue w e v

/-- The capability of a composite value under a key, if it has one that can be called. -/
def capability? (v : Value) (key : String) : Action (Option Value) := do
  if !v.isComposite then return none
  match ← Access.read? v key with
  | some f => return if Access.isCallable (← get) f then some f else none
  | none => return none

/-- Whether a value satisfies one alternative. -/
def satisfies (sys : String) (v : Value) (name : String) : Action Bool := do
  if v.category.name = name then return true
  match ← capability? v "type_of" with
  | some f =>
    let answer ← Access.call f [.ofString name]
    return ((← get).read answer).isTruthy
  | none =>
    let s ← system sys
    return registryHas (← get) s.enums name v

/-- The first alternative that a value satisfies; the later ones are not asked about. -/
def firstSatisfied (sys : String) (v : Value) : List String → Action (Option String)
  | [] => return none
  | name :: rest => do
    if ← satisfies sys v name then return some name
    else firstSatisfied sys v rest

/-- The leftmost alternative of an expression that a value satisfies. -/
def findMatch (sys : String) (v expression : Value) : Action (Option String) := do
  match expression.string? with
  | none =>
    let actual := expression.category.name
    throw (.argument (.ofInt 2) "2" "string" actual none)
  | some e =>
    let s ← system sys
    firstSatisfied sys v (Union.alternatives s.delimiter e)

/-- Whether a value satisfies an expression. -/
def typeOf (sys : String) (v expression : Value) : Action Bool := do
  return (← findMatch sys v expression).isSome

/-- The type name of a value. -/
def typeName (v : Value) : Action String := do
  match ← capability? v "type" with
  | some f => Access.shown (← Access.call f [])
  | none => return v.category.name

/-- The text of an expression that is known to be one. -/
def expressionText (expression : Value) : String := expression.string?.getD ""

/-- Refuses a value that does not satisfy an expression, in the name of its label and at a place. -/
def require (sys : String) (v expression label : Value) (site : Option Frame) : Action Unit := do
  if ← typeOf sys v expression then return ()
  let actual ← typeName v
  let labelText ← if ((← get).read label).isTruthy then Access.shown label else pure ""
  throw (.typeMismatch label labelText (expressionText expression) actual site)

/-- Refuses an argument that does not satisfy an expression, in the name of its number and at a place. -/
def requireArgument (sys : String) (index v expression : Value) (site : Option Frame) : Action Unit := do
  if ← typeOf sys v expression then return ()
  let actual ← typeName v
  let shown ← Access.shown index
  throw (.argument index shown (expressionText expression) actual site)

/-! ## Places -/

/-- A function of the assertion layer. -/
def assertionFrame (name : String) : Frame := .library name "offspring.domain.assertions"

/-- A method of a type system. -/
def systemFrame (name : String) : Frame := .library name "offspring.system"

/-- A function of the package. -/
def packageFrame (name : String) : Frame := .library name "offspring"

/-- The ways to reach an assertion: directly, through a type system, or through the process-wide system. -/
inductive Entry where
  | direct
  | system
  | package
deriving DecidableEq, Repr

/-- The functions of the library between the caller and an assertion, the assertion first. -/
def Entry.frames (entry : Entry) (name : String) : List Frame :=
  match entry with
  | .direct => [assertionFrame name]
  | .system => [assertionFrame name, systemFrame name]
  | .package => [assertionFrame name, packageFrame name]

/-- How many steps outwards an entry lets a type assertion look when its caller asks for `depth` of them. -/
def Entry.typeDepth (entry : Entry) (depth : Int) : Int :=
  match entry with
  | .direct => depth
  | .system | .package => depth + 1

/-- How many steps outwards an entry lets an argument assertion look. Only the assertion itself can be told. -/
def Entry.argumentDepth (entry : Entry) (depth : Option Int) : Int :=
  match entry with
  | .direct => depth.getD 2
  | .system | .package => 3

/-- Asserts the type of a value on behalf of callers; `depth` counts the functions outwards, one being the caller. -/
def assertTypeFor (callers : List Frame) (entry : Entry) (sys : String) (v expression label : Value) (depth : Int) :
    Action Unit :=
  require sys v expression label (CallStack.locate callers (entry.frames "assert_type") (entry.typeDepth depth))

/-- Asserts the type of an argument on behalf of callers, in the name of the caller of the function that checks it. -/
def assertArgumentFor (callers : List Frame) (entry : Entry) (sys : String) (index v expression : Value)
    (depth : Option Int) : Action Unit :=
  requireArgument sys index v expression
    (CallStack.locate callers (entry.frames "assert_argument") (entry.argumentDepth depth))

/-- Asserts the type of a value. -/
def assertType (entry : Entry) (sys : String) (v expression label : Value) (depth : Int) (stack : CallStack) :
    Action Unit :=
  assertTypeFor stack.callers entry sys v expression label depth

/-- Asserts the type of an argument. -/
def assertArgument (entry : Entry) (sys : String) (index v expression : Value) (depth : Option Int)
    (stack : CallStack) : Action Unit :=
  assertArgumentFor stack.callers entry sys index v expression depth

/-- A value, once its type has been asserted. -/
def typed (entry : Entry) (sys : String) (v expression label : Value) (depth : Int) (stack : CallStack) :
    Action Value := do
  assertType entry sys v expression label depth stack
  return v

/-- An argument, once its type has been asserted. -/
def typedArgument (entry : Entry) (sys : String) (index v expression : Value) (depth : Option Int) (stack : CallStack) :
    Action Value := do
  assertArgument entry sys index v expression depth stack
  return v

end Lineage.Query
