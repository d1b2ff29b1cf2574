import Lineage.Script

/-!
# Survey — one value held against many expressions

A survey registers enumerations in a fresh system, then holds one value against each of several expressions. What fails
before the first expression fails the whole survey; a failing expression fails only its own result.
-/

set_option autoImplicit false

namespace Lineage.Script

/-- What a survey finds. -/
structure Survey where
  delimiter : String
  typeName : String
  results : List (Except Failure (Bool × Option String))

/-- Registers enumerations one after the other. -/
def defineAll (sys : String) : List (Term × Term) → Run Unit
  | [] => return ()
  | (name, members) :: r => do
    let name ← eval name
    let members ← eval members
    let _ ← lift (Definition.defineEnum sys name members)
    defineAll sys r

/-- Holds a value against one expression, and catches what goes wrong. -/
def judge (sys : String) (v e : Value) : Action (Except Failure (Bool × Option String)) :=
  tryCatch (do
    let holds ← Query.typeOf sys v e
    let found ← Query.findMatch sys v e
    return .ok (holds, found)) fun f => return .error f

/-- Holds a value against expressions. -/
def judgeAll (sys : String) (v : Value) : List Value → Action (List (Except Failure (Bool × Option String)))
  | [] => return []
  | e :: r => do
    let x ← judge sys v e
    return x :: (← judgeAll sys v r)

/-- Carries out a survey. -/
def survey (value : Term) (expressions : List Term) (enums : List (Term × Term)) (delimiter : String) : Run Survey := do
  let sys := Definition.mainSystem
  lift (modify (·.addSystem sys delimiter defaultExcluded false none []))
  let v ← eval value
  let es ← evalList expressions
  defineAll sys enums
  if delimiter = "" then throw .badDelimiter
  let typeName ← lift (Query.typeName v)
  return ⟨delimiter, typeName, ← lift (judgeAll sys v es)⟩

/-- Runs a computation in a new session. -/
def runFresh {α : Type} (r : Run α) : Except Failure α × World :=
  let (x, s) := r.run .initial
  (x, s.world)

/-- Runs a deed on a new system made with the given settings. -/
def onNewSystem (types : Option Document) (d : Deed) : Run Answer := do
  let sys := Definition.mainSystem
  let _ ← newSystem sys types none none []
  perform sys ⟨[]⟩ d

/-- The literal form and the native category of what a text stands for. -/
def readLiteral (raw : String) : Action (String × Category) := do
  let v ← Literal.read raw
  return (← Access.repr v, v.category)

/-- The members of an enumeration with their native categories and their literal forms. -/
def describeMembers : List (String × Value) → Action (List (String × Category × String))
  | [] => return []
  | (k, v) :: r => do
    let text ← Access.repr v
    return (k, v.category, text) :: (← describeMembers r)

/-- The name and the members of an enumeration that a text spells. -/
def readEnum (spec : String) : Action (String × List (String × Category × String)) := do
  let (name, members) ← EnumSpec.read spec
  return (name, ← describeMembers members)

end Lineage.Script
