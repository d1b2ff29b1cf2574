import Lineage.Access
import Lineage.Literal
import Lineage.Script.Specimens

/-!
# Term — values as a script writes them

A term describes a value: data, a value that was given a name before, a function by what it does, or an outside object by
how it answers. Evaluating a term makes new lists, dictionaries, functions and objects each time (`Term.eval`);
only a name stands for the same value again.
-/

set_option autoImplicit false

namespace Lineage.Script

mutual

/-- The description of a value. -/
inductive Term where
  | data (v : Value)
  | specimen (name : String)
  | reference (name : String)
  | tuple (items : List Term)
  | list (items : List Term)
  | set (frozen : Bool) (items : List Term)
  | dict (entries : List (Term × Term))
  /-- A function that needs no further value. -/
  | function (b : Behaviour)
  | returns (t : Term)
  | constant (t : Term)
  | isOneOf (names : List Term)
  /-- A property: the given text followed by the type name of the receiver. -/
  | property (lead : String)
  /-- An outside object: its base, how it answers the two type questions, and its verdict on equality. -/
  | foreign (base : ForeignBase) (type typeOf : Answering) (equalTo : Option Term)

/-- How an outside object answers a type question. -/
inductive Answering where
  | plain (c : Capability)
  | returns (t : Term)
  | holds (t : Term)
  | names (accepted : List Term)

end

instance : Inhabited Term := ⟨.data .nil⟩

instance : Inhabited Answering := ⟨.plain .absent⟩

/-- The values that have names. -/
abbrev Bindings := List (String × Value)

/-- The items of a set, each put in unless it is there. -/
def makeSet (items : List Value) : Action (List Value) := do
  let w ← get
  items.foldlM (fun sofar v => match Access.unhashable? w v with
    | some c => throw (.unhashable c)
    | none => return if sofar.any (fun x => (w.read x).equalInside (w.read v)) then sofar else sofar ++ [v]) []

/-- The entries of a dictionary: a key that is there keeps its place and gets the new value. -/
def makeDict (entries : List (Value × Value)) : Action (List (Value × Value)) := do
  let w ← get
  entries.foldlM (fun sofar e => match Access.unhashable? w e.1 with
    | some c => throw (.unhashable c)
    | none => return Literal.Tree.insertEntry sofar (w.read e.1) e.2) []

/-- A new function. -/
def newFunction (b : Behaviour) : Action Nat := do
  let (w, i) := (← get).addBehaviour b
  set w
  return i

/-- A new cell. -/
def newCell (kind : CellKind) (c : Cell) : Action Value := do
  let (w, i) := (← get).addCell c
  set w
  return .shared kind i

mutual

/-- The value that a term describes. -/
def Term.eval (names : Bindings) (t : Term) : Action Value :=
  match t with
  | .data v => return v
  | .specimen n => match specimen? n with
    | some v => return v
    | none => throw (.unknownName n)
  | .reference n => match Fields.get? names n with
    | some v => return v
    | none => throw (.unknownName n)
  | .tuple ts => return .tuple (← evalAll names ts)
  | .list ts => do newCell .list (.list (← evalAll names ts))
  | .set frozen ts => return .set frozen (← makeSet (← evalAll names ts))
  | .dict es => do newCell .dict (.dict (← makeDict (← evalEntries names es)))
  | .function b => return .function (← newFunction b)
  | .returns t => do return .function (← newFunction (.returns (← t.eval names)))
  | .constant t => do return .function (← newFunction (.constant (← t.eval names)))
  | .isOneOf ts => do return .function (← newFunction (.isOneOf (← evalAll names ts)))
  | .property lead => do return .property (← newFunction (.announces lead))
  | .foreign base type typeOf equalTo => do
    let verdict ← match equalTo with
      | some t => do
        let v ← t.eval names
        pure (some ((← get).read v).isTruthy)
      | none => pure none
    let type ← type.eval names
    let typeOf ← typeOf.eval names
    let (w, i) := (← get).addForeign ⟨type, typeOf, []⟩
    set w
    return .foreign i base verdict
termination_by structural t

/-- How an object will answer. -/
def Answering.eval (names : Bindings) (a : Answering) : Action Capability :=
  match a with
  | .plain c => return c
  | .returns t => return .returns (← t.eval names)
  | .holds t => return .holds (← t.eval names)
  | .names ts => return .names (← evalAll names ts)
termination_by structural a

/-- The values that terms describe. -/
def evalAll (names : Bindings) (ts : List Term) : Action (List Value) :=
  match ts with
  | [] => return []
  | t :: ts => return (← t.eval names) :: (← evalAll names ts)
termination_by structural ts

/-- The entries that pairs of terms describe. -/
def evalEntries (names : Bindings) (es : List (Term × Term)) : Action (List (Value × Value)) :=
  match es with
  | [] => return []
  | (k, v) :: es => do
    let k ← k.eval names
    let v ← v.eval names
    return (k, v) :: (← evalEntries names es)
termination_by structural es

end

end Lineage.Script
