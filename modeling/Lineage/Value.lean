import Lineage.Category
import Lineage.Number
import Lineage.Text

/-!
# Value — what can be asked for its type

A value is native data (nothing, booleans, numbers, texts, bytes and the containers of values), a closed
enumeration, or a thing with an identity of its own: a class, an instance, a function, or an object that comes
from outside. Things with identity are numbered, and what the number stands for is kept in a `World`. Lists and
dictionaries that a program may still change are `shared`: the value is then the address of a cell.

`Value.category` is the native category, a total function that needs no world.
-/

set_option autoImplicit false

namespace Lineage

/-- The three forms of a run of bytes: fixed, growable, and a window on other bytes. -/
inductive ByteForm where
  | fixed
  | growable
  | window
deriving DecidableEq, Repr

/-- What an outside object is made of. -/
inductive ForeignBase where
  | object
  | mapping
  | sequence
  | text
  | int
  | list
  | dict
deriving DecidableEq, Repr

/-- A standard thing known by name: a built-in class, a routine, or an empty container of some library class. -/
structure Specimen where
  name : String
  className : String
  category : Category
  callable : Bool
  hashable : Bool
  isMapping : Bool
deriving DecidableEq, Repr

/-- The two kinds of shared cell. -/
inductive CellKind where
  | list
  | dict
deriving DecidableEq, Repr

/-- A dynamic value. -/
inductive Value where
  | nil
  | bool (b : Bool)
  | number (n : Number)
  | text (t : Text)
  | bytes (form : ByteForm) (octets : List Nat)
  | tuple (items : List Value)
  | list (items : List Value)
  | set (frozen : Bool) (items : List Value)
  | dict (entries : List (Value × Value))
  | range (first stop step : Int)
  | shared (kind : CellKind) (address : Nat)
  | enum (identity : Nat) (name : String) (members : List (Value × Value))
  | view (className : String) (items : List Value)
  | specimen (s : Specimen)
  | function (index : Nat)
  | property (index : Nat)
  | method (receiver : Value) (operation : Nat ⊕ String)
  | cls (index : Nat)
  | inst (index : Nat)
  | foreign (index : Nat) (base : ForeignBase) (equalTo : Option Bool)
deriving Inhabited

/-- An ordered table of named values. -/
abbrev Fields := List (String × Value)

namespace Value

/-- The text value of a string. -/
def ofString (s : String) : Value := text (Text.ofString s)

/-- The whole number as a value. -/
def ofInt (n : Int) : Value := number (.int n)

/-- The category of the base of an outside object. -/
def foreignCategory : ForeignBase → Category
  | .object => .object
  | .mapping | .sequence | .list | .dict => .table
  | .text => .string
  | .int => .number

/-- The native category. -/
def category : Value → Category
  | nil => .nil
  | bool _ => .boolean
  | number _ => .number
  | text _ => .string
  | bytes _ _ => .bytes
  | tuple _ | list _ | set _ _ | dict _ | range _ _ _ | shared _ _ | enum _ _ _ => .table
  | view c _ => if c = "ValuesView" ∨ c = "dict_values" then .object else .table
  | specimen s => s.category
  | function _ | method _ _ => .function
  | property _ => .object
  | .cls _ => .cls
  | .inst _ => .object
  | foreign _ b _ => foreignCategory b

/-- Whether the value may carry type capabilities of its own. -/
def isComposite (v : Value) : Bool := v.category.isComposite

/-- The string that a textual value holds: a text, or an outside object made of the empty text. -/
def string? : Value → Option String
  | text t => some t.toString
  | foreign _ .text _ => some ""
  | _ => none

@[simp] theorem string?_ofString (s : String) : (ofString s).string? = some s :=
  congrArg some (Text.toString_ofString s)

/-- The entries of a mapping whose cells have been read. -/
def entries? : Value → Option (List (Value × Value))
  | dict es => some es
  | enum _ _ ms => some ms
  | specimen s => if s.isMapping then some [] else none
  | foreign _ .dict _ | foreign _ .mapping _ => some []
  | _ => none

/-- Whether a value is a mapping. -/
def isMapping : Value → Bool
  | shared .dict _ => true
  | v => v.entries?.isSome

/-- Whether a value whose cells have been read counts as true: not nothing, zero or empty. -/
def isTruthy : Value → Bool
  | nil => false
  | bool b => b
  | number n => !n.isZero
  | text t => !t.isEmpty
  | bytes _ os => !os.isEmpty
  | tuple xs | list xs | set _ xs | view _ xs => !xs.isEmpty
  | dict es | enum _ _ es => !es.isEmpty
  | range a b s => if 0 < s then decide (a < b) else decide (b < a)
  | specimen s => !s.isMapping
  | foreign _ .object _ => true
  | foreign _ _ _ => false
  | _ => true

theorem isTruthy_ofString {s : String} (hs : s ≠ "") : (ofString s).isTruthy = true := by
  rw [ofString, isTruthy, Bool.not_eq_true', ← Bool.not_eq_true, Text.isEmpty_ofString]
  exact hs

/-- The class name of a value that has one without looking into the world. -/
def className : Value → String
  | nil => "NoneType"
  | bool _ => "bool"
  | number (.int _) => "int"
  | number (.float _) => "float"
  | number (.decimal _) => "Decimal"
  | number (.fraction _) => "Fraction"
  | number (.complex _ _) => "complex"
  | text _ => "str"
  | bytes .fixed _ => "bytes"
  | bytes .growable _ => "bytearray"
  | bytes .window _ => "memoryview"
  | tuple _ => "tuple"
  | list _ | shared .list _ => "list"
  | set false _ => "set"
  | set true _ => "frozenset"
  | dict _ | shared .dict _ => "dict"
  | range _ _ _ => "range"
  | enum _ _ _ => "FrozenEnum"
  | view c _ => c
  | specimen s => s.className
  | function _ => "function"
  | property _ => "property"
  | method _ (.inl _) => "method"
  | method _ (.inr _) => "builtin_function_or_method"
  | .cls _ => "ClassDescriptor"
  | .inst _ => "object"
  | foreign _ _ _ => "Foreign"

end Value

/-- The class name of the first part of a value that cannot be a key. -/
def Value.unhashable? : Value → Option String
  | .tuple xs => unhashableIn xs
  | .list _ | .shared .list _ => some "list"
  | .dict _ | .shared .dict _ => some "dict"
  | .set false _ => some "set"
  | .bytes .growable _ => some "bytearray"
  | .enum _ _ _ => some "FrozenEnum"
  | .view c _ => if c = "ValuesView" ∨ c = "dict_values" then none else some c
  | .specimen s => if s.hashable then none else some s.className
  | .foreign _ .list _ | .foreign _ .dict _ | .foreign _ .mapping _ | .foreign _ _ (some _) => some "Foreign"
  | _ => none
where
  /-- The same for a sequence of parts. -/
  unhashableIn : List Value → Option String
  | [] => none
  | v :: r => match v.unhashable? with
    | some c => some c
    | none => unhashableIn r

/-! ## Shared parts -/

namespace Value

mutual

/-- A value with each of its shared parts replaced. -/
def mapShared (f : CellKind → Nat → Value) (v : Value) : Value :=
  match v with
  | shared k a => f k a
  | tuple xs => tuple (mapSharedAll f xs)
  | list xs => list (mapSharedAll f xs)
  | set frozen xs => set frozen (mapSharedAll f xs)
  | view c xs => view c (mapSharedAll f xs)
  | dict es => dict (mapSharedEntries f es)
  | enum i n es => enum i n (mapSharedEntries f es)
  | v => v
termination_by structural v

/-- The same for the items of a sequence. -/
def mapSharedAll (f : CellKind → Nat → Value) (xs : List Value) : List Value :=
  match xs with
  | [] => []
  | x :: xs => mapShared f x :: mapSharedAll f xs
termination_by structural xs

/-- The same for the entries of a dictionary. -/
def mapSharedEntries (f : CellKind → Nat → Value) (es : List (Value × Value)) : List (Value × Value) :=
  match es with
  | [] => []
  | (k, v) :: es => (mapShared f k, mapShared f v) :: mapSharedEntries f es
termination_by structural es

end

end Value

end Lineage
