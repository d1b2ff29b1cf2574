import Lineage.Text.Blank
import Lineage.Value.Printer
import Lineage.World

/-!
# Access — reading attributes, calling, printing

How a value answers when it is used: which attributes it has, what happens when it is called, and how it prints.
Using a value may run functions that use values again, so the three uses are given together as a
`Handler`. The functions below take the handler for the nested uses as an argument and are not recursive;
`handler` ties the knot with a bound on the depth of nesting, and `read`, `call` and `repr` hide it.
-/

set_option autoImplicit false

namespace Lineage

/-- The three uses of values that may run functions. -/
structure Handler where
  read : Value → String → Action Value
  call : Value → List Value → Action Value
  repr : Value → Action String

namespace Access

/-! ## Names -/

/-- The class name that messages use for a value. -/
def className (w : World) (v : Value) : String :=
  match v with
  | .inst i => ((w.classOf? i).bind w.class?).elim v.className (·.label)
  | .function i => match (w.behaviours[i]?).map Behaviour.binding with
    | some .cls => "classmethod"
    | some .nothing => "staticmethod"
    | _ => "function"
  | v => v.className

/-- The modules of the classes that are not built in. -/
def homes : List (String × String) :=
  [("Decimal", "decimal"), ("Fraction", "fractions"), ("FrozenEnum", "offspring.domain.enums"),
    ("ClassDescriptor", "offspring.domain.classes"), ("ABCMeta", "abc"), ("partial", "functools"),
    ("_lru_cache_wrapper", "functools"), ("date", "datetime"), ("deque", "collections"), ("OrderedDict", "collections"),
    ("Counter", "collections"), ("ChainMap", "collections"), ("UserDict", "collections"), ("UserString", "collections"),
    ("KeysView", "collections.abc"), ("ValuesView", "collections.abc"), ("ItemsView", "collections.abc")]

/-- The class of a value as it prints itself. -/
def classRepr (w : World) (v : Value) : String :=
  match v with
  | .inst i => ((w.classOf? i).bind w.class?).elim "<class 'object'>" fun c => "<offspring class " ++ c.typeName ++ ">"
  | v =>
    let name := className w v
    "<class '" ++ ((homes.lookup name).elim name fun home => home ++ "." ++ name) ++ "'>"

/-- Whether a value can be called. -/
def isCallable (w : World) (v : Value) : Bool :=
  match v with
  | .function i => (w.behaviours[i]?).map Behaviour.binding != some .cls
  | .method _ _ | .cls _ => true
  | .specimen s => s.callable
  | .inst i => ((w.classOf? i).bind w.class?).elim false fun c => Fields.has c.body "__call__"
  | _ => false

/-- The methods that every object has. -/
def objectMethods : List String :=
  ["__init__", "__eq__", "__ne__", "__lt__", "__le__", "__gt__", "__ge__", "__hash__", "__repr__", "__str__",
    "__format__", "__setattr__", "__getattribute__", "__delattr__", "__dir__", "__new__", "__reduce__",
    "__reduce_ex__", "__sizeof__", "__init_subclass__", "__subclasshook__", "__getstate__"]

/-- The properties of a class that cannot be set. -/
def classProperties : List String := ["type_name", "type_membership", "fields"]

/-- The methods of a closed enumeration. -/
def enumMethods : List String :=
  ["keys", "items", "values", "get", "has_value", "__getitem__", "__setitem__", "__delitem__", "__iter__", "__len__",
    "__contains__", "__reduce__", "__getattr__", "__class_getitem__", "__reversed__"] ++ objectMethods

/-- The methods of dictionaries and lists that can be called here. -/
def containerMethods : CellKind → List String
  | .dict => ["pop", "get", "keys", "values", "items", "update", "copy", "clear", "setdefault"]
  | .list => ["append", "extend", "insert", "pop", "copy", "clear", "reverse"]

/-! ## Texts that need no function to run -/

/-- The place and address of an instance, as every object prints that does not print itself. -/
def rawRepr (c : ClassRecord) : String :=
  match c.module with
  | .text m =>
    if m.toString = "builtins" then "<" ++ c.label ++ " object at 0x?>"
    else "<" ++ m.toString ++ "." ++ c.qualifiedName ++ " object at 0x?>"
  | _ => "<" ++ c.label ++ " object at 0x?>"

/-- The most digits that a whole number may have to be printed. -/
def maxDigits : Nat := 4300

/-- Whether a value is a whole number too long to print. -/
def isTooLong (v : Value) : Bool :=
  match v with
  | .number (.int n) => maxDigits * 3 < n.natAbs.log2 && maxDigits < (toString n.natAbs).length
  | _ => false

/-! ## Attributes -/

/-- A function read from a class through a receiver. -/
def bind (w : World) (receiver : Value) (cls : Nat) (f : Value) : Value :=
  match f with
  | .function i => match (w.behaviours[i]?).map Behaviour.binding with
    | some .receiver => .method receiver (.inl i)
    | some .cls => .method (.cls cls) (.inl i)
    | _ => f
  | f => f

/-- What a class holds under a key. -/
def classHolds? (c : ClassRecord) (key : String) : Option Value :=
  if key = "__module__" then some c.module
  else if key = "__doc__" then some c.doc
  else Fields.get? c.body key

/-- A table as a dictionary. -/
def dictOf (fs : Fields) : Value := .dict (fs.map fun e => (.ofString e.1, e.2))

/-- Reads an attribute of an instance: a property of its class first, then its own, then its class's. -/
def readInstance (h : Handler) (i : Nat) (key : String) : Action Value := do
  let w ← get
  let some r := w.instances[i]? | throw .tooDeep
  let some c := w.class? r.cls | throw .tooDeep
  let found := classHolds? c key
  match found, Fields.get? r.attributes key with
  | some (.property p), _ => h.call (.method (.inst i) (.inl p)) []
  | _, some v => return v
  | some f, none => return bind w (.inst i) r.cls f
  | none, none =>
    if key = "__class__" then return .cls r.cls
    else if key = "__dict__" then return dictOf r.attributes
    else if objectMethods.contains key then return .method (.inst i) (.inr key)
    else throw (.noAttribute (.inst c.label) key)

/-- Reads an attribute of a class: what its kind defines first, then what it holds. -/
def readClass (i : Nat) (key : String) : Action Value := do
  let w ← get
  let some c := w.class? i | throw .tooDeep
  if key = "type_name" then return .ofString c.typeName
  else if key = "type_membership" then return .set true (c.membership.map Value.ofString)
  else if key = "fields" then return dictOf c.fields
  else if key = "__name__" then return .ofString c.label
  else if key = "__qualname__" then return .ofString c.qualifiedName
  else match classHolds? c key with
    | some (.function f) =>
      return if (w.behaviours[f]?).map Behaviour.binding = some .cls then .method (.cls i) (.inl f) else .function f
    | some v => return v
    | none =>
      if key = "__class__" then
        return .specimen ⟨"ClassDescriptor", "type", .cls, true, true, false⟩
      else if objectMethods.contains key || key = "mro" then return .method (.cls i) (.inr key)
      else throw (.noAttribute (.cls c.label) key)

/-- The name of the class of an instance, if it takes the hash of its instances away. -/
def instanceUnhashable? (w : World) (i : Nat) : Option String :=
  ((w.classOf? i).bind w.class?).bind fun c => match Fields.get? c.body "__hash__" with
    | some .nil => some c.label
    | _ => none

/-- The class name of the first part of a value that cannot be a key as things are. -/
def unhashable? (w : World) : Value → Option String
  | .inst i => instanceUnhashable? w i
  | .tuple xs => unhashableIn xs
  | v => v.unhashable?
where
  /-- The same for a sequence of parts. -/
  unhashableIn : List Value → Option String
  | [] => none
  | v :: r => match unhashable? w v with
    | some c => some c
    | none => unhashableIn r

/-- The member of a closed enumeration under a key. -/
def memberOf? (members : List (Value × Value)) (key : Value) : Option Value :=
  (members.find? fun e => e.1.equalInside key).map (·.2)

/-- The text of a value where it is shown: strings bare, numbers plain, everything else in literal form. -/
def shownWith (h : Handler) (v : Value) : Action String := do
  match v with
  | .text t => return t.toString
  | .foreign _ .text _ => return ""
  | .number n => if isTooLong v then throw .digitLimit else return n.plainText
  | v => h.repr v

/-- Refuses to touch a member of a closed enumeration. The error shows the key, so a key that cannot be shown is
refused with the error that showing it raises. -/
def refuseWith (h : Handler) (touch : EnumTouch) (name : String) (key : Value) : Action Value := do
  throw (.enumKey touch name key (← shownWith h key))

/-- Reads an item of a closed enumeration. -/
def readItemWith (h : Handler) (name : String) (members : List (Value × Value)) (key : Value) : Action Value := do
  match unhashable? (← get) key with
  | some c => throw (.unhashable c)
  | none => match memberOf? members key with
    | some v => return v
    | none => refuseWith h .read name key

/-- Looks up an item of a closed enumeration: what is said to be missing has the default. -/
def getItemWith (h : Handler) (name : String) (members : List (Value × Value)) (key default : Value) : Action Value :=
  tryCatch (readItemWith h name members key) fun e => if e.kind.isA .key then return default else throw e

/-- Reads an attribute of a closed enumeration: its own methods hide the members of the same name. -/
def readEnum (h : Handler) (identity : Nat) (name : String) (members : List (Value × Value)) (key : String) :
    Action Value :=
  if key = "name" ∨ key = "_name" then return .ofString name
  else if key = "_members" then return .dict members
  else if key = "__hash__" then return .nil
  else if enumMethods.contains key then return .method (.enum identity name members) (.inr key)
  else if key.startsWith "_" then throw (.privateAttribute key)
  else readItemWith h name members (.ofString key)

/-- Reads a type capability of an outside object. -/
def readCapability (v : Value) (c : Capability) (own : Option Value) (key : String) : Action Value :=
  match c, own with
  | .readRaises t, _ => throw (.raised t)
  | .readMissing t, _ => throw (.misuse .member t)
  | _, some x => return x
  | .absent, none => throw (.noAttribute (.inst "Foreign") key)
  | .holds x, none => return x
  | _, none => return .method v (.inr key)

/-- Reads an attribute of an outside object. -/
def readForeign (v : Value) (i : Nat) (key : String) : Action Value := do
  let w ← get
  let some r := w.foreigns[i]? | throw .tooDeep
  let own := Fields.get? r.attributes key
  if key = "type" then readCapability v r.type own key
  else if key = "type_of" then readCapability v r.typeOf own key
  else match own with
    | some x => return x
    | none => throw (.noAttribute (.inst "Foreign") key)

/-- Reads an attribute. -/
def readWith (h : Handler) (v : Value) (key : String) : Action Value :=
  match v with
  | .inst i => readInstance h i key
  | .cls i => readClass i key
  | .enum i n ms => readEnum h i n ms key
  | .foreign i _ _ => readForeign v i key
  | .shared k _ =>
    if (containerMethods k).contains key then return .method v (.inr key)
    else throw (.noAttribute (.inst v.className) key)
  | v => do throw (.noAttribute (.inst (className (← get) v)) key)

/-! ## Writing attributes -/

/-- Why a class refuses to have an attribute set, if it does. -/
def classSetRefusal? (w : World) (c : ClassRecord) (key : String) (x : Value) : Option Failure :=
  if reservedKeys.contains key then some (.fixedAtCreation key c.typeName)
  else if classProperties.contains key then some (.noSetter key)
  else if (key = "__name__" ∨ key = "__qualname__") ∧ x.string?.isNone then
    some (.misuse .type ("can only assign string to " ++ c.label ++ "." ++ key ++ ", not '" ++ className w x ++ "'"))
  else none

/-- Why an instance refuses to have an attribute set, if it does. -/
def instanceSetRefusal? (w : World) (i : Nat) (r : InstanceRecord) (key : String) (x : Value) : Option Failure :=
  match (w.class? r.cls).bind (classHolds? · key) with
  | some (.property _) =>
    some (.misuse .member ("property of '" ++ className w (.inst i) ++ "' object has no setter"))
  | _ =>
    if key = "__class__" then
      match x with
      | .cls j => if (w.class? j).isSome then none else some .tooDeep
      | x =>
        if x.category = .cls then
          some (.misuse .type "__class__ assignment only supported for mutable types or ModuleType subclasses")
        else some (.misuse .type ("__class__ must be set to a class, not '" ++ className w x ++ "' object"))
    else none

/-- Sets an attribute. -/
def write (v : Value) (key : String) (x : Value) : Action Unit := do
  let w ← get
  match v with
  | .inst i =>
    let some r := w.instances[i]? | throw .tooDeep
    match instanceSetRefusal? w i r key x with
    | some f => throw f
    | none => set (w.commit (.assigned (.inst i) key x))
  | .cls i =>
    let some c := w.class? i | throw .tooDeep
    match classSetRefusal? w c key x with
    | some f => throw f
    | none => set (w.commit (.assigned (.cls i) key x))
  | .enum _ n _ => throw (.enumKey .write n (.ofString key) key)
  | .foreign i _ _ => set (w.modifyForeign i (Fields.set · key x))
  | .function _ => return ()
  | v => throw (.noAttribute (.inst (className w v)) key)

/-- Why a class refuses to have an attribute removed, if it does. -/
def classEraseRefusal? (c : ClassRecord) (key : String) : Option Failure :=
  if reservedKeys.contains key then some (.fixedAtCreation key c.typeName)
  else if classProperties.contains key then
    some (.misuse .member ("property '" ++ key ++ "' of 'ClassDescriptor' object has no deleter"))
  else if key = "__name__" ∨ key = "__qualname__" then
    some (.misuse .type ("cannot delete '" ++ key ++ "' attribute of type '" ++ c.label ++ "'"))
  else if Fields.has c.body key then none
  else some (.noAttribute (.cls c.label) key)

/-- Removes an attribute. -/
def erase (v : Value) (key : String) : Action Unit := do
  let w ← get
  match v with
  | .inst i =>
    let some r := w.instances[i]? | throw .tooDeep
    if key = "__class__" then throw (.misuse .type "can't delete __class__ attribute")
    else if Fields.has r.attributes key then set (w.commit (.erased (.inst i) key))
    else throw (.noAttribute (.inst (className w v)) key)
  | .cls i =>
    let some c := w.class? i | throw .tooDeep
    match classEraseRefusal? c key with
    | some f => throw f
    | none => set (w.commit (.erased (.cls i) key))
  | .enum _ n _ => throw (.enumKey .delete n (.ofString key) key)
  | .foreign i _ _ =>
    if ((w.foreigns[i]?).map fun r => Fields.has r.attributes key) = some true then
      set (w.modifyForeign i (Fields.erase · key))
    else throw (.noAttribute (.inst "Foreign") key)
  | v => throw (.noAttribute (.inst (className w v)) key)

/-! ## Calling -/

/-- Checks the number of arguments of a function with named parameters. -/
def checkArity (function : String) (parameters : List String) (given : Nat) : Action Unit :=
  let missing := parameters.drop given
  let plural (n : Nat) : String := if n = 1 then "" else "s"
  if !missing.isEmpty then
    let names := match missing.map fun n => "'" ++ n ++ "'" with
      | [a, b] => a ++ " and " ++ b
      | ns => String.intercalate ", " ns
    throw (.misuse .type (function ++ "() missing " ++ toString missing.length ++ " required positional argument" ++
      plural missing.length ++ ": " ++ names))
  else if parameters.length < given then
    throw (.misuse .type (function ++ "() takes " ++ toString parameters.length ++ " positional argument" ++
      plural parameters.length ++ " but " ++ toString given ++ (if given = 1 then " was" else " were") ++ " given"))
  else return ()

/-- Whether a class is a member of the type of that name. A set is looked up like a frozen one, which no name is. -/
def holdsName (c : ClassRecord) (name : Value) : Action Bool := do
  match name with
  | .set _ _ => return false
  | name => match unhashable? (← get) name with
    | some u => throw (.unhashable u)
    | none => return name.string?.elim false c.membership.contains

/-- The class of the receiver of a method of the base class. -/
def receiverClass (v : Value) : Action (Nat × ClassRecord) := do
  let w ← get
  match v with
  | .inst i => match w.classOf? i with
    | some c => match w.class? c with
      | some r => return (c, r)
      | none => throw .tooDeep
    | none => throw .tooDeep
  | v => throw (.noAttribute (.cls (className w v)) "type_name")

/-- Runs a method of the base class. -/
def callBase (h : Handler) (m : BaseMethod) (args : List Value) : Action Value := do
  match m, args with
  | .class_, [v] => return .cls (← receiverClass v).1
  | .type, [v] => return .ofString (← receiverClass v).2.typeName
  | .typeOf, [v, name] =>
    let (_, c) ← receiverClass v
    return .bool (← holdsName c name)
  | .debugString, [v] =>
    let (_, c) ← receiverClass v
    return .ofString (c.typeName ++ " instance (" ++ rawRepr c ++ ")")
  | .repr, [v] => h.call (← h.read v "to_debug_string") []
  | .class_, args => checkArity "Object.class_" ["self"] args.length; return .nil
  | .type, args => checkArity "Object.type" ["self"] args.length; return .nil
  | .typeOf, args => checkArity "Object.type_of" ["self", "name"] args.length; return .nil
  | .debugString, args => checkArity "Object.to_debug_string" ["self"] args.length; return .nil
  | .repr, args => checkArity "Object.__repr__" ["self"] args.length; return .nil

/-- Runs a function with all its arguments, the receiver first. -/
def apply (h : Handler) (b : Behaviour) (args : List Value) : Action Value := do
  match b, args with
  | .base m, args => callBase h m args
  | .returns v, _ | .constant v, _ => return v
  | .raises t, _ => throw (.raised t)
  | .announces lead, self :: _ =>
    let t ← h.call (← h.read self "type") []
    match t.string? with
    | some s => return .ofString (lead ++ s)
    | none => throw (.misuse .type
        ("can only concatenate str (not \"" ++ className (← get) t ++ "\") to str"))
  | .assigns key, [self] => write self key (.ofInt 0); return .nil
  | .assigns key, [self, v] => write self key v; return .nil
  | .assigns _, args => checkArity "method" ["self", "value"] args.length; return .nil
  | .reads key, self :: _ => h.read self key
  | .forwards m, self :: rest => h.call (← h.read self m) rest
  | .isOneOf names, args =>
    let w ← get
    return .bool (args.getLast?.elim false fun a => names.any fun n => (w.read n).equalInside (w.read a))
  | .itself, self :: _ => return self
  | .makes, cls :: rest => h.call cls rest
  | .namesClass, cls :: _ => h.read cls "type_name"
  | .probes owner, self :: _ =>
    match self with
    | .inst i =>
      if (← get).classOf? i = some owner then return .ofString "super ok"
      else throw (.misuse .type "super(type, obj): obj must be an instance or subtype of type")
    | _ => throw (.misuse .type "super(type, obj): obj must be an instance or subtype of type")
  | _, [] => checkArity "method" ["self"] 0; return .nil

/-- Makes an instance of a class. -/
def construct (h : Handler) (cls : Nat) (args : List Value) : Action Value := do
  let w ← get
  let some c := w.class? cls | throw .tooDeep
  match Fields.get? c.body "__init__" with
  | none =>
    if !args.isEmpty then throw (.takesNoArguments c.label)
    let (w, i) := w.addInstance cls
    set w
    return .inst i
  | some f =>
    let (w, i) := w.addInstance cls
    set w
    match ← h.call (bind w (.inst i) cls f) args with
    | .nil => return .inst i
    | r => throw (.misuse .type ("__init__() should return None, not '" ++ className (← get) r ++ "'"))

/-- The digits of a whole number with single underscores between them. -/
def integerDigits? : List Char → Option (List Char)
  | [] => none
  | [c] => if c.isDigit then some [c] else none
  | c :: '_' :: r => if c.isDigit then (integerDigits? r).map (c :: ·) else none
  | c :: r => if c.isDigit then (integerDigits? r).map (c :: ·) else none

/-- The whole number that a text spells, blanks around it allowed. -/
def integer? (s : String) : Option Int :=
  let (negative, ds) := Decimal.signed (Text.stripChars s.toList)
  (integerDigits? ds).map fun cs =>
    if negative then -(Decimal.digitsValue cs : Int) else Decimal.digitsValue cs

/-- Makes a whole number. -/
def callInteger (args : List Value) : Action Value := do
  match args with
  | [] => return .ofInt 0
  | [.bool b] => return .ofInt (if b then 1 else 0)
  | [.number (.int n)] => return .ofInt n
  | [.number (.fraction q)] => return .ofInt (Int.tdiv q.num q.den)
  | [.number (.float x)] =>
    match x.toRat? with
    | some q => return .ofInt (Int.tdiv q.num q.den)
    | none => throw (.misuse .overflow "cannot convert float infinity to integer")
  | [v] =>
    match v.text? with
    | some t => match integer? t.toString with
      | some n => return .ofInt n
      | none => throw (.invalidInteger t)
    | none => throw (.misuse .type ("int() argument must be a string, a bytes-like object or a real number, not '" ++
        className (← get) v ++ "'"))
  | args => throw (.misuse .type ("int() takes at most 2 arguments (" ++ toString args.length ++ " given)"))

/-- The length of a value that has one. -/
def length? (v : Value) : Option Nat :=
  match v with
  | .text t => some t.points.length
  | .bytes _ os => some os.length
  | .tuple xs | .list xs | .set _ xs | .view _ xs => some xs.length
  | .dict es | .enum _ _ es => some es.length
  | .range a b s => some (Value.rangeItems a b s).2.2
  | .foreign _ .object _ | .foreign _ .int _ => none
  | .foreign _ _ _ => some 0
  | .specimen s => if s.isMapping then some 0 else none
  | _ => none

/-- Calls a standard thing. -/
def callSpecimen (s : Specimen) (args : List Value) : Action Value := do
  match s.name, args with
  | "int", args => callInteger args
  | "callable_instance", [] => return .ofInt 1
  | "callable_instance", args => checkArity "_Callable.__call__" ["self"] (args.length + 1); return .nil
  | "len", [v] =>
    let w ← get
    match length? (w.read v) with
    | some n => return .ofInt n
    | none => throw (.misuse .type ("object of type '" ++ className w v ++ "' has no len()"))
  | "len", args => throw (.misuse .type ("len() takes exactly one argument (" ++ toString args.length ++ " given)"))
  | "object_class", [] => return .specimen ⟨"object", "object", .object, false, true, false⟩
  | "object_class", _ => throw (.takesNoArguments "object")
  | "type", [.cls _] => return .specimen ⟨"ClassDescriptor", "type", .cls, true, true, false⟩
  | _, args =>
    if s.callable then checkArity s.name [] args.length; return .nil
    else throw (.notCallable s.className)

/-- Calls a method of a closed enumeration. -/
def callEnum (h : Handler) (name : String) (members : List (Value × Value)) (method : String) (args : List Value) :
    Action Value := do
  let w ← get
  match method, args with
  | "keys", [] => return .view "KeysView" (members.map (·.1))
  | "values", [] => return .view "ValuesView" (members.map (·.2))
  | "items", [] => return .view "ItemsView" (members.map fun e => .tuple [e.1, e.2])
  | "__len__", [] => return .ofInt members.length
  | "get", [key] => getItemWith h name members key .nil
  | "get", [key, default] => getItemWith h name members key default
  | "has_value", [v] =>
    return .bool (members.any fun e => e.2.category = v.category && (w.read e.2).equal (w.read v))
  | "__getitem__", [key] => readItemWith h name members key
  | "__setitem__", [key, _] | "__setattr__", [key, _] => refuseWith h .write name key
  | "__delitem__", [key] | "__delattr__", [key] => refuseWith h .delete name key
  | "__contains__", [key] =>
    match unhashable? w key with
    | some c => throw (.unhashable c)
    | none => return .bool (memberOf? members key).isSome
  | "get", args => checkArity "Mapping.get" ["self", "key"] (args.length + 1); return .nil
  | "has_value", args => checkArity "FrozenEnum.has_value" ["self", "value"] (args.length + 1); return .nil
  | m, args => checkArity ("Mapping." ++ m) ["self"] (args.length + 1); return .nil

/-- Calls a method of a shared dictionary. -/
def callDict (address : Nat) (entries : List (Value × Value)) (method : String) (args : List Value) : Action Value := do
  let w ← get
  let same (key : Value) (e : Value × Value) : Bool := (w.read e.1).equalInside (w.read key)
  match method, args with
  | "keys", [] => return .view "dict_keys" (entries.map (·.1))
  | "values", [] => return .view "dict_values" (entries.map (·.2))
  | "items", [] => return .view "dict_items" (entries.map fun e => .tuple [e.1, e.2])
  | "copy", [] =>
    let (w, i) := w.addCell (.dict entries)
    set w
    return .shared .dict i
  | "clear", [] => set (w.setCell address (.dict [])); return .nil
  | "get", key :: rest | "pop", key :: rest | "setdefault", key :: rest =>
    if let some c := unhashable? w key then throw (.unhashable c)
    match entries.find? (same key) with
    | some e =>
      if method = "pop" then set (w.setCell address (.dict (entries.filter fun f => !same key f)))
      return e.2
    | none =>
      if method = "pop" ∧ rest.isEmpty then throw (.misuse .key (w.read key).literal)
      if method = "setdefault" then set (w.setCell address (.dict (entries ++ [(key, rest.headD .nil)])))
      return rest.headD .nil
  | "update", [other] =>
    match (w.read other).entries? with
    | some es =>
      let put (t : List (Value × Value)) (e : Value × Value) : List (Value × Value) :=
        if t.any (same e.1) then t.map fun f => if same e.1 f then (f.1, e.2) else f else t ++ [e]
      set (w.setCell address (.dict (es.foldl put entries)))
      return .nil
    | none => throw (.misuse .type ("'" ++ className w other ++ "' object is not iterable"))
  | "update", [] => return .nil
  | m, args => throw (.misuse .type ("dict." ++ m ++ "() takes no arguments (" ++ toString args.length ++ " given)"))

/-- Calls a method of a shared list. -/
def callList (address : Nat) (items : List Value) (method : String) (args : List Value) : Action Value := do
  let w ← get
  match method, args with
  | "append", [v] => set (w.setCell address (.list (items ++ [v]))); return .nil
  | "extend", [v] =>
    match w.read v with
    | .list xs | .tuple xs | .set _ xs => set (w.setCell address (.list (items ++ xs))); return .nil
    | _ => throw (.misuse .type ("'" ++ className w v ++ "' object is not iterable"))
  | "insert", [.number (.int n), v] =>
    let at_ : Nat := if n < 0 then (items.length + n).toNat else n.toNat
    set (w.setCell address (.list (items.take at_ ++ v :: items.drop at_)))
    return .nil
  | "pop", [] =>
    match items.getLast? with
    | some v => set (w.setCell address (.list items.dropLast)); return v
    | none => throw (.misuse .lookup "pop from empty list")
  | "copy", [] =>
    let (w, i) := w.addCell (.list items)
    set w
    return .shared .list i
  | "clear", [] => set (w.setCell address (.list [])); return .nil
  | "reverse", [] => set (w.setCell address (.list items.reverse)); return .nil
  | m, args =>
    throw (.misuse .type ("list." ++ m ++ "() takes exactly one argument (" ++ toString args.length ++ " given)"))

/-- Asks an outside object a type question. -/
def callForeign (i : Nat) (question : String) (args : List Value) : Action Value := do
  let w ← get
  let some r := w.foreigns[i]? | throw .tooDeep
  let record (w : World) : World := { w with asked := w.asked ++ args.map fun a => (i, a) }
  match if question = "type" then r.type else r.typeOf with
  | .returns v => set (record w); return v
  | .raises t => throw (.raised t)
  | .names accepted =>
    set (record w)
    return .bool (args.getLast?.elim false fun a => accepted.any fun n => (w.read n).equalInside (w.read a))
  | _ => throw (.notCallable "method")

/-- Calls a method that is not written by the user. -/
def callBuiltIn (h : Handler) (receiver : Value) (method : String) (args : List Value) : Action Value := do
  let w ← get
  match receiver with
  | .enum _ n ms => callEnum h n ms method args
  | .foreign i _ _ => callForeign i method args
  | .shared k a =>
    match w.cells[a]? with
    | some (.dict es) => callDict a es method args
    | some (.list xs) => callList a xs method args
    | none => throw (.notCallable (containerMethods k).toString)
  | v =>
    match method, args with
    | "__repr__", [] | "__str__", [] => return .ofString (← h.repr v)
    | "__eq__", [x] => return .bool ((w.read v).equal (w.read x))
    | _, _ => return .nil

/-- Calls a value. -/
def callWith (h : Handler) (f : Value) (args : List Value) : Action Value := do
  let w ← get
  if !isCallable w f then throw (.notCallable (className w f))
  match f with
  | .method r (.inr m) => callBuiltIn h r m args
  | .method r (.inl i) => match w.behaviours[i]? with
    | some b => apply h b (r :: args)
    | none => throw .tooDeep
  | .function i => match w.behaviours[i]? with
    | some b => apply h b args
    | none => throw .tooDeep
  | .cls i => construct h i args
  | .specimen s => callSpecimen s args
  | .inst i => h.call (← h.read (.inst i) "__call__") args
  | v => throw (.notCallable (className w v))

/-! ## Printing -/

/-- The form of a value that is no container. -/
def leafRepr (h : Handler) (v : Value) : Action String := do
  let w ← get
  match v with
  | .inst i =>
    let some c := (w.classOf? i).bind w.class? | throw .tooDeep
    match Fields.get? c.body "__repr__" with
    | none => return rawRepr c
    | some f =>
      let r ← h.call (bind w v (w.classOf? i |>.getD 0) f) []
      match r.string? with
      | some s => return s
      | none => throw (.misuse .type ("__repr__ returned non-string (type " ++ className (← get) r ++ ")"))
  | .cls i => match w.class? i with
    | some c => return "<offspring class " ++ c.typeName ++ ">"
    | none => throw .tooDeep
  | .function _ => return "<function at 0x?>"
  | .method _ _ => return "<bound method>"
  | v => if isTooLong v then throw .digitLimit else return v.leafText

/-- The literal form of a value. -/
def reprWith (h : Handler) (v : Value) : Action String := do
  Value.render (leafRepr h) ((← get).read v)

/-! ## The knot -/

/-- The handler for uses nested at most `depth` deep. -/
def handler : Nat → Handler
  | 0 => { read := fun _ _ => throw .tooDeep, call := fun _ _ => throw .tooDeep, repr := fun _ => throw .tooDeep }
  | depth + 1 => {
      read := fun v key => readWith (handler depth) v key
      call := fun f args => callWith (handler depth) f args
      repr := fun v => reprWith (handler depth) v }

/-- How deep uses may nest. -/
def maxDepth : Nat := 300

/-- Reads an attribute. -/
def read (v : Value) (key : String) : Action Value := (handler maxDepth).read v key

/-- Calls a value. -/
def call (f : Value) (args : List Value) : Action Value := (handler maxDepth).call f args

/-- The literal form of a value. -/
def repr (v : Value) : Action String := (handler maxDepth).repr v

/-- The text of a value where it is shown. -/
def shown (v : Value) : Action String := shownWith (handler maxDepth) v

/-- Reads an item of a closed enumeration. -/
def readItem (name : String) (members : List (Value × Value)) (key : Value) : Action Value :=
  readItemWith (handler maxDepth) name members key

/-- Reads an attribute that may be missing. -/
def read? (v : Value) (key : String) : Action (Option Value) :=
  tryCatch (some <$> read v key) fun e => if e.kind.isA .member then return none else throw e

end Access

end Lineage
