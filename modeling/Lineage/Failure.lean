import Lineage.Text.Quoted
import Lineage.Value

/-!
# Failure — what can go wrong, by cause

Every refusal of the library is a cause with the data that explains it. `Failure.kind` places a cause in the family
of error classes that callers catch, `Failure.message` is its wording, and `Failure.details` are the facts
a caller may read off it. Which families a kind belongs to is `ErrorKind.ancestry`; it decides what a
caller that expects, say, a value error will catch.
-/

set_option autoImplicit false

namespace Lineage

/-- A place on the call stack: a function of the user, one of the library, or one outside of both. -/
inductive Frame where
  | user (name : String)
  | library (name module : String)
  | outside
deriving DecidableEq, Repr

/-- The families of errors. -/
inductive ErrorKind where
  | library
  | argument
  | typeMismatch
  | duplicateDefinition
  | enumAccess
  | type
  | value
  | member
  | key
  | lookup
  | runtime
  | assertion
  | importing
  | recursion
  | overflow
  | arithmetic
  | decoding
  | unicode
  | settings
  | validation
  | usage
  | markup
  | rendering
deriving DecidableEq, Repr

namespace ErrorKind

/-- The name a kind is known by. -/
def name : ErrorKind → String
  | library => "OffspringError"
  | argument => "ArgumentError"
  | typeMismatch => "TypeMismatchError"
  | duplicateDefinition => "DuplicateDefinitionError"
  | enumAccess => "EnumAccessError"
  | type => "TypeError"
  | value => "ValueError"
  | member => "AttributeError"
  | key => "KeyError"
  | lookup => "LookupError"
  | runtime => "RuntimeError"
  | assertion => "AssertionError"
  | importing => "ImportError"
  | recursion => "RecursionError"
  | overflow => "OverflowError"
  | arithmetic => "ArithmeticError"
  | decoding => "UnicodeDecodeError"
  | unicode => "UnicodeError"
  | settings => "SettingsError"
  | validation => "ValidationError"
  | usage => "ClickException"
  | markup => "MarkupError"
  | rendering => "NotRenderableError"

/-- The kinds that a kind belongs to, itself first. -/
def ancestry : ErrorKind → List ErrorKind
  | library => [library]
  | argument => [argument, library, type]
  | typeMismatch => [typeMismatch, library, type]
  | duplicateDefinition => [duplicateDefinition, library, value]
  | enumAccess => [enumAccess, library, key, lookup, member]
  | key => [key, lookup]
  | recursion => [recursion, runtime]
  | overflow => [overflow, arithmetic]
  | decoding => [decoding, unicode, value]
  | unicode => [unicode, value]
  | settings => [settings, value]
  | validation => [validation, value]
  | k => [k]

/-- Whether errors of the first kind are errors of the second. -/
def isA (a b : ErrorKind) : Bool := a.ancestry.contains b

theorem isA_self (a : ErrorKind) : a.isA a = true := by cases a <;> rfl

end ErrorKind

/-- The ways to touch a member of a closed enumeration. -/
inductive EnumTouch where
  | read
  | write
  | delete
deriving DecidableEq, Repr

/-- Whose attribute is missing. -/
inductive Owner where
  | inst (className : String)
  | cls (name : String)
deriving DecidableEq, Repr

/-- One complaint about a field of a settings section or a result. -/
structure Complaint where
  path : List (String ⊕ Nat)
  type : String
  message : String
deriving DecidableEq, Repr

/-- The cause of an error. -/
inductive Failure where
  /-- A value at a numbered position does not satisfy its type expression. -/
  | argument (index : Value) (shown : String) (expected actual : String) (site : Option Frame)
  /-- A parent is no class of this library. -/
  | parentNotClass (index : Nat) (actual : String) (site : Option Frame)
  | emptyClassName (site : Option Frame)
  /-- A class body defines one of the two keys that the library keeps for itself. -/
  | reservedKey (className key : String) (site : Option Frame)
  | enumNameNotText (className : String)
  | enumMembersNotMapping (name className : String)
  /-- A value, perhaps with a label, does not satisfy its type expression. -/
  | typeMismatch (label : Value) (labelText : String) (expected actual : String) (site : Option Frame)
  | duplicateEnum (name : String)
  | enumKey (touch : EnumTouch) (enum : String) (key : Value) (shown : String)
  | unhashable (className : String)
  | notCallable (className : String)
  | noAttribute (owner : Owner) (key : String)
  | privateAttribute (key : String)
  /-- A class was asked to change its type name or its membership. -/
  | fixedAtCreation (key className : String)
  | noSetter (property : String)
  /-- A function of the user raised an error of its own. -/
  | raised (text : String)
  | takesNoArguments (name : String)
  | badDelimiter
  | emptySeparator
  | invalidInteger (text : Text)
  | unknownName (name : String)
  | stackTooShallow
  | malformedSpec (spec : String)
  | malformedMember (pair name : String)
  | refusedPlugin
  | unknownPlugin
  | moduleNotFound (name : String)
  | emptyModuleName
  | relativeModule (name : String)
  | brokenEntryPoint (text : String)
  /-- A text in the place of a configuration document is none. -/
  | invalidDocument (path reason : String)
  | unparsableSetting (field : String)
  | invalid (complaints : List Complaint)
  | unmatchedTag (tag : String) (position : Nat)
  | nothingToClose (tag : String) (position : Nat)
  | digitLimit
  | tooDeep
  /-- A misuse of a built-in value, reported in the words of that value. -/
  | misuse (kind : ErrorKind) (text : String)

namespace Failure

/-- The family of a cause. -/
def kind : Failure → ErrorKind
  | argument .. | parentNotClass .. | emptyClassName _ | reservedKey .. | enumNameNotText _
  | enumMembersNotMapping .. => .argument
  | typeMismatch .. => .typeMismatch
  | duplicateEnum _ => .duplicateDefinition
  | enumKey .. => .enumAccess
  | unhashable _ | notCallable _ | takesNoArguments _ | relativeModule _ => .type
  | noAttribute .. | privateAttribute _ | fixedAtCreation .. | noSetter _ => .member
  | raised _ => .runtime
  | badDelimiter | emptySeparator | invalidInteger _ | stackTooShallow | malformedSpec _ | malformedMember ..
  | refusedPlugin | emptyModuleName | digitLimit => .value
  | unknownName _ => .key
  | unknownPlugin => .assertion
  | moduleNotFound _ | brokenEntryPoint _ => .importing
  | invalidDocument .. => .usage
  | unparsableSetting _ => .settings
  | invalid _ => .validation
  | unmatchedTag .. | nothingToClose .. => .markup
  | tooDeep => .recursion
  | misuse k _ => k

/-- The wording of a type complaint about a numbered argument. -/
def argumentText (index expected actual : String) : String :=
  "The type of argument #" ++ index ++ " was expected to be '" ++ expected ++ "' but was '" ++ actual ++ "'"

/-- The wording of a cause. -/
def message : Failure → String
  | argument _ shown expected actual _ => argumentText shown expected actual
  | parentNotClass index actual _ =>
    "The type of argument #" ++ toString index ++ " was expected to be an offspring class but was '" ++ actual ++ "'"
  | emptyClassName _ => "Class name must not be empty"
  | reservedKey c k _ => "Class " ++ c ++ " must not define " ++ k
  | enumNameNotText c => "Enum name must be a string, got " ++ c
  | enumMembersNotMapping n c => "Enum " ++ n ++ " members must be a mapping, got " ++ c
  | typeMismatch _ label expected actual _ =>
    "The type" ++ (if label = "" then "" else " of " ++ label) ++ " should be '" ++ expected ++ "' but was '" ++
      actual ++ "'"
  | duplicateEnum n => "Enum " ++ n ++ " is already defined!"
  | enumKey .read e _ k => "Key " ++ k ++ " does not exist in enum " ++ e
  | enumKey .write e _ k => "Attempt to extend enum " ++ e ++ " with key " ++ k
  | enumKey .delete e _ k => "Attempt to remove key " ++ k ++ " from enum " ++ e
  | unhashable c => "unhashable type: '" ++ c ++ "'"
  | notCallable c => "'" ++ c ++ "' object is not callable"
  | noAttribute (.inst c) k => "'" ++ c ++ "' object has no attribute '" ++ k ++ "'"
  | noAttribute (.cls c) k => "type object '" ++ c ++ "' has no attribute '" ++ k ++ "'"
  | privateAttribute k => k
  | fixedAtCreation k c => k ++ " of " ++ c ++ " is fixed at class creation"
  | noSetter p => "property '" ++ p ++ "' of 'ClassDescriptor' object has no setter"
  | raised t => t
  | takesNoArguments n => n ++ "() takes no arguments"
  | badDelimiter => "Union delimiter must not be empty"
  | emptySeparator => "empty separator"
  | invalidInteger t => "invalid literal for int() with base 10: " ++ t.quoted
  | unknownName n => Text.quote n
  | stackTooShallow => "call stack is not deep enough"
  | malformedSpec s => "Invalid enum spec " ++ Text.quote s ++ ": expected NAME=KEY:VALUE,..."
  | malformedMember p n => "Invalid enum member " ++ Text.quote p ++ " in " ++ n ++ ": expected KEY:VALUE"
  | refusedPlugin => "refused"
  | unknownPlugin => "plugin is not registered"
  | moduleNotFound n => "No module named " ++ Text.quote n
  | emptyModuleName => "Empty module name"
  | relativeModule n => "the 'package' argument is required to perform a relative import for " ++ Text.quote n
  | brokenEntryPoint t => t
  | invalidDocument p r => "Invalid TOML in " ++ p ++ ": " ++ r
  | unparsableSetting f => "error parsing value for field \"" ++ f ++ "\" from source \"EnvSettingsSource\""
  | invalid cs => toString cs.length ++ " validation errors"
  | unmatchedTag t p => "closing tag '" ++ t ++ "' at position " ++ toString p ++ " doesn't match any open tag"
  | nothingToClose t p => "closing tag '" ++ t ++ "' at position " ++ toString p ++ " has nothing to close"
  | digitLimit =>
    "Exceeds the limit (4300 digits) for integer string conversion; use sys.set_int_max_str_digits() to increase the limit"
  | tooDeep => "maximum recursion depth exceeded"
  | misuse _ t => t

/-- A text or nothing, as a value. -/
def optionalText (t : Option String) : Value :=
  match t with
  | some s => .ofString s
  | none => .nil

/-- The facts an argument error carries. -/
def argumentDetails (index : Value) (expected actual : Option String) : List (String × Value) :=
  [("index", index), ("expected", optionalText expected), ("actual", optionalText actual)]

/-- The named facts that a cause carries besides its place. -/
def details : Failure → List (String × Value)
  | argument i _ e a _ => argumentDetails i (some e) (some a)
  | parentNotClass i a _ => argumentDetails (.ofInt i) (some "class") (some a)
  | emptyClassName _ => argumentDetails (.ofInt 1) (some "string") none
  | reservedKey _ _ _ => argumentDetails .nil none none
  | enumNameNotText _ => argumentDetails (.ofInt 1) (some "string") none
  | enumMembersNotMapping _ _ => argumentDetails (.ofInt 2) (some "table") none
  | typeMismatch l _ e a _ => [("label", l), ("expected", .ofString e), ("actual", .ofString a)]
  | duplicateEnum n => [("name", .ofString n)]
  | enumKey _ e k _ => [("enum_name", .ofString e), ("key", k)]
  | _ => []

/-- The place a located cause is attributed to; `none` for a cause that has no place at all. -/
def place? : Failure → Option (Option Frame)
  | argument _ _ _ _ s | parentNotClass _ _ s | emptyClassName s | reservedKey _ _ s | typeMismatch _ _ _ _ s => some s
  | enumNameNotText _ | enumMembersNotMapping _ _ => some none
  | _ => none

end Failure

end Lineage
