import Lineage.Access

/-!
# Construction — making an error by hand

A caller may make an error of one of the library's five families itself, with a message and the facts that the family
carries. Each family names the parameters it takes; arguments that do not fit them are refused in a fixed order:
unknown names first, then too many arguments, then missing ones.
-/

set_option autoImplicit false

namespace Lineage

/-- The parameters of a family: those given by position, and those given by name, with or without a default. -/
structure Signature where
  positional : List String
  requiredNames : List String
  optionalNames : List String

/-- An error made by hand: its text, and the facts it carries. -/
structure MadeError where
  shown : String
  facts : Fields
  lineage : List String

namespace ErrorKind

/-- The families that can be made by hand. -/
def makeable : List ErrorKind := [library, argument, typeMismatch, duplicateDefinition, enumAccess]

/-- The family with a name. -/
def makeable? (name : String) : Option ErrorKind := makeable.find? (·.name = name)

/-- The parameters of a family; the plain one takes any arguments and has none. -/
def signature? : ErrorKind → Option Signature
  | argument => some ⟨["message"], [], ["index", "expected", "actual", "location"]⟩
  | typeMismatch => some ⟨["message"], ["expected", "actual"], ["label", "location"]⟩
  | duplicateDefinition => some ⟨["name"], [], []⟩
  | enumAccess => some ⟨["message"], ["enum_name", "key"], []⟩
  | _ => none

/-- The names of the families that a family belongs to, up to the root of everything. -/
def lineage (k : ErrorKind) : List String := k.ancestry.map name ++ ["Exception", "BaseException", "object"]

end ErrorKind

namespace Signature

/-- Names in quotes, the last two joined by a word. -/
def quotedNames (names : List String) : String :=
  match names.map fun n => "'" ++ n ++ "'" with
  | [] => ""
  | [a] => a
  | [a, b] => a ++ " and " ++ b
  | ns => String.intercalate ", " ns.dropLast ++ ", and " ++ ns.getLastD ""

/-- The ending of a plural. -/
def plural (n : Nat) : String := if n = 1 then "" else "s"

/-- The complaint about missing arguments of a sort. -/
def missingText (function sort : String) (names : List String) : String :=
  function ++ "() missing " ++ toString names.length ++ " required " ++ sort ++ " argument" ++ plural names.length ++ ": " ++
    quotedNames names

/-- The complaint about too many arguments. -/
def surplusText (s : Signature) (function : String) (given named : Nat) : String :=
  let takes := s.positional.length + 1
  let extra := if named = 0 then "" else
    " positional argument" ++ plural given ++ " (and " ++ toString named ++ " keyword-only argument" ++ plural named ++ ")"
  function ++ "() takes " ++ toString takes ++ " positional argument" ++ plural takes ++ " but " ++ toString given ++ extra ++
    (if given = 1 ∧ named = 0 then " was" else " were") ++ " given"

/-- The arguments by name, or the first complaint about them. -/
def bind (s : Signature) (function : String) (args : List Value) (named : Fields) : Except String Fields :=
  let known := s.positional ++ s.requiredNames ++ s.optionalNames
  let taken := s.positional.take args.length
  match named.find? fun e => !known.contains e.1 || taken.contains e.1 with
  | some (k, _) =>
    if known.contains k then .error (function ++ "() got multiple values for argument '" ++ k ++ "'")
    else .error (function ++ "() got an unexpected keyword argument '" ++ k ++ "'")
  | none =>
    let byName := (s.requiredNames ++ s.optionalNames).filter (Fields.has named)
    let missing := (s.positional.drop args.length).filter fun n => !Fields.has named n
    let missingNames := s.requiredNames.filter fun n => !Fields.has named n
    if s.positional.length < args.length then .error (s.surplusText function (args.length + 1) byName.length)
    else if !missing.isEmpty then .error (missingText function "positional" missing)
    else if !missingNames.isEmpty then .error (missingText function "keyword-only" missingNames)
    else
      let given := s.positional.zip args ++ named
      .ok (known.map fun k => (k, (Fields.get? given k).getD .nil))

end Signature

namespace ErrorKind

/-- Makes an error of a family. -/
def make (k : ErrorKind) (args : List Value) (named : Fields) : Action MadeError := do
  match k.signature? with
  | none =>
    if !named.isEmpty then throw (.misuse .type (k.name ++ "() takes no keyword arguments"))
    let shown ← match args with
      | [] => pure ""
      | [v] => Access.shown v
      | vs => Access.repr (.tuple vs)
    return ⟨shown, [], k.lineage⟩
  | some s =>
    match s.bind (k.name ++ ".__init__") args named with
    | .error t => throw (.misuse .type t)
    | .ok facts =>
      let first ← Access.shown ((Fields.get? facts (s.positional.headD "")).getD .nil)
      match k with
      | duplicateDefinition => return ⟨(Failure.duplicateEnum first).message, facts, k.lineage⟩
      | _ => return ⟨first, Fields.erase facts "message", k.lineage⟩

end ErrorKind

end Lineage
