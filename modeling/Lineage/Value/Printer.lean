import Lineage.Value
import Lineage.Text.Quoted

/-!
# Printer — the literal form of a value

Containers are printed in the notation that reads them back: a tuple of one item keeps its comma, an empty set is
spelled out since braces alone are an empty dictionary. The form of anything that is not a container is asked
from the caller, because an instance prints itself by running a method of its class; `Value.leafText` answers
for all that needs no world.
-/

set_option autoImplicit false

namespace Lineage.Value

/-- The texts one after the other with commas between them. -/
def commaSeparated (ts : List String) : String := String.intercalate ", " ts

/-- A tuple: one item keeps a comma behind it. -/
def tupleText (ts : List String) : String :=
  match ts with
  | [t] => "(" ++ t ++ ",)"
  | ts => "(" ++ commaSeparated ts ++ ")"

/-- A set: braces, or the call that makes an empty one. -/
def setText (frozen : Bool) (ts : List String) : String :=
  let body := if ts.isEmpty then "" else "\x7b" ++ commaSeparated ts ++ "\x7d"
  if frozen then "frozenset(" ++ body ++ ")" else if ts.isEmpty then "set()" else body

/-- A dictionary. -/
def dictText (ts : List String) : String := "\x7b" ++ commaSeparated ts ++ "\x7d"

/-- A closed enumeration: its name and its members. -/
def enumText (name : String) (ts : List String) : String :=
  "FrozenEnum(" ++ Text.quote name ++ ", " ++ dictText ts ++ ")"

/-- What an outside object made of empty data prints as. -/
def foreignText : ForeignBase → String
  | .text => "''"
  | .int => "0"
  | .list => "[]"
  | .dict => "\x7b\x7d"
  | _ => "<Foreign object at 0x?>"

/-- The literal form of bytes. -/
def bytesText (form : ByteForm) (octets : List Nat) : String :=
  match form with
  | .fixed => Text.quotedOctets octets
  | .growable => "bytearray(" ++ Text.quotedOctets octets ++ ")"
  | .window => "<memory at 0x?>"

/-- What a standard thing prints as. -/
def specimenText (s : Specimen) : String :=
  match s.category with
  | .cls => "<class '" ++ s.name ++ "'>"
  | .function => "<built-in function " ++ s.name ++ ">"
  | _ => if s.name = "ellipsis" then "Ellipsis" else if s.name = "not_implemented" then "NotImplemented"
    else if s.isMapping then "\x7b\x7d" else "<" ++ s.className ++ " object at 0x?>"

/-- The literal form of a value that is no container. -/
def leafText : Value → String
  | nil => "None"
  | bool b => if b then "True" else "False"
  | number n => n.text
  | text t => t.quoted
  | bytes f os => bytesText f os
  | range a b s =>
    "range(" ++ toString a ++ ", " ++ toString b ++ (if s = 1 then "" else ", " ++ toString s) ++ ")"
  | shared .list _ => "[...]"
  | shared .dict _ => "\x7b...\x7d"
  | specimen s => specimenText s
  | view c _ => "<" ++ c ++ " object at 0x?>"
  | foreign _ b _ => foreignText b
  | _ => "<object at 0x?>"

variable {m : Type → Type} [Monad m]

mutual

/-- The literal form of a value, the parts in order, with the form of what is no container asked from `leaf`. -/
def render (leaf : Value → m String) (v : Value) : m String :=
  match v with
  | tuple xs => return tupleText (← renderAll leaf xs)
  | list xs => return "[" ++ commaSeparated (← renderAll leaf xs) ++ "]"
  | set frozen xs => return setText frozen (← renderAll leaf xs)
  | dict es => return dictText (← renderEntries leaf es)
  | enum _ name es => return enumText name (← renderEntries leaf es)
  | v => leaf v
termination_by structural v

/-- The literal forms of the items of a sequence. -/
def renderAll (leaf : Value → m String) (xs : List Value) : m (List String) :=
  match xs with
  | [] => return []
  | x :: xs => return (← render leaf x) :: (← renderAll leaf xs)
termination_by structural xs

/-- The literal forms of the entries of a dictionary. -/
def renderEntries (leaf : Value → m String) (es : List (Value × Value)) : m (List String) :=
  match es with
  | [] => return []
  | (k, v) :: es => do
    let k ← render leaf k
    let v ← render leaf v
    return (k ++ ": " ++ v) :: (← renderEntries leaf es)
termination_by structural es

end

/-- The literal form of data. -/
def literal (v : Value) : String := Id.run (render (fun v => pure v.leafText) v)

end Lineage.Value
