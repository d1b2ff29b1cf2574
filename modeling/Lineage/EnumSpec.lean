import Lineage.Fields
import Lineage.Literal
import Lineage.Text.Blank
import Lineage.Union

/-!
# EnumSpec — closed enumerations written as text

An enumeration is written `NAME=KEY:VALUE,KEY:VALUE`. The name ends at the first `=`, pieces are separated by commas, and
a key ends at the first `:` of its piece; blanks around names, keys and values do not count, blank pieces are
passed over, and a value is a literal. Of a key that is repeated the first place and the last value count.
-/

set_option autoImplicit false

namespace Lineage.EnumSpec

/-- The pieces of a text between commas. -/
def pieces : List Char → List (List Char)
  | [] => [[]]
  | c :: r =>
    if c = ',' then [] :: pieces r
    else match pieces r with
      | p :: ps => (c :: p) :: ps
      | [] => [[c]]

/-- There is always a piece. -/
theorem pieces_ne_nil (cs : List Char) : pieces cs ≠ [] := by
  cases cs with
  | nil => simp [pieces]
  | cons c r => unfold pieces; split <;> (try split) <;> simp

/-- The pieces of a body that are not blank, without the blanks around them. -/
def filled (body : List Char) : List (List Char) :=
  ((pieces body).map Text.stripChars).filter (!·.isEmpty)

/-- The key and the value text of a piece, if it has a key. -/
def keyed? (piece : List Char) : Option (String × String) :=
  match Union.cutAt [':'] piece with
  | none => none
  | some (k, v) =>
    let key := Text.stripChars k
    if key.isEmpty then none else some (String.ofList key, String.ofList (Text.stripChars v))

/-- The members that pieces spell, laid over those read so far. -/
def members (name : String) (sofar : List (String × Value)) : List (List Char) → Except Failure (List (String × Value))
  | [] => .ok sofar
  | piece :: r => match keyed? piece with
    | none => .error (.malformedMember (String.ofList piece) name)
    | some (key, text) => do
      let v ← Literal.read text
      members name (Fields.set sofar key v) r

/-- The name and the body of an enumeration, if the text has both. -/
def headed? (spec : String) : Option (String × List Char) :=
  match Union.cutAt ['='] spec.toList with
  | none => none
  | some (n, body) =>
    let name := Text.stripChars n
    if name.isEmpty then none else some (String.ofList name, body)

/-- The enumeration that a text spells. -/
def read (spec : String) : Except Failure (String × List (String × Value)) :=
  match headed? spec with
  | none => .error (.malformedSpec spec)
  | some (name, body) => (members name [] (filled body)).map fun ms => (name, ms)

end Lineage.EnumSpec
