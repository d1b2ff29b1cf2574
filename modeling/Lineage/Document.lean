import Lineage.Fields
import Lineage.Number.Shortest

/-!
# Document — data that is exchanged with the outside

Settings are read from documents and reports are written as documents: trees of constants, numbers, texts, lists and
tables that keep the order of their keys. A document may hold a moment, a point in time of which only the kind
matters here.

Whole numbers and doubles are told apart, since `1` and `1.0` are written differently.
-/

set_option autoImplicit false

namespace Lineage

/-- The kinds of points in time. -/
inductive Moment where
  | date
  | time
  | datetime
deriving DecidableEq, Repr

/-- The name of a kind of moment. -/
def Moment.name : Moment → String
  | date => "date"
  | time => "time"
  | datetime => "datetime"

/-- A tree of plain data. -/
inductive Document where
  | null
  | bool (b : Bool)
  | int (n : Int)
  | float (x : Binary64)
  | text (s : String)
  | moment (kind : Moment)
  | list (items : List Document)
  | table (entries : List (String × Document))
deriving Inhabited

namespace Document

/-- The entries of a table; anything else has none. -/
def entries : Document → List (String × Document)
  | table es => es
  | _ => []

/-- The items of a list; anything else has none. -/
def items : Document → List Document
  | list xs => xs
  | _ => []

/-- What a table holds under a key. -/
def get? (d : Document) (key : String) : Option Document := Fields.get? d.entries key

/-- The text that a document is. -/
def text? : Document → Option String
  | text s => some s
  | _ => none

/-- The list of texts. -/
def ofTexts (ts : List String) : Document := list (ts.map text)

/-- A text, or null. -/
def ofText? (t : Option String) : Document :=
  match t with
  | some s => text s
  | none => null

theorem get?_table (es : List (String × Document)) (key : String) : (table es).get? key = Fields.get? es key := rfl

end Document

end Lineage
