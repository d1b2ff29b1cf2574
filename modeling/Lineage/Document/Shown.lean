import Lineage.Document
import Lineage.Value.Equality
import Lineage.Value.Printer

/-!
# Shown — documents as values

A document is a value too: its tables are dictionaries with text keys. This is how it is shown where it stands in running
text, how two documents are compared, and what a document counts as when a yes or no is asked of it.
-/

set_option autoImplicit false

namespace Lineage.Document

mutual

/-- The value that a document is. -/
def toValue (d : Document) : Value :=
  match d with
  | null => .nil
  | bool b => .bool b
  | int n => .ofInt n
  | float x => .number (.float x)
  | text s => .ofString s
  | moment k => .specimen ⟨k.name, k.name, .object, false, true, false⟩
  | list xs => .list (toValues xs)
  | table es => .dict (toEntries es)
termination_by structural d

/-- The values that documents are. -/
def toValues (xs : List Document) : List Value :=
  match xs with
  | [] => []
  | x :: xs => toValue x :: toValues xs
termination_by structural xs

/-- The entries that a table is. -/
def toEntries (es : List (String × Document)) : List (Value × Value) :=
  match es with
  | [] => []
  | (k, d) :: es => (.ofString k, toValue d) :: toEntries es
termination_by structural es

end

/-- The text of a document in running text: a text stands bare, everything else in literal form. -/
def shown : Document → String
  | text s => s
  | d => d.toValue.literal

/-- Whether a document counts as true. -/
def isTruthy (d : Document) : Bool := d.toValue.isTruthy

/-- Whether two documents are equal as values. -/
def equal (a b : Document) : Bool := a.toValue.equal b.toValue

end Lineage.Document
