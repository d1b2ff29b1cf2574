/-!
# Category — the nine native categories

Every value is of exactly one native category. Its name is the first thing a type expression is compared with,
and only the composite categories, tables and objects, may answer type questions for themselves.
-/

set_option autoImplicit false

namespace Lineage

/-- The native category of a value. -/
inductive Category where
  | nil
  | boolean
  | number
  | string
  | bytes
  | cls
  | function
  | table
  | object
deriving DecidableEq, Repr, Inhabited

namespace Category

/-- The type name of a category. -/
def name : Category → String
  | nil => "nil"
  | boolean => "boolean"
  | number => "number"
  | string => "string"
  | bytes => "bytes"
  | .cls => "class"
  | function => "function"
  | table => "table"
  | object => "object"

/-- Whether values of the category may carry type capabilities of their own. -/
def isComposite : Category → Bool
  | table | object => true
  | _ => false

theorem name_inj {a b : Category} : a.name = b.name ↔ a = b := by
  cases a <;> cases b <;> simp [name]

theorem name_ne_empty (a : Category) : a.name ≠ "" := by
  cases a <;> simp [name]

end Category

end Lineage
