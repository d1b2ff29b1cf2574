import Lineage.Document
import Lineage.Failure

/-!
# Validation — documents checked against the shape that is expected

A check turns a document into a value or into complaints, each with the path to the part it is about. A table with
several fields is checked field by field and all complaints are kept, in the order of the fields
(`Checked.both`).

Booleans are taken from the usual words and from the numbers zero and one; every other type is taken as it is.
-/

set_option autoImplicit false

namespace Lineage

/-- A value, or the complaints about what was given in its place. -/
abbrev Checked (α : Type) := Except (List Complaint) α

namespace Checked

variable {α β γ : Type}

/-- The complaints of a check. -/
def complaints : Checked α → List Complaint
  | .ok _ => []
  | .error cs => cs

/-- Two checks together: the complaints of both, in their order. -/
def both (f : α → β → γ) (a : Checked α) (b : Checked β) : Checked γ :=
  match a, b with
  | .ok x, .ok y => .ok (f x y)
  | a, b => .error (a.complaints ++ b.complaints)

theorem both_ok_iff {f : α → β → γ} {a : Checked α} {b : Checked β} {z : γ} :
    both f a b = .ok z ↔ ∃ x y, a = .ok x ∧ b = .ok y ∧ f x y = z := by
  cases a <;> cases b <;> simp [both]

/-- A further check beside one that yields a function. -/
def and (f : Checked (α → β)) (a : Checked α) : Checked β := both (fun g x => g x) f a

/-- The complaints seen from one step further out. -/
def under (step : String ⊕ Nat) : Checked α → Checked α
  | .ok x => .ok x
  | .error cs => .error (cs.map fun c => { c with path := step :: c.path })

/-- A single complaint about the whole document. -/
def complain (type message : String) : Checked α := .error [⟨[], type, message⟩]

/-- The value, or the complaints as a failure. -/
def toExcept : Checked α → Except Failure α
  | .ok x => .ok x
  | .error cs => .error (.invalid cs)

end Checked

namespace Validation

/-- The words for true. -/
def trueWords : List String := ["1", "on", "t", "true", "y", "yes"]

/-- The words for false. -/
def falseWords : List String := ["0", "off", "f", "false", "n", "no"]

/-- A text or number that stands for neither. -/
def unreadable : Checked Bool :=
  .complain "bool_parsing" "Input should be a valid boolean, unable to interpret input"

/-- A boolean, in words or as zero or one. -/
def bool : Document → Checked Bool
  | .bool b => .ok b
  | .text s =>
    let word := String.ofList (s.toList.map Char.toLower)
    if trueWords.contains word then .ok true else if falseWords.contains word then .ok false else unreadable
  | .int n => if n = 0 then .ok false else if n = 1 then .ok true else unreadable
  | .float x => match x.toRat? with
    | some q => if q = 0 then .ok false else if q = 1 then .ok true
      else if q.den = 1 then unreadable else .complain "bool_type" "Input should be a valid boolean"
    | none => .complain "bool_type" "Input should be a valid boolean"
  | _ => .complain "bool_type" "Input should be a valid boolean"

/-- A text. -/
def text : Document → Checked String
  | .text s => .ok s
  | _ => .complain "string_type" "Input should be a valid string"

/-- Texts from a position on. -/
def textsFrom : Nat → List Document → Checked (List String)
  | _, [] => .ok []
  | i, d :: r => .both List.cons ((text d).under (.inr i)) (textsFrom (i + 1) r)

/-- A list of texts. -/
def texts : Document → Checked (List String)
  | .list ds => textsFrom 0 ds
  | _ => .complain "list_type" "Input should be a valid list"

/-- A table of anything. -/
def table : Document → Checked (List (String × Document))
  | .table es => .ok es
  | _ => .complain "dict_type" "Input should be a valid dictionary"

variable {α : Type}

/-- A record of a kind. -/
def record (kind : String) (check : List (String × Document) → Checked α) : Document → Checked α
  | .table es => check es
  | _ => .complain "model_type" ("Input should be a valid dictionary or instance of " ++ kind)

/-- A field that may be left out. -/
def optional (es : List (String × Document)) (key : String) (check : Document → Checked α) (absent : α) : Checked α :=
  match Fields.get? es key with
  | some d => (check d).under (.inl key)
  | none => .ok absent

/-- A field that must be there. -/
def required (es : List (String × Document)) (key : String) (check : Document → Checked α) : Checked α :=
  match Fields.get? es key with
  | some d => (check d).under (.inl key)
  | none => (Checked.complain "missing" "Field required").under (.inl key)

/-- A part that may be null. -/
def nullable (check : Document → Checked α) : Document → Checked (Option α)
  | .null => .ok none
  | d => (check d).map some

/-- The refusal to change a field of what has been checked. -/
def frozen (key : String) : Checked α := (Checked.complain "frozen_instance" "Instance is frozen").under (.inl key)

end Validation

end Lineage
