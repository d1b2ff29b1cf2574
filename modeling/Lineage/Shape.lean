import Lineage.Report
import Lineage.Sections

/-!
# Shape — the shapes that documents are checked against

Four shapes have names: the two settings sections, the report, and the problem in a report. What has been checked is fixed:
every later change of a field is refused.
-/

set_option autoImplicit false

namespace Lineage

/-- A shape that a document may be checked against. -/
inductive Shape where
  | types
  | plugins
  | report
  | problem
deriving DecidableEq, Repr

namespace Shape

/-- The name of a shape. -/
def name : Shape → String
  | types => "TypesConfig"
  | plugins => "PluginsConfig"
  | report => "ServiceResult"
  | problem => "ServiceError"

/-- The shape with a name. -/
def ofName? (n : String) : Option Shape := [types, plugins, report, problem].find? (·.name = n)

/-- A document brought into a shape, with the defaults filled in. -/
def check (s : Shape) (d : Document) : Checked Document :=
  match s with
  | types => (TypeSection.ofDocument d).map TypeSection.toDocument
  | plugins => (PluginSection.ofDocument d).map PluginSection.toDocument
  | report => (Report.ofDocument d).map Report.toDocument
  | problem => (Problem.ofDocument d).map Problem.toDocument

/-- A document brought into a shape, and the attempt to change a field of the result. -/
def checkAndChange (s : Shape) (d : Document) (change : Option String) : Checked Document := do
  let checked ← s.check d
  match change with
  | some key => Validation.frozen key
  | none => .ok checked

end Shape

end Lineage
