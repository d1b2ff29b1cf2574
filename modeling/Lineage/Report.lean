import Lineage.Document.Json
import Lineage.Validation

/-!
# Report — the outcome of an operation, as it is shown to the outside

Every operation of the introspection service answers with a report: whether it succeeded, which operation it was, what it
found, what it warns of, and, when it failed, the problem with a code that does not change. A report is written as a
document and read back from one (`Report.toDocument`, `Report.ofDocument`).
-/

set_option autoImplicit false

namespace Lineage

/-- Why an operation failed. -/
structure Problem where
  code : String
  message : String
  detail : List (String × Document)

/-- The outcome of an operation. -/
structure Report where
  ok : Bool
  op : String
  data : List (String × Document)
  warnings : List String
  error : Option Problem

/-- The problem as a document. -/
def Problem.toDocument (p : Problem) : Document :=
  .table [("code", .text p.code), ("message", .text p.message), ("detail", .table p.detail)]

/-- The problem that a document describes. -/
def Problem.ofDocument : Document → Checked Problem :=
  Validation.record "ServiceError" fun es =>
    (Checked.both Problem.mk (Validation.required es "code" Validation.text)
      (Validation.required es "message" Validation.text)).and (Validation.optional es "detail" Validation.table [])

namespace Report

/-- The report of a success. -/
def success (op : String) (data : List (String × Document)) (warnings : List String) : Report :=
  ⟨true, op, data, warnings, none⟩

/-- The report of a failure. -/
def failure (op code message : String) (detail : List (String × Document)) : Report :=
  ⟨false, op, [], [], some ⟨code, message, detail⟩⟩

/-- The report as a document. -/
def toDocument (r : Report) : Document :=
  .table [("ok", .bool r.ok), ("op", .text r.op), ("data", .table r.data), ("warnings", .ofTexts r.warnings),
    ("error", r.error.elim .null Problem.toDocument)]

/-- The report that a document describes. -/
def ofDocument : Document → Checked Report :=
  Validation.record "ServiceResult" fun es =>
    (((Checked.both Report.mk (Validation.required es "ok" Validation.bool) (Validation.required es "op" Validation.text)).and
      (Validation.optional es "data" Validation.table [])).and
      (Validation.optional es "warnings" Validation.texts [])).and
      (Validation.optional es "error" (Validation.nullable Problem.ofDocument) none)

/-- The report as indented JSON text. -/
def toJson (r : Report) : String := r.toDocument.toJson .report

end Report

end Lineage
