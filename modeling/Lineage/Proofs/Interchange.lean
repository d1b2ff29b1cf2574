import Mathlib
import Lineage.Display.ReportText
import Lineage.Proofs.Interchange.Reading

/-!
# Interchange — the machine form of a report loses nothing

A report is written as JSON for other programs. As long as its data and the detail of its problem are exchangeable documents
(`Document.Exchangeable`), the report as a whole is one (`Report.Exchangeable.toDocument`), so that its text is JSON and is read
back as the same document; and the document of a report describes that report (`Report.ofDocument_toDocument`).
-/

set_option autoImplicit false

namespace Lineage

/-! ## A report and its document -/

namespace Validation

theorem textsFrom_map_text (i : Nat) (ts : List String) : textsFrom i (ts.map .text) = .ok ts := by
  induction ts generalizing i with
  | nil => rfl
  | cons t ts ih =>
    rw [List.map_cons, textsFrom, ih]
    rfl

theorem texts_ofTexts (ts : List String) : texts (.ofTexts ts) = .ok ts := textsFrom_map_text 0 ts

end Validation

open Validation

theorem Problem.ofDocument_toDocument (p : Problem) : Problem.ofDocument p.toDocument = .ok p := rfl

/-- **The document of a report describes that report.** -/
theorem Report.ofDocument_toDocument (r : Report) : Report.ofDocument r.toDocument = .ok r := by
  obtain ⟨ok, op, data, warnings, error⟩ := r
  have hwarnings : (texts (.ofTexts warnings)).under (.inl "warnings") = .ok warnings := by
    rw [texts_ofTexts]
    rfl
  have herror : (nullable Problem.ofDocument (error.elim .null Problem.toDocument)).under (.inl "error") = .ok error := by
    cases error with
    | none => rfl
    | some p => rfl
  -- Every field of the report stands in its document under its own key.
  change (((Checked.both Report.mk (.ok ok) (.ok op)).and (.ok data)).and ((texts (.ofTexts warnings)).under (.inl "warnings"))).and
    ((nullable Problem.ofDocument (error.elim .null Problem.toDocument)).under (.inl "error")) = _
  rw [hwarnings, herror]
  rfl

/-! ## Reports that are exchanged -/

/-- **Reports whose data and whose problem's detail are exchanged without loss.** -/
structure Report.Exchangeable (r : Report) : Prop where
  data : Document.Exchangeable (.table r.data)
  detail : ∀ p ∈ r.error, Document.Exchangeable (.table p.detail)

namespace Document.Exchangeable

theorem ofTexts (ts : List String) : Document.Exchangeable (.ofTexts ts) := by
  refine .list fun x hx => ?_
  obtain ⟨t, -, rfl⟩ := List.mem_map.1 hx
  exact .text t

end Document.Exchangeable

theorem Problem.exchangeable_toDocument {p : Problem} (h : Document.Exchangeable (.table p.detail)) :
    p.toDocument.Exchangeable := by
  refine .table (by simp) fun e he => ?_
  simp only [List.mem_cons, List.not_mem_nil, or_false] at he
  rcases he with rfl | rfl | rfl
  · exact .text _
  · exact .text _
  · exact h

theorem Report.Exchangeable.toDocument {r : Report} (h : r.Exchangeable) : r.toDocument.Exchangeable := by
  refine .table (by simp) fun e he => ?_
  simp only [List.mem_cons, List.not_mem_nil, or_false] at he
  rcases he with rfl | rfl | rfl | rfl | rfl
  · exact .bool _
  · exact .text _
  · exact h.data
  · exact .ofTexts _
  · change Document.Exchangeable (r.error.elim .null Problem.toDocument)
    cases herror : r.error with
    | none => exact .null
    | some p => exact Problem.exchangeable_toDocument (h.detail p herror)

/-- What is read from the machine form of a report: the report itself. -/
theorem Report.Exchangeable.reread {r : Report} (h : r.Exchangeable) :
    ∃ d, Document.ofJson? r.toJson = some d ∧ Report.ofDocument d = .ok r :=
  ⟨r.toDocument, h.toDocument.ofJson?_toJson rfl, r.ofDocument_toDocument⟩

end Lineage
