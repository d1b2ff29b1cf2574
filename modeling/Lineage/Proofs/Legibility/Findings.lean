import Mathlib
import Lineage.Display.ReportText
import Lineage.Introspection
import Lineage.Proofs.Display.Tabulation

/-!
# Findings — what the operations tell, and where its texts are put

An operation answers with one of four kinds of reports (`Finding`; see `found_describe`, `found_check`, `found_inspect`). Their texts
are put into lines, and, for a module, into the cells of tables. What is printed of such a report are its lines and then its
tables (`Finding.text_report`).
-/

set_option autoImplicit false

namespace Lineage

open Display

/-! ## What reports tell -/

namespace Introspection

/-- What the report of a module tells of a class. -/
structure ClassEntry where
  attr : String
  typeName : String
  membership : List String
  fields : List String

/-- What the report of a module tells of an enumeration. -/
structure EnumEntry where
  attr : String
  name : String
  members : List (String × String)

/-- The entry as a document. -/
def ClassEntry.document (e : ClassEntry) : Document :=
  .table [("attr", .text e.attr), ("type_name", .text e.typeName), ("membership", .ofTexts e.membership),
    ("fields", .ofTexts e.fields)]

/-- The entry as a document. -/
def EnumEntry.document (e : EnumEntry) : Document :=
  .table [("attr", .text e.attr), ("name", .text e.name), ("members", .table (e.members.map fun m => (m.1, .text m.2)))]

/-- **What the operations tell:** the type of a value, a value that passes a check, the contents of a module, or a failure. -/
inductive Finding where
  | typed (value type category : String)
  | passed (value expression type : String) (matched : Option String)
  | listed (name : String) (classes : List ClassEntry) (enums : List EnumEntry) (warnings : List String)
  | failed (op code message : String) (detail : List (String × Document))

/-- The report that tells it. -/
def Finding.report : Finding → Report
  | .typed value type category => .success "type" [("value", .text value), ("type", .text type), ("native", .text category)] []
  | .passed value expression type matched =>
    .success "check" [("value", .text value), ("expression", .text expression), ("type", .text type),
      ("matched", .ofText? matched)] []
  | .listed name classes enums warnings =>
    .success "inspect" [("module", .text name), ("classes", .list (classes.map ClassEntry.document)),
      ("enums", .list (enums.map EnumEntry.document))] warnings
  | .failed op code message detail => .failure op code message detail

/-! ## Where the texts of a report are put -/

/-- A text with a place of its own, and the texts of the report that are in it. -/
structure Phrase where
  text : String
  texts : List String

/-- A table of phrases. -/
structure Listing where
  title : String
  heads : List String
  rows : List (List Phrase)

/-- How a table of phrases is printed. -/
def Listing.print (l : Listing) : Except Failure String :=
  Page.printTable reportPage l.title l.heads (l.rows.map (·.map Phrase.text))

/-- The cells of a class. -/
def ClassEntry.cells (e : ClassEntry) : List Phrase :=
  [⟨e.attr, [e.attr]⟩, ⟨e.typeName, [e.typeName]⟩, ⟨String.intercalate ", " e.membership, e.membership⟩,
    ⟨String.intercalate ", " e.fields, e.fields⟩]

/-- The cells of an enumeration. -/
def EnumEntry.cells (e : EnumEntry) : List Phrase :=
  [⟨e.attr, [e.attr]⟩, ⟨e.name, [e.name]⟩,
    ⟨String.intercalate ", " (e.members.map fun m => m.1 ++ "=" ++ m.2), e.members.flatMap fun m => [m.1, m.2]⟩]

namespace Finding

/-- The lines that are printed outside of tables. -/
def lines : Finding → List Phrase
  | .typed value type category =>
    [⟨value ++ " : " ++ type ++ (if category = type then "" else " (" ++ category ++ ")"), [value, type, category]⟩]
  | .passed value expression _ matched =>
    let name := if matched.getD "" = "" then expression else matched.getD ""
    [⟨"OK " ++ value ++ " is " ++ name, [value, name]⟩]
  | .listed name _ _ _ => [⟨name, [name]⟩]
  | .failed op _ message _ => [⟨"ERROR: " ++ op ++ ": " ++ message, [op, message]⟩]

/-- The tables that are printed, those with rows only. -/
def listings : Finding → List Listing
  | .listed _ classes enums _ =>
    [⟨"Classes", ["Attribute", "Type", "Membership", "Fields"], classes.map ClassEntry.cells⟩,
      ⟨"Enums", ["Attribute", "Name", "Members"], enums.map EnumEntry.cells⟩].filter fun l => !l.rows.isEmpty
  | _ => []

/-- The cells of the tables. -/
def cells (finding : Finding) : List Phrase := finding.listings.flatMap fun l => l.rows.flatten

/-- All of the texts that are printed. -/
def texts (finding : Finding) : List String := (finding.lines ++ finding.cells).flatMap Phrase.texts

/-- What is printed: the lines, and then the tables. -/
def printed (finding : Finding) : Except Failure String :=
  (finding.listings.mapM Listing.print).map fun tables =>
    String.join (finding.lines.map fun p => Page.printPlain reportPage p.text) ++ String.join tables

end Finding

/-! ## The fields of a report -/

theorem equal_text (a b : String) : (Document.text a).equal (.text b) = decide (a = b) := by
  simp [Document.equal, Document.toValue, Value.ofString, Value.equal, Value.judged, Value.verdict?, Value.equalContent,
    Value.equalEmpty, Value.isEmptyMapping, Value.isEmptyList, Value.entries?, Value.listItems?, Value.equalLeaf, Value.number?,
    Value.text?, Text.ofString_inj]

theorem isTruthy_text (s : String) : (Document.text s).isTruthy = !decide (s = "") := by
  by_cases hs : s = ""
  · subst hs
    rfl
  · rw [decide_eq_false hs]
    exact Value.isTruthy_ofString hs

theorem isTruthy_list (xs : List Document) : (Document.list xs).isTruthy = !xs.isEmpty := by
  cases xs <;> rfl

theorem textsFrom_map_text (i : Nat) (ts : List String) : textsFrom i (ts.map .text) = .ok ts := by
  induction ts generalizing i with
  | nil => rfl
  | cons t ts ih =>
    rw [List.map_cons, textsFrom, ih]
    rfl

theorem joined_ofTexts (ts : List String) : joined (.ofTexts ts) = .ok (String.intercalate ", " ts) := by
  have hitems : itemsOf (.ofTexts ts) = .ok (ts.map .text) := rfl
  rw [joined, hitems]
  simp only [textsFrom_map_text]
  rfl

theorem classRow_document (e : ClassEntry) : classRow e.document = .ok (e.cells.map Phrase.text) := by
  have hmembership : itemField e.document "membership" = .ok (.ofTexts e.membership) := rfl
  have hfields : itemField e.document "fields" = .ok (.ofTexts e.fields) := rfl
  have hattr : itemField e.document "attr" = .ok (.text e.attr) := rfl
  have htype : itemField e.document "type_name" = .ok (.text e.typeName) := rfl
  rw [classRow, hattr, htype, hmembership, hfields]
  simp only [bind, Except.bind, joined_ofTexts]
  rfl

theorem enumRow_document (e : EnumEntry) : enumRow e.document = .ok (e.cells.map Phrase.text) := by
  have hmembers : itemField e.document "members" = .ok (.table (e.members.map fun m => (m.1, .text m.2))) := rfl
  have hattr : itemField e.document "attr" = .ok (.text e.attr) := rfl
  have hname : itemField e.document "name" = .ok (.text e.name) := rfl
  rw [enumRow, hmembers, hattr, hname]
  simp only [bind, Except.bind, membersText, List.map_map]
  rfl

/-- A list of entries is printed as their table, if there are any. -/
theorem listing_map {α : Type} (title : String) (heads : List String) (es : List α) {row : Document → Except Failure (List String)}
    {document : α → Document} {cells : α → List Phrase} (hrow : ∀ e, row (document e) = .ok ((cells e).map Phrase.text)) :
    listing title heads row (.list (es.map document)) =
      if es.isEmpty then .ok "" else Listing.print ⟨title, heads, es.map cells⟩ := by
  have hrows : (es.map document).mapM row = .ok (es.map fun e => (cells e).map Phrase.text) :=
    mapM_eq_ok_iff.2 (List.forall₂_map_left_iff.2 (List.forall₂_map_right_iff.2 (List.forall₂_same.2 fun e _ => hrow e)))
  cases es with
  | nil => rfl
  | cons e es =>
    rw [listing, isTruthy_list]
    simp only [itemsOf, hrows, bind, Except.bind]
    rw [Listing.print, List.map_map]
    rfl

/-! ## The text of a report -/

theorem field_of_get? {es : List (String × Document)} {key : String} {d : Document} (h : Fields.get? es key = some d) :
    field es key = .ok d := by
  rw [field, h]

theorem typeText_typed (value type category : String) :
    typeText [("value", .text value), ("type", .text type), ("native", .text category)] =
      .ok (Page.printPlain reportPage (value ++ " : " ++ type ++ (if category = type then "" else " (" ++ category ++ ")"))) := by
  rw [typeText, field_of_get? (d := .text value) rfl, field_of_get? (d := .text type) rfl, field_of_get? (d := .text category) rfl]
  simp only [bind, Except.bind, lineText, equal_text, decide_eq_true_eq]
  rfl

theorem checkText_passed (value expression type : String) (matched : Option String) :
    checkText [("value", .text value), ("expression", .text expression), ("type", .text type), ("matched", .ofText? matched)] =
      .ok (Page.printPlain reportPage
        ("OK " ++ value ++ " is " ++ if matched.getD "" = "" then expression else matched.getD "")) := by
  rw [checkText, field_of_get? (d := .text value) rfl, field_of_get? (d := .ofText? matched) rfl,
    field_of_get? (d := .text expression) rfl]
  cases matched with
  | none => rfl
  | some name =>
    simp only [bind, Except.bind, lineText, Document.ofText?, isTruthy_text, Option.getD_some]
    by_cases hname : name = ""
    · simp [hname]
      rfl
    · simp [hname]
      rfl

/-- Where there are no tables, a single line is all. -/
theorem printed_of_line (finding : Finding) {p : Phrase} (hlines : finding.lines = [p]) (hlistings : finding.listings = []) :
    finding.printed = .ok (Page.printPlain reportPage p.text) := by
  rw [Finding.printed, hlines, hlistings, List.mapM_nil]
  simp [pure, Except.pure, Except.map]

/-- The tables that are printed, one after the other; those without rows are passed over. -/
theorem join_tables_cons (l : Listing) (ls : List Listing) :
    (((l :: ls).filter fun l => !l.rows.isEmpty).mapM Listing.print).map String.join =
      (if l.rows.isEmpty then .ok "" else l.print).bind fun table =>
        (((ls.filter fun l => !l.rows.isEmpty).mapM Listing.print).map String.join).map (table ++ ·) := by
  by_cases hl : l.rows.isEmpty
  · rw [List.filter_cons_of_neg (by simp [hl]), if_pos hl]
    cases (ls.filter fun l => !l.rows.isEmpty).mapM Listing.print <;> simp [Except.bind, Except.map]
  · rw [List.filter_cons_of_pos (by simp [hl]), if_neg hl, List.mapM_cons]
    cases l.print with
    | error e => rfl
    | ok table =>
      cases (ls.filter fun l => !l.rows.isEmpty).mapM Listing.print with
      | error e => rfl
      | ok tables => simp [bind, Except.bind, pure, Except.pure, Except.map]

theorem moduleText_listed (name : String) (classes : List ClassEntry) (enums : List EnumEntry) (warnings : List String) :
    moduleText [("module", .text name), ("classes", .list (classes.map ClassEntry.document)),
        ("enums", .list (enums.map EnumEntry.document))] = (Finding.listed name classes enums warnings).printed := by
  have hprinted : (Finding.listed name classes enums warnings).printed =
      (((Finding.listed name classes enums warnings).listings.mapM Listing.print).map String.join).map
        (Page.printPlain reportPage name ++ ·) := by
    rw [Finding.printed]
    cases (Finding.listed name classes enums warnings).listings.mapM Listing.print <;> simp [Except.map, Finding.lines]
  have hnone : (([].filter fun l : Listing => !l.rows.isEmpty).mapM Listing.print).map String.join = .ok "" := rfl
  have hclasses := listing_map "Classes" ["Attribute", "Type", "Membership", "Fields"] classes classRow_document
  have henums := listing_map "Enums" ["Attribute", "Name", "Members"] enums enumRow_document
  rw [moduleText, field_of_get? (d := .text name) rfl, field_of_get? (d := .list (classes.map ClassEntry.document)) rfl,
    field_of_get? (d := .list (enums.map EnumEntry.document)) rfl, hprinted, Finding.listings]
  simp only [bind, Except.bind, pure, Except.pure, hclasses, henums, join_tables_cons, hnone, List.isEmpty_map]
  generalize (if classes.isEmpty then _ else _ : Except Failure String) = classTable
  generalize (if enums.isEmpty then _ else _ : Except Failure String) = enumTable
  cases classTable with
  | error e => rfl
  | ok classTable =>
    cases enumTable with
    | error e => rfl
    | ok enumTable => simp [Except.map, String.append_assoc]

/-- **The text of a report** is what is printed of it, without the line ends behind it. -/
theorem Finding.text_report (finding : Finding) : finding.report.text = finding.printed.map dropLineEnds := by
  cases finding with
  | typed value type category =>
    refine congrArg (Except.map dropLineEnds) ((typeText_typed value type category).trans ?_)
    exact (printed_of_line (.typed value type category) rfl rfl).symm
  | passed value expression type matched =>
    refine congrArg (Except.map dropLineEnds) ((checkText_passed value expression type matched).trans ?_)
    exact (printed_of_line (.passed value expression type matched) rfl rfl).symm
  | listed name classes enums warnings =>
    exact congrArg (Except.map dropLineEnds) (moduleText_listed name classes enums warnings)
  | failed op code message detail =>
    refine congrArg (Except.map dropLineEnds) ?_
    exact (printed_of_line (.failed op code message detail) rfl rfl).symm

/-! ## The answers of the operations -/

/-- What an action yields, if it succeeds, has a property. -/
def Yields {α : Type} (a : Action α) (P : α → Prop) : Prop := ∀ (w w' : World) (x : α), a.run w = (.ok x, w') → P x

section

variable {α β : Type} {P : α → Prop} {Q : β → Prop}

theorem yields_pure {x : α} (h : P x) : Yields (pure x) P := by
  intro w w' y hy
  obtain rfl := Except.ok.inj (Prod.mk.inj hy).1
  exact h

theorem yields_throw (e : Failure) : Yields (throw e : Action α) P := fun _ _ _ h => nomatch h

theorem Yields.bind {a : Action α} {f : α → Action β} (ha : Yields a P) (hf : ∀ x, P x → Yields (f x) Q) : Yields (a >>= f) Q := by
  intro w w' y hy
  obtain ⟨x, w₁, hx, hrest⟩ := Action.bind_eq_ok.1 hy
  exact hf x (ha _ _ _ hx) _ _ _ hrest

theorem yields_bind {a : Action α} {f : α → Action β} (hf : ∀ x, Yields (f x) Q) : Yields (a >>= f) Q :=
  Yields.bind (P := fun _ => True) (fun _ _ _ _ => trivial) fun x _ => hf x

end

/-- A report of what an operation tells. -/
def Found (r : Report) : Prop := ∃ finding : Finding, finding.report = r

/-- What is told of a literal is a finding, -/
theorem found_describe (raw : String) : Yields (describe raw) Found := by
  refine yields_bind fun v => yields_bind fun text => yields_bind fun typeName => ?_
  exact yields_pure ⟨.typed text typeName v.category.name, rfl⟩

/-- so is what a check comes to, -/
theorem found_check (sys raw expression : String) (enums : List String) : Yields (check sys raw expression enums) Found := by
  refine yields_bind fun refused => ?_
  cases refused with
  | some message => exact yields_pure ⟨.failed "check" "INVALID_ENUM" message [], rfl⟩
  | none =>
    refine yields_bind fun v => yields_bind fun text => yields_bind fun typeName => yields_bind fun mismatch => ?_
    cases mismatch with
    | some message => exact yields_pure ⟨.failed "check" "TYPE_MISMATCH" message _, rfl⟩
    | none => exact yields_bind fun matched => yields_pure ⟨.passed text expression typeName matched, rfl⟩

/-- Entries whose values are texts. -/
def TextEntries (es : List (String × Document)) : Prop := ∃ ms : List (String × String), es = ms.map fun m => (m.1, .text m.2)

theorem TextEntries.set {es : List (String × Document)} (h : TextEntries es) (k v : String) :
    TextEntries (Fields.set es k (.text v)) := by
  obtain ⟨ms, rfl⟩ := h
  induction ms with
  | nil => exact ⟨[(k, v)], rfl⟩
  | cons m ms ih =>
    rw [List.map_cons, Fields.set]
    split
    · exact ⟨(m.1, v) :: ms, rfl⟩
    · obtain ⟨ns, hns⟩ := ih
      exact ⟨m :: ns, by rw [hns]; rfl⟩

theorem textEntries_ofList {es : List (String × Document)} (h : TextEntries es) : TextEntries (Fields.ofList es) := by
  obtain ⟨ms, rfl⟩ := h
  have hupdate (fs : List (String × Document)) (hfs : TextEntries fs) :
      TextEntries (Fields.update fs (ms.map fun m => (m.1, .text m.2))) := by
    unfold Fields.update
    induction ms generalizing fs with
    | nil => exact hfs
    | cons m ms ih => exact ih _ (hfs.set m.1 m.2)
  exact hupdate [] ⟨[], rfl⟩

theorem yields_describeMembers (members : List (Value × Value)) : Yields (describeMembers members) TextEntries := by
  induction members with
  | nil => exact yields_pure ⟨[], rfl⟩
  | cons m members ih =>
    refine yields_bind fun text => yields_bind fun key => ih.bind fun rest hrest => ?_
    obtain ⟨ms, rfl⟩ := hrest
    exact yields_pure ⟨(key, text) :: ms, rfl⟩

/-- Exports are told of by entries. -/
theorem yields_describeExports (exports : Fields) : Yields (describeExports exports) fun p =>
    ∃ (classes : List ClassEntry) (enums : List EnumEntry), p = (classes.map ClassEntry.document, enums.map EnumEntry.document) := by
  induction exports with
  | nil => exact yields_pure ⟨[], [], rfl⟩
  | cons e exports ih =>
    obtain ⟨attr, v⟩ := e
    cases v with
    | cls i =>
      refine yields_bind fun w => ih.bind fun rest hrest => ?_
      obtain ⟨classes, enums, rfl⟩ := hrest
      cases hclass : w.class? i with
      | none => exact yields_pure ⟨classes, enums, rfl⟩
      | some c =>
        let entry : ClassEntry := ⟨attr, c.typeName, sorted c.membership, sorted (c.fields.map (·.1))⟩
        exact yields_pure ⟨entry :: classes, enums, rfl⟩
    | enum id name members =>
      refine (yields_describeMembers members).bind fun es hes => ih.bind fun rest hrest => ?_
      obtain ⟨classes, enums, rfl⟩ := hrest
      obtain ⟨ms, hms⟩ := textEntries_ofList hes
      rw [hms]
      exact yields_pure ⟨classes, ⟨attr, name, ms⟩ :: enums, rfl⟩
    | _ => exact ih

/-- and what a module exports. -/
theorem found_inspect (lib : Library) (module : String) : Yields (inspect lib module) Found := by
  unfold inspect
  cases lib.load module with
  | error e =>
    dsimp only
    split
    · exact yields_pure ⟨.failed "inspect" "IMPORT_ERROR" _ [], rfl⟩
    · exact yields_throw e
  | ok exports =>
    refine (yields_describeExports (publicExports exports)).bind fun p hp => yields_bind fun _ => ?_
    obtain ⟨classes, enums, rfl⟩ := hp
    exact yields_pure ⟨.listed module classes enums _, rfl⟩

end Introspection

end Lineage
