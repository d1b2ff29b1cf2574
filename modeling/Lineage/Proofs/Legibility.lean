import Mathlib
import Lineage.Proofs.Display.Markup
import Lineage.Proofs.Display.Wrapping
import Lineage.Proofs.Legibility.Findings
import Lineage.Text.Printable

/-!
# Legibility — the texts of a report are found in what is printed of it

The lines of a report are printed as they are, its cells as markup. So every text of a line stands in the output unless the line is
broken in it, whatever brackets there are; and every text of a cell stands in the output unless the cell is broken in it or it is in
a tag. A cell with a closing tag that closes nothing keeps the whole report from being printed.

**The law** (`Finding.shown_except_markup`) says so of every report that an operation answers with (`found_describe`, `found_check`,
`found_inspect`), provided that its texts are printable.
-/

set_option autoImplicit false

namespace Lineage

open Display Introspection

/-! ## Printable texts -/

/-- A text of characters that are shown as themselves. -/
def Printable (s : String) : Prop := ∀ c ∈ s.toList, Text.isPrintable c.toNat = true

theorem Printable.not_mem {s : String} (h : Printable s) {c : Char} (hc : Text.isPrintable c.toNat = false) : c ∉ s.toList :=
  fun hmem => absurd (h c hmem) (by simp [hc])

theorem Printable.not_silent {s : String} (h : Printable s) : ∀ c ∈ s.toList, isSilent c = false := by
  intro c hc
  by_contra hsilent
  simp only [isSilent, Bool.not_eq_false, Bool.or_eq_true, decide_eq_true_eq] at hsilent
  rcases hsilent with (((rfl | rfl) | rfl) | rfl) | rfl <;> exact h.not_mem (by decide) hc

theorem Printable.append {s t : String} (hs : Printable s) (ht : Printable t) : Printable (s ++ t) := by
  intro c hc
  rw [String.toList_append, List.mem_append] at hc
  exact hc.elim (hs c) (ht c)

theorem printable_intercalate {sep : String} {ss : List String} (hsep : Printable sep) (hs : ∀ s ∈ ss, Printable s) :
    Printable (String.intercalate sep ss) := by
  induction ss with
  | nil => exact fun c hc => absurd hc (by simp)
  | cons s ss ih =>
    obtain ⟨hfirst, hrest⟩ := List.forall_mem_cons.1 hs
    cases ss with
    | nil => simpa using hfirst
    | cons t ts =>
      rw [String.intercalate_cons_cons]
      exact (hfirst.append hsep).append (ih hrest)

theorem printable_of_ascii {s : String} (h : ∀ c ∈ s.toList, 0x20 ≤ c.toNat ∧ c.toNat < 0x7f) : Printable s := by
  intro c hc
  obtain ⟨hlow, hhigh⟩ := h c hc
  rw [Text.isPrintable_ascii _ hhigh]
  exact decide_eq_true hlow

/-- A phrase is printable as far as the texts in it are. -/
def Introspection.Phrase.Sound (p : Phrase) : Prop := (∀ t ∈ p.texts, Printable t) → Printable p.text

theorem sound_text (s : String) : Phrase.Sound ⟨s, [s]⟩ := fun h => h s List.mem_cons_self

theorem sound_list (ss : List String) : Phrase.Sound ⟨String.intercalate ", " ss, ss⟩ :=
  printable_intercalate (printable_of_ascii (by simp))

/-- The cells of an entry are made of its texts. -/
theorem sound_cells_class (e : ClassEntry) : ∀ p ∈ e.cells, p.Sound := by
  simp only [ClassEntry.cells, List.forall_mem_cons, List.not_mem_nil, false_implies, implies_true, and_true]
  exact ⟨sound_text _, sound_text _, sound_list _, sound_list _⟩

theorem sound_cells_enum (e : EnumEntry) : ∀ p ∈ e.cells, p.Sound := by
  simp only [EnumEntry.cells, List.forall_mem_cons, List.not_mem_nil, false_implies, implies_true, and_true]
  refine ⟨sound_text _, sound_text _, fun h => printable_intercalate (printable_of_ascii (by simp)) fun s hs => ?_⟩
  obtain ⟨m, hm, rfl⟩ := List.mem_map.1 hs
  have hmember (t : String) (ht : t ∈ [m.1, m.2]) : Printable t := h t (List.mem_flatMap.2 ⟨m, hm, ht⟩)
  exact ((hmember _ (by simp)).append (printable_of_ascii (by simp))).append (hmember _ (by simp))

namespace Introspection.Finding

/-- So are the lines. -/
theorem sound_of_mem_lines {finding : Finding} : ∀ p ∈ finding.lines, p.Sound := by
  intro p hp
  cases finding with
  | typed value type category =>
    obtain rfl := List.mem_singleton.1 hp
    intro h
    have hvalue : Printable value := h _ (by simp)
    have htype : Printable type := h _ (by simp)
    have hcategory : Printable category := h _ (by simp)
    refine ((hvalue.append (printable_of_ascii (by simp))).append htype).append ?_
    split
    · exact printable_of_ascii (by simp)
    · exact ((printable_of_ascii (by simp)).append hcategory).append (printable_of_ascii (by simp))
  | passed value expression type matched =>
    obtain rfl := List.mem_singleton.1 hp
    intro h
    exact (((printable_of_ascii (by simp)).append (h _ (by simp))).append (printable_of_ascii (by simp))).append (h _ (by simp))
  | listed name classes enums warnings =>
    obtain rfl := List.mem_singleton.1 hp
    exact sound_text name
  | failed op code message detail =>
    obtain rfl := List.mem_singleton.1 hp
    intro h
    exact (((printable_of_ascii (by simp)).append (h _ (by simp))).append (printable_of_ascii (by simp))).append (h _ (by simp))

/-- The tables: of the classes and of the enumerations. -/
theorem mem_listings {finding : Finding} {l : Listing} (h : l ∈ finding.listings) :
    (∃ es : List ClassEntry, l = ⟨"Classes", ["Attribute", "Type", "Membership", "Fields"], es.map ClassEntry.cells⟩) ∨
      ∃ es : List EnumEntry, l = ⟨"Enums", ["Attribute", "Name", "Members"], es.map EnumEntry.cells⟩ := by
  cases finding with
  | listed name classes enums warnings =>
    have hmem := List.mem_of_mem_filter h
    simp only [List.mem_cons, List.not_mem_nil, or_false] at hmem
    exact hmem.imp (fun heq => ⟨classes, heq⟩) fun heq => ⟨enums, heq⟩
  | _ => cases h

/-- Every row has as many cells as there are heads, -/
theorem length_row {finding : Finding} {l : Listing} (h : l ∈ finding.listings) : ∀ row ∈ l.rows, row.length = l.heads.length := by
  intro row hrow
  rcases mem_listings h with ⟨es, rfl⟩ | ⟨es, rfl⟩ <;> (obtain ⟨e, -, rfl⟩ := List.mem_map.1 hrow; rfl)

/-- and sound ones. -/
theorem sound_of_mem_row {finding : Finding} {l : Listing} (h : l ∈ finding.listings) : ∀ row ∈ l.rows, ∀ p ∈ row, p.Sound := by
  intro row hrow
  rcases mem_listings h with ⟨es, rfl⟩ | ⟨es, rfl⟩ <;> obtain ⟨e, -, rfl⟩ := List.mem_map.1 hrow
  · exact sound_cells_class e
  · exact sound_cells_enum e

end Introspection.Finding

/-! ## What stands in the output -/

theorem infix_ofLines {l t : List Char} {ls : List (List Char)} (hl : l ∈ ls) (ht : t <:+: l) : t <:+: (Page.ofLines ls).toList := by
  obtain ⟨before, after, rfl⟩ := List.append_of_mem hl
  rw [Page.ofLines, String.toList_ofList, List.flatMap_append, List.flatMap_cons]
  exact ht.trans ⟨before.flatMap fun l => l ++ ['\n'], ['\n'] ++ after.flatMap fun l => l ++ ['\n'], by simp⟩

theorem infix_join {s : String} {ss : List String} (h : s ∈ ss) : s.toList <:+: (String.join ss).toList := by
  obtain ⟨before, after, rfl⟩ := List.append_of_mem h
  exact ⟨(String.join before).toList, (String.join after).toList, by simp [String.toList_append]⟩

/-- Only line ends are dropped. -/
theorem infix_dropLineEnds {t : List Char} {s : String} (h : t <:+: s.toList) (ht : '\n' ∉ t) : t <:+: (dropLineEnds s).toList := by
  obtain ⟨before, after, hs⟩ := h
  rw [dropLineEnds, String.toList_ofList]
  by_cases hnil : t = []
  · exact hnil ▸ List.nil_infix
  have hpre : before ++ t <+: s.toList := ⟨after, hs⟩
  have hlast : ∀ c ∈ (before ++ t).getLast?, decide (c = '\n') = false := by
    intro c hc
    rw [List.getLast?_append_of_ne_nil _ hnil] at hc
    exact decide_eq_false fun heq => ht (heq ▸ List.mem_of_getLast? hc)
  exact List.IsInfix.trans ⟨before, [], by simp⟩ (Text.prefix_rdropWhile hpre hlast).isInfix

theorem Printable.audible {s : String} (h : Printable s) : audible s = s.toList :=
  List.filter_eq_self.2 fun c hc => by simp [h.not_silent c hc]

/-- A text that is not broken stands in what is printed of the line. -/
theorem infix_printPlain {s : String} {page : Nat} {t : List Char} (hs : Printable s) (h : Unbroken page .fold s.toList t) :
    t <:+: (Page.printPlain page s).toList := by
  obtain ⟨l, hl, hin⟩ := h.shown (hs.not_mem (by decide)) (hs.not_mem (by decide))
  rw [Page.printPlain, hs.audible]
  exact infix_ofLines hl hin

namespace Introspection

/-- The columns that are left for the cells of a table, with a blank on either side of each. -/
def Listing.rooms (l : Listing) : Except Failure (List Nat) := do
  let plains ← l.rows.mapM fun row => row.mapM fun p => Markup.plain p.text
  return ((Table.mk l.title l.heads plains).widths reportPage).map (· - 2)

/-- **The texts of a report stand in the output:** those of its lines that are not broken there, and those of its cells that are not
broken in what the cell is without its tags. -/
structure Finding.Legible (finding : Finding) (out : String) : Prop where
  lines : ∀ p ∈ finding.lines, ∀ t ∈ p.texts, Unbroken reportPage .fold p.text.toList t.toList → t.toList <:+: out.toList
  cells : ∀ l ∈ finding.listings, ∃ rooms, l.rooms = .ok rooms ∧ ∀ row ∈ l.rows, List.Forall₂ (fun p room =>
    ∃ cs, Markup.plain p.text = .ok cs ∧
      ∀ t ∈ p.texts, Unbroken room .ellipsis cs t.toList → t.toList <:+: out.toList) row rooms

/-- A table is printed from the plain texts of its phrases. -/
theorem Listing.print_eq_ok_iff {l : Listing} {out : String} (hlength : ∀ row ∈ l.rows, row.length = l.heads.length) :
    l.print = .ok out ↔ ∃ plains, List.Forall₂ (List.Forall₂ fun p cs => Markup.plain p.text = .ok cs) l.rows plains ∧
      Page.ofLines (Table.lines ⟨l.title, l.heads, plains⟩ reportPage) = out := by
  have hrows : ∀ r ∈ l.rows.map (·.map Phrase.text), r.length = l.heads.length := by
    intro r hr
    obtain ⟨row, hrow, rfl⟩ := List.mem_map.1 hr
    rw [List.length_map, hlength row hrow]
  rw [Listing.print, Page.printTable_eq_ok_iff hrows]
  simp only [PlainRows, List.forall₂_map_left_iff]

/-- In a table that is printed, every cell has its room, and what is not broken there stands in the output. -/
theorem Listing.legible {l : Listing} {out : String} (hlength : ∀ row ∈ l.rows, row.length = l.heads.length)
    (hprintable : ∀ row ∈ l.rows, ∀ p ∈ row, Printable p.text) (h : l.print = .ok out) :
    ∃ rooms, l.rooms = .ok rooms ∧ ∀ row ∈ l.rows, List.Forall₂ (fun p room =>
      ∃ cs, Markup.plain p.text = .ok cs ∧ ∀ t : List Char, Unbroken room .ellipsis cs t → t <:+: out.toList) row rooms := by
  obtain ⟨plains, hplains, rfl⟩ := (Listing.print_eq_ok_iff hlength).1 h
  set table : Table := ⟨l.title, l.heads, plains⟩ with htable
  have hread : (l.rows.mapM fun row => row.mapM fun p => Markup.plain p.text) = .ok plains := by
    simpa only [mapM_eq_ok_iff] using hplains
  refine ⟨(table.widths reportPage).map (· - 2), by rw [Listing.rooms, hread]; rfl, fun row hrow => ?_⟩
  obtain ⟨i, hi, rfl⟩ := List.mem_iff_getElem.1 hrow
  obtain ⟨hheight, hcells⟩ := List.forall₂_iff_get.1 hplains
  obtain ⟨hwide, hplain⟩ := List.forall₂_iff_get.1 (hcells i hi (hheight ▸ hi))
  have hwidths := table.length_widths reportPage
  refine List.forall₂_iff_get.2 ⟨by rw [List.length_map, hwidths]; exact hlength _ hrow, fun j hj hj' => ?_⟩
  have hw : j < (table.widths reportPage).length := by simpa using hj'
  have hcell : j < plains[i].length := hwide ▸ hj
  refine ⟨plains[i][j], hplain j hj hcell, fun t ht => ?_⟩
  -- The characters of the plain text are characters of the cell, so the cell is one line.
  have hmem (c : Char) (hc : Text.isPrintable c.toNat = false) : c ∉ plains[i][j] := fun hmem =>
    (hprintable _ hrow _ (List.getElem_mem hj)).not_mem hc (Markup.mem_of_mem_plain (hplain j hj hcell) hmem)
  obtain ⟨line, hline, hin⟩ := ht.shown (hmem '\n' (by decide)) (hmem '\t' (by decide))
  obtain ⟨tableLine, htableLine, hshown⟩ := Table.cell_shown (t := table) reportPage
    (List.getElem_mem (hheight ▸ hi)) (List.getElem?_eq_getElem hw) (List.getElem?_eq_getElem hcell)
    (by simpa using hline) hin
  exact infix_ofLines htableLine hshown

/-- A table is printed if and only if all of its cells have a plain text. -/
theorem Listing.print_succeeds_iff {l : Listing} (hlength : ∀ row ∈ l.rows, row.length = l.heads.length) :
    (∃ out, l.print = .ok out) ↔ ∀ p ∈ l.rows.flatten, ∃ cs, Markup.plain p.text = .ok cs := by
  have hplains : (∃ plains, List.Forall₂ (List.Forall₂ fun (p : Phrase) cs => Markup.plain p.text = .ok cs) l.rows plains) ↔
      ∀ p ∈ l.rows.flatten, ∃ cs, Markup.plain p.text = .ok cs := by
    simp only [exists_forall₂_iff, List.mem_flatten]
    exact ⟨fun h p ⟨row, hrow, hp⟩ => h row hrow p hp, fun h row hrow p hp => h p ⟨row, hrow, hp⟩⟩
  rw [← hplains]
  constructor
  · rintro ⟨out, hout⟩
    obtain ⟨plains, h, -⟩ := (Listing.print_eq_ok_iff hlength).1 hout
    exact ⟨plains, h⟩
  · rintro ⟨plains, h⟩
    exact ⟨_, (Listing.print_eq_ok_iff hlength).2 ⟨plains, h, rfl⟩⟩

/-! ## The law -/

namespace Finding

variable {finding : Finding}

theorem printable_phrase (h : ∀ t ∈ finding.texts, Printable t) {p : Phrase} (hsound : p.Sound)
    (hp : p ∈ finding.lines ++ finding.cells) : Printable p.text :=
  hsound fun t ht => h t (List.mem_flatMap.2 ⟨p, hp, ht⟩)

theorem mem_cells {l : Listing} {row : List Phrase} {p : Phrase} (hl : l ∈ finding.listings) (hrow : row ∈ l.rows) (hp : p ∈ row) :
    p ∈ finding.cells :=
  List.mem_flatMap.2 ⟨l, hl, List.mem_flatten.2 ⟨row, hrow, hp⟩⟩

theorem printable_cell (h : ∀ t ∈ finding.texts, Printable t) {p : Phrase} (hp : p ∈ finding.cells) : Printable p.text := by
  obtain ⟨l, hl, hflat⟩ := List.mem_flatMap.1 hp
  obtain ⟨row, hrow, hmem⟩ := List.mem_flatten.1 hflat
  exact printable_phrase h (sound_of_mem_row hl row hrow p hmem) (List.mem_append_right _ hp)

/-- Of a report that is printed, the texts stand in the output. -/
theorem legible_of_text (h : ∀ t ∈ finding.texts, Printable t) {out : String} (htext : finding.report.text = .ok out) :
    finding.Legible out := by
  rw [text_report] at htext
  obtain ⟨s, hs, rfl⟩ := Action.map_eq_ok htext
  obtain ⟨tables, htables, rfl⟩ := Action.map_eq_ok hs
  -- No text ends a line, so none of it is lost with the line ends behind the output.
  have hkept {p : Phrase} (hp : p ∈ finding.lines ++ finding.cells) {t : String} (ht : t ∈ p.texts) {s : String}
      (hin : t.toList <:+: s.toList) : t.toList <:+: (dropLineEnds s).toList :=
    infix_dropLineEnds hin ((h t (List.mem_flatMap.2 ⟨p, hp, ht⟩)).not_mem (by decide))
  constructor
  · intro p hp t ht hunbroken
    have hmem : p ∈ finding.lines ++ finding.cells := List.mem_append_left _ hp
    have hin := infix_printPlain (printable_phrase h (sound_of_mem_lines p hp) hmem) hunbroken
    have hline : Page.printPlain reportPage p.text ∈ finding.lines.map fun p => Page.printPlain reportPage p.text :=
      List.mem_map.2 ⟨p, hp, rfl⟩
    have hlines := hin.trans (infix_join hline)
    refine hkept hmem ht (hlines.trans ?_)
    rw [String.toList_append]
    exact (List.prefix_append _ _).isInfix
  · intro l hl
    obtain ⟨table, htable, hprint⟩ := exists_right_of_forall₂ (mapM_eq_ok_iff.1 htables) hl
    obtain ⟨rooms, hrooms, hrows⟩ := Listing.legible (length_row hl)
      (fun row hrow p hp => printable_cell h (mem_cells hl hrow hp)) hprint
    refine ⟨rooms, hrooms, fun row hrow => ?_⟩
    refine List.forall₂_iff_get.2 ⟨(hrows row hrow).length_eq, fun j hj hj' => ?_⟩
    obtain ⟨cs, hplain, hshown⟩ := (List.forall₂_iff_get.1 (hrows row hrow)).2 j hj hj'
    refine ⟨cs, hplain, fun t ht hunbroken => ?_⟩
    refine hkept (List.mem_append_right _ (mem_cells hl hrow (List.get_mem _ _))) ht
      (((hshown _ hunbroken).trans (infix_join htable)).trans ?_)
    rw [String.toList_append]
    exact (List.suffix_append _ _).isInfix

/-- A report is printed if and only if every cell has a plain text. -/
theorem text_succeeds_iff : (∃ out, finding.report.text = .ok out) ↔ ∀ p ∈ finding.cells, ∃ cs, Markup.plain p.text = .ok cs := by
  have htables : (∃ tables, finding.listings.mapM Listing.print = .ok tables) ↔
      ∀ p ∈ finding.cells, ∃ cs, Markup.plain p.text = .ok cs := by
    simp only [mapM_eq_ok_iff, exists_forall₂_iff, cells, List.mem_flatMap]
    constructor
    · rintro h p ⟨l, hl, hp⟩
      exact (Listing.print_succeeds_iff (length_row hl)).1 (h l hl) p hp
    · exact fun h l hl => (Listing.print_succeeds_iff (length_row hl)).2 fun p hp => h p ⟨l, hl, hp⟩
  rw [← htables, text_report, printed]
  constructor
  · rintro ⟨out, hout⟩
    obtain ⟨s, hs, -⟩ := Action.map_eq_ok hout
    obtain ⟨tables, h, -⟩ := Action.map_eq_ok hs
    exact ⟨tables, h⟩
  · rintro ⟨tables, h⟩
    rw [h]
    exact ⟨_, rfl⟩

end Finding

end Introspection

end Lineage
