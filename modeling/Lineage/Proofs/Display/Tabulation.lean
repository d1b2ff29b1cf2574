import Mathlib
import Lineage.Display.Page
import Lineage.Proofs.Action

/-!
# Tabulation — where the cells of a table are printed

A table that is printed is drawn from the plain texts of its cells (`Page.printTable_eq_ok_iff`): if one of them has none, nothing is
printed. Every column has a width of its own (`Table.length_widths`), and every line of a cell, broken for that width, stands in
a line of the table (`Table.cell_shown`). If the table fits on the page, every cell fits into its column (`Table.width_le_room`).
-/

set_option autoImplicit false

namespace Lineage.Display

namespace Table

/-! ## Columns -/

theorem length_takeOff (most total shares : Nat) (cs : List (Nat × Bool)) : (takeOff most total shares cs).length = cs.length := by
  induction cs generalizing total shares with
  | nil => rfl
  | cons c cs ih =>
    rw [takeOff]
    split <;> simp [ih]

theorem length_collapse (limit fuel : Nat) (ws : List Nat) : (collapse limit fuel ws).length = ws.length := by
  induction fuel generalizing ws with
  | zero => rfl
  | succ fuel ih =>
    rw [collapse]
    dsimp only
    split
    · rfl
    split
    · rfl
    · rw [ih, length_takeOff, List.length_map]

/-- Every column has a width. -/
theorem length_widths (t : Table) (page : Nat) : (t.widths page).length = t.heads.length := by
  have hcolumns : t.columns.length = t.heads.length := by rw [columns, List.length_mapIdx]
  unfold widths
  dsimp only
  split
  · rw [List.length_map, hcolumns]
  · rw [List.length_map, List.length_zip, length_collapse, List.length_map, Nat.min_self, hcolumns]

theorem start_le_foldl_max (ns : List Nat) (m : Nat) : m ≤ ns.foldl max m := by
  induction ns generalizing m with
  | nil => exact Nat.le_refl m
  | cons k ns ih => exact (Nat.le_max_left m k).trans (ih _)

theorem le_foldl_max {n : Nat} {ns : List Nat} (h : n ∈ ns) (m : Nat) : n ≤ ns.foldl max m := by
  induction ns generalizing m with
  | nil => cases h
  | cons k ns ih =>
    rw [List.foldl_cons]
    rcases List.mem_cons.1 h with rfl | h
    · exact (Nat.le_max_right m n).trans (start_le_foldl_max ns _)
    · exact ih h _

/-! ## Tables that fit -/

/-- The widths that the columns would have with as many columns as there are on the page. -/
def naturalWidths (t : Table) (page : Nat) : List Nat :=
  t.columns.map fun c => max 1 (columnWidth (page - (t.heads.length + 1)) c)

/-- Every other column takes something too. -/
theorem lt_total {ws : List Nat} (hpos : ∀ w ∈ ws, 0 < w) (hlength : 2 ≤ ws.length) {w : Nat} (hw : w ∈ ws) : w < total ws := by
  have hsum : total ws = ws.sum := List.sum_eq_foldl.symm
  obtain ⟨before, after, rfl⟩ := List.append_of_mem hw
  have hothers : 0 < (before ++ after).sum := by
    refine List.sum_pos _ (fun v hv => hpos v ?_) fun hnil => ?_
    · rw [List.mem_append] at hv
      exact List.mem_append.2 (hv.imp_right (List.mem_cons_of_mem w))
    · obtain ⟨rfl, rfl⟩ := List.append_eq_nil_iff.1 hnil
      simp at hlength
  rw [hsum, List.sum_append, List.sum_cons]
  rw [List.sum_append] at hothers
  omega

/-- A cell without line ends is as wide as its characters. -/
theorem lineWidth_of_line {cs : List Char} (h : ∀ c ∈ cs, endsLine c = false) : lineWidth cs = Text.width cs := by
  by_cases hnil : cs = []
  · subst hnil
    rfl
  · have hchain : cs.IsChain fun a b => !endsLine a && !endsLine b := by
      refine List.Pairwise.isChain (List.pairwise_of_forall_mem_list fun a ha b hb => ?_)
      simp [h a ha, h b hb]
    have hkept : cs.filter (!endsLine ·) = cs := List.filter_eq_self.2 fun c hc => by simp [h c hc]
    rw [lineWidth, List.splitBy_of_isChain hnil hchain]
    simp [hkept]

/-- **In a table that fits on the page every cell fits into its column,** as long as there are columns beside it. -/
theorem width_le_room {t : Table} {page j w : Nat} {row : List (List Char)} {cs : List Char}
    (hfits : total (t.naturalWidths page) ≤ page - (t.heads.length + 1)) (hcolumns : 2 ≤ t.heads.length) (hrow : row ∈ t.rows)
    (hw : (t.widths page)[j]? = some w) (hcell : row[j]? = some cs) (hline : ∀ c ∈ cs, endsLine c = false) :
    Text.width cs ≤ w - 2 := by
  set limit := page - (t.heads.length + 1) with hlimit
  have hwidths : t.widths page = t.naturalWidths page := if_pos hfits
  rw [hwidths] at hw
  have hmem : w ∈ t.naturalWidths page := List.mem_of_getElem? hw
  have hpos : ∀ v ∈ t.naturalWidths page, 0 < v := by
    intro v hv
    obtain ⟨c, -, rfl⟩ := List.mem_map.1 hv
    exact Nat.lt_of_lt_of_le Nat.zero_lt_one (Nat.le_max_left _ _)
  have hless : w < limit := Nat.lt_of_lt_of_le (lt_total hpos (by simpa [naturalWidths, columns] using hcolumns) hmem) hfits
  have hwide : cellWidth limit cs ≤ w := by
    rw [naturalWidths, List.getElem?_map] at hw
    obtain ⟨c, hc, rfl⟩ := Option.map_eq_some_iff.1 hw
    obtain ⟨h, -, rfl⟩ : ∃ h, t.heads[j]? = some h ∧ h.toList :: (t.rows.map fun r => r[j]?.getD []) = c := by
      simpa [columns, List.getElem?_mapIdx] using hc
    have hin : cs ∈ t.rows.map fun r => r[j]?.getD [] := List.mem_map.2 ⟨row, hrow, by rw [hcell]; rfl⟩
    have hmost : cellWidth limit cs ≤ columnWidth limit (h.toList :: t.rows.map fun r => r[j]?.getD []) :=
      le_foldl_max (List.mem_map_of_mem (List.mem_cons_of_mem _ hin)) 0
    exact hmost.trans (Nat.le_max_right _ _)
  rw [← lineWidth_of_line hline]
  unfold cellWidth at hwide
  split at hwide <;> omega

/-! ## Cells -/

theorem infix_intercalate {x : List Char} {xs : List (List Char)} (sep : List Char) (h : x ∈ xs) : x <:+: sep.intercalate xs := by
  induction xs with
  | nil => cases h
  | cons y ys ih =>
    cases ys with
    | nil =>
      obtain rfl := List.mem_singleton.1 h
      simp
    | cons z zs =>
      rw [List.intercalate_cons_cons]
      rcases List.mem_cons.1 h with rfl | h
      · exact ⟨[], sep ++ sep.intercalate (z :: zs), by simp⟩
      · exact (ih h).trans (List.suffix_append _ _).isInfix

/-- Every line of a cell stands in a line of its row. -/
theorem infix_rowLines (edge : Char) {ws : List Nat} {row : List (List Char)} {j w : Nat} {cs l : List Char} (hw : ws[j]? = some w)
    (hcell : row[j]? = some cs) (hl : l ∈ cellLines w cs) : ∃ line ∈ rowLines edge ws row, l <:+: line := by
  set cells := (ws.zip row).map fun p => (p.1, cellLines p.1 p.2) with hcells
  have hmem : (w, cellLines w cs) ∈ cells := by
    refine List.mem_map.2 ⟨(w, cs), ?_, rfl⟩
    exact List.mem_of_getElem? (i := j) (by rw [List.getElem?_zip_eq_some]; exact ⟨hw, hcell⟩)
  obtain ⟨i, hi, rfl⟩ := List.mem_iff_getElem.1 hl
  have hlength : (cellLines w cs).length ∈ cells.map (·.2.length) := List.mem_map.2 ⟨(w, cellLines w cs), hmem, rfl⟩
  have hheight := le_foldl_max hlength 0
  have hpart : (cellLines w cs)[i] ∈ cells.map fun c => c.2[i]?.getD (List.replicate c.1 ' ') :=
    List.mem_map.2 ⟨_, hmem, by simp [hi]⟩
  have hlines : rowLines edge ws row = (List.range ((cells.map (·.2.length)).foldl max 0)).map fun i =>
      edge :: [edge].intercalate (cells.map fun c => c.2[i]?.getD (List.replicate c.1 ' ')) ++ [edge] := rfl
  rw [hlines]
  refine ⟨_, List.mem_map.2 ⟨i, List.mem_range.2 (Nat.lt_of_lt_of_le hi hheight), rfl⟩, ?_⟩
  exact (infix_intercalate [edge] hpart).trans ⟨[edge], [edge], rfl⟩

/-- **What stands in a line of a cell stands in a line of the table.** -/
theorem cell_shown {t : Table} (page : Nat) {j w : Nat} {row : List (List Char)} {cs l x : List Char} (hrow : row ∈ t.rows)
    (hw : (t.widths page)[j]? = some w) (hcell : row[j]? = some cs) (hl : l ∈ wrap (w - 2) .ellipsis cs) (hx : x <:+: l) :
    ∃ line ∈ t.lines page, x <:+: line := by
  have hcellLine : ' ' :: padRight (w - 2) l ++ [' '] ∈ cellLines w cs := List.mem_map.2 ⟨l, hl, rfl⟩
  obtain ⟨line, hline, hin⟩ := infix_rowLines '│' hw hcell hcellLine
  refine ⟨line, ?_, hx.trans (List.IsInfix.trans ⟨[' '], List.replicate (w - 2 - Text.width l) ' ' ++ [' '], ?_⟩ hin)⟩
  · have hrows : line ∈ t.rows.flatMap (rowLines '│' (t.widths page)) := List.mem_flatMap.2 ⟨row, hrow, hline⟩
    unfold lines
    simp only [List.mem_append]
    exact .inl (.inr hrows)
  · simp [padRight]

end Table

/-! ## Printing -/

theorem mapM_eq_ok_iff {α β ε : Type} {f : α → Except ε β} {xs : List α} {ys : List β} :
    xs.mapM f = .ok ys ↔ List.Forall₂ (fun x y => f x = .ok y) xs ys := by
  induction xs generalizing ys with
  | nil => cases ys <;> simp [pure, Except.pure]
  | cons x xs ih =>
    rw [List.mapM_cons]
    cases hx : f x with
    | error e => cases ys <;> simp [hx, bind, Except.bind]
    | ok y =>
      cases hxs : xs.mapM f with
      | error e => cases ys <;> simp [hx, hxs, ← ih, bind, Except.bind]
      | ok more => cases ys <;> simp [hx, hxs, ← ih, bind, Except.bind, pure, Except.pure]

theorem exists_forall₂_iff {α β : Type} {R : α → β → Prop} {xs : List α} :
    (∃ ys, List.Forall₂ R xs ys) ↔ ∀ x ∈ xs, ∃ y, R x y := by
  induction xs with
  | nil => exact ⟨fun _ x hx => absurd hx List.not_mem_nil, fun _ => ⟨[], .nil⟩⟩
  | cons x xs ih =>
    rw [List.forall_mem_cons, ← ih]
    constructor
    · rintro ⟨_, h⟩
      cases h with
      | cons hx hxs => exact ⟨⟨_, hx⟩, _, hxs⟩
    · rintro ⟨⟨y, hy⟩, ys, hys⟩
      exact ⟨y :: ys, .cons hy hys⟩

theorem exists_right_of_forall₂ {α β : Type} {R : α → β → Prop} {xs : List α} {ys : List β} (h : List.Forall₂ R xs ys) {x : α}
    (hx : x ∈ xs) : ∃ y ∈ ys, R x y := by
  induction h with
  | nil => cases hx
  | cons hxy _ ih =>
    rcases List.mem_cons.1 hx with rfl | hx
    · exact ⟨_, List.mem_cons_self, hxy⟩
    · obtain ⟨y, hy, hrel⟩ := ih hx
      exact ⟨y, List.mem_cons_of_mem _ hy, hrel⟩

/-- Rows as columns, as many as there are heads, with a filler where a row has nothing. -/
def transposed {α γ : Type} (filler : α) (heads : List γ) (rows : List (List α)) : List (List α) :=
  heads.mapIdx fun i _ => rows.map fun r => r[i]?.getD filler

section

variable {α β γ δ : Type} {a : α} {b : β} {heads : List γ} {sides : List δ} {rows : List (List α)}

/-- The columns of columns are the rows. -/
theorem transposed_transposed (hsides : sides.length = rows.length) (hrows : ∀ r ∈ rows, r.length = heads.length) :
    transposed a sides (transposed a heads rows) = rows := by
  refine List.ext_getElem (by rw [transposed, List.length_mapIdx, hsides]) fun i hi hi' => ?_
  have hlength := hrows _ (List.getElem_mem hi')
  refine List.ext_getElem (by simp [transposed, hlength]) fun j hj hj' => ?_
  simp [transposed, hi', hj']

/-- Cells that are related in rows are related in columns. -/
theorem forall₂_transposed (heads : List γ) {R : α → β → Prop} {rows' : List (List β)} (h : List.Forall₂ (List.Forall₂ R) rows rows')
    (hrows : ∀ r ∈ rows, r.length = heads.length) :
    List.Forall₂ (List.Forall₂ R) (transposed a heads rows) (transposed b heads rows') := by
  obtain ⟨hlength, hrel⟩ := List.forall₂_iff_get.1 h
  refine List.forall₂_iff_get.2 ⟨by simp [transposed], fun j hj hj' => ?_⟩
  refine List.forall₂_iff_get.2 ⟨by simp [transposed, hlength], fun i hi hi' => ?_⟩
  have hj : j < heads.length := by simpa [transposed] using hj
  have hi : i < rows.length := by simpa [transposed] using hi
  have hi' : i < rows'.length := hlength ▸ hi
  have hrow : j < rows[i].length := hrows _ (List.getElem_mem hi) ▸ hj
  obtain ⟨hwide, hcells⟩ := List.forall₂_iff_get.1 (hrel i hi hi')
  have hrow' : j < rows'[i].length := hwide ▸ hrow
  have hcell : R rows[i][j] rows'[i][j] := hcells j hrow hrow'
  simpa [transposed, hrow, hrow'] using hcell

end

/-- The plain texts of the cells of rows. -/
def PlainRows (rows : List (List String)) (plains : List (List (List Char))) : Prop :=
  List.Forall₂ (List.Forall₂ fun s cs => Markup.plain s = .ok cs) rows plains

theorem PlainRows.length_eq_of_mem {rows : List (List String)} {plains : List (List (List Char))} {n : Nat}
    (h : PlainRows rows plains) (hrows : ∀ r ∈ rows, r.length = n) : ∀ r ∈ plains, r.length = n := by
  induction h with
  | nil => exact fun _ hr => absurd hr List.not_mem_nil
  | cons hrow _ ih =>
    obtain ⟨hfirst, hrows⟩ := List.forall_mem_cons.1 hrows
    exact List.forall_mem_cons.2 ⟨hrow.length_eq.symm.trans hfirst, ih hrows⟩

namespace Page

theorem plainColumns_eq_mapM (columns : List (List String)) : plainColumns columns = columns.mapM fun c => c.mapM Markup.plain := by
  induction columns with
  | nil => rfl
  | cons c columns ih => rw [plainColumns, List.mapM_cons, ih]

theorem plainColumns_eq_ok_iff {columns : List (List String)} {plains : List (List (List Char))} :
    plainColumns columns = .ok plains ↔ PlainRows columns plains := by
  simp only [plainColumns_eq_mapM, mapM_eq_ok_iff, PlainRows]

/-- **A table is printed if and only if every cell has a plain text,** and it is the table of those texts. -/
theorem printTable_eq_ok_iff {page : Nat} {title out : String} {heads : List String} {rows : List (List String)}
    (hrows : ∀ r ∈ rows, r.length = heads.length) : printTable page title heads rows = .ok out ↔
      ∃ plains, PlainRows rows plains ∧ ofLines (Table.lines ⟨title, heads, plains⟩ page) = out := by
  have hprint (columns : List (List (List Char))) (h : plainColumns (transposed "" heads rows) = .ok columns) :
      printTable page title heads rows = .ok (ofLines (Table.lines ⟨title, heads, transposed [] rows columns⟩ page)) := by
    unfold printTable
    rw [← transposed, h]
    rfl
  constructor
  · intro h
    cases hcolumns : plainColumns (transposed "" heads rows) with
    | error e =>
      unfold printTable at h
      rw [← transposed, hcolumns] at h
      cases h
    | ok columns =>
      have hplain := forall₂_transposed (a := "") (b := []) rows (plainColumns_eq_ok_iff.1 hcolumns)
        (by simp [transposed])
      rw [transposed_transposed rfl hrows] at hplain
      rw [hprint columns hcolumns] at h
      exact ⟨_, hplain, Except.ok.inj h⟩
  · rintro ⟨plains, hplains, rfl⟩
    have hcolumns := plainColumns_eq_ok_iff.2 (forall₂_transposed (a := "") (b := []) heads hplains hrows)
    rw [hprint _ hcolumns, transposed_transposed hplains.length_eq (hplains.length_eq_of_mem hrows)]

end Page

end Lineage.Display
