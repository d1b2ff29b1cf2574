import Mathlib
import Lineage.Display.Wrap
import Lineage.Proofs.Stretches

/-!
# Wrapping — what stays together when a text is broken into lines

A text that is too wide for its line is broken between words, and what does not fit even so is folded or cut short. A stretch of
it is **unbroken** (`Unbroken`) when there was no reason to do so: the whole text fits, or the front of the text up to the end of
the word that the stretch ends in fits, or the stretch is inside of one word that fits.

**The law** (`Unbroken.shown`): an unbroken stretch stands in one of the lines.

A line grows only at its end (`Extends`), so what has been put on a line stays there. A line in the making is never wider than the
column that is kept for it (`Regular`), so that a word which is put behind others fits together with them.
-/

set_option autoImplicit false

namespace Lineage.Display

open Text (isBlank takeWhile_append_of_stop dropWhile_append_of_stop head?_dropWhile_eq prefix_rdropWhile)

variable {limit : Nat} {o : Overflow}

/-! ## Blanks and words -/

/-- Nothing but blanks. -/
def Blank (cs : List Char) : Prop := ∀ c ∈ cs, isBlank c = true

/-- No blanks at all. -/
def Solid (cs : List Char) : Prop := ∀ c ∈ cs, isBlank c = false

/-- A text that starts with a blank, if with anything. -/
def StartsBlank (cs : List Char) : Prop := ∀ c ∈ cs.head?, isBlank c = true

/-- A text that starts with no blank. -/
def StartsSolid (cs : List Char) : Prop := ∀ c ∈ cs.head?, isBlank c = false

/-- A text that does not end with a blank. -/
def EndsSolid (cs : List Char) : Prop := ∀ c ∈ cs.getLast?, isBlank c = false

theorem blank_nil : Blank [] := fun _ hc => absurd hc List.not_mem_nil

theorem Solid.endsSolid {cs : List Char} (h : Solid cs) : EndsSolid cs := fun c hc => h c (List.mem_of_getLast? hc)

theorem endsSolid_append {a b : List Char} (hb : b ≠ []) : EndsSolid (a ++ b) ↔ EndsSolid b := by
  rw [EndsSolid, EndsSolid, List.getLast?_append_of_ne_nil _ hb]

theorem StartsSolid.eq_nil {cs : List Char} (h : StartsSolid cs) (hblank : Blank cs) : cs = [] := by
  cases cs with
  | nil => rfl
  | cons c r => exact absurd (hblank c List.mem_cons_self) (by simp [h c rfl])

theorem Solid.startsSolid {cs : List Char} (h : Solid cs) (b : List Char) (hne : cs ≠ []) : StartsSolid (cs ++ b) := by
  obtain ⟨c, r, rfl⟩ := List.exists_cons_of_ne_nil hne
  intro d hd
  obtain rfl := Option.some.inj hd
  exact h c List.mem_cons_self

/-- Blanks at the end of a text that ends with none are not there. -/
theorem EndsSolid.eq_nil {a b : List Char} (h : EndsSolid (a ++ b)) (hb : Blank b) : b = [] := by
  by_contra hne
  have hlast := List.getLast?_eq_some_getLast hne
  exact absurd (hb _ (List.mem_of_getLast? hlast)) (by simp [(endsSolid_append hne).1 h _ hlast])

/-- **The first word of a text:** blanks, what is not blank, and the blanks behind it, with the rest of the text. -/
structure FirstWord (cs lead body trail rest : List Char) : Prop where
  eq : cs = lead ++ (body ++ (trail ++ rest))
  blankLead : Blank lead
  solidBody : Solid body
  nonempty : body ≠ []
  blankTrail : Blank trail
  solidRest : StartsSolid rest
  last : trail = [] → rest = []

/-- Behind a word there is either a blank or nothing. -/
theorem FirstWord.startsBlank {cs lead body trail rest : List Char} (h : FirstWord cs lead body trail rest) :
    StartsBlank (trail ++ rest) := by
  intro c hc
  cases htrail : trail with
  | nil => simp [htrail, h.last htrail] at hc
  | cons d r =>
    rw [htrail] at hc
    obtain rfl := Option.some.inj hc
    exact h.blankTrail d (htrail ▸ List.mem_cons_self)

/-- The first word is the one that is taken. -/
theorem FirstWord.nextWord? {cs lead body trail rest : List Char} (h : FirstWord cs lead body trail rest) :
    nextWord? cs = some (lead ++ body ++ trail, rest) := by
  have hbody : StartsSolid (body ++ (trail ++ rest)) := h.solidBody.startsSolid _ h.nonempty
  have hsolid : ∀ c ∈ body, (!isBlank c) = true := fun c hc => by simp [h.solidBody c hc]
  have hstop : ∀ c ∈ (trail ++ rest).head?, (!isBlank c) = false := fun c hc => by simp [h.startsBlank c hc]
  unfold Display.nextWord?
  simp only [h.eq, takeWhile_append_of_stop h.blankLead hbody, dropWhile_append_of_stop h.blankLead hbody,
    takeWhile_append_of_stop hsolid hstop, dropWhile_append_of_stop hsolid hstop, takeWhile_append_of_stop h.blankTrail h.solidRest,
    dropWhile_append_of_stop h.blankTrail h.solidRest]
  simp [h.nonempty]

/-- Every text with something besides blanks has a first word. -/
theorem exists_firstWord {cs : List Char} (h : ¬ Blank cs) : ∃ lead body trail rest, FirstWord cs lead body trail rest := by
  set behind := cs.dropWhile isBlank with hbehind
  set after := behind.dropWhile (!isBlank ·) with hafter
  have hne : behind ≠ [] := fun hnil => h (List.dropWhile_eq_nil_iff.1 hnil)
  refine ⟨cs.takeWhile isBlank, behind.takeWhile (!isBlank ·), after.takeWhile isBlank, after.dropWhile isBlank, ?_, ?_, ?_, ?_, ?_,
    head?_dropWhile_eq _, fun htrail => ?_⟩
  · rw [List.takeWhile_append_dropWhile, List.takeWhile_append_dropWhile, List.takeWhile_append_dropWhile]
  · exact fun c hc => List.mem_takeWhile_imp hc
  · exact fun c hc => by simpa using List.mem_takeWhile_imp hc
  · obtain ⟨c, r, hcons⟩ := List.exists_cons_of_ne_nil hne
    have hc : isBlank c = false := head?_dropWhile_eq cs c (by rw [← hbehind, hcons]; rfl)
    simp [hcons, hc]
  · exact fun c hc => List.mem_takeWhile_imp hc
  · -- The text behind a word starts with a blank, if with anything.
    cases hcases : after with
    | nil => rfl
    | cons c r =>
      have hc : (!isBlank c) = false := head?_dropWhile_eq behind c (by rw [← hafter, hcases]; rfl)
      simp [hcases] at htrail
      simp [htrail] at hc

theorem nextWord?_of_blank {cs : List Char} (h : Blank cs) : nextWord? cs = none := by
  unfold nextWord?
  simp [List.dropWhile_eq_nil_iff.2 h]

/-! ## What is dropped at the end of a line -/

theorem trimEnd_isPrefix (cs : List Char) : trimEnd cs <+: cs := List.rdropWhile_prefix isBlank cs

theorem EndsSolid.prefix_trimEnd {s cs : List Char} (hs : EndsSolid s) (h : s <+: cs) : s <+: trimEnd cs :=
  prefix_rdropWhile h hs

theorem EndsSolid.trimEnd {s : List Char} (hs : EndsSolid s) : trimEnd s = s :=
  (trimEnd_isPrefix s).eq_of_length_le (hs.prefix_trimEnd List.prefix_rfl).length_le

theorem trimEnd_append {b : List Char} (hb : Blank b) (s : List Char) : trimEnd (s ++ b) = trimEnd s := by
  rw [trimEnd, List.reverse_append, List.dropWhile_append_of_pos fun c hc => hb c (List.mem_reverse.1 hc)]
  rfl

theorem width_le_of_isPrefix {s cs : List Char} (h : s <+: cs) : Text.width s ≤ Text.width cs := by
  obtain ⟨r, rfl⟩ := h
  rw [Text.width_append]
  exact Nat.le_add_right _ _

theorem dropOverhang_isPrefix (cs : List Char) : dropOverhang limit cs <+: cs := List.take_prefix _ _

/-- Only blanks are dropped, -/
theorem EndsSolid.prefix_dropOverhang (limit : Nat) {s cs : List Char} (hs : EndsSolid s) (h : s <+: cs) :
    s <+: dropOverhang limit cs := by
  have htrim := hs.prefix_trimEnd h
  refine htrim.trans (List.prefix_take_iff.2 ⟨trimEnd_isPrefix cs, ?_⟩)
  have hle := (trimEnd_isPrefix cs).length_le
  omega

/-- and only those that are too many. -/
theorem dropOverhang_of_length_le {cs : List Char} (h : cs.length ≤ limit) : dropOverhang limit cs = cs := by
  rw [dropOverhang, Nat.sub_eq_zero_of_le h, Nat.min_zero, Nat.sub_zero, List.take_length]

/-! ## Lines being filled -/

namespace Filling

variable {f g h : Filling}

/-- **What is on a line stays there:** every line of the one is the front part of a line of the other. -/
def Extends (f g : Filling) : Prop := ∀ l ∈ f.lines, ∃ l' ∈ g.lines, l <+: l'

theorem mem_lines {l : List Char} : l ∈ f.lines ↔ l = f.line ∨ l ∈ f.done := by simp [lines, or_comm]

theorem Extends.refl (f : Filling) : f.Extends f := fun l hl => ⟨l, hl, List.prefix_rfl⟩

theorem Extends.trans (hfg : f.Extends g) (hgh : g.Extends h) : f.Extends h := by
  intro l hl
  obtain ⟨l₁, hl₁, hpre₁⟩ := hfg l hl
  obtain ⟨l₂, hl₂, hpre₂⟩ := hgh l₁ hl₁
  exact ⟨l₂, hl₂, hpre₁.trans hpre₂⟩

/-- A filling whose finished lines are the same, and whose last line goes on. -/
theorem extends_of_line (hdone : g.done = f.done) (hline : f.line <+: g.line) : f.Extends g := by
  intro l hl
  rcases mem_lines.1 hl with rfl | hl
  · exact ⟨g.line, mem_lines.2 (.inl rfl), hline⟩
  · exact ⟨l, mem_lines.2 (.inr (hdone ▸ hl)), List.prefix_rfl⟩

theorem extends_put (cs : List Char) : f.Extends (f.put cs) := extends_of_line rfl (List.prefix_append _ _)

theorem extends_newLine : f.Extends f.newLine := by
  intro l hl
  refine ⟨l, mem_lines.2 (.inr ?_), List.prefix_rfl⟩
  rcases mem_lines.1 hl with rfl | hl
  · exact List.mem_cons_self
  · exact List.mem_cons_of_mem _ hl

/-- A line that is begun for a piece, unless nothing has been put anywhere. -/
theorem extends_begun : f.Extends (if f.position = 0 then f else f.newLine) := by
  split
  · exact .refl f
  · exact extends_newLine

theorem extends_putPieces (ps : List (List Char)) : f.Extends (f.putPieces ps) := by
  induction ps generalizing f with
  | nil => exact .refl f
  | cons p r ih =>
    have hput : f.Extends ((if f.position = 0 then f else f.newLine).put p) := extends_begun.trans (extends_put p)
    rw [putPieces]
    refine Extends.trans ?_ ih
    split
    · exact hput.trans (extends_of_line rfl List.prefix_rfl)
    · exact hput

theorem extends_putWord (w : List Char) : f.Extends (f.putWord limit o w) := by
  unfold putWord
  dsimp only
  split
  · exact (extends_put w).trans (extends_of_line rfl List.prefix_rfl)
  split
  · cases o with
    | fold => exact extends_putPieces _
    | ellipsis => exact (extends_begun.trans (extends_put w)).trans (extends_of_line rfl List.prefix_rfl)
  split
  · exact (extends_newLine.trans (extends_put w)).trans (extends_of_line rfl List.prefix_rfl)
  · exact extends_put w

theorem extends_foldl (ws : List (List Char)) : f.Extends (ws.foldl (putWord limit o) f) := by
  induction ws generalizing f with
  | nil => exact .refl f
  | cons w ws ih => exact (extends_putWord w).trans ih

/-- **The column is kept for the line:** it is no less than what is on it, and zero as long as nothing has been put anywhere. -/
structure Regular (f : Filling) : Prop where
  fits : Text.width f.line ≤ f.column
  start : f.position = 0 → f.line = [] ∧ f.column = 0

theorem regular_start : Regular ⟨[], [], 0, 0⟩ := ⟨Nat.le_refl 0, fun _ => ⟨rfl, rfl⟩⟩

/-- As long as nothing has been put anywhere, a line that is begun for a piece holds that piece alone. -/
theorem line_begun (h : f.position = 0 → f.line = []) (p : List Char) :
    ((if f.position = 0 then f else f.newLine).put p).line = p := by
  split
  · next hzero => simp [put, h hzero]
  · rfl

theorem eq_nil_of_position_begun {p : List Char} (h : ((if f.position = 0 then f else f.newLine).put p).position = 0) :
    p = [] := by
  have hsum : (if f.position = 0 then f else f.newLine).position + p.length = 0 := h
  exact List.eq_nil_of_length_eq_zero (by omega)

theorem regular_begun (h : f.position = 0 → f.line = []) (p : List Char) :
    Regular { (if f.position = 0 then f else f.newLine).put p with column := Text.width p } where
  fits := by rw [line_begun h]
  start hzero := by
    obtain rfl := eq_nil_of_position_begun hzero
    exact ⟨line_begun h [], rfl⟩

theorem regular_putPieces {ps : List (List Char)} (hne : ps ≠ []) (h : f.position = 0 → f.line = []) :
    (f.putPieces ps).Regular := by
  induction ps generalizing f with
  | nil => exact absurd rfl hne
  | cons p r ih =>
    cases r with
    | nil => exact regular_begun h p
    | cons q r =>
      refine ih (List.cons_ne_nil q r) fun hzero => ?_
      obtain rfl := eq_nil_of_position_begun hzero
      exact line_begun h []

end Filling

theorem chopFrom_ne_nil (cs piece : List Char) (used : Nat) : chopFrom limit piece used cs ≠ [] := by
  induction cs generalizing piece used with
  | nil => exact List.cons_ne_nil _ _
  | cons c r ih =>
    rw [chopFrom]
    split
    · exact List.cons_ne_nil _ _
    · exact ih _ _

namespace Filling

variable {f : Filling}

theorem putWord_of_fits {w : List Char} (h : f.column + Text.width (trimEnd w) ≤ limit) :
    f.putWord limit o w = { f.put w with column := f.column + Text.width w } := by
  unfold putWord
  simp only [if_pos h]

theorem Regular.put {w : List Char} (h : f.Regular) : Regular { f.put w with column := f.column + Text.width w } where
  fits := by
    have hfits := h.fits
    simp only [Filling.put, Text.width_append]
    omega
  start hzero := by
    have hsum : f.position + w.length = 0 := hzero
    obtain rfl : w = [] := List.eq_nil_of_length_eq_zero (by omega)
    obtain ⟨hline, hcolumn⟩ := h.start (by omega)
    simp [Filling.put, hline, hcolumn, Text.width_nil]

theorem Regular.putWord (h : f.Regular) (w : List Char) : (f.putWord limit o w).Regular := by
  by_cases hfits : f.column + Text.width (trimEnd w) ≤ limit
  · rw [putWord_of_fits hfits]
    exact h.put
  unfold Filling.putWord
  simp only [if_neg hfits]
  split
  · cases o with
    | fold => exact regular_putPieces (chopFrom_ne_nil _ _ _) fun hzero => (h.start hzero).1
    | ellipsis => exact regular_begun (fun hzero => (h.start hzero).1) w
  · next hshort =>
    have hpos : f.column ≠ 0 ∧ f.position ≠ 0 :=
      ⟨by omega, fun hzero => by have := (h.start hzero).2; omega⟩
    rw [if_pos hpos]
    have hbegun := regular_begun (fun hzero => (h.start hzero).1) w
    rwa [if_neg hpos.2] at hbegun

/-- A word that fits into a line is put on one as a whole. -/
theorem Regular.line_putWord {w : List Char} (h : f.Regular) (hfits : Text.width (trimEnd w) ≤ limit) :
    ∃ x, (f.putWord limit o w).line = x ++ w ∧ Text.width x + Text.width (trimEnd w) ≤ limit := by
  by_cases hbeside : f.column + Text.width (trimEnd w) ≤ limit
  · rw [putWord_of_fits hbeside]
    exact ⟨f.line, rfl, by have hline := h.fits; omega⟩
  · have hbegun : f.column ≠ 0 ∧ f.position ≠ 0 := ⟨by omega, fun hzero => by have hcolumn := (h.start hzero).2; omega⟩
    refine ⟨[], ?_, by simpa [Text.width_nil] using hfits⟩
    unfold Filling.putWord
    simp only [if_neg hbeside, if_neg (Nat.not_lt.2 hfits), if_pos hbegun]
    rfl

end Filling

/-! ## Words in their places -/

/-- A word goes with what is put in front of the rest of a text. -/
theorem FirstWord.append {cs lead body trail rest b : List Char} (h : FirstWord cs lead body trail rest) (htrail : trail ≠ [])
    (hb : rest = [] → StartsSolid b) : FirstWord (cs ++ b) lead body trail (rest ++ b) where
  eq := by simp [h.eq]
  blankLead := h.blankLead
  solidBody := h.solidBody
  nonempty := h.nonempty
  blankTrail := h.blankTrail
  solidRest := by
    cases rest with
    | nil => exact hb rfl
    | cons c r => exact h.solidRest
  last hnil := absurd hnil htrail

/-- A word at the very end of a text takes the blanks that follow. -/
theorem firstWord_blanks {lead body b : List Char} (hlead : Blank lead) (hbody : Solid body) (hne : body ≠ [])
    (hb : StartsBlank b) : FirstWord (lead ++ (body ++ b)) lead body (b.takeWhile isBlank) (b.dropWhile isBlank) where
  eq := by rw [List.takeWhile_append_dropWhile]
  blankLead := hlead
  solidBody := hbody
  nonempty := hne
  blankTrail _ hc := List.mem_takeWhile_imp hc
  solidRest := head?_dropWhile_eq b
  last hnil := by
    cases b with
    | nil => rfl
    | cons c r => simp [hb c rfl] at hnil

theorem wordsFrom_succ {fuel : Nat} {cs lead body trail rest : List Char} (h : FirstWord cs lead body trail rest) :
    wordsFrom (fuel + 1) cs = (lead ++ body ++ trail) :: wordsFrom fuel rest := by
  rw [wordsFrom, h.nextWord?]

theorem wordsFrom_nil (fuel : Nat) : wordsFrom fuel [] = [] := by
  cases fuel <;> rfl

theorem FirstWord.length_rest_lt {cs lead body trail rest : List Char} (h : FirstWord cs lead body trail rest) :
    rest.length < cs.length := by
  have hpos := List.length_pos_iff.2 h.nonempty
  rw [h.eq]
  simp only [List.length_append]
  omega

open Filling

/-- What has been put on the line stays there. -/
theorem line_stays (limit : Nat) (o : Overflow) (f : Filling) (ws : List (List Char)) : ∃ l ∈ (ws.foldl (putWord limit o) f).lines, f.line <+: l :=
  extends_foldl ws f.line (mem_lines.2 (.inl rfl))

/-- A front of a text that ends where a word ends, what is behind it being another text. -/
def FrontEnds (m b : List Char) : Prop := b = [] ∨ EndsSolid m ∧ StartsBlank b

/-- **The first word of a text with a front:** the word that the front ends with, together with blanks from behind it, or a part of the
front, with the rest of the front behind it. -/
inductive FrontWord (m b : List Char) : List Char → List Char → Prop where
  | last {blanks rest : List Char} (hb : b ≠ []) (hsolid : EndsSolid m) (hblanks : Blank blanks) : FrontWord m b (m ++ blanks) rest
  | more {w m' : List Char} (hm : m = w ++ m') (hlive : Blank m' → m' = []) (hend : FrontEnds m' b) : FrontWord m b w (m' ++ b)

theorem exists_frontWord {m b : List Char} (hm : ¬ Blank m) (hend : FrontEnds m b) :
    ∃ lead body trail rest, FirstWord (m ++ b) lead body trail rest ∧ FrontWord m b (lead ++ body ++ trail) rest := by
  obtain ⟨lead, body, trail, rest, hword⟩ := exists_firstWord hm
  have hm_eq : m = (lead ++ body ++ trail) ++ rest := by simp [hword.eq]
  by_cases hb : b = []
  · subst hb
    refine ⟨lead, body, trail, rest ++ [], ?_, .more hm_eq hword.solidRest.eq_nil (.inl rfl)⟩
    rwa [List.append_nil, List.append_nil]
  obtain ⟨hsolid, hblank⟩ := hend.resolve_left hb
  by_cases hrest : rest = []
  · subst hrest
    rw [List.append_nil] at hm_eq
    obtain rfl : trail = [] := (hm_eq ▸ hsolid).eq_nil hword.blankTrail
    rw [List.append_nil] at hm_eq
    have hnext := firstWord_blanks hword.blankLead hword.solidBody hword.nonempty hblank
    rw [← List.append_assoc, ← hm_eq] at hnext
    refine ⟨lead, body, _, _, hnext, ?_⟩
    rw [← hm_eq]
    exact .last hb hsolid fun _ hc => List.mem_takeWhile_imp hc
  · refine ⟨lead, body, trail, rest ++ b, ?_, .more hm_eq hword.solidRest.eq_nil (.inr ⟨?_, hblank⟩)⟩
    · exact hword.append (fun hnil => hrest (hword.last hnil)) fun hnil => absurd hnil hrest
    · exact (endsSolid_append hrest).1 (hm_eq ▸ hsolid)

/-- **The front of a text stays on the line** that it is put on, up to the end of a word, if it fits there. -/
theorem front_stays {fuel : Nat} {m b : List Char} (hfuel : (m ++ b).length ≤ fuel) {f : Filling}
    (hcolumn : f.column = Text.width f.line) (hfits : Text.width (f.line ++ m) ≤ limit) (hlive : Blank m → m = [])
    (hend : FrontEnds m b) :
    ∃ l ∈ ((wordsFrom fuel (m ++ b)).foldl (putWord limit o) f).lines, f.line ++ m <+: l ∧ (b = [] → l = f.line ++ m) := by
  -- By induction on the words: each of them that is in the front fits, since the front does.
  induction fuel generalizing f m with
  | zero =>
    obtain ⟨rfl, rfl⟩ := List.append_eq_nil_iff.1 (List.eq_nil_of_length_eq_zero (Nat.le_zero.1 hfuel))
    exact ⟨f.line, mem_lines.2 (.inl rfl), by simp, by simp⟩
  | succ fuel ih =>
    by_cases hm : m = []
    · subst hm
      rw [List.append_nil, List.nil_append]
      by_cases hb : b = []
      · rw [hb, wordsFrom_nil]
        exact ⟨f.line, mem_lines.2 (.inl rfl), List.prefix_rfl, fun _ => rfl⟩
      · obtain ⟨l, hl, hpre⟩ := line_stays limit o f (wordsFrom (fuel + 1) b)
        exact ⟨l, hl, hpre, fun hnil => absurd hnil hb⟩
    obtain ⟨lead, body, trail, rest, hword, hfront⟩ := exists_frontWord (fun hblank => hm (hlive hblank)) hend
    have hshorter : rest.length ≤ fuel := Nat.le_of_lt_succ (Nat.lt_of_lt_of_le hword.length_rest_lt hfuel)
    rw [wordsFrom_succ hword, List.foldl_cons]
    rw [Text.width_append, ← hcolumn] at hfits
    generalize lead ++ body ++ trail = w at hfront ⊢
    cases hfront with
    | @last blanks _ hb hsolid hblanks =>
      have hneeded : f.column + Text.width (trimEnd (m ++ blanks)) ≤ limit := by
        rwa [trimEnd_append hblanks, hsolid.trimEnd]
      rw [putWord_of_fits hneeded]
      obtain ⟨l, hl, hpre⟩ := line_stays limit o
        { f.put (m ++ blanks) with column := f.column + Text.width (m ++ blanks) } (wordsFrom fuel rest)
      exact ⟨l, hl, List.IsPrefix.trans ⟨blanks, by simp [put]⟩ hpre, fun hnil => absurd hnil hb⟩
    | @more _ m' hm hlive hend =>
      rw [hm, Text.width_append] at hfits
      have hneeded : f.column + Text.width (trimEnd w) ≤ limit := by
        have hle := width_le_of_isPrefix (trimEnd_isPrefix w)
        omega
      rw [putWord_of_fits hneeded]
      have hrest := ih (m := m') (f := { f.put w with column := f.column + Text.width w }) hshorter
        (by simp [put, Text.width_append, hcolumn]) (by simp only [put, Text.width_append, ← hcolumn]; omega) hlive hend
      rwa [hm, ← List.append_assoc]

/-- **A word stays together** if it fits into a line: it is put behind the words before it or on a line of its own. -/
theorem word_stays {fuel : Nat} {a m b : List Char} (hfuel : (a ++ (m ++ b)).length ≤ fuel) {f : Filling} (hregular : f.Regular)
    (ha : a = [] ∨ ¬ Blank a ∧ ¬ EndsSolid a) (hsolid : Solid m) (hne : m ≠ []) (hfits : Text.width m ≤ limit)
    (hb : StartsBlank b) :
    ∃ l ∈ ((wordsFrom fuel (a ++ (m ++ b))).foldl (putWord limit o) f).lines, ∃ x, x ++ m <+: l ∧
      Text.width (x ++ m) ≤ limit ∧ (b = [] → l = x ++ m) := by
  -- By induction on the words that stand before it; they leave a filling that is regular.
  induction fuel generalizing f a with
  | zero => exact absurd (List.eq_nil_of_length_eq_zero (Nat.le_zero.1 hfuel)) (by simp [hne])
  | succ fuel ih =>
    rcases ha with rfl | ⟨hlive, hlast⟩
    · have hword := firstWord_blanks blank_nil hsolid hne hb
      rw [List.nil_append] at hword ⊢
      rw [wordsFrom_succ hword, List.foldl_cons, List.nil_append]
      have hneeded : trimEnd (m ++ b.takeWhile isBlank) = m := by
        rw [trimEnd_append fun _ hc => List.mem_takeWhile_imp hc, hsolid.endsSolid.trimEnd]
      obtain ⟨x, hline, hwidth⟩ := hregular.line_putWord (o := o) (w := m ++ b.takeWhile isBlank) (hneeded.symm ▸ hfits)
      rw [hneeded, ← Text.width_append] at hwidth
      by_cases hnil : b = []
      · subst hnil
        rw [List.takeWhile_nil, List.append_nil] at hline ⊢
        rw [List.dropWhile_nil, wordsFrom_nil]
        exact ⟨x ++ m, mem_lines.2 (.inl hline.symm), x, List.prefix_rfl, hwidth, fun _ => rfl⟩
      · obtain ⟨l, hl, hpre⟩ := line_stays limit o (f.putWord limit o (m ++ b.takeWhile isBlank))
          (wordsFrom fuel (b.dropWhile isBlank))
        rw [hline, ← List.append_assoc] at hpre
        exact ⟨l, hl, x, (List.prefix_append _ _).trans hpre, hwidth, fun hb => absurd hb hnil⟩
    · obtain ⟨lead, body, trail, rest, hword⟩ := exists_firstWord hlive
      have htrail : trail ≠ [] := by
        rintro rfl
        refine hlast ?_
        rw [hword.eq, hword.last rfl, List.append_nil, List.append_nil]
        exact (endsSolid_append hword.nonempty).2 hword.solidBody.endsSolid
      have hnext := hword.append (b := m ++ b) htrail fun _ => hsolid.startsSolid b hne
      rw [wordsFrom_succ hnext, List.foldl_cons]
      refine ih ?_ (hregular.putWord _) ?_
      · exact Nat.le_of_lt_succ (Nat.lt_of_lt_of_le hnext.length_rest_lt hfuel)
      · by_cases hnil : rest = []
        · exact .inl hnil
        · refine .inr ⟨fun hblank => hnil (hword.solidRest.eq_nil hblank), fun hends => hlast ?_⟩
          rw [hword.eq, ← List.append_assoc, ← List.append_assoc]
          exact (endsSolid_append hnil).2 hends

/-! ## Lines cut to their width -/

theorem prefix_fit_go {s cs : List Char} {room : Nat} (h : s <+: cs) (hfits : Text.width s ≤ room) : s <+: fit.go room cs := by
  induction s generalizing cs room with
  | nil => exact List.nil_prefix
  | cons c s ih =>
    obtain ⟨r, rfl⟩ := h
    have hc : Text.charWidth c ≤ room := Nat.le_trans (Nat.le_add_right _ _) hfits
    rw [List.cons_append, fit.go, if_pos hc]
    refine (List.prefix_cons_inj c).2 (ih (List.prefix_append _ _) ?_)
    rw [Text.width] at hfits
    omega

theorem cut_of_fits {cs : List Char} (h : Text.width cs ≤ limit) : cut limit o cs = cs := by
  unfold cut
  rw [if_pos h]

/-- A front part that fits is not cut off; where a line that goes on ends in an ellipsis, one column less is left. -/
theorem prefix_cut {s cs : List Char} (h : s <+: cs) (hfits : Text.width s ≤ limit) (hroom : o = .fold ∨ Text.width s < limit) :
    s <+: cut limit o cs := by
  unfold cut
  split
  · exact h
  cases o with
  | fold => exact prefix_fit_go h hfits
  | ellipsis =>
    have hless : Text.width s < limit := hroom.resolve_left (by decide)
    exact (prefix_fit_go h (by omega)).trans (List.prefix_append _ _)

/-! ## Unbroken stretches -/

/-- **A stretch that stays together** when a text is broken into lines: the whole text fits into a line, or its front does up to the
end of the word that the stretch ends in, or the stretch is inside of a word, not the first, that fits. Where a word that is cut
short ends in an ellipsis, something has to stand behind the stretch in its word, unless that is the last. -/
inductive Unbroken (limit : Nat) (o : Overflow) : List Char → List Char → Prop where
  | whole {cs t : List Char} (h : t <:+: cs) (hfits : Text.width cs ≤ limit) (hend : cs.length ≤ limit ∨ EndsSolid cs) :
      Unbroken limit o cs t
  | front {p t q b : List Char} (hfits : Text.width (p ++ t ++ q) ≤ limit) (hend : EndsSolid (p ++ t ++ q))
      (hnext : StartsBlank b) (hroom : o = .fold ∨ 0 < Text.width q) : Unbroken limit o (p ++ t ++ q ++ b) t
  | word {a p t q b : List Char} (hbefore : ¬ Blank a ∧ ¬ EndsSolid a) (hsolid : Solid (p ++ t ++ q))
      (hfits : Text.width (p ++ t ++ q) ≤ limit) (hnext : StartsBlank b) (hroom : o = .fold ∨ b = [] ∨ 0 < Text.width q) :
      Unbroken limit o (a ++ (p ++ t ++ q ++ b)) t

/-- A stretch of a line stays when the line is cut, if the word that it ends in is on the line and there is room. -/
theorem infix_cut {x p t q l : List Char} (hpre : x ++ (p ++ t ++ q) <+: l) (hfits : Text.width (x ++ (p ++ t ++ q)) ≤ limit)
    (hend : EndsSolid (p ++ t ++ q)) (hne : p ++ t ++ q ≠ []) (hroom : o = .fold ∨ l = x ++ (p ++ t ++ q) ∨ 0 < Text.width q) :
    t <:+: cut limit o (dropOverhang limit l) := by
  have hlast : EndsSolid (x ++ (p ++ t ++ q)) := (endsSolid_append hne).2 hend
  have hkept := hlast.prefix_dropOverhang limit hpre
  have hin : t <:+: x ++ (p ++ t ++ q) := ⟨x ++ p, q, by simp⟩
  rcases hroom with hfold | rfl | hroom
  · exact hin.trans (prefix_cut hkept hfits (.inl hfold)).isInfix
  · rw [(dropOverhang_isPrefix _).eq_of_length_le hkept.length_le, cut_of_fits hfits]
    exact hin
  · have hshort : x ++ p ++ t <+: x ++ (p ++ t ++ q) := ⟨q, by simp⟩
    have hless : Text.width (x ++ p ++ t) < limit := by
      simp only [Text.width_append] at hfits ⊢
      omega
    exact List.IsInfix.trans ⟨x ++ p, [], by simp⟩ (prefix_cut (hshort.trans hkept) hless.le (.inr hless)).isInfix

theorem splitLines_of_not_mem {cs : List Char} (h : '\n' ∉ cs) : splitLines cs = [cs] := by
  induction cs with
  | nil => rfl
  | cons c r ih =>
    obtain ⟨hc, hr⟩ := List.ne_and_not_mem_of_not_mem_cons h
    rw [splitLines, if_neg (Ne.symm hc), ih hr]

theorem expandTabs_of_not_mem {cs : List Char} (h : '\t' ∉ cs) (column : Nat) : expandTabs column cs = cs := by
  induction cs generalizing column with
  | nil => rfl
  | cons c r ih =>
    obtain ⟨hc, hr⟩ := List.ne_and_not_mem_of_not_mem_cons h
    rw [expandTabs, if_neg (Ne.symm hc), ih hr]

/-- Without line feeds and tabs, a text is broken as one line. -/
theorem wrap_of_plain {cs : List Char} (hfeed : '\n' ∉ cs) (htab : '\t' ∉ cs) :
    wrap limit o cs = (breakLine limit o cs).map fun l => cut limit o (dropOverhang limit l) := by
  rw [wrap, splitLines_of_not_mem hfeed, List.flatMap_singleton, expandTabs_of_not_mem htab]

theorem breakLine_of_blank {cs : List Char} (h : Blank cs) : breakLine limit o cs = [cs] := by
  have hwords : words cs = [] := by
    unfold words
    cases cs.length with
    | zero => rfl
    | succ fuel => rw [wordsFrom, nextWord?_of_blank h]
  rw [breakLine, hwords]

theorem breakLine_of_not_blank {cs : List Char} (h : ¬ Blank cs) :
    breakLine limit o cs = ((words cs).foldl (putWord limit o) ⟨[], [], 0, 0⟩).lines := by
  obtain ⟨lead, body, trail, rest, hword⟩ := exists_firstWord h
  have hpos : cs.length ≠ 0 := Nat.ne_zero_of_lt hword.length_rest_lt
  have hwords : words cs ≠ [] := by
    obtain ⟨fuel, hfuel⟩ := Nat.exists_eq_succ_of_ne_zero hpos
    rw [words, hfuel, wordsFrom_succ hword]
    exact List.cons_ne_nil _ _
  unfold breakLine
  split
  · next hnil => exact absurd hnil hwords
  · rfl

theorem exists_mem_breakLine (limit : Nat) (o : Overflow) (cs : List Char) : ∃ l, l ∈ breakLine limit o cs := by
  by_cases hblank : Blank cs
  · exact ⟨cs, by rw [breakLine_of_blank hblank]; exact List.mem_singleton_self cs⟩
  · exact ⟨_, by rw [breakLine_of_not_blank hblank]; exact mem_lines.2 (.inl rfl)⟩

/-- The front of a text is the front of one of its lines. -/
theorem front_mem_breakLine {m b : List Char} (hfits : Text.width m ≤ limit) (hlive : Blank m → m = [])
    (hend : FrontEnds m b) : ∃ l ∈ breakLine limit o (m ++ b), m <+: l ∧ (b = [] → l = m) := by
  by_cases hblank : Blank (m ++ b)
  · obtain rfl := hlive fun c hc => hblank c (List.mem_append_left b hc)
    exact ⟨b, by rw [breakLine_of_blank hblank]; exact List.mem_singleton_self b, List.nil_prefix, id⟩
  · rw [breakLine_of_not_blank hblank]
    exact front_stays (f := ⟨[], [], 0, 0⟩) (Nat.le_refl _) rfl (by simpa using hfits) hlive hend

/-- A text that fits is a line of its own. -/
theorem mem_breakLine_of_fits {cs : List Char} (h : Text.width cs ≤ limit) : cs ∈ breakLine limit o cs := by
  by_cases hblank : Blank cs
  · rw [breakLine_of_blank hblank]
    exact List.mem_singleton_self cs
  · obtain ⟨l, hl, -, hall⟩ := front_mem_breakLine (o := o) (b := []) h (fun hcs => absurd hcs hblank) (.inl rfl)
    rw [List.append_nil] at hl
    exact hall rfl ▸ hl

theorem Unbroken.exists_line {cs t : List Char} (h : Unbroken limit o cs t) :
    ∃ l ∈ breakLine limit o cs, t <:+: cut limit o (dropOverhang limit l) := by
  -- Nothing at all stands on every line.
  have hempty {cs m : List Char} (hin : t <:+: m) (hm : m = []) :
      ∃ l ∈ breakLine limit o cs, t <:+: cut limit o (dropOverhang limit l) := by
    obtain rfl : t = [] := List.infix_nil.1 (hm ▸ hin)
    obtain ⟨l, hl⟩ := exists_mem_breakLine limit o cs
    exact ⟨l, hl, List.nil_infix⟩
  cases h with
  | whole h hfits hend =>
    have hkept : dropOverhang limit cs = cs := by
      rcases hend with hlength | hsolid
      · exact dropOverhang_of_length_le hlength
      · exact (dropOverhang_isPrefix cs).eq_of_length_le (hsolid.prefix_dropOverhang limit List.prefix_rfl).length_le
    exact ⟨cs, mem_breakLine_of_fits hfits, by rwa [hkept, cut_of_fits hfits]⟩
  | @front p t q b hfits hend hnext hroom =>
    by_cases hnil : p ++ t ++ q = []
    · exact hempty ⟨p, q, rfl⟩ hnil
    · have hlive : Blank (p ++ t ++ q) → p ++ t ++ q = [] := hend.eq_nil (a := [])
      obtain ⟨l, hl, hpre, -⟩ := front_mem_breakLine (o := o) hfits hlive (.inr ⟨hend, hnext⟩)
      exact ⟨l, hl, infix_cut (x := []) hpre hfits hend hnil (hroom.imp_right .inr)⟩
  | @word a p t q b hbefore hsolid hfits hnext hroom =>
    by_cases hnil : p ++ t ++ q = []
    · exact hempty ⟨p, q, rfl⟩ hnil
    · have hlive : ¬ Blank (a ++ (p ++ t ++ q ++ b)) := fun h => hbefore.1 fun c hc => h c (List.mem_append_left _ hc)
      obtain ⟨l, hl, x, hpre, hwidth, hall⟩ := word_stays (o := o) (Nat.le_refl _) regular_start (.inr hbefore) hsolid hnil hfits hnext
      rw [breakLine_of_not_blank hlive]
      exact ⟨l, hl, infix_cut hpre hwidth hsolid.endsSolid hnil (hroom.imp_right (.imp_left hall))⟩

/-- **An unbroken stretch stands in one of the lines.** -/
theorem Unbroken.shown {cs t : List Char} (h : Unbroken limit o cs t) (hfeed : '\n' ∉ cs) (htab : '\t' ∉ cs) :
    ∃ l ∈ wrap limit o cs, t <:+: l := by
  obtain ⟨l, hl, hin⟩ := h.exists_line
  rw [wrap_of_plain hfeed htab]
  exact ⟨_, List.mem_map_of_mem hl, hin⟩

end Lineage.Display
