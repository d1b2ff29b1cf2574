import Mathlib
import Lineage.Proofs.Alternatives
import Lineage.Sections

/-!
# Splitting — the pieces of an expression

The leftmost split of a text at a delimiter is a relation of its own (`Splits`): a text without the delimiter is one piece;
any other is cut at the first occurrence, and what follows is split in turn. There is exactly one (`Splits.unique`,
`exists_splits`), its pieces are free of the delimiter, and joining them gives back the text.

`pieces` stops as soon as nothing remains, so it does not see the empty piece behind a delimiter at the end: its result
is the split less a final empty piece (`pieces_eq_trimmed`). What is known of the split carries over to the
alternatives of an expression (`alternatives_are_the_leftmost_split`).
-/

set_option autoImplicit false

namespace Lineage.Union

variable {d s : List Char} {ps qs : List (List Char)}

/-! ## The leftmost split -/

/-- **The leftmost split of a text:** each cut is made at the first occurrence of the delimiter in what the cuts before it
left over, until the delimiter does not occur any more. -/
inductive Splits (d : List Char) : List Char → List (List Char) → Prop where
  | whole {s : List Char} (h : ¬ d <:+: s) : Splits d s [s]
  | cut {s a b : List Char} {ps : List (List Char)} (hs : s = a ++ d ++ b)
      (hfirst : ∀ a' b', s = a' ++ d ++ b' → a.length ≤ a'.length) (hrest : Splits d b ps) : Splits d s (a :: ps)

theorem Splits.ne_nil (h : Splits d s ps) : ps ≠ [] := by
  cases h <;> exact List.cons_ne_nil _ _

/-- Every text can be split: what a cut leaves over is shorter. -/
theorem exists_splits (hd : d ≠ []) (s : List Char) : ∃ ps, Splits d s ps := by
  induction hn : s.length using Nat.strong_induction_on generalizing s with
  | _ n ih =>
    cases hcut : cutAt d s with
    | none => exact ⟨[s], .whole (cutAt_eq_none_iff.1 hcut)⟩
    | some p =>
      obtain ⟨hs, hfirst⟩ := cutAt_eq_some_iff.1 hcut
      obtain ⟨ps, hps⟩ := ih _ (hn ▸ length_cutAt_lt hd hcut) p.2 rfl
      exact ⟨p.1 :: ps, .cut hs hfirst hps⟩

/-- The first occurrence is in one place, so there is one split only. -/
theorem Splits.unique (h : Splits d s ps) (h' : Splits d s qs) : ps = qs := by
  induction h generalizing qs with
  | whole h =>
    cases h' with
    | whole => rfl
    | cut hs => exact absurd ⟨_, _, hs.symm⟩ h
  | cut hs hfirst _ ih =>
    cases h' with
    | whole h => exact absurd ⟨_, _, hs.symm⟩ h
    | cut hs' hfirst' hrest' =>
      cases (cutAt_eq_some_iff.2 ⟨hs, hfirst⟩).symm.trans (cutAt_eq_some_iff.2 ⟨hs', hfirst'⟩)
      rw [ih hrest']

/-- Joining the pieces gives back the text. -/
theorem Splits.intercalate (h : Splits d s ps) : d.intercalate ps = s := by
  induction h with
  | whole => exact List.intercalate_singleton
  | cut hs _ hrest ih =>
    obtain ⟨p, ps, rfl⟩ := List.exists_cons_of_ne_nil hrest.ne_nil
    rw [List.intercalate_cons_cons, ih, hs]

/-- The delimiter occurs in no piece. -/
theorem Splits.absent (hd : d ≠ []) (h : Splits d s ps) : ∀ p ∈ ps, ¬ d <:+: p := by
  induction h with
  | whole h =>
    intro p hp
    rwa [List.mem_singleton.1 hp]
  | @cut s a b ps hs hfirst _ ih =>
    intro p hp
    rcases List.mem_cons.1 hp with rfl | hp
    · rintro ⟨before, after, rfl⟩
      -- an occurrence in the piece before the cut would come before the first one
      have hle := hfirst before (after ++ d ++ b) (by simp only [hs, List.append_assoc])
      have : 0 < d.length := List.length_pos_iff.2 hd
      simp only [List.length_append] at hle
      omega
    · exact ih p hp

/-- Every cut takes a delimiter away. -/
theorem Splits.length_le (h : Splits d s ps) : (ps.length - 1) * d.length ≤ s.length := by
  induction h with
  | whole => simp
  | cut hs _ hrest ih =>
    obtain ⟨p, ps, rfl⟩ := List.exists_cons_of_ne_nil hrest.ne_nil
    simp only [hs, List.length_cons, List.length_append, Nat.add_sub_cancel, Nat.add_mul, Nat.one_mul] at ih ⊢
    omega

/-! ## The empty piece at the end -/

/-- The pieces less a final empty one, unless that is the only one. -/
def trimmed (ps : List (List Char)) : List (List Char) :=
  if 2 ≤ ps.length ∧ ps.getLast? = some [] then ps.dropLast else ps

theorem trimmed_cons (a : List Char) (hne : ps ≠ []) (hempty : ps ≠ [[]]) : trimmed (a :: ps) = a :: trimmed ps := by
  obtain ⟨p, r, rfl⟩ := List.exists_cons_of_ne_nil hne
  cases r with
  | nil =>
    have hp : p ≠ [] := fun h => hempty (h ▸ rfl)
    simp [trimmed, hp]
  | cons q r =>
    have hlast : (a :: p :: q :: r).getLast? = (p :: q :: r).getLast? := List.getLast?_cons_cons
    unfold trimmed
    rw [hlast]
    by_cases h : (p :: q :: r).getLast? = some []
    · rw [if_pos ⟨by simp, h⟩, if_pos ⟨by simp, h⟩]
      rfl
    · rw [if_neg fun h' => h h'.2, if_neg fun h' => h h'.2]

theorem trimmed_sublist (ps : List (List Char)) : (trimmed ps).Sublist ps := by
  unfold trimmed
  split
  · exact List.dropLast_sublist ps
  · exact .refl ps

theorem intercalate_concat_nil (d : List Char) (hne : ps ≠ []) :
    d.intercalate (ps ++ [[]]) = d.intercalate ps ++ d := by
  induction ps with
  | nil => exact absurd rfl hne
  | cons p r ih =>
    cases r with
    | nil => simp [List.intercalate_cons_cons]
    | cons q r =>
      rw [List.cons_append, List.cons_append, List.intercalate_cons_cons, ← List.cons_append, ih (List.cons_ne_nil q r),
        List.intercalate_cons_cons, List.append_assoc, List.append_assoc, List.append_assoc]

/-- What the trimmed pieces lack of the text, if anything, is a delimiter at the end. -/
theorem intercalate_trimmed (d : List Char) (ps : List (List Char)) :
    d.intercalate (trimmed ps) = d.intercalate ps ∨ d.intercalate (trimmed ps) ++ d = d.intercalate ps := by
  unfold trimmed
  split
  next h =>
    obtain ⟨hlength, hlast⟩ := h
    obtain ⟨qs, rfl⟩ := List.getLast?_eq_some_iff.1 hlast
    have hne : qs ≠ [] := by
      rintro rfl
      simp at hlength
    rw [List.dropLast_concat, intercalate_concat_nil d hne]
    exact .inr rfl
  next => exact .inl rfl

/-! ## What is read of it -/

/-- **The pieces are the leftmost split** less a final empty piece. -/
theorem pieces_eq_trimmed (hd : d ≠ []) (h : Splits d s ps) : pieces d hd s = trimmed ps := by
  induction h with
  | whole h => simp [pieces_of_absent hd h, trimmed]
  | @cut s a b ps hs hfirst hrest ih =>
    have hsplit : splitChars d s = (a, b) := by rw [splitChars, cutAt_eq_some_iff.2 ⟨hs, hfirst⟩, Option.getD_some]
    rw [pieces]
    simp only [hsplit]
    split
    next hb =>
      subst hb
      -- nothing remains: the split has one more piece, the empty text
      have hlast : Splits d [] [[]] := .whole fun hinfix => hd (List.infix_nil.1 hinfix)
      rw [hrest.unique hlast]
      simp [trimmed]
    next hb =>
      have hempty : ps ≠ [[]] := by
        rintro rfl
        exact hb (hrest.intercalate.symm.trans List.intercalate_singleton)
      rw [ih, trimmed_cons a hrest.ne_nil hempty]

/-- The delimiters that settings accept are the texts that are not empty. -/
theorem accepted_iff {delimiter : String} : (∃ d, TypeSection.delimiterOf d = .ok delimiter) ↔ delimiter ≠ "" := by
  constructor
  · rintro ⟨d, h⟩
    unfold TypeSection.delimiterOf at h
    cases ht : Validation.text d with
    | error e =>
      rw [ht] at h
      cases h
    | ok t =>
      rw [ht] at h
      by_cases hempty : t = ""
      · subst hempty
        cases h
      · cases (if_neg hempty).symm.trans h
        exact hempty
  · exact fun h => ⟨.text delimiter, if_neg h⟩

/-- **Alternatives are the pieces of the leftmost split.** For every delimiter that settings accept, an expression is read to
its end; its alternatives are the pieces of its one leftmost split less a final empty piece, and each delimiter between
them stands for as many characters of the expression. The delimiter occurs in none of them, and joining them gives
back the expression, or the expression without one delimiter at its end. Conversely, names of which each ends where the
delimiter behind it first occurs, the last of several not being empty, are the alternatives of what they are joined to. -/
theorem alternatives_are_the_leftmost_split (delimiter : String) :
    ((∃ d, TypeSection.delimiterOf d = .ok delimiter) ↔ delimiter ≠ "") ∧
    (delimiter ≠ "" →
      (∀ expression,
        enumerate delimiter expression = .ok (alternatives delimiter expression) ∧
        (∃! ps, Splits delimiter.toList expression.toList ps) ∧
        (∀ ps, Splits delimiter.toList expression.toList ps →
          alternatives delimiter expression = (trimmed ps).map String.ofList) ∧
        ((alternatives delimiter expression).length - 1) * delimiter.length ≤ expression.length ∧
        (∀ a ∈ alternatives delimiter expression, ¬ delimiter.toList <:+: a.toList) ∧
        (delimiter.intercalate (alternatives delimiter expression) = expression ∨
          delimiter.intercalate (alternatives delimiter expression) ++ delimiter = expression)) ∧
      ∀ names : List String, names ≠ [] → (∀ n ∈ names, Clear delimiter.toList n.toList) →
        (2 ≤ names.length → names.getLast? ≠ some "") →
        alternatives delimiter (delimiter.intercalate names) = names) := by
  refine ⟨accepted_iff, fun hd => ⟨fun expression => ?_, fun names hne h hlast => alternatives_of_clear hd hne h hlast⟩⟩
  have hd' : delimiter.toList ≠ [] := mt String.toList_eq_nil_iff.1 hd
  obtain ⟨ps, hps⟩ := exists_splits hd' expression.toList
  have hread : alternatives delimiter expression = (trimmed ps).map String.ofList := by
    rw [alternatives, dif_neg hd', pieces_eq_trimmed hd' hps]
  have hjoined : (delimiter.intercalate (alternatives delimiter expression)).toList =
      delimiter.toList.intercalate (trimmed ps) := by
    rw [hread, String.toList_intercalate, List.map_map]
    exact congrArg _ ((List.map_congr_left fun p _ => String.toList_ofList).trans (List.map_id _))
  refine ⟨if_neg hd, ⟨ps, hps, fun qs hqs => hqs.unique hps⟩, fun qs hqs => hqs.unique hps ▸ hread, ?_, ?_, ?_⟩
  · have hlength := (trimmed_sublist ps).length_le
    rw [hread, List.length_map, ← String.length_toList, ← String.length_toList]
    exact (Nat.mul_le_mul_right _ (Nat.sub_le_sub_right hlength 1)).trans hps.length_le
  · intro a ha
    rw [hread] at ha
    obtain ⟨p, hp, rfl⟩ := List.mem_map.1 ha
    rw [String.toList_ofList]
    exact hps.absent hd' p ((trimmed_sublist ps).subset hp)
  · rcases intercalate_trimmed delimiter.toList ps with heq | heq
    · exact .inl (String.toList_inj.1 (by rw [hjoined, heq, hps.intercalate]))
    · exact .inr (String.toList_inj.1 (by rw [String.toList_append, hjoined, heq, hps.intercalate]))

/-- A delimiter that overlaps itself: an empty name stands between two of them, and each cut is made as early as it
can be. -/
theorem doubled_letters_are_split :
    "aa" ≠ "" ∧ (∀ n ∈ ["c", "", "b"], Clear "aa".toList n.toList) ∧ alternatives "aa" "caaaab" = ["c", "", "b"] ∧
      Splits "aa".toList "caaab".toList ["c".toList, "ab".toList] ∧ alternatives "aa" "caaab" = ["c", "ab"] := by
  have hd : "aa" ≠ "" := by decide
  have hclear : ∀ n ∈ ["c", "", "b"], Clear "aa".toList n.toList := by decide
  have hcut : cutAt "aa".toList "caaab".toList = some ("c".toList, "ab".toList) := by decide
  have hsplits : Splits "aa".toList "caaab".toList ["c".toList, "ab".toList] :=
    .cut (cutAt_eq_some_iff.1 hcut).1 (cutAt_eq_some_iff.1 hcut).2 (.whole (cutAt_eq_none_iff.1 (by decide)))
  obtain ⟨hread, hjoined⟩ := (alternatives_are_the_leftmost_split "aa").2 hd
  obtain ⟨-, -, hpieces, -⟩ := hread "caaab"
  exact ⟨hd, hclear, hjoined _ (by decide) hclear (by decide), hsplits, hpieces _ hsplits⟩

end Lineage.Union
