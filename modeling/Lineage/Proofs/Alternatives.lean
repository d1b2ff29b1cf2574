import Mathlib
import Lineage.Union

/-!
# Alternatives — joining names and splitting the expression again

A cut is made at the first occurrence of the delimiter (`cutAt_eq_some_iff`), so it finds the end of a name that the delimiter
follows exactly when no earlier occurrence overlaps that end: such a name is `Clear`. Splitting recovers what was joined as
long as every name is clear and the last of several is not empty (`alternatives_of_clear`), for delimiters of any length. A
single name is read as itself exactly when the delimiter does not occur in it (`mem_alternatives_self`).
-/

set_option autoImplicit false

namespace Lineage.Union

variable {d s a b n : List Char}

/-! ## Where a text is cut -/

/-- No cut is made where the delimiter does not occur. -/
theorem cutAt_eq_none_iff : cutAt d s = none ↔ ¬ d <:+: s := by
  induction s with
  | nil =>
    rw [cutAt, List.infix_nil]
    split <;> simp_all
  | cons c r ih =>
    rw [cutAt, List.infix_cons_iff]
    split
    next hp => simp [List.isPrefixOf_iff_prefix.1 hp]
    next hp =>
      have hpre : ¬ d <+: c :: r := fun h => hp (List.isPrefixOf_iff_prefix.2 h)
      simp [ih, hpre]

/-- A cut is made no later than the delimiter occurs. -/
theorem exists_cutAt_append (a b : List Char) :
    ∃ before after, cutAt d (a ++ d ++ b) = some (before, after) ∧ before.length ≤ a.length := by
  induction a with
  | nil =>
    cases hd : d ++ b with
    | nil =>
      obtain ⟨rfl, rfl⟩ := List.append_eq_nil_iff.1 hd
      exact ⟨[], [], rfl, le_refl _⟩
    | cons c r =>
      have hp : d.isPrefixOf (c :: r) = true := List.isPrefixOf_iff_prefix.2 ⟨b, hd⟩
      refine ⟨[], (c :: r).drop d.length, ?_, le_refl _⟩
      rw [List.nil_append, hd, cutAt, if_pos hp]
  | cons c a ih =>
    obtain ⟨before, after, hcut, hle⟩ := ih
    rw [List.cons_append, List.cons_append, cutAt]
    split
    · exact ⟨[], _, rfl, Nat.zero_le _⟩
    · exact ⟨c :: before, after, by rw [hcut]; rfl, Nat.succ_le_succ hle⟩

/-- **A text is cut at the first occurrence of the delimiter.** -/
theorem cutAt_eq_some_iff : cutAt d s = some (a, b) ↔
    s = a ++ d ++ b ∧ ∀ a' b', s = a' ++ d ++ b' → a.length ≤ a'.length := by
  constructor
  · intro h
    refine ⟨cutAt_eq_some h, ?_⟩
    rintro a' b' rfl
    obtain ⟨before, after, hcut, hle⟩ := exists_cutAt_append (d := d) a' b'
    cases h.symm.trans hcut
    exact hle
  · rintro ⟨rfl, hfirst⟩
    obtain ⟨before, after, hcut, hle⟩ := exists_cutAt_append (d := d) a b
    have heq := cutAt_eq_some hcut
    have hlength : a.length = before.length := Nat.le_antisymm (hfirst _ _ heq) hle
    rw [List.append_assoc, List.append_assoc] at heq
    obtain ⟨rfl, hrest⟩ := List.append_inj heq hlength
    rw [hcut, List.append_cancel_left hrest]

/-! ## Names that a delimiter ends -/

/-- **A clear name:** when the delimiter follows it, it first occurs there, and no earlier occurrence overlaps the end of the
name. -/
def Clear (d n : List Char) : Prop := ∀ before after, n ++ d = before ++ d ++ after → before = n

theorem clear_iff : Clear d n ↔ cutAt d (n ++ d) = some (n, []) := by
  rw [cutAt_eq_some_iff]
  constructor
  · intro h
    refine ⟨(List.append_nil _).symm, fun before after heq => ?_⟩
    rw [h before after heq]
  · rintro ⟨-, hfirst⟩ before after heq
    have hle := hfirst before after heq
    have hlength := congrArg List.length heq
    simp only [List.length_append] at hlength
    have hsame : n.length = before.length := by omega
    rw [List.append_assoc] at heq
    exact (List.append_inj heq hsame).1.symm

instance : DecidablePred (Clear d) := fun _ => decidable_of_iff _ clear_iff.symm

example : Clear "ab".toList "xa".toList ∧ ¬ Clear "aa".toList "xa".toList := by decide

/-- The first cut behind a clear name is made at its end, whatever follows. -/
theorem Clear.cutAt (h : Clear d n) (rest : List Char) : Union.cutAt d (n ++ d ++ rest) = some (n, rest) := by
  rw [cutAt_eq_some_iff]
  refine ⟨rfl, fun before after heq => ?_⟩
  by_contra hlt
  rw [Nat.not_le] at hlt
  -- An earlier occurrence lies within the name and the delimiter behind it.
  have hpre : before ++ d <+: n ++ d := by
    refine List.prefix_of_prefix_length_le ⟨after, heq.symm⟩ ⟨rest, rfl⟩ ?_
    simp only [List.length_append]
    omega
  obtain ⟨more, hmore⟩ := hpre
  rw [h before more hmore.symm] at hlt
  exact Nat.lt_irrefl _ hlt

/-- The delimiter does not occur in a clear name. -/
theorem Clear.absent (hd : d ≠ []) (h : Clear d n) : ¬ d <:+: n := by
  rintro ⟨before, after, rfl⟩
  have hsame := h before (after ++ d) (by simp only [List.append_assoc])
  have hlength := congrArg List.length hsame
  have : 0 < d.length := List.length_pos_iff.2 hd
  simp only [List.length_append] at hlength
  omega

/-- A name is clear for a delimiter of one character that it does not contain. -/
theorem clear_singleton {c : Char} (h : c ∉ n) : Clear [c] n := by
  intro before after heq
  rw [List.append_assoc] at heq
  rcases List.append_eq_append_iff.1 heq with ⟨more, rfl, hmore⟩ | ⟨more, rfl, hmore⟩
  · cases more with
    | nil => exact List.append_nil _
    | cons x more =>
      have hlength := congrArg List.length hmore
      simp only [List.length_append, List.length_cons, List.length_nil] at hlength
      omega
  · cases more with
    | nil => exact (List.append_nil _).symm
    | cons x more =>
      cases hmore
      exact absurd (List.mem_append_right _ List.mem_cons_self) h

/-! ## The pieces of a text -/

/-- A text in which the delimiter does not occur is one piece. -/
theorem pieces_of_absent (hd : d ≠ []) (h : ¬ d <:+: s) : pieces d hd s = [s] := by
  rw [pieces]
  simp [splitChars, cutAt_eq_none_iff.2 h]

/-- A text that begins with a clear name and the delimiter, and goes on. -/
theorem pieces_append (hd : d ≠ []) (h : Clear d n) {rest : List Char} (hrest : rest ≠ []) :
    pieces d hd (n ++ d ++ rest) = n :: pieces d hd rest := by
  have hsplit : splitChars d (n ++ d ++ rest) = (n, rest) := by rw [splitChars, h.cutAt, Option.getD_some]
  rw [pieces]
  simp only [hsplit, hrest, dif_neg, not_false_eq_true]

/-- **Splitting recovers the names that were joined,** if they are clear and the last of several is not empty. -/
theorem pieces_intercalate (hd : d ≠ []) {ns : List (List Char)} (hne : ns ≠ []) (h : ∀ n ∈ ns, Clear d n)
    (hlast : 2 ≤ ns.length → ns.getLast? ≠ some []) : pieces d hd (d.intercalate ns) = ns := by
  match ns, hne with
  | [n], _ =>
    rw [List.intercalate_singleton]
    exact pieces_of_absent hd ((h n List.mem_cons_self).absent hd)
  | n :: m :: ns, _ =>
    have hlast' : (m :: ns).getLast? ≠ some [] := by
      have hlast := hlast (by simp)
      rwa [List.getLast?_cons_cons] at hlast
    have hrest : d.intercalate (m :: ns) ≠ [] := by
      cases ns with
      | nil => simpa using hlast'
      | cons => simp [List.intercalate_cons_cons, hd]
    have ih := pieces_intercalate hd (List.cons_ne_nil m ns) (fun k hk => h k (List.mem_cons_of_mem _ hk)) fun _ => hlast'
    rw [List.intercalate_cons_cons, pieces_append hd (h n List.mem_cons_self) hrest, ih]

/-- The text before a cut is shorter than the whole. -/
theorem length_splitChars_le (hd : d ≠ []) (s : List Char) :
    (splitChars d s).1.length ≤ s.length ∧ (d <:+: s → (splitChars d s).1.length < s.length) := by
  cases hcut : cutAt d s with
  | none =>
    rw [splitChars, hcut]
    exact ⟨le_refl _, fun h => absurd h (cutAt_eq_none_iff.1 hcut)⟩
  | some p =>
    have hlength := congrArg List.length (cutAt_eq_some hcut)
    have : 0 < d.length := List.length_pos_iff.2 hd
    simp only [List.length_append] at hlength
    rw [splitChars, hcut, Option.getD_some]
    exact ⟨by omega, fun _ => by omega⟩

/-- No piece is longer than the text, and none is as long where the delimiter occurs. -/
theorem length_of_mem_pieces (hd : d ≠ []) {p : List Char} (hp : p ∈ pieces d hd s) :
    p.length ≤ s.length ∧ (d <:+: s → p.length < s.length) := by
  fun_induction pieces d hd s with
  | case1 s q _ =>
    rw [List.mem_singleton.1 hp]
    exact length_splitChars_le hd s
  | case2 s q hrest ih =>
    rcases List.mem_cons.1 hp with rfl | hp
    · exact length_splitChars_le hd s
    · have hlt := (ih hp).1.trans_lt (length_splitChars_lt hd hrest)
      exact ⟨hlt.le, fun _ => hlt⟩

/-! ## Expressions -/

variable {delimiter name : String}

/-- **An expression that was joined is read as the names it was joined from.** -/
theorem alternatives_of_clear (hd : delimiter ≠ "") {ns : List String} (hne : ns ≠ [])
    (h : ∀ n ∈ ns, Clear delimiter.toList n.toList) (hlast : 2 ≤ ns.length → ns.getLast? ≠ some "") :
    alternatives delimiter (delimiter.intercalate ns) = ns := by
  have hd' : delimiter.toList ≠ [] := mt String.toList_eq_nil_iff.1 hd
  have hpieces : pieces delimiter.toList hd' (delimiter.toList.intercalate (ns.map String.toList)) =
      ns.map String.toList := by
    refine pieces_intercalate hd' (mt List.map_eq_nil_iff.1 hne) (fun n hn => ?_) fun hlength hempty => ?_
    · obtain ⟨m, hm, rfl⟩ := List.mem_map.1 hn
      exact h m hm
    · rw [List.getLast?_map] at hempty
      obtain ⟨m, hm, hnil⟩ := Option.map_eq_some_iff.1 hempty
      rw [String.toList_eq_nil_iff.1 hnil] at hm
      exact hlast (by rwa [List.length_map] at hlength) hm
  rw [alternatives, dif_neg hd', String.toList_intercalate, hpieces, List.map_map]
  exact (List.map_congr_left fun n _ => String.ofList_toList).trans (List.map_id _)

/-- The same for names that are all clear and not empty. -/
theorem alternatives_intercalate (hd : delimiter ≠ "") {ns : List String} (hne : ns ≠ [])
    (h : ∀ n ∈ ns, Clear delimiter.toList n.toList ∧ n ≠ "") :
    alternatives delimiter (delimiter.intercalate ns) = ns :=
  alternatives_of_clear hd hne (fun n hn => (h n hn).1) fun _ hlast => (h _ (List.mem_of_getLast? hlast)).2 rfl

/-- A text in which the delimiter does not occur is read as itself. -/
theorem alternatives_of_absent (h : ¬ delimiter.toList <:+: name.toList) : alternatives delimiter name = [name] := by
  have hd : delimiter.toList ≠ [] := by
    intro hnil
    rw [hnil] at h
    exact h List.nil_infix
  rw [alternatives, dif_neg hd, pieces_of_absent hd h, List.map_singleton, String.ofList_toList]

/-- **A name is an alternative of itself** exactly when the delimiter does not occur in it. -/
theorem mem_alternatives_self (hd : delimiter ≠ "") :
    name ∈ alternatives delimiter name ↔ ¬ delimiter.toList <:+: name.toList := by
  have hd' : delimiter.toList ≠ [] := mt String.toList_eq_nil_iff.1 hd
  constructor
  · intro hmem hinfix
    rw [alternatives, dif_neg hd'] at hmem
    obtain ⟨p, hp, rfl⟩ := List.mem_map.1 hmem
    have hlt := (length_of_mem_pieces hd' hp).2 hinfix
    rw [String.toList_ofList] at hlt
    exact Nat.lt_irrefl _ hlt
  · intro h
    rw [alternatives_of_absent h]
    exact List.mem_singleton_self _

end Lineage.Union
