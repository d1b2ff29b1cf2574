import Mathlib
import Lineage.Proofs.Coherence
import Lineage.Proofs.Spelling

/-!
# EmptyNames — alternatives without a name

A leading or doubled delimiter gives an empty alternative, and so does the empty expression. Such an alternative is looked up
like any other: it is no native category, but a value may be asked about it, and an enumeration may be registered under it. So
whether it is inert is up to the value. A value `Declines` the empty name when it never satisfies it, and asking about it leaves
no trace that a later answer shows; for such a value the empty alternatives may be left out (`Declines.run_firstSatisfied`).

Leaving them out of an expression and joining the others again gives an expression with just the others
(`Union.alternatives_intercalate_named`), so the two expressions can be compared: `empty_alternatives_of_declining_values`.
-/

set_option autoImplicit false

namespace Lineage

/-! ## Expressions without their empty alternatives -/

namespace Union

variable {d s a b : List Char}

/-- What stands before a cut is a clear name. -/
theorem clear_of_cutAt (h : cutAt d s = some (a, b)) : Clear d a := by
  obtain ⟨rfl, hfirst⟩ := cutAt_eq_some_iff.1 h
  intro before after heq
  have hle := hfirst before (after ++ b) (by rw [heq, List.append_assoc])
  have hlength := congrArg List.length heq
  simp only [List.length_append] at hlength
  have hsame : a.length = before.length := by omega
  rw [List.append_assoc] at heq
  exact (List.append_inj heq hsame).1.symm

/-- The delimiter does not occur in the text before a split. -/
theorem absent_splitChars (hd : d ≠ []) (s : List Char) : ¬ d <:+: (splitChars d s).1 := by
  rw [splitChars]
  cases hcut : cutAt d s with
  | none => exact cutAt_eq_none_iff.1 hcut
  | some p => exact (clear_of_cutAt hcut).absent hd

/-- Where something is left over, a cut was made. -/
theorem cutAt_of_splitChars (h : (splitChars d s).2 ≠ []) : cutAt d s = some (splitChars d s) := by
  rw [splitChars] at h ⊢
  cases hcut : cutAt d s with
  | none =>
    rw [hcut] at h
    exact absurd rfl h
  | some p => rfl

/-- **The pieces that are not empty can be joined and told apart again.** -/
theorem pieces_intercalate_filter (hd : d ≠ []) (s : List Char) (hne : (pieces d hd s).filter (· ≠ []) ≠ []) :
    pieces d hd (d.intercalate ((pieces d hd s).filter (· ≠ []))) = (pieces d hd s).filter (· ≠ []) := by
  have hone (s : List Char) : pieces d hd (d.intercalate [(splitChars d s).1]) = [(splitChars d s).1] := by
    rw [List.intercalate_singleton]
    exact pieces_of_absent hd (absent_splitChars hd s)
  fun_induction pieces d hd s with
  | case1 s p _ =>
    by_cases hp : p.1 = []
    · rw [List.filter_singleton, decide_eq_false (not_not_intro hp)] at hne
      exact absurd rfl hne
    · rw [List.filter_singleton, decide_eq_true hp]
      exact hone s
  | case2 s p hrest ih =>
    by_cases hp : p.1 = []
    · rw [List.filter_cons_of_neg (by simpa using hp)] at hne ⊢
      exact ih hne
    · rw [List.filter_cons_of_pos (by simpa using hp)]
      have hclear : Clear d p.1 := clear_of_cutAt (cutAt_of_splitChars hrest)
      cases hqs : (pieces d hd p.2).filter (· ≠ []) with
      | nil => exact hone s
      | cons q qs =>
        rw [hqs] at ih
        have ih := ih (List.cons_ne_nil q qs)
        have hjoined : d.intercalate (q :: qs) ≠ [] := by
          -- the empty text has only the empty piece, which was left out
          intro hnil
          rw [hnil, pieces_of_absent hd (mt List.infix_nil.1 hd)] at ih
          have hmem : [] ∈ (pieces d hd p.2).filter (· ≠ []) := by
            rw [hqs, ← ih]
            exact List.mem_singleton_self _
          exact absurd rfl (of_decide_eq_true (List.mem_filter.1 hmem).2)
        rw [List.intercalate_cons_cons, pieces_append hd hclear hjoined, ih]

variable {delimiter text : String}

/-- **The alternatives of an expression that have a name.** -/
def named (delimiter text : String) : List String := (alternatives delimiter text).filter (· ≠ "")

/-- **The union of the named alternatives** has just these for its alternatives, with any delimiter. -/
theorem alternatives_intercalate_named (hne : named delimiter text ≠ []) :
    alternatives delimiter (delimiter.intercalate (named delimiter text)) = named delimiter text := by
  by_cases hd : delimiter.toList = []
  · have hone (text : String) : alternatives delimiter text = [text] := dif_pos hd
    have htext : text ≠ "" := by
      rintro rfl
      exact hne (by rw [named, hone]; rfl)
    have hnamed : named delimiter text = [text] := by
      rw [named, hone, List.filter_singleton, decide_eq_true htext]
      rfl
    rw [hnamed, String.intercalate_singleton, hone]
  · have hpieces (text : String) : alternatives delimiter text = (pieces delimiter.toList hd text.toList).map String.ofList :=
      dif_neg hd
    have hnamed : named delimiter text = ((pieces delimiter.toList hd text.toList).filter (· ≠ [])).map String.ofList := by
      rw [named, hpieces, List.filter_map]
      congr 1
      exact List.filter_congr fun p _ => by simp
    have hsame (ps : List (List Char)) : (ps.map String.ofList).map String.toList = ps := by
      rw [List.map_map]
      exact (List.map_congr_left fun p _ => String.toList_ofList).trans (List.map_id ps)
    rw [hnamed] at hne ⊢
    rw [hpieces, String.toList_intercalate, hsame,
      pieces_intercalate_filter hd text.toList (mt (congrArg (List.map String.ofList)) hne)]

/-- The empty expression has the empty alternative only. -/
theorem alternatives_empty (delimiter : String) : alternatives delimiter "" = [""] := by
  by_cases hd : delimiter.toList = []
  · exact dif_pos hd
  · exact alternatives_of_absent (mt List.infix_nil.1 hd)

example : named "|" "||a||b|" = ["a", "b"] := by decide +kernel

end Union

/-! ## Classes have names -/

/-- Only the empty text reads as the empty string. -/
theorem Text.isEmpty_of_toString {t : Text} (h : t.toString = "") : t.isEmpty = true := by
  have hpoints := congrArg String.toList h
  rw [Text.toString, String.toList_ofList] at hpoints
  exact List.isEmpty_iff.2 (List.map_eq_nil_iff.1 hpoints)

/-- **No class is nameless:** an examination lets no empty text through, and the base class has a name. -/
theorem Reaches.empty_not_mem {w : World} (h : Reaches World.initial w) {i : Nat} {c : ClassRecord}
    (hc : w.class? i = some c) : "" ∉ c.membership := by
  have hw : Pedigree w := h.pedigree pedigree_initial
  intro hmem
  obtain ⟨j, ms, -, hj⟩ := (hw.mem_iff (identity?_of_class? hc) "").1 hmem
  by_cases hbase : j = baseIndex
  · subst hbase
    have hname : baseTypeName = "" := congrArg Prod.fst (Option.some.inj (hw.base.symm.trans hj))
    exact absurd hname (by decide)
  · obtain ⟨b, hb⟩ := hw.built j (identity?_lt hj) hbase
    obtain ⟨_, hid, -⟩ := hw.heritage hb
    have hname : b.name = "" := congrArg Prod.fst (Option.some.inj (hid.symm.trans hj))
    obtain ⟨es, hes, hlines⟩ := h.lines
    rw [hes, World.initial, List.nil_append] at hb
    obtain ⟨before, after, rfl⟩ := List.append_of_mem hb
    obtain ⟨_, -, -, ⟨-, request, _, hexamined⟩, -⟩ := hlines before _ after rfl
    obtain ⟨-, _, -, t, -, ht, hempty, -⟩ := Definition.examine_named hexamined
    rw [hname] at ht
    rw [Text.isEmpty_of_toString ht] at hempty
    cases hempty

namespace Query

variable {D : Set Value} {w u u' : World} {v : Value} {sys : String} {s : System} {Alike : World → World → Prop}

/-! ## Declining the empty name -/

/-- **A value declines the empty name** as far as worlds that are alike go: it does not satisfy it, and that it was asked about
it shows in nothing that it answers about other names. -/
structure Declines (Alike : World → World → Prop) (sys : String) (v : Value) : Prop where
  empty : ∀ {u u' : World}, Alike u u' → ∃ t, (satisfies sys v "").run u = (.ok false, t) ∧ Alike t u'
  other : ∀ {u u' : World} {a : String}, a ≠ "" → Alike u u' →
    ∃ r t t', (satisfies sys v a).run u = (r, t) ∧ (satisfies sys v a).run u' = (r, t') ∧ Alike t t'

/-- **A search finds the same without the empty names,** and never one of them. The worlds of the two searches stay alike, so
the induction is on the names with worlds that may differ. -/
theorem Declines.run_firstSatisfied (h : Declines Alike sys v) (as : List String) (hu : Alike u u') :
    ∃ r t t', (firstSatisfied sys v as).run u = (r, t) ∧
      (firstSatisfied sys v (as.filter (· ≠ ""))).run u' = (r, t') ∧ Alike t t' ∧ r ≠ .ok (some "") := by
  induction as generalizing u u' with
  | nil => exact ⟨.ok none, u, u', rfl, rfl, hu, nofun⟩
  | cons a as ih =>
    by_cases ha : a = ""
    · subst ha
      obtain ⟨t, hrun, ht⟩ := h.empty hu
      obtain ⟨r, t₁, t₂, hrun₁, hrun₂, hlike, hr⟩ := ih ht
      refine ⟨r, t₁, t₂, (Action.run_bind_of_ok hrun).trans hrun₁, ?_, hlike, hr⟩
      rw [List.filter_cons_of_neg (by decide)]
      exact hrun₂
    · rw [List.filter_cons_of_pos (by simpa using ha)]
      obtain ⟨r, t, t', hrun, hrun', ht⟩ := h.other ha hu
      rcases r with e | (_ | _)
      · exact ⟨.error e, t, t', Action.run_bind_of_error hrun, Action.run_bind_of_error hrun', ht, nofun⟩
      · obtain ⟨r, t₁, t₂, hrun₁, hrun₂, hlike, hr⟩ := ih ht
        exact ⟨r, t₁, t₂, (Action.run_bind_of_ok hrun).trans hrun₁, (Action.run_bind_of_ok hrun').trans hrun₂, hlike, hr⟩
      · refine ⟨.ok (some a), t, t', Action.run_bind_of_ok hrun, Action.run_bind_of_ok hrun', ht, fun h => ha ?_⟩
        exact Option.some.inj (Except.ok.inj h)

/-- **The empty alternatives of a text are inert for a value:** none of them is what matches, and whether the text is
satisfied comes out as for the union of the named alternatives, the error included; where there is none, it is not. -/
structure Inert (sys delimiter : String) (v : Value) (w : World) (text : String) : Prop where
  unmatched : ∀ {expression : Value}, expression.string? = some text →
    ((findMatch sys v expression).run w).1 ≠ .ok (some "")
  same : ∀ {expression union : Value}, Union.named delimiter text ≠ [] → expression.string? = some text →
    union.string? = some (delimiter.intercalate (Union.named delimiter text)) →
      ((typeOf sys v expression).run w).1 = ((typeOf sys v union).run w).1
  none : ∀ {expression : Value}, Union.named delimiter text = [] → expression.string? = some text →
    ((typeOf sys v expression).run w).1 = .ok false

theorem run_typeOf (sys : String) (v expression : Value) (w : World) :
    (typeOf sys v expression).run w =
      (((findMatch sys v expression).run w).1.map Option.isSome, ((findMatch sys v expression).run w).2) :=
  Action.run_bind_pure _ _ _

/-- A value that declines the empty name finds all empty alternatives inert. -/
theorem Declines.inert (h : Declines Alike sys v) (hs : w.system? sys = some s) (hw : Alike w w) (text : String) :
    Inert sys s.delimiter v w text := by
  obtain ⟨r, t, t', hrun, hrun', -, hr⟩ := h.run_firstSatisfied (Union.alternatives s.delimiter text) hw
  have hfound {expression : Value} (he : expression.string? = some text) :
      (findMatch sys v expression).run w = (r, t) := (run_findMatch hs he v).trans hrun
  constructor
  · intro expression he
    rw [hfound he]
    exact hr
  · intro expression union hne he hunion
    have hother : (findMatch sys v union).run w = (r, t') := by
      rw [run_findMatch hs hunion, Union.alternatives_intercalate_named hne]
      exact hrun'
    rw [run_typeOf, run_typeOf, hfound he, hother]
  · intro expression hnone he
    have hnothing : (firstSatisfied sys v (Union.named s.delimiter text)).run w = (.ok none, w) := by rw [hnone]; rfl
    cases hnothing.symm.trans hrun'
    rw [run_typeOf, hfound he]
    rfl

/-! ## Steady values -/

/-- The empty name is that of no native category. -/
theorem Manner.judge_empty (m : Manner) (w : World) (enums : List (String × Value)) (v : Value) :
    m.judge w enums v "" = match m with
      | .answers verdict => verdict ""
      | .silent => .ok (registryHas w enums "" v)
      | .withheld e => .error e :=
  if_neg v.category.name_ne_empty

/-- A steady value declines the empty name if it judges it negatively. Two worlds are alike here when both are moments of the
footprint with the same type systems. -/
theorem Steady.declines {m : Manner} (h : Steady D w v m) (hv : v ∈ D)
    (hmembers : membersOf s.enums ⊆ D) (hempty : m.judge w s.enums v "" = .ok false) :
    Declines (fun u u' => (Unmutated D w u ∧ u.system? sys = some s) ∧ Unmutated D w u' ∧ u'.system? sys = some s) sys v := by
  have hrun {u : World} (hu : Unmutated D w u ∧ u.system? sys = some s) (a : String) :
      ∃ t, (satisfies sys v a).run u = (m.judge w s.enums v a, t) ∧ Unmutated D w t ∧ t.system? sys = some s := by
    obtain ⟨t, hrun, ht⟩ := h.run_satisfies hu.1 hu.2 a
    have hs' := system?_of_satisfies hu.2 hrun
    rw [ht.judge m hv hmembers] at hrun
    exact ⟨t, hrun, ht, hs'⟩
  constructor
  · rintro u u' ⟨hu, hu'⟩
    obtain ⟨t, hrun, ht⟩ := hrun hu ""
    rw [hempty] at hrun
    exact ⟨t, hrun, ht, hu'⟩
  · rintro u u' a - ⟨hu, hu'⟩
    obtain ⟨t, hrun₁, ht⟩ := hrun hu a
    obtain ⟨t', hrun₂, ht'⟩ := hrun hu' a
    exact ⟨_, t, t', hrun₁, hrun₂, ht, ht'⟩

/-- **For a steady value the empty alternatives are inert exactly when it judges the empty name negatively:** the empty
expression has nothing else to judge. -/
theorem Steady.inert_iff {m : Manner} (h : Steady D w v m) (hs : w.system? sys = some s) (hv : v ∈ D)
    (hmembers : membersOf s.enums ⊆ D) :
    (∀ text, Inert sys s.delimiter v w text) ↔ m.judge w s.enums v "" = .ok false := by
  constructor
  · intro hinert
    have he : (Value.ofString "").string? = some "" := Value.string?_ofString ""
    have hnone : Union.named s.delimiter "" = [] := by rw [Union.named, Union.alternatives_empty]; rfl
    have hanswer := (hinert "").none hnone he
    obtain ⟨t, hrun, -⟩ := h.run_firstSatisfied hv hmembers [""] (.refl D w) hs
    rw [run_typeOf, run_findMatch hs he, Union.alternatives_empty, hrun] at hanswer
    cases hjudge : m.judge w s.enums v "" with
    | error e =>
      rw [List.findM?, hjudge] at hanswer
      cases hanswer
    | ok b =>
      cases b with
      | false => rfl
      | true =>
        rw [List.findM?, hjudge] at hanswer
        cases hanswer
  · intro hempty text
    exact (h.declines hv hmembers hempty).inert hs ⟨⟨.refl D w, hs⟩, .refl D w, hs⟩ text

/-- A world in which five is a member of an enumeration without a name. -/
def namelessWorld : World :=
  { World.initial with systems := [("main", ⟨"|", [("", .enum 0 "" [(.ofString "FIVE", .ofInt 5)])], [], 0⟩)] }

end Query

end Lineage
