import Mathlib
import Lineage.Display.Markup
import Lineage.Proofs.Action
import Lineage.Proofs.Stretches

/-!
# Markup — which texts are printed as they are

A text with markup is printed without its tags, and a bracket behind a backslash without the backslash. So a text of characters
that are shown is printed as it is **if and only if** it is not marked up (`plain_eq_self_iff`): what is printed has the length of
the text only if nothing was read as a tag and nothing was taken for an escape.
-/

set_option autoImplicit false

namespace Lineage.Display.Markup

/-- A tag: a name in brackets that starts with a small letter or one of three signs, without brackets in it. -/
inductive Tag : List Char → Prop where
  | mk {c : Char} {inner : List Char} (hstart : startsTag c = true) (hinner : ∀ x ∈ inner, x ≠ ']' ∧ x ≠ '[') :
      Tag ('[' :: (c :: inner ++ [']']))

/-- **A marked-up text:** one with a tag in it, or with a backslash in front of a bracket. -/
def Marked (cs : List Char) : Prop := (∃ tag, Tag tag ∧ tag <:+: cs) ∨ ['\\', '['] <:+: cs

/-! ## Escapes -/

theorem length_unescape_le (cs : List Char) : (unescape cs).length ≤ cs.length := by
  fun_induction unescape cs with
  | case1 r ih => simp only [List.length_cons]; omega
  | case2 c r _ ih => simpa using ih
  | case3 => exact Nat.le_refl 0

theorem length_unescape_lt {cs : List Char} (h : ['\\', '['] <:+: cs) : (unescape cs).length < cs.length := by
  fun_induction unescape cs with
  | case1 r ih =>
    have hle := length_unescape_le r
    simp only [List.length_cons]
    omega
  | case2 c r hnot ih =>
    rcases List.infix_cons_iff.1 h with hpre | hin
    · obtain ⟨u, hu⟩ := hpre
      obtain ⟨rfl, rfl⟩ := List.cons.inj hu.symm
      exact absurd rfl (hnot u rfl)
    · simpa using ih hin
  | case3 => simp at h

theorem unescape_of_not_infix {cs : List Char} (h : ¬ ['\\', '['] <:+: cs) : unescape cs = cs := by
  fun_induction unescape cs with
  | case1 r ih => exact absurd ⟨[], r, rfl⟩ h
  | case2 c r _ ih => rw [ih fun hin => h (List.infix_cons hin)]
  | case3 => rfl

theorem mem_of_mem_unescape {cs : List Char} {c : Char} (h : c ∈ unescape cs) : c ∈ cs := by
  fun_induction unescape cs with
  | case1 r ih =>
    rcases List.mem_cons.1 h with rfl | h
    · simp
    · simp [ih h]
  | case2 d r _ ih =>
    rcases List.mem_cons.1 h with rfl | h
    · exact List.mem_cons_self
    · exact List.mem_cons_of_mem d (ih h)
  | case3 => exact h

/-! ## Tags -/

theorem tagBody?_eq_some {cs inner rest : List Char} (h : tagBody? cs = some (inner, rest)) :
    Tag ('[' :: (inner ++ [']'])) ∧ cs = inner ++ ']' :: rest := by
  cases cs with
  | nil => cases h
  | cons c r =>
    rw [tagBody?] at h
    split at h
    · cases h
    · next hstart =>
      dsimp only at h
      split at h
      · next rest' hrest =>
        obtain ⟨rfl, rfl⟩ := Prod.mk.inj (Option.some.inj h)
        refine ⟨.mk (by simpa using hstart) fun x hx => by simpa using List.mem_takeWhile_imp hx, ?_⟩
        rw [List.cons_append, ← hrest, List.takeWhile_append_dropWhile]
      · cases h

/-- What is read as a tag: backslashes and a tag, with the rest of the text behind it. -/
theorem tag?_eq_some {cs inner rest : List Char} {n : Nat} (h : tag? cs = some (n, inner, rest)) :
    Tag ('[' :: (inner ++ [']'])) ∧ cs = List.replicate n '\\' ++ '[' :: (inner ++ ']' :: rest) := by
  have hslashes : cs.takeWhile (· = '\\') = List.replicate (cs.takeWhile (· = '\\')).length '\\' :=
    List.eq_replicate_of_mem fun c hc => by simpa using List.mem_takeWhile_imp hc
  unfold tag? at h
  dsimp only at h
  split at h
  · next r hr =>
    obtain ⟨⟨inner', rest'⟩, hbody, heq⟩ := Option.map_eq_some_iff.1 h
    obtain ⟨rfl, rfl, rfl⟩ : _ ∧ inner' = inner ∧ rest' = rest := by simpa using heq
    obtain ⟨htag, rfl⟩ := tagBody?_eq_some hbody
    refine ⟨htag, ?_⟩
    rw [← hslashes, ← hr, Text.drop_length_takeWhile, List.takeWhile_append_dropWhile]
  · cases h

theorem tagBody?_of_tag {c : Char} {inner : List Char} (hstart : startsTag c = true) (hinner : ∀ x ∈ inner, x ≠ ']' ∧ x ≠ '[')
    (rest : List Char) : tagBody? (c :: (inner ++ ']' :: rest)) = some (c :: inner, rest) := by
  have hp : ∀ x ∈ inner, (decide (x ≠ ']') && decide (x ≠ '[')) = true := fun x hx => by simpa using hinner x hx
  have hstop : ∀ x ∈ (']' :: rest).head?, (decide (x ≠ ']') && decide (x ≠ '[')) = false := by simp
  rw [tagBody?, if_neg (by simp [hstart])]
  simp only [Text.takeWhile_append_of_stop hp hstop, Text.dropWhile_append_of_stop hp hstop]

/-- At a tag, one is read. -/
theorem tag?_ne_none {tag : List Char} (h : Tag tag) (rest : List Char) : tag? (tag ++ rest) ≠ none := by
  obtain ⟨hstart, hinner⟩ := h
  have hbody := tagBody?_of_tag hstart hinner rest
  unfold tag?
  simp [hbody]

/-! ## Parts -/

/-- The characters of a part that are printed. -/
def Part.shown : Part → List Char
  | .text cs => cs
  | .opening _ => []
  | .closing _ _ _ => []

/-- What is printed is the text of the parts, in their order. -/
theorem render_eq_ok {opened : List String} {ps : List Part} {cs : List Char} (h : render opened ps = .ok cs) :
    cs = ps.flatMap Part.shown := by
  induction ps generalizing opened cs with
  | nil => exact (Except.ok.inj h).symm
  | cons p r ih =>
    cases p with
    | text text =>
      obtain ⟨rest, hrest, rfl⟩ := Action.map_eq_ok h
      rw [List.flatMap_cons, ← ih hrest]
      rfl
    | opening name => exact ih h
    | closing name tag position =>
      unfold render at h
      split at h
      · cases opened with
        | nil => cases h
        | cons _ rest => exact ih h
      · split at h
        · cases h
        · exact ih h

/-- A run of text is printed without its escapes. -/
theorem flatMap_textPart (run : List Char) : (textPart run).flatMap Part.shown = unescape run.reverse := by
  unfold textPart
  split
  · next hempty => simp [List.isEmpty_iff.1 hempty, unescape]
  · simp [Part.shown]

variable {fuel position : Nat} {run cs : List Char}

/-- The part that a tag is, with an odd number of backslashes in front of it: the tag as text. -/
theorem shown_tagPart (n : Nat) (inner : List Char) (position : Nat) :
    (if n % 2 = 1 then .text ('[' :: inner ++ [']']) else partOf inner position : Part).shown =
      if n % 2 = 1 then '[' :: (inner ++ [']']) else [] := by
  split
  · rfl
  · unfold partOf
    dsimp only
    split <;> rfl

/-- **The parts of a text:** up to the first tag there is a run of text, then come half of the backslashes, and the tag itself if
there is one backslash more. -/
theorem flatMap_partsFrom_tag {n : Nat} {inner rest : List Char} (h : tag? cs = some (n, inner, rest)) :
    (partsFrom (fuel + 1) position run cs).flatMap Part.shown =
      unescape run.reverse ++ (unescape (List.replicate (n / 2) '\\') ++
        ((if n % 2 = 1 then '[' :: (inner ++ [']']) else []) ++
          (partsFrom fuel (position + n + inner.length + 2) [] rest).flatMap Part.shown)) := by
  cases cs with
  | nil => simp [tag?] at h
  | cons c r =>
    rw [partsFrom, h]
    simp only [List.flatMap_append, List.flatMap_cons, flatMap_textPart, List.reverse_replicate, shown_tagPart, List.append_assoc]

/-- Where no tag can be read, the text is one run. -/
theorem partsFrom_of_no_tag (h : ∀ s, s <:+ cs → tag? s = none) : partsFrom fuel position run cs = textPart (cs.reverse ++ run) := by
  induction fuel generalizing position run cs with
  | zero => rfl
  | succ fuel ih =>
    cases cs with
    | nil => rfl
    | cons c r =>
      rw [partsFrom, h _ List.suffix_rfl, ih fun s hs => h s (hs.trans (List.suffix_cons c r))]
      simp

/-- Half of the backslashes, the tag as text if at all, and what is printed of the rest are less than all of them. -/
theorem length_partsFrom_tag {n : Nat} {inner rest : List Char} (h : tag? cs = some (n, inner, rest))
    (hrest : ((partsFrom fuel (position + n + inner.length + 2) [] rest).flatMap Part.shown).length ≤ rest.length) :
    ((partsFrom (fuel + 1) position run cs).flatMap Part.shown).length < run.length + cs.length := by
  obtain ⟨-, hcs⟩ := tag?_eq_some h
  have hrun := length_unescape_le run.reverse
  have hslashes := length_unescape_le (List.replicate (n / 2) '\\')
  have htag : (if n % 2 = 1 then '[' :: (inner ++ [']']) else []).length + n / 2 < n + (inner.length + 2) := by
    split <;> simp only [List.length_cons, List.length_append, List.length_nil] <;> omega
  have hlength : cs.length = n + (inner.length + 2 + rest.length) := by
    rw [hcs]
    simp only [List.length_append, List.length_replicate, List.length_cons]
    omega
  rw [flatMap_partsFrom_tag h]
  simp only [List.length_append, List.length_replicate, List.length_reverse] at hrun hslashes ⊢
  omega

/-- No more is printed than there is, -/
theorem length_partsFrom_le (fuel position : Nat) (run cs : List Char) :
    ((partsFrom fuel position run cs).flatMap Part.shown).length ≤ run.length + cs.length := by
  induction fuel generalizing position run cs with
  | zero =>
    have hle := length_unescape_le (cs.reverse ++ run).reverse
    rw [partsFrom, flatMap_textPart]
    simp only [List.length_reverse, List.length_append] at hle ⊢
    omega
  | succ fuel ih =>
    cases htag : tag? cs with
    | some found =>
      obtain ⟨n, inner, rest⟩ := found
      exact (length_partsFrom_tag htag (by simpa using ih _ [] rest)).le
    | none =>
      cases cs with
      | nil =>
        have hrun : partsFrom (fuel + 1) position run [] = textPart run := rfl
        have hle := length_unescape_le run.reverse
        rw [hrun, flatMap_textPart]
        simpa using hle
      | cons c r =>
        have hle := ih (position + 1) (c :: run) r
        rw [partsFrom, htag]
        simp only [List.length_cons] at hle ⊢
        omega

/-- and less where a tag is read. -/
theorem length_partsFrom_lt (position : Nat) (run : List Char) {s : List Char} (hs : s <:+ cs) (htag : tag? s ≠ none) (hfuel : cs.length ≤ fuel) :
    ((partsFrom fuel position run cs).flatMap Part.shown).length < run.length + cs.length := by
  -- By induction on the text up to the first tag that is read; it may be an earlier one.
  induction fuel generalizing position run cs with
  | zero =>
    obtain rfl := List.eq_nil_of_length_eq_zero (Nat.le_zero.1 hfuel)
    obtain rfl := List.suffix_nil.1 hs
    exact absurd rfl htag
  | succ fuel ih =>
    cases hfirst : tag? cs with
    | some found =>
      obtain ⟨n, inner, rest⟩ := found
      exact length_partsFrom_tag hfirst (by simpa using length_partsFrom_le fuel _ [] rest)
    | none =>
      cases cs with
      | nil =>
        obtain rfl := List.suffix_nil.1 hs
        exact absurd rfl htag
      | cons c r =>
        have hr : s <:+ r := by
          rcases List.suffix_cons_iff.1 hs with rfl | hr
          · exact absurd hfirst htag
          · exact hr
        have hlt := ih (position + 1) (c :: run) hr (Nat.le_of_succ_le_succ hfuel)
        rw [partsFrom, hfirst]
        simp only [List.length_cons] at hlt ⊢
        omega

/-- Nothing is printed that is not in the text. -/
theorem mem_of_mem_partsFrom {c : Char} (h : c ∈ (partsFrom fuel position run cs).flatMap Part.shown) : c ∈ run ∨ c ∈ cs := by
  induction fuel generalizing position run cs with
  | zero =>
    rw [partsFrom, flatMap_textPart] at h
    have hmem := mem_of_mem_unescape h
    rw [List.mem_reverse, List.mem_append, List.mem_reverse] at hmem
    exact hmem.symm
  | succ fuel ih =>
    cases htag : tag? cs with
    | some found =>
      obtain ⟨n, inner, rest⟩ := found
      obtain ⟨-, hcs⟩ := tag?_eq_some htag
      rw [flatMap_partsFrom_tag htag] at h
      rcases List.mem_append.1 h with h | h
      · exact .inl (List.mem_reverse.1 (mem_of_mem_unescape h))
      refine .inr ?_
      rw [hcs]
      rcases List.mem_append.1 h with h | h
      · have hslash := List.mem_replicate.1 (mem_of_mem_unescape h)
        exact List.mem_append_left _ (List.mem_replicate.2 ⟨by omega, hslash.2⟩)
      rcases List.mem_append.1 h with h | h
      · split at h
        · simp only [List.mem_append, List.mem_cons, List.not_mem_nil, or_false] at h ⊢
          tauto
        · exact absurd h List.not_mem_nil
      · have hrest := (ih h).resolve_left List.not_mem_nil
        simp [hrest]
    | none =>
      cases cs with
      | nil =>
        have hrun : partsFrom (fuel + 1) position run [] = textPart run := rfl
        rw [hrun, flatMap_textPart] at h
        exact .inl (List.mem_reverse.1 (mem_of_mem_unescape h))
      | cons d r =>
        rw [partsFrom, htag] at h
        rcases ih h with h | h
        · rcases List.mem_cons.1 h with rfl | h
          · exact .inr List.mem_cons_self
          · exact .inl h
        · exact .inr (List.mem_cons_of_mem d h)

/-! ## Plain texts -/

/-- What a text is without its tags. -/
theorem plain_eq_ok {s : String} {cs : List Char} (h : plain s = .ok cs) :
    cs = ((parts s.toList).flatMap Part.shown).filter (!isSilent ·) := by
  obtain ⟨shown, hshown, rfl⟩ := Action.map_eq_ok h
  rw [render_eq_ok hshown]

theorem mem_of_mem_plain {s : String} {cs : List Char} {c : Char} (h : plain s = .ok cs) (hc : c ∈ cs) : c ∈ s.toList := by
  rw [plain_eq_ok h] at hc
  exact (mem_of_mem_partsFrom (List.mem_of_mem_filter hc)).resolve_left List.not_mem_nil

/-- Without tags, only escapes are taken out of a text. -/
theorem parts_of_no_tag {cs : List Char} (h : ∀ s, s <:+ cs → tag? s = none) : parts cs = textPart cs.reverse := by
  rw [parts, partsFrom_of_no_tag h, List.append_nil]

theorem Marked.of_tag? {s cs : List Char} (hs : s <:+ cs) (h : tag? s ≠ none) : Marked cs := by
  obtain ⟨⟨n, inner, rest⟩, hfound⟩ := Option.ne_none_iff_exists'.1 h
  obtain ⟨htag, rfl⟩ := tag?_eq_some hfound
  exact .inl ⟨_, htag, List.IsInfix.trans ⟨List.replicate n '\\', rest, by simp⟩ hs.isInfix⟩

/-- Less is printed of a marked-up text than there is. -/
theorem Marked.length_lt {cs : List Char} (h : Marked cs) : ((parts cs).flatMap Part.shown).length < cs.length := by
  by_cases htag : ∃ s, s <:+ cs ∧ tag? s ≠ none
  · obtain ⟨s, hs, htag⟩ := htag
    have hlt := length_partsFrom_lt 0 [] hs htag (Nat.le_refl _)
    rwa [List.length_nil, Nat.zero_add] at hlt
  · have hno : ∀ s, s <:+ cs → tag? s = none := fun s hs => by
      by_contra hsome
      exact htag ⟨s, hs, hsome⟩
    rw [parts_of_no_tag hno, flatMap_textPart, List.reverse_reverse]
    refine length_unescape_lt (h.resolve_left ?_)
    rintro ⟨tag, hmark, a, b, rfl⟩
    exact tag?_ne_none hmark b (hno _ ⟨a, (List.append_assoc _ _ _).symm⟩)

/-- **A text is printed as it is if and only if it is not marked up,** as far as its characters are shown at all. -/
theorem plain_eq_self_iff {s : String} (hshown : ∀ c ∈ s.toList, isSilent c = false) : plain s = .ok s.toList ↔ ¬ Marked s.toList := by
  refine ⟨fun h hmarked => ?_, fun h => ?_⟩
  · have hlength := congrArg List.length (plain_eq_ok h)
    have hfilter := List.length_filter_le (!isSilent ·) ((parts s.toList).flatMap Part.shown)
    have hless := hmarked.length_lt
    omega
  · have hno : ∀ t, t <:+ s.toList → tag? t = none := fun t ht => by
      by_contra hsome
      exact h (.of_tag? ht hsome)
    have hescape : unescape s.toList = s.toList := unescape_of_not_infix fun hin => h (.inr hin)
    have hrender : render [] (textPart s.toList.reverse) = .ok s.toList := by
      unfold textPart
      split
      · next hempty => rw [List.reverse_eq_nil_iff.1 (List.isEmpty_iff.1 hempty)]; rfl
      · rw [List.reverse_reverse, hescape, render, render, Except.map, List.append_nil]
    have hfilter : s.toList.filter (!isSilent ·) = s.toList := List.filter_eq_self.2 fun c hc => by simp [hshown c hc]
    rw [plain, parts_of_no_tag hno, hrender, Except.map, hfilter]

end Lineage.Display.Markup
