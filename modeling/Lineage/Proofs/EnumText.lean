import Mathlib
import Lineage.EnumSpec

/-!
# EnumText — which texts spell an enumeration

A text is well-formed when it has a name and every piece behind it has a key (`WellFormed`); else the first thing that is
missing is told (`Malformed`). A well-formed text whose literals can be read is read as the members that its pieces spell
(`WellFormed.read`), a malformed one is refused (`Malformed.read`).
-/

set_option autoImplicit false

namespace Lineage.EnumSpec

/-! ## Texts with a title -/

/-- What stands before the first mark in a text; all of it when there is none. -/
def before (mark : Char) (cs : List Char) : List Char := cs.takeWhile (· ≠ mark)

/-- What stands behind the first mark in a text. -/
def after (mark : Char) (cs : List Char) : List Char := (cs.dropWhile (· ≠ mark)).tail

/-- A text has a title: there is a mark in it, and what stands before the first is not blank. -/
def Titled (mark : Char) (cs : List Char) : Prop := mark ∈ cs ∧ ∃ c ∈ before mark cs, Text.isBlank c = false

/-- The title of a text, without the blanks around it. -/
def title (mark : Char) (cs : List Char) : String := String.ofList (Text.stripChars (before mark cs))

theorem cutAt_mark (mark : Char) (cs : List Char) :
    Union.cutAt [mark] cs = if mark ∈ cs then some (before mark cs, after mark cs) else none := by
  induction cs with
  | nil => rfl
  | cons c r ih =>
    unfold Union.cutAt
    by_cases hc : c = mark
    · subst hc
      simp [before, after]
    · have hne : (mark == c) = false := beq_false_of_ne (Ne.symm hc)
      have hmem : mark ∈ c :: r ↔ mark ∈ r := by simp [Ne.symm hc]
      simp only [List.isPrefixOf, hne, Bool.false_and, Bool.false_eq_true, if_false, ih, hmem]
      split
      · simp [before, after, hc]
      · rfl

theorem stripChars_isEmpty_iff {cs : List Char} :
    (Text.stripChars cs).isEmpty = true ↔ ∀ c ∈ cs, Text.isBlank c = true := by
  rw [Text.stripChars, List.isEmpty_iff, List.reverse_eq_nil_iff, List.dropWhile_eq_nil_iff]
  constructor
  · intro h
    cases hrest : cs.dropWhile Text.isBlank with
    | nil => exact List.dropWhile_eq_nil_iff.1 hrest
    | cons c r =>
      have hhead : Text.isBlank c = false := by
        have hnot := List.head_dropWhile_not Text.isBlank (l := cs) (by rw [hrest]; exact List.cons_ne_nil c r)
        simpa [hrest] using hnot
      have hblank := h c (by rw [hrest]; simp)
      rw [hhead] at hblank
      cases hblank
  · intro h c hc
    exact h c ((List.dropWhile_sublist _).subset (List.mem_reverse.1 hc))

theorem titled_iff {mark : Char} {cs : List Char} :
    Titled mark cs ↔ mark ∈ cs ∧ (Text.stripChars (before mark cs)).isEmpty = false := by
  rw [Titled, Bool.eq_false_iff, Ne, stripChars_isEmpty_iff]
  simp only [not_forall, Bool.not_eq_true, exists_prop]

instance (mark : Char) (cs : List Char) : Decidable (Titled mark cs) := inferInstanceAs (Decidable (_ ∧ _))

theorem headed?_of_titled {spec : String} (h : Titled '=' spec.toList) :
    headed? spec = some (title '=' spec.toList, after '=' spec.toList) := by
  obtain ⟨hmem, hfilled⟩ := titled_iff.1 h
  simp only [headed?, cutAt_mark, if_pos hmem, hfilled, Bool.false_eq_true, if_false]
  rfl

theorem headed?_of_not_titled {spec : String} (h : ¬ Titled '=' spec.toList) : headed? spec = none := by
  rw [titled_iff, not_and, Bool.not_eq_false] at h
  by_cases hmem : '=' ∈ spec.toList
  · simp only [headed?, cutAt_mark, if_pos hmem, h hmem, if_true]
  · simp only [headed?, cutAt_mark, if_neg hmem]

/-- The text behind the title of a piece, without the blanks around it. -/
def valueText (piece : List Char) : String := String.ofList (Text.stripChars (after ':' piece))

theorem keyed?_of_titled {piece : List Char} (h : Titled ':' piece) :
    keyed? piece = some (title ':' piece, valueText piece) := by
  obtain ⟨hmem, hfilled⟩ := titled_iff.1 h
  simp only [keyed?, cutAt_mark, if_pos hmem, hfilled, Bool.false_eq_true, if_false]
  rfl

theorem keyed?_of_not_titled {piece : List Char} (h : ¬ Titled ':' piece) : keyed? piece = none := by
  rw [titled_iff, not_and, Bool.not_eq_false] at h
  by_cases hmem : ':' ∈ piece
  · simp only [keyed?, cutAt_mark, if_pos hmem, h hmem, if_true]
  · simp only [keyed?, cutAt_mark, if_neg hmem]

/-! ## What a text spells -/

/-- The name that a text gives an enumeration. -/
def name (spec : String) : String := title '=' spec.toList

/-- The pieces behind the name that are not blank. -/
def memberPieces (spec : String) : List (List Char) := filled (after '=' spec.toList)

/-- **Well-formed:** a text has a name, and every piece behind it that is not blank has a key. -/
structure WellFormed (spec : String) : Prop where
  named : Titled '=' spec.toList
  keyed : ∀ piece ∈ memberPieces spec, Titled ':' piece

/-- The values in a text can be read as literals, up to the first piece that has no key. -/
def Readable (spec : String) : Prop :=
  Titled '=' spec.toList → ∀ pieces, pieces <+: memberPieces spec → (∀ piece ∈ pieces, Titled ':' piece) →
    ∀ piece ∈ pieces, ∃ v, Literal.read (valueText piece) = .ok v

/-- **What a text spells:** a member for every piece, in their order; of a key that is repeated the first place and the last
value count. -/
def Spells (spec : String) (ms : List (String × Value)) : Prop :=
  ∃ es, List.Forall₂ (fun piece e => e.1 = title ':' piece ∧ Literal.read (valueText piece) = .ok e.2)
    (memberPieces spec) es ∧ ms = Fields.ofList es

/-- **What is wrong with a text:** it has no name, or a piece has no key; the first such piece is told. -/
inductive Malformed (spec : String) : Failure → Prop where
  | unnamed (h : ¬ Titled '=' spec.toList) : Malformed spec (.malformedSpec spec)
  | unkeyed (h : Titled '=' spec.toList) {before after : List (List Char)} {piece : List Char}
      (hpieces : memberPieces spec = before ++ piece :: after) (hbefore : ∀ p ∈ before, Titled ':' p)
      (hpiece : ¬ Titled ':' piece) : Malformed spec (.malformedMember (String.ofList piece) (name spec))

theorem Malformed.not_wellFormed {spec : String} {f : Failure} (h : Malformed spec f) : ¬ WellFormed spec := by
  intro hw
  cases h with
  | unnamed h => exact h hw.named
  | unkeyed _ hpieces _ hpiece => exact hpiece (hw.keyed _ (hpieces ▸ List.mem_append_right _ List.mem_cons_self))

theorem wellFormed_or_malformed (spec : String) : WellFormed spec ∨ ∃ f, Malformed spec f := by
  by_cases hnamed : Titled '=' spec.toList
  · cases hfirst : (memberPieces spec).find? fun piece => !decide (Titled ':' piece) with
    | none =>
      refine .inl ⟨hnamed, fun piece hpiece => ?_⟩
      simpa using List.find?_eq_none.1 hfirst piece hpiece
    | some piece =>
      obtain ⟨hpiece, before, after, hpieces, hbefore⟩ := List.find?_eq_some_iff_append.1 hfirst
      refine .inr ⟨_, .unkeyed hnamed hpieces (fun p hp => ?_) (by simpa using hpiece)⟩
      simpa using hbefore p hp
  · exact .inr ⟨_, .unnamed hnamed⟩

/-- The entry that a piece spells. -/
def SpellsEntry (piece : List Char) (e : String × Value) : Prop :=
  e.1 = title ':' piece ∧ Literal.read (valueText piece) = .ok e.2

/-- Pieces whose values can be read spell an entry each. -/
theorem exists_spellsEntries {pieces : List (List Char)}
    (h : ∀ piece ∈ pieces, ∃ v, Literal.read (valueText piece) = .ok v) : ∃ es, List.Forall₂ SpellsEntry pieces es := by
  induction pieces with
  | nil => exact ⟨[], .nil⟩
  | cons piece pieces ih =>
    obtain ⟨v, hv⟩ := h piece List.mem_cons_self
    obtain ⟨es, hes⟩ := ih fun p hp => h p (List.mem_cons_of_mem _ hp)
    exact ⟨(title ':' piece, v) :: es, .cons ⟨rfl, hv⟩ hes⟩

theorem WellFormed.spells {spec : String} (hw : WellFormed spec) (hr : Readable spec) : ∃ ms, Spells spec ms := by
  obtain ⟨es, hes⟩ := exists_spellsEntries (hr hw.named _ (List.prefix_refl _) hw.keyed)
  exact ⟨_, es, hes, rfl⟩

/-! ## Reading a text -/

/-- A piece with a key puts its member over those read before. -/
theorem members_cons {piece : List Char} (h : Titled ':' piece) {v : Value} (hv : Literal.read (valueText piece) = .ok v)
    (n : String) (sofar : List (String × Value)) (pieces : List (List Char)) :
    members n sofar (piece :: pieces) = members n (Fields.set sofar (title ':' piece) v) pieces := by
  simp only [members, keyed?_of_titled h, hv]
  rfl

theorem members_of_forall₂ {pieces : List (List Char)} {es : List (String × Value)}
    (hkeyed : ∀ piece ∈ pieces, Titled ':' piece)
    (h : List.Forall₂ (fun piece e => e.1 = title ':' piece ∧ Literal.read (valueText piece) = .ok e.2) pieces es)
    (n : String) (sofar : List (String × Value)) : members n sofar pieces = .ok (Fields.update sofar es) := by
  induction h generalizing sofar with
  | nil => rfl
  | cons he _ ih =>
    rw [members_cons (hkeyed _ List.mem_cons_self) he.2, ih fun p hp => hkeyed p (List.mem_cons_of_mem _ hp), ← he.1]
    rfl

/-- Pieces with keys and values put their members before those of the pieces behind them. -/
theorem members_append {before : List (List Char)}
    (hbefore : ∀ p ∈ before, Titled ':' p ∧ ∃ v, Literal.read (valueText p) = .ok v) (n : String)
    (sofar : List (String × Value)) :
    ∃ read, ∀ rest, members n sofar (before ++ rest) = members n read rest := by
  induction before generalizing sofar with
  | nil => exact ⟨sofar, fun _ => rfl⟩
  | cons p before ih =>
    obtain ⟨hp, v, hv⟩ := hbefore p List.mem_cons_self
    obtain ⟨read, hread⟩ := ih (fun q hq => hbefore q (List.mem_cons_of_mem _ hq)) (Fields.set sofar (title ':' p) v)
    exact ⟨read, fun rest => by rw [List.cons_append, members_cons hp hv, hread]⟩

theorem members_of_not_titled {before : List (List Char)} {piece : List Char}
    (hbefore : ∀ p ∈ before, Titled ':' p ∧ ∃ v, Literal.read (valueText p) = .ok v) (hpiece : ¬ Titled ':' piece)
    (n : String) (sofar : List (String × Value)) (after : List (List Char)) :
    members n sofar (before ++ piece :: after) = .error (.malformedMember (String.ofList piece) n) := by
  obtain ⟨read, hread⟩ := members_append hbefore n sofar
  simp only [hread, members, keyed?_of_not_titled hpiece]

/-- A well-formed text is read as what it spells. -/
theorem WellFormed.read {spec : String} (hw : WellFormed spec) {ms : List (String × Value)} (h : Spells spec ms) :
    EnumSpec.read spec = .ok (name spec, ms) := by
  obtain ⟨es, hes, rfl⟩ := h
  have hmembers := members_of_forall₂ hw.keyed hes (name spec) []
  simp only [EnumSpec.read, headed?_of_titled hw.named]
  rw [show members (title '=' spec.toList) [] (filled (after '=' spec.toList)) = _ from hmembers]
  rfl

/-- A malformed text is refused for what is wrong with it. -/
theorem Malformed.read {spec : String} {f : Failure} (h : Malformed spec f) (hr : Readable spec) :
    EnumSpec.read spec = .error f := by
  cases h with
  | unnamed h => simp only [EnumSpec.read, headed?_of_not_titled h]
  | unkeyed hnamed hpieces hbefore hpiece =>
    have hreached := hr hnamed _ ⟨_, hpieces.symm⟩ hbefore
    have hmembers := members_of_not_titled (fun p hp => ⟨hbefore p hp, hreached p hp⟩) hpiece (name spec) []
    simp only [EnumSpec.read, headed?_of_titled hnamed]
    rw [show filled (after '=' spec.toList) = _ from hpieces, show title '=' spec.toList = name spec from rfl, hmembers]
    rfl

end Lineage.EnumSpec
