import Mathlib
import Lineage.Document.Json
import Lineage.Proofs.Rereading.Words

/-!
# Grammar — what a JSON text is, and that documents are written as one

`Json.Spells` says which texts are JSON and what they stand for: constants, whole numbers, quoted texts, and items and entries in
brackets with blanks around every part. Fractions are left out of it. It says nothing of how a text is written or read.

**The law** (`Document.Exchangeable.spells`): a document of such data, at any depth and in any style that keeps its characters, is
written as a JSON text that stands for it.
-/

set_option autoImplicit false

namespace Lineage

/-- **Documents that are exchanged without loss:** trees of nothing, booleans, whole numbers that are not too long to be read, and
texts, in lists and in tables whose keys differ from each other. -/
inductive Document.Exchangeable : Document → Prop where
  | null : Exchangeable .null
  | bool (b : Bool) : Exchangeable (.bool b)
  | int {n : Int} (h : n.natAbs < 10 ^ Json.maxDigits) : Exchangeable (.int n)
  | text (s : String) : Exchangeable (.text s)
  | list {xs : List Document} (h : ∀ x ∈ xs, Exchangeable x) : Exchangeable (.list xs)
  | table {es : List (String × Document)} (hkeys : (es.map Prod.fst).Nodup) (h : ∀ e ∈ es, Exchangeable e.2) :
      Exchangeable (.table es)

namespace Json

/-! ## The grammar -/

/-- Blanks, which may stand around every part. -/
def Blank (cs : List Char) : Prop := ∀ c ∈ cs, c = ' ' ∨ c = '\t' ∨ c = '\n' ∨ c = '\r'

/-- The letters that stand for characters behind a backslash. -/
def letters : List (Char × Char) :=
  [('"', '"'), ('\\', '\\'), ('/', '/'), ('b', '\x08'), ('f', '\x0c'), ('n', '\n'), ('r', '\r'), ('t', '\t')]

/-- **A character is spelled** between quotes: as itself, by a letter, or by its number. -/
inductive SpellsChar : Char → List Char → Prop where
  | self {c : Char} (hshown : 32 ≤ c.toNat) (hquote : c ≠ '"') (hslash : c ≠ '\\') : SpellsChar c [c]
  | letter {l c : Char} (h : (l, c) ∈ letters) : SpellsChar c ['\\', l]
  | number {c : Char} (h : c.toNat < 0x10000) : SpellsChar c ('\\' :: 'u' :: Text.hexDigits 4 c.toNat)

/-- A text is spelled between quotes, character by character. -/
def SpellsText (s : String) (cs : List Char) : Prop :=
  ∃ pieces, List.Forall₂ SpellsChar s.toList pieces ∧ cs = '"' :: (pieces.flatten ++ ['"'])

/-- The digits of a whole number: only zero itself starts with a zero. -/
structure WholeDigits (ds : List Char) : Prop where
  digits : ∀ c ∈ ds, c.isDigit = true
  nonempty : ds ≠ []
  leading : ds.head? = some '0' → ds = ['0']
  readable : ds.length ≤ maxDigits

/-- What a stretch of JSON text stands for: a value, or what is between the brackets of one. -/
inductive Part where
  | value (d : Document)
  | items (xs : List Document)
  | entries (es : List (String × Document))

/-- **A stretch of text is JSON for a part.** -/
inductive Spells : Part → List Char → Prop where
  | null : Spells (.value .null) ['n', 'u', 'l', 'l']
  | true : Spells (.value (.bool true)) ['t', 'r', 'u', 'e']
  | false : Spells (.value (.bool false)) ['f', 'a', 'l', 's', 'e']
  | whole {ds : List Char} (h : WholeDigits ds) : Spells (.value (.int (Decimal.digitsValue ds))) ds
  | negated {ds : List Char} (h : WholeDigits ds) : Spells (.value (.int (-(Decimal.digitsValue ds : Int)))) ('-' :: ds)
  | text {s : String} {cs : List Char} (h : SpellsText s cs) : Spells (.value (.text s)) cs
  | emptyList {b : List Char} (hb : Blank b) : Spells (.value (.list [])) ('[' :: (b ++ [']']))
  | list {xs : List Document} {cs : List Char} (h : Spells (.items xs) cs) : Spells (.value (.list xs)) ('[' :: (cs ++ [']']))
  | emptyTable {b : List Char} (hb : Blank b) : Spells (.value (.table [])) ('\x7b' :: (b ++ ['\x7d']))
  | table {es : List (String × Document)} {cs : List Char} (hkeys : (es.map Prod.fst).Nodup) (h : Spells (.entries es) cs) :
      Spells (.value (.table es)) ('\x7b' :: (cs ++ ['\x7d']))
  | lastItem {d : Document} {b cs a : List Char} (hb : Blank b) (ha : Blank a) (h : Spells (.value d) cs) :
      Spells (.items [d]) (b ++ (cs ++ a))
  | item {d : Document} {xs : List Document} {b cs a more : List Char} (hb : Blank b) (ha : Blank a)
      (h : Spells (.value d) cs) (hmore : Spells (.items xs) more) : Spells (.items (d :: xs)) (b ++ (cs ++ (a ++ ',' :: more)))
  | lastEntry {k : String} {d : Document} {b key m v cs a : List Char} (hb : Blank b) (hm : Blank m) (hv : Blank v)
      (ha : Blank a) (hkey : SpellsText k key) (h : Spells (.value d) cs) :
      Spells (.entries [(k, d)]) (b ++ (key ++ (m ++ ':' :: (v ++ (cs ++ a)))))
  | entry {k : String} {d : Document} {es : List (String × Document)} {b key m v cs a more : List Char} (hb : Blank b)
      (hm : Blank m) (hv : Blank v) (ha : Blank a) (hkey : SpellsText k key) (h : Spells (.value d) cs)
      (hmore : Spells (.entries es) more) :
      Spells (.entries ((k, d) :: es)) (b ++ (key ++ (m ++ ':' :: (v ++ (cs ++ (a ++ ',' :: more))))))

/-! ## Blanks -/

theorem blank_nil : Blank [] := fun _ hc => absurd hc List.not_mem_nil

theorem blank_spaces (n : Nat) : Blank (List.replicate n ' ') := fun _ hc => .inl (List.eq_of_mem_replicate hc)

theorem Blank.cons {c : Char} {cs : List Char} (hc : c = ' ' ∨ c = '\t' ∨ c = '\n' ∨ c = '\r') (h : Blank cs) :
    Blank (c :: cs) :=
  List.forall_mem_cons.2 ⟨hc, h⟩

/-! ## Texts -/

/-- What is written for a character spells it. -/
theorem spellsChar_escapeChar (c : Char) : SpellsChar c (escapeChar false c) := by
  unfold escapeChar
  split
  iterate 7 exact .letter (by decide)
  next hquote hslash _ _ _ _ _ =>
    dsimp only
    split
    · next hlow =>
      have hlow : c.toNat < 32 := by simpa using hlow
      have hunit : c.toNat < 0x10000 := Nat.lt_trans hlow (by decide)
      rw [pointEscape, if_pos hunit]
      exact .number hunit
    · next hshown => exact .self (by simpa using hshown) hquote hslash

theorem forall₂_map {α β : Type} {R : α → β → Prop} {f : α → β} (h : ∀ a, R a (f a)) (as : List α) :
    List.Forall₂ R as (as.map f) :=
  List.forall₂_map_right_iff.2 (List.forall₂_same.2 fun a _ => h a)

theorem spellsText_quoted (s : String) : SpellsText s (quoted false s).toList := by
  refine ⟨s.toList.map (escapeChar false), forall₂_map spellsChar_escapeChar _, ?_⟩
  rw [quoted, String.toList_ofList, List.flatMap_def]

/-! ## Whole numbers -/

theorem wholeDigits_toDigits {n : Nat} (h : n < 10 ^ maxDigits) : WholeDigits (Nat.toDigits 10 n) where
  digits _ hc := Nat.isDigit_of_mem_toDigits (by decide) (by decide) hc
  nonempty := Nat.toDigits_ne_nil
  leading hhead := by rw [Literal.eq_zero_of_head_toDigits hhead, Nat.toDigits_zero]
  readable := (Nat.length_toDigits_le_iff (by decide) (by decide)).2 h

theorem spells_int {n : Int} (h : n.natAbs < 10 ^ maxDigits) : Spells (.value (.int n)) (toString n).toList := by
  have hvalue : Decimal.digitsValue (Nat.toDigits 10 n.natAbs) = n.natAbs := Nat.ofDigitChars_toDigits (by decide) (by decide)
  cases n with
  | ofNat n =>
    have htext : toString (Int.ofNat n) = String.ofList (Nat.toDigits 10 n) := Nat.toString_eq_ofList_toDigits
    have hwhole := Spells.whole (wholeDigits_toDigits h)
    rw [hvalue] at hwhole
    rw [htext, String.toList_ofList]
    exact hwhole
  | negSucc n =>
    have htext : (toString (Int.negSucc n)).toList = '-' :: (toString (n + 1)).toList := String.toList_append
    have hnegated := Spells.negated (wholeDigits_toDigits h)
    rw [hvalue] at hnegated
    rw [htext, Nat.toString_eq_ofList_toDigits, String.toList_ofList]
    exact hnegated

/-! ## Containers -/

variable {style : Style}

theorem renderAll_eq (depth : Nat) (xs : List Document) : renderAll style depth xs = xs.map (render style depth) := by
  induction xs with
  | nil => rfl
  | cons x xs ih => rw [renderAll, ih, List.map_cons]

theorem renderEntries_eq (depth : Nat) (es : List (String × Document)) :
    renderEntries style depth es = es.map fun e => quoted style.asciiOnly e.1 ++ ": " ++ render style depth e.2 := by
  induction es with
  | nil => rfl
  | cons e es ih => rw [renderEntries, ih, List.map_cons]

/-- A container that is not empty: its parts with commas between them, and blanks around all. -/
theorem toList_bracketed (style : Style) (depth : Nat) (opening closing : String) {parts : List String} (h : parts ≠ []) :
    ∃ b gap a, Blank b ∧ Blank gap ∧ Blank a ∧ (bracketed style depth opening closing parts).toList =
      opening.toList ++ (b ++ ((',' :: gap).intercalate (parts.map String.toList) ++ a) ++ closing.toList) := by
  have hbody (gap : List Char) (hgap : (separator style (depth + 1)).toList = ',' :: gap) :
      (String.intercalate (separator style (depth + 1)) parts).toList = (',' :: gap).intercalate (parts.map String.toList) := by
    rw [String.toList_intercalate, hgap]
  cases hindent : style.indent with
  | none =>
    refine ⟨[], [' '], [], blank_nil, blank_spaces 1, blank_nil, ?_⟩
    rw [← hbody [' '] (by simp [separator, hindent])]
    unfold bracketed
    cases parts with
    | nil => exact absurd rfl h
    | cons p ps => simp [hindent, String.toList_append]
  | some n =>
    refine ⟨'\n' :: List.replicate (n * (depth + 1)) ' ', '\n' :: List.replicate (n * (depth + 1)) ' ',
      '\n' :: List.replicate (n * depth) ' ', (blank_spaces _).cons (by decide), (blank_spaces _).cons (by decide),
      (blank_spaces _).cons (by decide), ?_⟩
    rw [← hbody _ (by simp [separator, hindent, String.toList_append])]
    unfold bracketed
    cases parts with
    | nil => exact absurd rfl h
    | cons p ps => simp [hindent, String.toList_append]

/-- Items with commas between them. -/
theorem spells_items {xs : List Document} {f : Document → List Char} (h : ∀ x ∈ xs, Spells (.value x) (f x)) (hne : xs ≠ [])
    {b gap a : List Char} (hb : Blank b) (hgap : Blank gap) (ha : Blank a) :
    Spells (.items xs) (b ++ ((',' :: gap).intercalate (xs.map f) ++ a)) := by
  induction xs generalizing b with
  | nil => exact absurd rfl hne
  | cons x xs ih =>
    obtain ⟨hx, hxs⟩ := List.forall_mem_cons.1 h
    cases xs with
    | nil => simpa using Spells.lastItem hb ha hx
    | cons y ys => simpa [List.append_assoc] using Spells.item hb blank_nil hx (ih hxs (List.cons_ne_nil y ys) hgap)

/-- Entries with commas between them. -/
theorem spells_entries {es : List (String × Document)} {f : String → List Char} {g : Document → List Char}
    (hkeys : ∀ e ∈ es, SpellsText e.1 (f e.1)) (hvalues : ∀ e ∈ es, Spells (.value e.2) (g e.2)) (hne : es ≠ [])
    {b gap a : List Char} (hb : Blank b) (hgap : Blank gap) (ha : Blank a) :
    Spells (.entries es) (b ++ ((',' :: gap).intercalate (es.map fun e => f e.1 ++ ':' :: ' ' :: g e.2) ++ a)) := by
  induction es generalizing b with
  | nil => exact absurd rfl hne
  | cons e es ih =>
    obtain ⟨hkey, hkeys⟩ := List.forall_mem_cons.1 hkeys
    obtain ⟨hvalue, hvalues⟩ := List.forall_mem_cons.1 hvalues
    cases es with
    | nil => simpa using Spells.lastEntry hb blank_nil (blank_spaces 1) ha hkey hvalue
    | cons e' es =>
      have hmore := ih hkeys hvalues (List.cons_ne_nil e' es) hgap
      simpa [List.append_assoc] using Spells.entry hb blank_nil (blank_spaces 1) blank_nil hkey hvalue hmore

end Json

open Json

/-- **A document is written as a JSON text that stands for it.** -/
theorem Document.Exchangeable.spells {style : Style} (hkeep : style.asciiOnly = false) {d : Document} (h : d.Exchangeable)
    (depth : Nat) : Spells (.value d) (render style depth d).toList := by
  induction h generalizing depth with
  | null => simpa [render] using Spells.null
  | bool b =>
    cases b with
    | false => simpa [render] using Spells.false
    | true => simpa [render] using Spells.true
  | int h => exact spells_int h
  | text s =>
    rw [render, hkeep]
    exact .text (spellsText_quoted s)
  | @list xs _ ih =>
    rw [render, renderAll_eq]
    cases xs with
    | nil => simpa [bracketed] using Spells.emptyList blank_nil
    | cons x xs =>
      have hparts : (x :: xs).map (render style (depth + 1)) ≠ [] := List.cons_ne_nil _ _
      obtain ⟨b, gap, a, hb, hgap, ha, htext⟩ := toList_bracketed style depth "[" "]" hparts
      rw [htext, List.map_map]
      exact .list (spells_items (fun y hy => ih y hy (depth + 1)) (List.cons_ne_nil x xs) hb hgap ha)
  | @table es hkeys _ ih =>
    rw [render, renderEntries_eq, hkeep]
    cases es with
    | nil => simpa [bracketed] using Spells.emptyTable blank_nil
    | cons e es =>
      have hparts : ((e :: es).map fun e => quoted false e.1 ++ ": " ++ render style (depth + 1) e.2) ≠ [] := List.cons_ne_nil _ _
      obtain ⟨b, gap, a, hb, hgap, ha, htext⟩ := toList_bracketed style depth "\x7b" "\x7d" hparts
      have hentries := spells_entries (f := fun k => (quoted false k).toList) (g := fun d => (render style (depth + 1) d).toList)
        (fun e _ => spellsText_quoted e.1) (fun e he => ih e he (depth + 1)) (List.cons_ne_nil e es) hb hgap ha
      rw [htext, List.map_map]
      refine .table hkeys ?_
      simpa [Function.comp_def, String.toList_append] using hentries

end Lineage
