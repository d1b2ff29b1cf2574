import Mathlib
import Lineage.Proofs.Interchange.Grammar
import Lineage.Proofs.Stretches
import Lineage.Proofs.Tables

/-!
# Reading — a JSON text is read as what it stands for

**The law** (`Json.Spells.ofJson?`): whatever the blanks, and whichever of its spellings a character has, a text that is JSON for
a document by the grammar is read as that document. The reader takes one step for each character at most, so that its fuel, the
length of the text, is enough (`Json.Spells.reads`).

With what is written being JSON, a document is read back from the text that it is written as
(`Document.Exchangeable.ofJson?_toJson`).
-/

set_option autoImplicit false

namespace Lineage

namespace Json

/-! ## Blanks -/

theorem skipBlank_append {b : List Char} (h : Blank b) (cs : List Char) : skipBlank (b ++ cs) = skipBlank cs := by
  rw [skipBlank, List.dropWhile_append_of_pos]
  · rfl
  · intro c hc
    rcases h c hc with rfl | rfl | rfl | rfl <;> rfl

/-- A character that neither is a blank nor closes a bracket. -/
def Opening (c : Char) : Prop := ¬ (c = ' ' ∨ c = '\t' ∨ c = '\n' ∨ c = '\r' ∨ c = ']' ∨ c = '\x7d')

instance (c : Char) : Decidable (Opening c) := inferInstanceAs (Decidable (¬ _))

theorem skipBlank_cons_of_not_blank {c : Char} (h : ¬ (c = ' ' ∨ c = '\t' ∨ c = '\n' ∨ c = '\r')) (r : List Char) :
    skipBlank (c :: r) = c :: r := by
  refine List.dropWhile_cons_of_neg fun hblank => h ?_
  simpa [or_assoc] using hblank

theorem Opening.skipBlank {c : Char} (h : Opening c) (r : List Char) : skipBlank (c :: r) = c :: r :=
  skipBlank_cons_of_not_blank (fun hblank => h (by tauto)) r

theorem skipBlank_skipBlank (cs : List Char) : skipBlank (skipBlank cs) = skipBlank cs :=
  List.dropWhile_idempotent _ cs

/-- What can stand behind a value: nothing that a number goes on with. -/
def Ends (rest : List Char) : Prop := ∀ c ∈ rest.head?, c.isDigit = false ∧ c ≠ '.' ∧ c ≠ 'e' ∧ c ≠ 'E'

theorem ends_nil : Ends [] := fun _ hc => absurd hc (Option.not_mem_none _)

theorem ends_cons {c : Char} (h : c.isDigit = false ∧ c ≠ '.' ∧ c ≠ 'e' ∧ c ≠ 'E') (r : List Char) : Ends (c :: r) :=
  fun _ hd => Option.mem_some_iff.1 hd ▸ h

theorem Blank.ends {b : List Char} (hb : Blank b) {rest : List Char} (h : Ends rest) : Ends (b ++ rest) := by
  cases b with
  | nil => exact h
  | cons c r =>
    refine ends_cons ?_ _
    rcases hb c List.mem_cons_self with rfl | rfl | rfl | rfl <;> decide

/-! ## Texts -/

theorem hexValue?_hexDigit {n : Nat} (h : n < 16) : hexValue? (Text.hexDigit n) = some n := by
  interval_cases n <;> rfl

theorem unit?_hexDigits {n : Nat} (h : n < 0x10000) :
    unit? (Text.hexDigit (n / 16 / 16 / 16 % 16)) (Text.hexDigit (n / 16 / 16 % 16)) (Text.hexDigit (n / 16 % 16))
      (Text.hexDigit (n % 16)) = some n := by
  have hdigit (m : Nat) : hexValue? (Text.hexDigit (m % 16)) = some (m % 16) := hexValue?_hexDigit (Nat.mod_lt m (by decide))
  simp only [unit?, hdigit, Option.bind_eq_bind, Option.bind_some, Option.pure_def, Option.some.injEq]
  omega

/-- A spelled character is taken as the character. -/
theorem readQuoted_spellsChar {c : Char} {cs : List Char} (h : SpellsChar c cs) (sofar : List Nat) (r : List Char) :
    readQuoted sofar (cs ++ r) = readQuoted (c.toNat :: sofar) r := by
  cases h with
  | self hshown hquote hslash =>
    rw [List.singleton_append, readQuoted, if_neg (Nat.not_lt.2 hshown)]
    · exact hquote
    · exact fun _ _ _ _ _ heq => absurd heq hslash
    · exact fun _ _ heq => absurd heq hslash
  | @letter l _ h =>
    have hnot : l ≠ 'u' := by
      rintro rfl
      simp [letters] at h
    have hletter : letterEscape? l = some c := by
      simp only [letters, List.mem_cons, Prod.mk.injEq, List.not_mem_nil, or_false] at h
      rcases h with ⟨rfl, rfl⟩ | ⟨rfl, rfl⟩ | ⟨rfl, rfl⟩ | ⟨rfl, rfl⟩ | ⟨rfl, rfl⟩ | ⟨rfl, rfl⟩ | ⟨rfl, rfl⟩ | ⟨rfl, rfl⟩ <;> rfl
    rw [List.cons_append, List.singleton_append, readQuoted, hletter]
    exact fun _ _ _ _ _ heq => absurd heq hnot
  | number h =>
    have hdigits : Text.hexDigits 4 c.toNat = [Text.hexDigit (c.toNat / 16 / 16 / 16 % 16),
      Text.hexDigit (c.toNat / 16 / 16 % 16), Text.hexDigit (c.toNat / 16 % 16), Text.hexDigit (c.toNat % 16)] := rfl
    rw [hdigits]
    simp only [List.cons_append, List.nil_append]
    rw [readQuoted, unit?_hexDigits h]

/-- Among points of characters there are no halves of pairs. -/
theorem joinPairs_toNat (cs : List Char) : joinPairs (cs.map Char.toNat) = cs.map Char.toNat := by
  induction cs with
  | nil => rfl
  | cons c cs ih =>
    cases cs with
    | nil => rfl
    | cons d cs =>
      have hvalid : ¬ (0xd800 ≤ c.toNat ∧ c.toNat < 0xdc00 ∧ 0xdc00 ≤ d.toNat ∧ d.toNat < 0xe000) := by
        have hc : c.toNat.isValidChar := c.valid
        rcases hc with hlow | ⟨hhigh, -⟩ <;> omega
      simp only [List.map_cons] at ih ⊢
      rw [joinPairs, if_neg hvalid, ih]

theorem readQuoted_pieces {cs : List Char} {pieces : List (List Char)} (h : List.Forall₂ SpellsChar cs pieces)
    (sofar : List Nat) (r : List Char) :
    readQuoted sofar (pieces.flatten ++ '"' :: r) =
      some ((Text.mk (joinPairs (sofar.reverse ++ cs.map Char.toNat))).toString, r) := by
  induction h generalizing sofar with
  | nil => simp [readQuoted]
  | cons hc _ ih =>
    rw [List.flatten_cons, List.append_assoc, readQuoted_spellsChar hc, ih]
    simp

/-- **A spelled text is read** up to its closing quote. -/
theorem SpellsText.read {s : String} {cs : List Char} (h : SpellsText s cs) :
    ∃ inner, cs = '"' :: inner ∧ ∀ rest, readQuoted [] (inner ++ rest) = some (s, rest) := by
  obtain ⟨pieces, hpieces, rfl⟩ := h
  refine ⟨_, rfl, fun rest => ?_⟩
  rw [List.append_assoc, List.singleton_append, readQuoted_pieces hpieces, List.reverse_nil, List.nil_append, joinPairs_toNat]
  exact congrArg (fun t => some (t, rest)) (Text.toString_ofString s)

/-! ## Whole numbers -/

theorem readMagnitude_whole {ds rest : List Char} (h : WholeDigits ds) (hrest : Ends rest) (negative : Bool) :
    readMagnitude negative (ds ++ rest) =
      some (.int (if negative then -(Decimal.digitsValue ds : Int) else Decimal.digitsValue ds), rest) := by
  have hstop : ∀ c ∈ rest.head?, c.isDigit = false := fun c hc => (hrest c hc).1
  have htake : (ds ++ rest).takeWhile Char.isDigit = ds := Text.takeWhile_append_of_stop h.digits hstop
  have hdrop : (ds ++ rest).dropWhile Char.isDigit = rest := Text.dropWhile_append_of_stop h.digits hstop
  have hfraction : readFraction rest = (none, rest) := by
    unfold readFraction
    split
    · exact absurd rfl (hrest _ rfl).2.1
    · rfl
  have hexponent : readExponent rest = (none, rest) := by
    cases rest with
    | nil => rfl
    | cons c r =>
      obtain ⟨-, -, he, hE⟩ := hrest c rfl
      rw [readExponent, if_neg (not_or.2 ⟨he, hE⟩)]
  have hreadable := Nat.not_lt.2 h.readable
  unfold readMagnitude
  simp only [htake, hdrop]
  -- Behind a zero there are no more digits, so both ways of cutting the digits off are one.
  by_cases hzero : ds.head? = some '0'
  · obtain rfl := h.leading hzero
    simp [hfraction, hexponent, maxDigits]
  · obtain ⟨d, ds, rfl⟩ := List.exists_cons_of_ne_nil h.nonempty
    have hd : d ≠ '0' := fun heq => hzero (congrArg some heq)
    simpa [hd, hfraction, hexponent] using hreadable

/-- A word that starts with another character is not there. -/
theorem afterWord?_eq_none (word : String) {c d : Char} {w : List Char} (hword : word.toList = c :: w) (h : c ≠ d)
    (r : List Char) : afterWord? word (d :: r) = none := by
  rw [afterWord?, hword, if_neg]
  simp [h]

theorem readScalar_whole {ds rest : List Char} (h : WholeDigits ds) (hrest : Ends rest) :
    readScalar (ds ++ rest) = some (.int (Decimal.digitsValue ds), rest) := by
  have hread := readMagnitude_whole h hrest false
  obtain ⟨d, r, rfl⟩ := List.exists_cons_of_ne_nil h.nonempty
  have hd := h.digits d List.mem_cons_self
  have hne {c : Char} (hc : c.isDigit = false) : c ≠ d := by
    rintro rfl
    exact absurd hd (by simp [hc])
  rw [List.cons_append] at hread ⊢
  unfold readScalar
  rw [afterWord?_eq_none "null" (w := ['u', 'l', 'l']) rfl (hne (by decide)),
    afterWord?_eq_none "true" (w := ['r', 'u', 'e']) rfl (hne (by decide)),
    afterWord?_eq_none "false" (w := ['a', 'l', 's', 'e']) rfl (hne (by decide)),
    afterWord?_eq_none "NaN" (w := ['a', 'N']) rfl (hne (by decide)),
    afterWord?_eq_none "Infinity" (w := ['n', 'f', 'i', 'n', 'i', 't', 'y']) rfl (hne (by decide)),
    afterWord?_eq_none "-Infinity" (w := ['I', 'n', 'f', 'i', 'n', 'i', 't', 'y']) rfl (hne (by decide))]
  simp only
  split
  · next heq => exact absurd (List.cons.inj heq).1.symm (hne (by decide))
  · exact hread

theorem readScalar_negated {ds rest : List Char} (h : WholeDigits ds) (hrest : Ends rest) :
    readScalar ('-' :: (ds ++ rest)) = some (.int (-(Decimal.digitsValue ds : Int)), rest) := by
  have hread := readMagnitude_whole h hrest true
  obtain ⟨d, r, rfl⟩ := List.exists_cons_of_ne_nil h.nonempty
  have hd := h.digits d List.mem_cons_self
  have hinfinity : afterWord? "-Infinity" ('-' :: (d :: r ++ rest)) = none := by
    rw [afterWord?, if_neg]
    have hne : ¬ 'I' = d := by
      rintro rfl
      exact absurd hd (by decide)
    simp [hne]
  unfold readScalar
  rw [afterWord?_eq_none "null" (w := ['u', 'l', 'l']) rfl (by decide),
    afterWord?_eq_none "true" (w := ['r', 'u', 'e']) rfl (by decide),
    afterWord?_eq_none "false" (w := ['a', 'l', 's', 'e']) rfl (by decide),
    afterWord?_eq_none "NaN" (w := ['a', 'N']) rfl (by decide),
    afterWord?_eq_none "Infinity" (w := ['n', 'f', 'i', 'n', 'i', 't', 'y']) rfl (by decide), hinfinity]
  exact hread

/-! ## Values -/

theorem opening_of_isDigit {c : Char} (h : c.isDigit = true) : Opening c := by
  rintro (rfl | rfl | rfl | rfl | rfl | rfl) <;> exact absurd h (by decide)

/-- A value starts with neither a blank nor a bracket that closes. -/
theorem Spells.starts {d : Document} {cs : List Char} (h : Spells (.value d) cs) : ∃ c r, cs = c :: r ∧ Opening c := by
  cases h with
  | whole h =>
    obtain ⟨d, r, rfl⟩ := List.exists_cons_of_ne_nil h.nonempty
    exact ⟨d, r, rfl, opening_of_isDigit (h.digits d List.mem_cons_self)⟩
  | text h =>
    obtain ⟨inner, rfl, -⟩ := h.read
    exact ⟨_, _, rfl, by decide⟩
  | _ => exact ⟨_, _, rfl, by decide⟩

/-- So do items behind their blanks. -/
theorem Spells.items_start {xs : List Document} {cs : List Char} (h : Spells (.items xs) cs) (rest : List Char) :
    ∃ c r, skipBlank (cs ++ rest) = c :: r ∧ c ≠ ']' := by
  cases h with
  | lastItem hb _ h | item hb _ h =>
    obtain ⟨c, r, rfl, hc⟩ := h.starts
    rw [List.append_assoc, skipBlank_append hb]
    exact ⟨c, _, hc.skipBlank _, fun heq => hc (by tauto)⟩

/-- Entries start with a quote behind their blanks. -/
theorem Spells.entries_start {es : List (String × Document)} {cs : List Char} (h : Spells (.entries es) cs) (rest : List Char) :
    ∃ c r, skipBlank (cs ++ rest) = c :: r ∧ c ≠ '\x7d' := by
  cases h with
  | lastEntry hb _ _ _ hkey | entry hb _ _ _ hkey =>
    obtain ⟨inner, rfl, -⟩ := hkey.read
    rw [List.append_assoc, skipBlank_append hb]
    exact ⟨'"', _, Opening.skipBlank (by decide) _, by decide⟩

theorem readItems_skipBlank (fuel : Nat) (cs : List Char) : readItems fuel (skipBlank cs) = readItems fuel cs := by
  cases fuel with
  | zero => rfl
  | succ fuel => simp only [readItems, skipBlank_skipBlank]

theorem readEntries_skipBlank (fuel : Nat) (cs : List Char) : readEntries fuel (skipBlank cs) = readEntries fuel cs := by
  cases fuel with
  | zero => rfl
  | succ fuel => simp only [readEntries, skipBlank_skipBlank]

/-- **A part is read from a stretch of text,** whatever stands behind it, with as many steps as there are characters: a value up to
its end, items and entries up to the bracket that closes them. -/
def Reads : Part → List Char → Prop
  | .value d, cs => ∀ fuel rest, cs.length < fuel → Ends rest → readValue fuel (cs ++ rest) = some (d, rest)
  | .items xs, cs => ∀ fuel rest, cs.length + 1 < fuel → readItems fuel (cs ++ ']' :: rest) = some (xs, rest)
  | .entries es, cs => ∀ fuel rest, cs.length + 1 < fuel → readEntries fuel (cs ++ '\x7d' :: rest) = some (es, rest)

/-- A value that starts with none of a quote and the opening brackets is a constant or a number. -/
theorem reads_scalar {d : Document} {c : Char} {r : List Char} (h : c ≠ '"' ∧ c ≠ '[' ∧ c ≠ '\x7b')
    (hread : ∀ rest, Ends rest → readScalar (c :: r ++ rest) = some (d, rest)) : Reads (.value d) (c :: r) := by
  intro fuel rest hfuel hrest
  obtain ⟨fuel, rfl⟩ := Nat.exists_eq_succ_of_ne_zero (Nat.ne_zero_of_lt hfuel)
  have hscalar := hread rest hrest
  rw [List.cons_append] at hscalar ⊢
  rw [readValue, hscalar]
  · exact fun _ heq => h.1 (List.cons.inj heq).1
  · exact fun _ heq => h.2.1 (List.cons.inj heq).1
  · exact fun _ heq => h.2.2 (List.cons.inj heq).1

/-- Behind an opening bracket there is either the closing one or the items. -/
theorem readValue_list {fuel : Nat} {cs : List Char} {c : Char} {r : List Char} (hstart : skipBlank cs = c :: r) (hc : c ≠ ']') :
    readValue (fuel + 1) ('[' :: cs) = (readItems fuel cs).map fun p => (.list p.1, p.2) := by
  rw [← readItems_skipBlank, readValue, hstart]
  split
  · next heq => exact absurd (List.cons.inj heq).1 hc
  · rfl

theorem readValue_table {fuel : Nat} {cs : List Char} {c : Char} {r : List Char} (hstart : skipBlank cs = c :: r)
    (hc : c ≠ '\x7d') :
    readValue (fuel + 1) ('\x7b' :: cs) = (readEntries fuel cs).map fun p => (.table (Fields.ofList p.1), p.2) := by
  rw [← readEntries_skipBlank, readValue, hstart]
  split
  · next heq => exact absurd (List.cons.inj heq).1 hc
  · rfl

/-- Blanks and the closing bracket behind the last item end it, as a comma does. -/
theorem readItems_succ {fuel : Nat} {d : Document} {b cs a rest : List Char} {c : Char} (hb : Blank b) (ha : Blank a)
    (hvalue : Spells (.value d) cs) (hread : Reads (.value d) cs) (hfuel : cs.length < fuel) (hc : c = ']' ∨ c = ',') :
    readItems (fuel + 1) (b ++ (cs ++ (a ++ c :: rest))) =
      if c = ']' then some ([d], rest) else (readItems fuel rest).map fun p => (d :: p.1, p.2) := by
  have hends : Ends (a ++ c :: rest) := ha.ends (ends_cons (by rcases hc with rfl | rfl <;> decide) rest)
  have hskip : skipBlank (b ++ (cs ++ (a ++ c :: rest))) = cs ++ (a ++ c :: rest) := by
    obtain ⟨c', r, rfl, hopening⟩ := hvalue.starts
    rw [skipBlank_append hb, List.cons_append, hopening.skipBlank]
  have hbehind : skipBlank (a ++ c :: rest) = c :: rest := by
    rw [skipBlank_append ha]
    exact skipBlank_cons_of_not_blank (by rcases hc with rfl | rfl <;> decide) rest
  rw [readItems, hskip]
  simp only [hread fuel _ hfuel hends, Option.bind_eq_bind, Option.bind_some, hbehind]
  rcases hc with rfl | rfl
  · rfl
  · rw [if_neg (by decide)]
    exact Option.map_eq_bind.symm

theorem readEntries_succ {fuel : Nat} {k : String} {d : Document} {b key m v cs a rest : List Char} {c : Char} (hb : Blank b)
    (hm : Blank m) (hv : Blank v) (ha : Blank a) (hkey : SpellsText k key) (hvalue : Spells (.value d) cs)
    (hread : Reads (.value d) cs) (hfuel : cs.length < fuel) (hc : c = '\x7d' ∨ c = ',') :
    readEntries (fuel + 1) (b ++ (key ++ (m ++ ':' :: (v ++ (cs ++ (a ++ c :: rest)))))) =
      if c = '\x7d' then some ([(k, d)], rest) else (readEntries fuel rest).map fun p => ((k, d) :: p.1, p.2) := by
  obtain ⟨inner, rfl, hinner⟩ := hkey.read
  have hends : Ends (a ++ c :: rest) := ha.ends (ends_cons (by rcases hc with rfl | rfl <;> decide) rest)
  have hcolon (r : List Char) : skipBlank (m ++ ':' :: r) = ':' :: r := by
    rw [skipBlank_append hm]
    exact skipBlank_cons_of_not_blank (by decide) r
  have hskip : skipBlank (v ++ (cs ++ (a ++ c :: rest))) = cs ++ (a ++ c :: rest) := by
    obtain ⟨c', r, rfl, hopening⟩ := hvalue.starts
    rw [skipBlank_append hv, List.cons_append, hopening.skipBlank]
  have hbehind : skipBlank (a ++ c :: rest) = c :: rest := by
    rw [skipBlank_append ha]
    exact skipBlank_cons_of_not_blank (by rcases hc with rfl | rfl <;> decide) rest
  rw [readEntries, skipBlank_append hb, List.cons_append, Opening.skipBlank (by decide)]
  simp only [hinner, Option.bind_eq_bind, Option.bind_some, hcolon, hskip, hread fuel _ hfuel hends, hbehind]
  rcases hc with rfl | rfl
  · rfl
  · rw [if_neg (by decide)]
    exact Option.map_eq_bind.symm

/-! ## Every part is read -/

theorem reads_text {t : String} {cs : List Char} (h : SpellsText t cs) : Reads (.value (.text t)) cs := by
  obtain ⟨inner, rfl, hinner⟩ := h.read
  intro fuel rest hfuel _
  obtain ⟨fuel, rfl⟩ := Nat.exists_eq_succ_of_ne_zero (Nat.ne_zero_of_lt hfuel)
  rw [List.cons_append, readValue, hinner, Option.map_some]

theorem reads_emptyList {b : List Char} (hb : Blank b) : Reads (.value (.list [])) ('[' :: (b ++ [']'])) := by
  intro fuel rest hfuel _
  obtain ⟨fuel, rfl⟩ := Nat.exists_eq_succ_of_ne_zero (Nat.ne_zero_of_lt hfuel)
  rw [List.cons_append, List.append_assoc, readValue, skipBlank_append hb, List.singleton_append,
    skipBlank_cons_of_not_blank (by decide)]
  rfl

theorem reads_emptyTable {b : List Char} (hb : Blank b) : Reads (.value (.table [])) ('\x7b' :: (b ++ ['\x7d'])) := by
  intro fuel rest hfuel _
  obtain ⟨fuel, rfl⟩ := Nat.exists_eq_succ_of_ne_zero (Nat.ne_zero_of_lt hfuel)
  rw [List.cons_append, List.append_assoc, readValue, skipBlank_append hb, List.singleton_append,
    skipBlank_cons_of_not_blank (by decide)]
  rfl

/-- The opening bracket pays for the step that leads to the items. -/
theorem reads_list {xs : List Document} {cs : List Char} (h : Spells (.items xs) cs) (hread : Reads (.items xs) cs) :
    Reads (.value (.list xs)) ('[' :: (cs ++ [']'])) := by
  intro fuel rest hfuel _
  obtain ⟨fuel, rfl⟩ := Nat.exists_eq_succ_of_ne_zero (Nat.ne_zero_of_lt hfuel)
  obtain ⟨c, r, hstart, hc⟩ := h.items_start (']' :: rest)
  rw [List.cons_append, List.append_assoc, List.singleton_append, readValue_list hstart hc, hread fuel rest, Option.map_some]
  simp only [List.length_cons, List.length_append, List.length_nil] at hfuel
  omega

theorem reads_table {es : List (String × Document)} {cs : List Char} (hkeys : (es.map Prod.fst).Nodup)
    (h : Spells (.entries es) cs) (hread : Reads (.entries es) cs) :
    Reads (.value (.table es)) ('\x7b' :: (cs ++ ['\x7d'])) := by
  intro fuel rest hfuel _
  obtain ⟨fuel, rfl⟩ := Nat.exists_eq_succ_of_ne_zero (Nat.ne_zero_of_lt hfuel)
  obtain ⟨c, r, hstart, hc⟩ := h.entries_start ('\x7d' :: rest)
  rw [List.cons_append, List.append_assoc, List.singleton_append, readValue_table hstart hc, hread fuel rest, Option.map_some,
    Fields.ofList_of_nodup hkeys]
  simp only [List.length_cons, List.length_append, List.length_nil] at hfuel
  omega

theorem reads_lastItem {d : Document} {b cs a : List Char} (hb : Blank b) (ha : Blank a) (h : Spells (.value d) cs)
    (hread : Reads (.value d) cs) : Reads (.items [d]) (b ++ (cs ++ a)) := by
  intro fuel rest hfuel
  obtain ⟨fuel, rfl⟩ := Nat.exists_eq_succ_of_ne_zero (Nat.ne_zero_of_lt hfuel)
  simp only [List.length_append] at hfuel
  rw [List.append_assoc, List.append_assoc, readItems_succ hb ha h hread (by omega) (.inl rfl), if_pos rfl]

/-- A comma pays for the step that leads to the next item. -/
theorem reads_item {d : Document} {xs : List Document} {b cs a more : List Char} (hb : Blank b) (ha : Blank a)
    (h : Spells (.value d) cs) (hread : Reads (.value d) cs) (hmore : Reads (.items xs) more) :
    Reads (.items (d :: xs)) (b ++ (cs ++ (a ++ ',' :: more))) := by
  intro fuel rest hfuel
  obtain ⟨fuel, rfl⟩ := Nat.exists_eq_succ_of_ne_zero (Nat.ne_zero_of_lt hfuel)
  have hsome : 0 < cs.length := by
    obtain ⟨c, r, rfl, -⟩ := h.starts
    exact Nat.succ_pos _
  simp only [List.length_append, List.length_cons] at hfuel
  simp only [List.append_assoc, List.cons_append]
  rw [readItems_succ hb ha h hread (by omega) (.inr rfl), if_neg (by decide), hmore fuel rest (by omega), Option.map_some]

theorem reads_lastEntry {k : String} {d : Document} {b key m v cs a : List Char} (hb : Blank b) (hm : Blank m) (hv : Blank v)
    (ha : Blank a) (hkey : SpellsText k key) (h : Spells (.value d) cs) (hread : Reads (.value d) cs) :
    Reads (.entries [(k, d)]) (b ++ (key ++ (m ++ ':' :: (v ++ (cs ++ a))))) := by
  intro fuel rest hfuel
  obtain ⟨fuel, rfl⟩ := Nat.exists_eq_succ_of_ne_zero (Nat.ne_zero_of_lt hfuel)
  simp only [List.length_append, List.length_cons] at hfuel
  simp only [List.append_assoc, List.cons_append]
  rw [readEntries_succ hb hm hv ha hkey h hread (by omega) (.inl rfl), if_pos rfl]

theorem reads_entry {k : String} {d : Document} {es : List (String × Document)} {b key m v cs a more : List Char}
    (hb : Blank b) (hm : Blank m) (hv : Blank v) (ha : Blank a) (hkey : SpellsText k key) (h : Spells (.value d) cs)
    (hread : Reads (.value d) cs) (hmore : Reads (.entries es) more) :
    Reads (.entries ((k, d) :: es)) (b ++ (key ++ (m ++ ':' :: (v ++ (cs ++ (a ++ ',' :: more)))))) := by
  intro fuel rest hfuel
  obtain ⟨fuel, rfl⟩ := Nat.exists_eq_succ_of_ne_zero (Nat.ne_zero_of_lt hfuel)
  simp only [List.length_append, List.length_cons] at hfuel
  simp only [List.append_assoc, List.cons_append]
  rw [readEntries_succ hb hm hv ha hkey h hread (by omega) (.inr rfl), if_neg (by decide), hmore fuel rest (by omega),
    Option.map_some]

/-- **What is JSON for a part is read as that part.** -/
theorem Spells.reads {p : Part} {cs : List Char} (h : Spells p cs) : Reads p cs := by
  induction h with
  | null => exact reads_scalar (by decide) fun _ _ => rfl
  | true => exact reads_scalar (by decide) fun _ _ => rfl
  | false => exact reads_scalar (by decide) fun _ _ => rfl
  | whole h =>
    obtain ⟨d, r, rfl⟩ := List.exists_cons_of_ne_nil h.nonempty
    have hd := h.digits d List.mem_cons_self
    refine reads_scalar ⟨?_, ?_, ?_⟩ fun rest hrest => readScalar_whole h hrest <;>
      (rintro rfl; exact absurd hd (by decide))
  | negated h => exact reads_scalar (by decide) fun rest hrest => readScalar_negated h hrest
  | text h => exact reads_text h
  | emptyList hb => exact reads_emptyList hb
  | list h ih => exact reads_list h ih
  | emptyTable hb => exact reads_emptyTable hb
  | table hkeys h ih => exact reads_table hkeys h ih
  | lastItem hb ha h ih => exact reads_lastItem hb ha h ih
  | item hb ha h _ ih ihmore => exact reads_item hb ha h ih ihmore
  | lastEntry hb hm hv ha hkey h ih => exact reads_lastEntry hb hm hv ha hkey h ih
  | entry hb hm hv ha hkey h _ ih ihmore => exact reads_entry hb hm hv ha hkey h ih ihmore

/-- **A text that is JSON for a document is read as that document.** -/
theorem Spells.ofJson? {d : Document} {s : String} (h : Spells (.value d) s.toList) : Document.ofJson? s = some d := by
  have hread := h.reads (s.toList.length + 1) [] (Nat.lt_succ_self _) ends_nil
  obtain ⟨c, r, hstart, hopening⟩ := h.starts
  have hskip : skipBlank s.toList = s.toList := by rw [hstart, hopening.skipBlank]
  rw [List.append_nil] at hread
  unfold Document.ofJson?
  simp only [hskip, hread, Option.bind_eq_bind, Option.bind_some]
  rfl

end Json

/-- **A document is read back** from the text it is written as. -/
theorem Document.Exchangeable.ofJson?_toJson {style : Json.Style} (hkeep : style.asciiOnly = false) {d : Document}
    (h : d.Exchangeable) : Document.ofJson? (d.toJson style) = some d :=
  (h.spells hkeep 0).ofJson?

end Lineage
