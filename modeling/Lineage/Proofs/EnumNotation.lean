import Lineage.Proofs.EnumText
import Lineage.Proofs.Tables

/-!
# EnumNotation — the grammar of enumerations written as text

`EnumText` says what a text spells once it is cut into pieces and stripped. Here the grammar is said of the text as it stands:
the pieces are what stands between commas behind the first `=`, blank ones left out (`statedPieces`), and neither a title nor a
value depends on the blanks around its piece. **A text is refused exactly when it breaks the grammar, and otherwise each key
stands at its first place with its last value**; so what is written in this form (`inscribed`) is read back.
-/

set_option autoImplicit false

namespace Lineage

namespace Text

/-! ## Blanks around a text -/

/-- What stripping takes away is blank, and stands at the ends. -/
theorem exists_blanks_around (cs : List Char) : ∃ l r, cs = l ++ stripChars cs ++ r ∧ (∀ c ∈ l, isBlank c = true) ∧
    ∀ c ∈ r, isBlank c = true := by
  let rest := cs.dropWhile isBlank
  refine ⟨cs.takeWhile isBlank, (rest.reverse.takeWhile isBlank).reverse, ?_, fun c hc => List.mem_takeWhile_imp hc,
    fun c hc => List.mem_takeWhile_imp (List.mem_reverse.1 hc)⟩
  have hrest : stripChars cs ++ (rest.reverse.takeWhile isBlank).reverse = rest := by
    rw [stripChars, ← List.reverse_append, List.takeWhile_append_dropWhile, List.reverse_reverse]
  rw [List.append_assoc, hrest, List.takeWhile_append_dropWhile]

/-- Blanks at the ends of a text do not matter when it is stripped. -/
theorem stripChars_around {l r : List Char} (hl : ∀ c ∈ l, isBlank c = true) (hr : ∀ c ∈ r, isBlank c = true)
    (cs : List Char) : stripChars (l ++ cs ++ r) = stripChars cs := by
  have hfront : (l ++ cs ++ r).dropWhile isBlank = (cs ++ r).dropWhile isBlank := by
    rw [List.append_assoc, List.dropWhile_append_of_pos hl]
  have hback : ((cs ++ r).dropWhile isBlank).reverse.dropWhile isBlank =
      (cs.dropWhile isBlank).reverse.dropWhile isBlank := by
    rw [List.dropWhile_append]
    split
    · next hblank =>
      -- nothing is left of the text itself, and what follows it is blank
      rw [List.isEmpty_iff.1 hblank, List.dropWhile_eq_nil_iff.2 hr]
    · rw [List.reverse_append, List.dropWhile_append_of_pos fun c hc => hr c (List.mem_reverse.1 hc)]
  rw [stripChars, hfront, hback, stripChars]

end Text

namespace EnumSpec

/-! ## Pieces as they stand -/

section

variable {mark : Char} {cs : List Char}

theorem before_append_cons {a : List Char} (h : mark ∉ a) (b : List Char) : before mark (a ++ mark :: b) = a := by
  rw [before, List.takeWhile_append_of_pos fun c hc => decide_eq_true (ne_of_mem_of_not_mem hc h), List.takeWhile_cons]
  simp

theorem after_append_cons {a : List Char} (h : mark ∉ a) (b : List Char) : after mark (a ++ mark :: b) = b := by
  rw [after, List.dropWhile_append_of_pos fun c hc => decide_eq_true (ne_of_mem_of_not_mem hc h), List.dropWhile_cons]
  simp

/-- A mark in a text that is no blank is in it when it is stripped, with the same on both sides but for blanks. -/
theorem strip_at_mark (hmark : Text.isBlank mark = false) (h : mark ∈ cs) : mark ∈ Text.stripChars cs ∧
    Text.stripChars (before mark (Text.stripChars cs)) = Text.stripChars (before mark cs) ∧
    Text.stripChars (after mark (Text.stripChars cs)) = Text.stripChars (after mark cs) := by
  obtain ⟨l, r, hcs, hl, hr⟩ := Text.exists_blanks_around cs
  have hblank {x : List Char} (hx : ∀ c ∈ x, Text.isBlank c = true) : mark ∉ x := fun hmem => by
    rw [hx mark hmem] at hmark
    cases hmark
  have hmem : mark ∈ Text.stripChars cs := by
    rw [hcs, List.mem_append, List.mem_append] at h
    rcases h with (h | h) | h
    · exact absurd h (hblank hl)
    · exact h
    · exact absurd h (hblank hr)
  obtain ⟨a, b, hab, ha⟩ := List.eq_append_cons_of_mem hmem
  have hla : mark ∉ l ++ a := fun h => (List.mem_append.1 h).elim (hblank hl) ha
  have hwhole : cs = (l ++ a) ++ mark :: (b ++ r) := by
    rw [hcs, hab]
    simp
  have hnil : ∀ c ∈ ([] : List Char), Text.isBlank c = true := fun _ h => nomatch h
  have hbefore := Text.stripChars_around hl hnil a
  have hafter := Text.stripChars_around hnil hr b
  rw [List.append_nil] at hbefore
  rw [List.nil_append] at hafter
  refine ⟨hmem, ?_, ?_⟩
  · rw [hab, before_append_cons ha, hwhole, before_append_cons hla, hbefore]
  · rw [hab, after_append_cons ha, hwhole, after_append_cons hla, hafter]

theorem mem_of_mem_stripChars {c : Char} (h : c ∈ Text.stripChars cs) : c ∈ cs := by
  obtain ⟨l, r, hcs, -, -⟩ := Text.exists_blanks_around cs
  rw [hcs]
  exact List.mem_append_left _ (List.mem_append_right _ h)

theorem titled_stripChars_iff : Titled ':' (Text.stripChars cs) ↔ Titled ':' cs := by
  have hmem : ':' ∈ Text.stripChars cs ↔ ':' ∈ cs := ⟨mem_of_mem_stripChars, fun h => (strip_at_mark rfl h).1⟩
  rw [titled_iff, titled_iff, hmem]
  refine and_congr_right fun h => ?_
  rw [(strip_at_mark rfl h).2.1]

end

/-- The pieces of a text between commas behind its name, as they stand, those left out that are blank. -/
def statedPieces (spec : String) : List (List Char) :=
  ((after '=' spec.toList).splitOn ',').filter fun piece => piece.any fun c => !Text.isBlank c

theorem pieces_eq_splitOn (cs : List Char) : pieces cs = cs.splitOn ',' := by
  induction cs with
  | nil => rfl
  | cons c r ih =>
    rw [List.splitOn, List.splitOnP_cons_eq_if_modifyHead, ← List.splitOn, ← ih, pieces]
    by_cases hc : c = ','
    · simp [hc]
    · cases hp : pieces r with
      | nil => exact absurd hp (pieces_ne_nil r)
      | cons p ps => simp [hc]

theorem memberPieces_eq_map (spec : String) : memberPieces spec = (statedPieces spec).map Text.stripChars := by
  rw [memberPieces, filled, pieces_eq_splitOn, statedPieces, List.filter_map]
  refine congrArg _ (List.filter_congr fun piece _ => ?_)
  rw [Function.comp_apply, Bool.eq_iff_iff, Bool.not_eq_true', ← Bool.not_eq_true, stripChars_isEmpty_iff, List.any_eq_true]
  simp

theorem titled_memberPieces_iff {spec : String} :
    (∀ piece ∈ memberPieces spec, Titled ':' piece) ↔ ∀ piece ∈ statedPieces spec, Titled ':' piece := by
  simp only [memberPieces_eq_map, List.forall_mem_map, titled_stripChars_iff]

theorem title_stripChars {piece : List Char} (h : ':' ∈ piece) : title ':' (Text.stripChars piece) = title ':' piece := by
  rw [title, (strip_at_mark rfl h).2.1, title]

theorem valueText_stripChars {piece : List Char} (h : ':' ∈ piece) : valueText (Text.stripChars piece) = valueText piece := by
  rw [valueText, (strip_at_mark rfl h).2.2, valueText]

/-! ## Reading by the grammar -/

section

variable {spec : String} {piece : List Char} {e : String × Value} {es : List (String × Value)}

theorem spellsEntry_stripChars (h : ':' ∈ piece) : SpellsEntry (Text.stripChars piece) e ↔ SpellsEntry piece e := by
  rw [SpellsEntry, title_stripChars h, valueText_stripChars h, SpellsEntry]

/-- A text that keeps to the grammar is read as the table of what its pieces spell. -/
theorem read_of_spellsEntries (hnamed : Titled '=' spec.toList) (hkeyed : ∀ piece ∈ statedPieces spec, Titled ':' piece)
    (hes : List.Forall₂ SpellsEntry (statedPieces spec) es) : read spec = .ok (name spec, Fields.ofList es) := by
  have hspells : List.Forall₂ SpellsEntry (memberPieces spec) es := by
    rw [memberPieces_eq_map, List.forall₂_map_left_iff]
    exact ((List.forall₂_and_left _ _).2 ⟨hkeyed, hes⟩).imp fun piece e h => (spellsEntry_stripChars h.1.1).2 h.2
  exact WellFormed.read ⟨hnamed, titled_memberPieces_iff.2 hkeyed⟩ ⟨es, hspells, rfl⟩

theorem readable_of_stated (hread : ∀ piece ∈ statedPieces spec, Titled ':' piece →
    ∃ v, Literal.read (valueText piece) = .ok v) : Readable spec := by
  intro _ pieces hprefix hkeyed piece hpiece
  have hmem := hprefix.subset hpiece
  rw [memberPieces_eq_map] at hmem
  obtain ⟨raw, hraw, rfl⟩ := List.mem_map.1 hmem
  have htitled : Titled ':' raw := titled_stripChars_iff.1 (hkeyed _ hpiece)
  rw [valueText_stripChars htitled.1]
  exact hread raw hraw htitled

theorem keys_of_spellsEntries {pieces : List (List Char)} (h : List.Forall₂ SpellsEntry pieces es) :
    es.map Prod.fst = pieces.map (title ':') := by
  induction h with
  | nil => rfl
  | cons he _ ih => rw [List.map_cons, List.map_cons, ih, he.1]

/-- The last piece with a key gives the value. -/
theorem get?_of_spellsEntries {before after : List (List Char)}
    (h : List.Forall₂ SpellsEntry (before ++ piece :: after) es) (hafter : ∀ p ∈ after, title ':' p ≠ title ':' piece) :
    ∃ v, Literal.read (valueText piece) = .ok v ∧ Fields.get? (Fields.ofList es) (title ':' piece) = some v := by
  have hback := List.forall₂_drop before.length h
  rw [List.drop_left] at hback
  obtain ⟨e, back, he, hback, hdrop⟩ := List.forall₂_cons_left_iff.1 hback
  refine ⟨e.2, he.2, ?_⟩
  rw [← he.1, ← List.take_append_drop before.length es, hdrop]
  refine Fields.get?_ofList fun e' he' heq => ?_
  have hkey : e'.1 ∈ after.map (title ':') := keys_of_spellsEntries hback ▸ List.mem_map_of_mem he'
  obtain ⟨p, hp, hpkey⟩ := List.mem_map.1 hkey
  exact hafter p hp (hpkey.trans (heq.trans he.1))

end

/-! ## Writing an enumeration -/

/-- An enumeration written with a name, keys and the texts of their values. -/
def inscribed (name : String) (ps : List (String × String)) : String :=
  name ++ "=" ++ String.intercalate "," (ps.map fun p => p.1 ++ ":" ++ p.2)

/-- **What can be written:** a name and keys without blanks at their ends that are not empty and do not hold the marks behind
them, keys that differ from each other, and texts without blanks at their ends; no comma stands in keys or texts. -/
structure Inscribable (name : String) (ps : List (String × String)) : Prop where
  name_ne : name ≠ ""
  name_strip : Text.strip name = name
  name_mark : '=' ∉ name.toList
  key_ne : ∀ p ∈ ps, p.1 ≠ ""
  key_strip : ∀ p ∈ ps, Text.strip p.1 = p.1
  key_marks : ∀ p ∈ ps, ',' ∉ p.1.toList ∧ ':' ∉ p.1.toList
  text_strip : ∀ p ∈ ps, Text.strip p.2 = p.2
  text_mark : ∀ p ∈ ps, ',' ∉ p.2.toList
  distinct : (ps.map Prod.fst).Nodup

theorem stripChars_toList {s : String} (h : Text.strip s = s) : Text.stripChars s.toList = s.toList := by
  rw [← String.toList_ofList (l := Text.stripChars s.toList)]
  exact congrArg String.toList h

/-- A stripped text in front of a mark is its title. -/
theorem titled_of_strip {mark : Char} {s : String} (hne : s ≠ "") (hstrip : Text.strip s = s) (hmark : mark ∉ s.toList)
    (r : List Char) : Titled mark (s.toList ++ mark :: r) ∧ title mark (s.toList ++ mark :: r) = s := by
  have hbefore := before_append_cons hmark r
  refine ⟨titled_iff.2 ⟨List.mem_append_right _ List.mem_cons_self, ?_⟩, ?_⟩
  · rw [hbefore, stripChars_toList hstrip, Bool.eq_false_iff, Ne, List.isEmpty_iff, String.toList_eq_nil_iff]
    exact hne
  · rw [title, hbefore]
    exact hstrip

/-- The piece in which a key stands with the text of its value. -/
def pieceOf (p : String × String) : List Char := p.1.toList ++ ':' :: p.2.toList

theorem toList_inscribed (name : String) (ps : List (String × String)) :
    (inscribed name ps).toList = name.toList ++ '=' :: [','].intercalate (ps.map pieceOf) := by
  have hpieces : (ps.map fun p => p.1 ++ ":" ++ p.2).map String.toList = ps.map pieceOf := by
    rw [List.map_map]
    refine List.map_congr_left fun p _ => ?_
    simp [pieceOf]
  rw [inscribed, String.toList_append, String.toList_append, String.toList_intercalate, hpieces]
  simp

/-- The pieces of what is written are those of the entries. -/
theorem Inscribable.statedPieces_eq {name : String} {ps : List (String × String)} (h : Inscribable name ps) :
    statedPieces (inscribed name ps) = ps.map pieceOf := by
  rw [statedPieces, toList_inscribed, after_append_cons h.name_mark]
  have hfilled : ∀ piece ∈ ps.map pieceOf, (piece.any fun c => !Text.isBlank c) = true := by
    intro piece hpiece
    obtain ⟨p, -, rfl⟩ := List.mem_map.1 hpiece
    exact List.any_eq_true.2 ⟨':', List.mem_append_right _ List.mem_cons_self, rfl⟩
  have hcomma : ∀ piece ∈ ps.map pieceOf, ',' ∉ piece := by
    intro piece hpiece
    obtain ⟨p, hp, rfl⟩ := List.mem_map.1 hpiece
    simp [pieceOf, (h.key_marks p hp).1, h.text_mark p hp]
  cases ps with
  | nil => rfl
  | cons p ps => rw [List.splitOn_intercalate ',' hcomma (List.cons_ne_nil _ _), List.filter_eq_self.2 hfilled]

/-- What is written is read back. -/
theorem Inscribable.read {name : String} {ps : List (String × String)} (h : Inscribable name ps)
    {ms : List (String × Value)} (hms : List.Forall₂ (fun p m => m.1 = p.1 ∧ Literal.read p.2 = .ok m.2) ps ms) :
    EnumSpec.read (inscribed name ps) = .ok (name, ms) := by
  obtain ⟨hnamed, hname⟩ := titled_of_strip h.name_ne h.name_strip h.name_mark ([','].intercalate (ps.map pieceOf))
  rw [← toList_inscribed] at hnamed hname
  have hpiece (p : String × String) (hp : p ∈ ps) := titled_of_strip (h.key_ne p hp) (h.key_strip p hp) (h.key_marks p hp).2
    p.2.toList
  have hkeyed : ∀ piece ∈ statedPieces (inscribed name ps), Titled ':' piece := by
    rw [h.statedPieces_eq, List.forall_mem_map]
    exact fun p hp => (hpiece p hp).1
  have hentries : List.Forall₂ SpellsEntry (statedPieces (inscribed name ps)) ms := by
    rw [h.statedPieces_eq, List.forall₂_map_left_iff]
    refine ((List.forall₂_and_left _ _).2 ⟨fun p hp => hp, hms⟩).imp fun p m ⟨hp, hkey, hvalue⟩ => ?_
    have htext : valueText (pieceOf p) = p.2 := by
      rw [valueText, pieceOf, after_append_cons (h.key_marks p hp).2]
      exact h.text_strip p hp
    exact ⟨hkey.trans (hpiece p hp).2.symm, htext.symm ▸ hvalue⟩
  have hkeys : ms.map Prod.fst = ps.map Prod.fst := by
    rw [keys_of_spellsEntries hentries, h.statedPieces_eq, List.map_map]
    exact List.map_congr_left fun p hp => (hpiece p hp).2
  rw [read_of_spellsEntries hnamed hkeyed hentries, EnumSpec.name, hname,
    Fields.ofList_of_nodup (hkeys ▸ h.distinct)]

/-- **Enumerations are read by their grammar.** Take a text whose values can all be read.

* It is refused with a value error exactly when it has no name, that is no `=` with something in front that is not blank, or
  when a piece between commas behind the first `=` that is not blank has no key in front of a `:` in the same way.
* Otherwise it is read as its name and a table: the keys are those of the pieces, in the order in which they come first, and
  each has the value that the last piece with that key spells.
* So what is written in this form with stripped names, keys and texts is read back, entry by entry. -/
theorem specs_are_read_by_their_grammar {spec : String}
    (hread : ∀ piece ∈ statedPieces spec, Titled ':' piece → ∃ v, Literal.read (valueText piece) = .ok v) :
    ((∃ e, read spec = .error e ∧ e.kind = .value) ↔
      ¬ Titled '=' spec.toList ∨ ∃ piece ∈ statedPieces spec, ¬ Titled ':' piece) ∧
    (Titled '=' spec.toList → (∀ piece ∈ statedPieces spec, Titled ':' piece) →
      ∃ ms, read spec = .ok (title '=' spec.toList, ms) ∧
        ms.map Prod.fst = ((statedPieces spec).map (title ':')).eraseDups ∧
        ∀ before piece after, statedPieces spec = before ++ piece :: after →
          (∀ p ∈ after, title ':' p ≠ title ':' piece) →
          ∃ v, Literal.read (valueText piece) = .ok v ∧ Fields.get? ms (title ':' piece) = some v) ∧
    ∀ name ps ms, Inscribable name ps →
      List.Forall₂ (fun p m => m.1 = p.1 ∧ Literal.read p.2 = .ok m.2) ps ms → read (inscribed name ps) = .ok (name, ms) := by
  have htable (hnamed : Titled '=' spec.toList) (hkeyed : ∀ piece ∈ statedPieces spec, Titled ':' piece) :
      ∃ es, List.Forall₂ SpellsEntry (statedPieces spec) es ∧ read spec = .ok (name spec, Fields.ofList es) := by
    obtain ⟨es, hes⟩ := exists_spellsEntries fun piece hpiece => hread piece hpiece (hkeyed piece hpiece)
    exact ⟨es, hes, read_of_spellsEntries hnamed hkeyed hes⟩
  refine ⟨⟨?_, fun hbroken => ?_⟩, fun hnamed hkeyed => ?_, fun name ps ms h hms => h.read hms⟩
  · rintro ⟨e, he, -⟩
    by_contra hgood
    rw [not_or, not_not] at hgood
    push Not at hgood
    obtain ⟨es, -, hok⟩ := htable hgood.1 hgood.2
    cases he.symm.trans hok
  · have hnot : ¬ WellFormed spec := fun hw => by
      rcases hbroken with h | ⟨piece, hpiece, h⟩
      · exact h hw.named
      · exact h (titled_memberPieces_iff.1 hw.keyed piece hpiece)
    obtain ⟨f, hf⟩ := (wellFormed_or_malformed spec).resolve_left hnot
    refine ⟨f, hf.read (readable_of_stated hread), ?_⟩
    cases hf <;> rfl
  · obtain ⟨es, hes, hok⟩ := htable hnamed hkeyed
    refine ⟨_, hok, ?_, fun before piece after hpieces hafter => ?_⟩
    · rw [Fields.keys_ofList, keys_of_spellsEntries hes]
    · rw [hpieces] at hes
      exact get?_of_spellsEntries hes hafter

/-- Of a key that comes twice the first place and the last value count; blank pieces and blanks around keys do not. -/
theorem repeated_key_keeps_its_place :
    (∀ piece ∈ statedPieces " Size =s:1, , m : 2,s:3", Titled ':' piece → ∃ v, Literal.read (valueText piece) = .ok v) ∧
      ∃ ms, read " Size =s:1, , m : 2,s:3" = .ok ("Size", ms) ∧ ms.map Prod.fst = ["s", "m"] ∧
        Fields.get? ms "s" = some (.ofInt 3) := by
  have hpieces : statedPieces " Size =s:1, , m : 2,s:3" =
      [['s', ':', '1'], [' ', 'm', ' ', ':', ' ', '2'], ['s', ':', '3']] := by decide +kernel
  have hread : ∀ piece ∈ statedPieces " Size =s:1, , m : 2,s:3", Titled ':' piece →
      ∃ v, Literal.read (valueText piece) = .ok v := by
    simp only [hpieces, List.forall_mem_cons]
    exact ⟨fun _ => ⟨_, rfl⟩, fun _ => ⟨_, rfl⟩, fun _ => ⟨_, rfl⟩, fun _ h => nomatch h⟩
  obtain ⟨-, hgood, -⟩ := specs_are_read_by_their_grammar hread
  have hnamed : Titled '=' " Size =s:1, , m : 2,s:3".toList := ⟨by decide +kernel, 'S', by decide +kernel, rfl⟩
  have hkeyed : ∀ piece ∈ statedPieces " Size =s:1, , m : 2,s:3", Titled ':' piece := by
    simp only [hpieces, List.forall_mem_cons]
    exact ⟨⟨by decide, 's', by decide, rfl⟩, ⟨by decide, 'm', by decide, rfl⟩, ⟨by decide, 's', by decide, rfl⟩,
      fun _ h => nomatch h⟩
  obtain ⟨ms, hms, hkeys, hvalues⟩ := hgood hnamed hkeyed
  have hlast := hvalues [['s', ':', '1'], [' ', 'm', ' ', ':', ' ', '2']] ['s', ':', '3'] [] hpieces fun _ h => nomatch h
  obtain ⟨v, hv, hget⟩ := hlast
  obtain rfl : Value.ofInt 3 = v := Except.ok.inj hv
  exact ⟨hread, ms, hms, hkeys.trans (by decide +kernel), hget⟩

end EnumSpec

end Lineage
