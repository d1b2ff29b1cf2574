import Mathlib
import Lineage.Literal.Token
import Lineage.Text.Quoted

/-!
# Quotation — what is written between quotes is read back

A point is written between quotes in one of three ways: as itself, by a short escape, or by its number. `Writes` says what
is common to them: the characters do not end the quotation and are read as the point. So a quoted text, and quoted bytes,
are read as what they were written for (`Literal.quotedWord_points`, `Literal.quotedWord_octets`), whatever stands behind the
closing quote that is no quote itself.
-/

set_option autoImplicit false

namespace Lineage.Literal

open Text

/-! ## Numbers in hexadecimal -/

theorem hexValue?_hexDigit {n : Nat} (h : n < 16) : hexValue? (hexDigit n) = some n := by
  interval_cases n <;> rfl

theorem foldlM_hexDigits (width n a : Nat) :
    (hexDigits width n).foldlM (fun n c => (hexValue? c).map (16 * n + ·)) a = some (16 ^ width * a + n % 16 ^ width) := by
  induction width generalizing n a with
  | zero => simp [hexDigits, Nat.mod_one]
  | succ w ih =>
    have hlast : hexValue? (hexDigit (n % 16)) = some (n % 16) := hexValue?_hexDigit (Nat.mod_lt n (by decide))
    have hmod : n % 16 ^ (w + 1) = n % 16 + 16 * (n / 16 % 16 ^ w) := by
      rw [pow_succ', Nat.mod_mul]
    simp only [hexDigits, List.foldlM_append, ih, List.foldlM_cons, List.foldlM_nil, hlast, Option.map_some, hmod]
    simp only [Option.bind_eq_bind, Option.bind_some, Option.pure_def]
    congr 1
    ring

/-- A number is read back from as many digits as hold it. -/
theorem hexNumber?_hexDigits {width n : Nat} (h : n < 16 ^ width) : hexNumber? (hexDigits width n) = some n := by
  rw [hexNumber?, foldlM_hexDigits, Nat.mul_zero, Nat.zero_add, Nat.mod_eq_of_lt h]

/-! ## Up to the closing quote -/

/-- A character that stands for itself between quotes. -/
structure Inner (q c : Char) : Prop where
  escape : c ≠ '\\'
  quote : c ≠ q
  shown : 32 ≤ c.toNat

theorem Inner.ne_newline {q c : Char} (h : Inner q c) : c ≠ '\n' := by
  rintro rfl
  exact absurd h.shown (by decide)

theorem inner_hexDigit {q : Char} (hq : q = '\'' ∨ q = '"') {n : Nat} (h : n < 16) :
    Inner q (hexDigit n) ∧ (hexDigit n).toNat ≤ 127 := by
  rcases hq with rfl | rfl <;> interval_cases n <;> exact ⟨⟨by decide, by decide, by decide⟩, by decide⟩

theorem inner_hexDigits {q : Char} (hq : q = '\'' ∨ q = '"') (width n : Nat) :
    ∀ c ∈ hexDigits width n, Inner q c ∧ c.toNat ≤ 127 := by
  induction width generalizing n with
  | zero => exact fun c hc => absurd hc List.not_mem_nil
  | succ w ih =>
    intro c hc
    rcases List.mem_append.1 hc with hc | hc
    · exact ih _ c hc
    · exact List.mem_singleton.1 hc ▸ inner_hexDigit hq (Nat.mod_lt n (by decide))

variable {q c : Char} {cs r : List Char}

theorem quotedBody_inner (h : Inner q c) (r : List Char) :
    quotedBody q false (c :: r) = (quotedBody q false r).map fun p => (c :: p.1, p.2) := by
  rw [quotedBody]
  · simp [h.quote, h.ne_newline]
  · exact fun _ _ heq => absurd heq h.escape

theorem quotedBody_inners (h : ∀ c ∈ cs, Inner q c) (r : List Char) :
    quotedBody q false (cs ++ r) = (quotedBody q false r).map fun p => (cs ++ p.1, p.2) := by
  induction cs with
  | nil => simp
  | cons c cs ih =>
    rw [List.cons_append, quotedBody_inner (h c List.mem_cons_self), ih fun d hd => h d (List.mem_cons_of_mem c hd),
      Option.map_map]
    rfl

theorem quotedBody_escape (q c : Char) (r : List Char) :
    quotedBody q false ('\\' :: c :: r) = (quotedBody q false r).map fun p => ('\\' :: c :: p.1, p.2) := by
  rw [quotedBody]

theorem quotedBody_close (hq : q ≠ '\\') (r : List Char) : quotedBody q false (q :: r) = some ([], r) := by
  rw [quotedBody]
  · simp
  · exact fun _ _ heq => absurd heq hq

/-! ## Escapes -/

variable {inText : Bool} {n : Nat}

theorem unescape_escape {ns : List Nat} {rest : List Char} (h : readEscape inText c r = some (ns, rest)) :
    unescape inText ('\\' :: c :: r) = (unescape inText rest).map (ns ++ ·) := by
  rw [unescape]
  split
  · next hnone => cases hnone.symm.trans h
  · next hsome =>
    cases hsome.symm.trans h
    rfl

theorem unescape_plain (h : c ≠ '\\') (r : List Char) : unescape inText (c :: r) = (unescape inText r).map (c.toNat :: ·) := by
  rw [unescape]
  exact fun _ _ heq => absurd heq h

/-- **Characters that write a point** between quotes: they neither end the quotation nor open another one, they are shown, and
they are read as the point, whatever follows. -/
structure Writes (inText : Bool) (q : Char) (cs : List Char) (n : Nat) : Prop where
  body : ∀ r, quotedBody q false (cs ++ r) = (quotedBody q false r).map fun p => (cs ++ p.1, p.2)
  read : ∀ r, unescape inText (cs ++ r) = (unescape inText r).map (n :: ·)
  shown : ∀ c ∈ cs, 32 ≤ c.toNat ∧ (inText = false → c.toNat ≤ 127)
  opens : cs ≠ [] ∧ cs.head? ≠ some q

theorem writes_self (h : Inner q c) (hnarrow : inText = false → c.toNat ≤ 127) : Writes inText q [c] c.toNat where
  body r := quotedBody_inner h r
  read r := unescape_plain h.escape r
  shown _ hd := List.mem_singleton.1 hd ▸ ⟨h.shown, hnarrow⟩
  opens := ⟨List.cons_ne_nil _ _, fun heq => h.quote (Option.some.inj heq)⟩

theorem simpleEscape?_shown (h : simpleEscape? c = some n) : 32 ≤ c.toNat ∧ c.toNat ≤ 127 := by
  unfold simpleEscape? at h
  split at h <;> cases h <;> exact ⟨by decide, by decide⟩

theorem writes_short (hq : q ≠ '\\') (h : simpleEscape? c = some n) : Writes inText q ['\\', c] n where
  body r := quotedBody_escape q c r
  read r := by
    have hne : c ≠ '\n' := by
      rintro rfl
      cases h
    have hread : readEscape inText c r = some ([n], r) := by
      unfold readEscape
      rw [if_neg hne]
      simp only [h]
    exact unescape_escape hread
  shown d hd := by
    rcases List.mem_pair.1 hd with rfl | rfl
    · exact ⟨by decide, fun _ => by decide⟩
    · exact ⟨(simpleEscape?_shown h).1, fun _ => (simpleEscape?_shown h).2⟩
  opens := ⟨List.cons_ne_nil _ _, fun heq => hq (Option.some.inj heq).symm⟩

theorem readEscape_number {m : Char} {width : Nat} (hm : hexWidth? inText m = some width) (hwidth : n < 16 ^ width)
    (hn : n ≤ 0x10ffff) (r : List Char) : readEscape inText m (hexDigits width n ++ r) = some ([n], r) := by
  have hletter : m = 'x' ∨ m = 'u' ∨ m = 'U' := by
    unfold hexWidth? at hm
    split_ifs at hm with hx hu hl
    · exact .inl hx
    · exact .inr (.inl (of_decide_eq_true (Bool.and_eq_true_iff.1 hu).2))
    · exact .inr (.inr (of_decide_eq_true (Bool.and_eq_true_iff.1 hl).2))
  have hnone : simpleEscape? m = none := by rcases hletter with rfl | rfl | rfl <;> rfl
  have hne : m ≠ '\n' := by rcases hletter with rfl | rfl | rfl <;> decide
  have hlength : (hexDigits width n).length = width := length_hexDigits width n
  have htake : (hexDigits width n ++ r).take width = hexDigits width n := List.take_left' hlength
  have hdrop : (hexDigits width n ++ r).drop width = r := List.drop_left' hlength
  have hlong : ¬ (hexDigits width n ++ r).length < width := by
    rw [List.length_append, hlength]
    exact Nat.not_lt.2 (Nat.le_add_right _ _)
  unfold readEscape
  rw [if_neg hne]
  simp only [hnone, hm]
  rw [if_neg hlong, htake, hdrop, hexNumber?_hexDigits hwidth, Option.bind_some, if_neg (Nat.not_lt.2 hn)]

/-- A point may be written by a letter that says how many digits its number has, and the digits. -/
theorem writes_number (hq : q = '\'' ∨ q = '"') {m : Char} {width : Nat} (hm : hexWidth? inText m = some width)
    (hshown : 32 ≤ m.toNat ∧ m.toNat ≤ 127) (hwidth : n < 16 ^ width) (hn : n ≤ 0x10ffff) :
    Writes inText q ('\\' :: m :: hexDigits width n) n where
  body r := by
    have hrest := quotedBody_inners (fun d hd => (inner_hexDigits hq width n d hd).1) r
    rw [List.cons_append, List.cons_append, quotedBody_escape, hrest, Option.map_map]
    rfl
  read r := unescape_escape (readEscape_number hm hwidth hn r)
  shown d hd := by
    rcases List.mem_cons.1 hd with rfl | hd
    · exact ⟨by decide, fun _ => by decide⟩
    · rcases List.mem_cons.1 hd with rfl | hd
      · exact ⟨hshown.1, fun _ => hshown.2⟩
      · have hdigit := inner_hexDigits hq width n d hd
        exact ⟨hdigit.1.shown, fun _ => hdigit.2⟩
  opens := ⟨List.cons_ne_nil _ _, fun heq => by rcases hq with rfl | rfl <;> cases heq⟩

/-! ## Points and bytes -/

theorem writes_shortEscape (hq : q = '\'' ∨ q = '"') (h : shortEscape? q.toNat n = some cs) : Writes inText q cs n := by
  have hne : q ≠ '\\' := by rcases hq with rfl | rfl <;> decide
  unfold shortEscape? at h
  split_ifs at h with hself htab hline hreturn <;> cases h
  · refine writes_short hne ?_
    rcases hself with rfl | rfl
    · rcases hq with rfl | rfl <;> rfl
    · rfl
  · exact htab ▸ writes_short hne rfl
  · exact hline ▸ writes_short hne rfl
  · exact hreturn ▸ writes_short hne rfl

/-- A point that has no short escape and is shown stands for itself. -/
theorem writes_ofNat (h : shortEscape? q.toNat n = none) (hvalid : n.isValidChar) (hshown : 32 ≤ n)
    (hnarrow : inText = false → n ≤ 127) : Writes inText q [Char.ofNat n] n := by
  have hn : (Char.ofNat n).toNat = n := by
    rw [Char.toNat_ofNat, if_pos hvalid]
  have hplain : ¬ (n = q.toNat ∨ n = 92) := by
    intro hself
    rw [shortEscape?, if_pos hself] at h
    cases h
  have hinner : Inner q (Char.ofNat n) :=
    { escape := fun heq => hplain (.inr (hn.symm.trans (congrArg Char.toNat heq)))
      quote := fun heq => hplain (.inl (hn.symm.trans (congrArg Char.toNat heq)))
      shown := hn.symm ▸ hshown }
  have hwrites : Writes inText q [Char.ofNat n] (Char.ofNat n).toNat := writes_self hinner (hn.symm ▸ hnarrow)
  rwa [hn] at hwrites

/-- No surrogate is shown as itself. -/
theorem isValidChar_of_isPrintable (h : isPrintable n = true) (hn : n ≤ 0x10ffff) : n.isValidChar := by
  by_contra hnot
  have hsurrogate : 0xd800 ≤ n ∧ n ≤ 0xdfff := by
    rw [Nat.isValidChar] at hnot
    omega
  have hmem : (0xd7fc, 0xf8ff) ∈ unprintableRanges := by decide +kernel
  have hany : (unprintableRanges.any fun r => r.1 ≤ n && n ≤ r.2) = true :=
    List.any_eq_true.2 ⟨_, hmem, by simp; omega⟩
  rw [isPrintable, if_neg (by omega), if_neg (by omega), hany] at h
  cases h

theorem writes_escapePoint (hq : q = '\'' ∨ q = '"') (hn : n ≤ 0x10ffff) : Writes true q (escapePoint q.toNat n) n := by
  unfold escapePoint
  split
  · next h => exact writes_shortEscape hq h
  · next h =>
    split_ifs with hprint
    · refine writes_ofNat h (isValidChar_of_isPrintable hprint hn) ?_ (fun ht => by cases ht)
      by_contra hlow
      rw [isPrintable, if_pos (Nat.not_le.1 hlow)] at hprint
      cases hprint
    · unfold hexEscape
      split_ifs with hbyte hshort
      · exact writes_number hq rfl (by decide) (by omega) hn
      · exact writes_number hq rfl (by decide) (by omega) hn
      · exact writes_number hq rfl (by decide) (by omega) hn

theorem writes_escapeOctet (hq : q = '\'' ∨ q = '"') (hn : n < 256) : Writes false q (escapeOctet q.toNat n) n := by
  unfold escapeOctet
  split
  · next h => exact writes_shortEscape hq h
  · next h =>
    split_ifs with hshown
    · exact writes_ofNat h (.inl (by omega)) hshown.1 fun _ => by omega
    · exact writes_number hq rfl (by decide) hn (by omega)

/-! ## Quoted words -/

section

variable {f : Nat → List Char} {ns : List Nat}

theorem quotedBody_flatMap (h : ∀ n ∈ ns, Writes inText q (f n) n) (r : List Char) :
    quotedBody q false (ns.flatMap f ++ r) = (quotedBody q false r).map fun p => (ns.flatMap f ++ p.1, p.2) := by
  induction ns with
  | nil => simp
  | cons n ns ih =>
    obtain ⟨hn, hns⟩ := List.forall_mem_cons.1 h
    rw [List.flatMap_cons, List.append_assoc, hn.body, ih hns, Option.map_map]
    simp only [Function.comp_def, List.append_assoc]

theorem unescape_flatMap (h : ∀ n ∈ ns, Writes inText q (f n) n) : unescape inText (ns.flatMap f) = some ns := by
  induction ns with
  | nil => simp [unescape]
  | cons n ns ih =>
    obtain ⟨hn, hns⟩ := List.forall_mem_cons.1 h
    rw [List.flatMap_cons, hn.read, ih hns]
    rfl

/-- What is written between quotes is shown, and so are the quotes. -/
theorem shown_flatMap (hq : q = '\'' ∨ q = '"') (h : ∀ n ∈ ns, Writes inText q (f n) n) :
    ∀ c ∈ q :: (ns.flatMap f ++ [q]), 32 ≤ c.toNat := by
  have hquote : 32 ≤ q.toNat := by rcases hq with rfl | rfl <;> decide
  have hbody : ∀ c ∈ ns.flatMap f, 32 ≤ c.toNat := by
    intro c hc
    obtain ⟨n, hn, hcn⟩ := List.mem_flatMap.1 hc
    exact ((h n hn).shown c hcn).1
  exact List.forall_mem_cons.2 ⟨hquote, List.forall_mem_append.2 ⟨hbody, List.forall_mem_singleton.2 hquote⟩⟩

/-- What is written is not taken for the start of a triple quote. -/
theorem not_triple (h : ∀ n ∈ ns, Writes inText q (f n) n) {rest : List Char} (hrest : rest.head? ≠ some q) :
    [q, q].isPrefixOf (ns.flatMap f ++ q :: rest) = false := by
  cases ns with
  | nil =>
    cases rest with
    | nil => simp
    | cons c r =>
      have hc : q ≠ c := fun heq => hrest (congrArg some heq.symm)
      simp [List.isPrefixOf, hc]
  | cons n ns =>
    obtain ⟨hne, hhead⟩ := (h n List.mem_cons_self).opens
    obtain ⟨c, cs, hcs⟩ := List.exists_cons_of_ne_nil hne
    have hc : q ≠ c := fun heq => hhead (by rw [hcs, heq]; rfl)
    rw [List.flatMap_cons, hcs]
    simp [List.isPrefixOf, hc]

/-- **Points written between quotes are read back,** whatever follows that is no quote. -/
theorem quotedWord_flatMap (hq : q = '\'' ∨ q = '"') {letters : List Char}
    (hletters : quotePrefix? letters = some (inText, false)) (h : ∀ n ∈ ns, Writes inText q (f n) n) {rest : List Char} (hrest : rest.head? ≠ some q) :
    quotedWord letters q (ns.flatMap f ++ q :: rest) = some (if inText then .text ns else .octets ns, rest) := by
  have hne : q ≠ '\\' := by rcases hq with rfl | rfl <;> decide
  have hbody : quotedBody q false (ns.flatMap f ++ q :: rest) = some (ns.flatMap f, rest) := by
    rw [quotedBody_flatMap h, quotedBody_close hne]
    simp
  have hnarrow : (!inText && (ns.flatMap f).any fun c => 127 < c.toNat) = false := by
    cases inText with
    | true => rfl
    | false =>
      refine Bool.eq_false_iff.2 fun hany => ?_
      obtain ⟨c, hc, hwide⟩ := List.any_eq_true.1 (Bool.and_eq_true_iff.1 hany).2
      obtain ⟨n, hn, hcn⟩ := List.mem_flatMap.1 hc
      exact absurd (((h n hn).shown c hcn).2 rfl) (Nat.not_le.2 (of_decide_eq_true hwide))
  unfold quotedWord
  rw [hletters]
  simp only [Option.bind_eq_bind, Option.bind_some, not_triple h hrest, Bool.false_eq_true, if_false, hbody, hnarrow,
    unescape_flatMap h]
  rfl

end

/-- The quote that a text is written between. -/
theorem quoteFor_eq (ns : List Nat) : Char.ofNat (quoteFor ns) = '\'' ∨ Char.ofNat (quoteFor ns) = '"' := by
  unfold quoteFor
  split
  · exact .inr rfl
  · exact .inl rfl

theorem toNat_quoteFor (ns : List Nat) : (Char.ofNat (quoteFor ns)).toNat = quoteFor ns := by
  unfold quoteFor
  split <;> rfl

theorem writes_points {ns : List Nat} (h : ∀ n ∈ ns, n < 0x110000) :
    ∀ n ∈ ns, Writes true (Char.ofNat (quoteFor ns)) (escapePoint (quoteFor ns) n) n := by
  intro n hn
  have hwrites := writes_escapePoint (quoteFor_eq ns) (Nat.le_of_lt_succ (h n hn))
  rwa [toNat_quoteFor] at hwrites

theorem writes_octets {os : List Nat} (h : ∀ n ∈ os, n < 256) :
    ∀ n ∈ os, Writes false (Char.ofNat (quoteFor os)) (escapeOctet (quoteFor os) n) n := by
  intro n hn
  have hwrites := writes_escapeOctet (quoteFor_eq os) (h n hn)
  rwa [toNat_quoteFor] at hwrites

/-- The points of a quoted text are read back. -/
theorem quotedWord_points {ns : List Nat} (h : ∀ n ∈ ns, n < 0x110000) {rest : List Char}
    (hrest : rest.head? ≠ some (Char.ofNat (quoteFor ns))) :
    quotedWord [] (Char.ofNat (quoteFor ns)) (ns.flatMap (escapePoint (quoteFor ns)) ++ Char.ofNat (quoteFor ns) :: rest) =
      some (.text ns, rest) :=
  quotedWord_flatMap (quoteFor_eq ns) rfl (writes_points h) hrest

/-- Quoted bytes are read back. -/
theorem quotedWord_octets {os : List Nat} (h : ∀ n ∈ os, n < 256) {rest : List Char}
    (hrest : rest.head? ≠ some (Char.ofNat (quoteFor os))) :
    quotedWord ['b'] (Char.ofNat (quoteFor os)) (os.flatMap (escapeOctet (quoteFor os)) ++ Char.ofNat (quoteFor os) :: rest) =
      some (.octets os, rest) :=
  quotedWord_flatMap (quoteFor_eq os) rfl (writes_octets h) hrest

end Lineage.Literal
