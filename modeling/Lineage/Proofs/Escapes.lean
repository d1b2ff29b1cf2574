import Mathlib
import Lineage.Literal.Token

/-!
# Escapes — every point between quotes is a code point, every byte a byte

However a point is written, by itself, by its number or by its name, what is read is no greater than the last code point;
and a byte is below 256. So it is for all words of a text (`Literal.inRange_of_scan`).
-/

set_option autoImplicit false

namespace Lineage

namespace Text.Names

/-! ## Characters by name -/

theorem length_linesOf_le (cs : List Char) : (linesOf cs).length ≤ cs.length + 1 := by
  induction cs with
  | nil => rfl
  | cons c cs ih =>
    rw [linesOf]
    split
    · next heq =>
      rw [heq, List.length_cons] at ih
      split
      · exact Nat.succ_le_succ ih
      · exact Nat.le_succ_of_le ih
    · exact Nat.succ_le_succ (Nat.zero_le _)

/-- A block whose last line names no point behind the last. -/
def Block.Fits (b : Block) : Prop := ∃ cs, b.names = String.ofList cs ∧ b.first + cs.length < 0x110000

theorem Block.Fits.find?_lt {b : Block} (h : b.Fits) {name : List Char} {n : Nat} (hn : b.find? name = some n) :
    n < 0x110000 := by
  obtain ⟨cs, hnames, hlength⟩ := h
  unfold Block.find? at hn
  split_ifs at hn
  obtain ⟨i, hi, rfl⟩ := Option.map_eq_some_iff.1 hn
  rw [hnames, String.toList_ofList] at hi
  have hlt : i < (linesOf cs).length := (List.findIdx?_eq_some_iff_getElem.1 hi).1
  exact Nat.lt_of_le_of_lt (Nat.add_le_add_left (Nat.le_of_lt_succ (Nat.lt_of_lt_of_le hlt (length_linesOf_le cs))) _) hlength

set_option maxRecDepth 100000 in
theorem fits_letters : ∀ b ∈ letters, b.Fits := by
  unfold letters
  repeat rw [List.forall_mem_cons]
  exact ⟨⟨_, rfl, by decide +kernel⟩, ⟨_, rfl, by decide +kernel⟩, ⟨_, rfl, by decide +kernel⟩, ⟨_, rfl, by decide +kernel⟩,
    ⟨_, rfl, by decide +kernel⟩, fun _ h => nomatch h⟩

set_option maxRecDepth 100000 in
theorem fits_signs : ∀ b ∈ signs, b.Fits := by
  unfold signs
  repeat rw [List.forall_mem_cons]
  exact ⟨⟨_, rfl, by decide +kernel⟩, ⟨_, rfl, by decide +kernel⟩, ⟨_, rfl, by decide +kernel⟩, ⟨_, rfl, by decide +kernel⟩,
    ⟨_, rfl, by decide +kernel⟩, ⟨_, rfl, by decide +kernel⟩, ⟨_, rfl, by decide +kernel⟩, fun _ h => nomatch h⟩

set_option maxRecDepth 100000 in
theorem fits_pictures : ∀ b ∈ pictures, b.Fits := by
  unfold pictures
  repeat rw [List.forall_mem_cons]
  exact ⟨⟨_, rfl, by decide +kernel⟩, ⟨_, rfl, by decide +kernel⟩, ⟨_, rfl, by decide +kernel⟩, ⟨_, rfl, by decide +kernel⟩,
    fun _ h => nomatch h⟩

theorem ideograph?_lt {digits : List Char} {n : Nat} (h : ideograph? digits = some n) : n < 0x110000 := by
  unfold ideograph? at h
  obtain ⟨ds, -, h⟩ := Option.bind_eq_some_iff.1 h
  dsimp only at h
  split_ifs at h with hin
  cases h
  obtain ⟨b, hb, hle⟩ := List.any_eq_true.1 hin.2
  have hlast : ∀ b ∈ ideographs, b.2 < 0x110000 := by decide
  exact Nat.lt_of_le_of_lt (of_decide_eq_true (Bool.and_eq_true_iff.1 hle).2) (hlast b hb)

/-- The part found is one of the parts. -/
theorem longestPart_lt {parts : List String} {name rest : List Char} {i : Nat} (h : longestPart parts name = some (i, rest)) :
    i < parts.length := by
  unfold longestPart at h
  obtain ⟨p, hp, heq⟩ := Option.map_eq_some_iff.1 h
  cases heq
  refine List.foldlRecOn _ _ (motive := fun best => ∀ p, best = some p → p.1 < parts.length) (fun _ hp => by cases hp)
    (fun best hbest q hq p hp => ?_) p hp
  have hlt : q.1 < parts.length := by
    obtain ⟨j, hj, rfl⟩ := List.mem_mapIdx.1 (List.mem_of_mem_filter hq)
    exact hj
  split at hp
  · split_ifs at hp <;> cases hp
    · exact hlt
    · exact hbest _ rfl
  · cases hp
    exact hlt

theorem syllable?_lt {name : List Char} {n : Nat} (h : syllable? name = some n) : n < 0x110000 := by
  unfold syllable? at h
  obtain ⟨⟨lead, r⟩, hlead, h⟩ := Option.bind_eq_some_iff.1 h
  obtain ⟨⟨vowel, r'⟩, hvowel, h⟩ := Option.bind_eq_some_iff.1 h
  obtain ⟨⟨tail, r''⟩, htail, h⟩ := Option.bind_eq_some_iff.1 h
  have hlead : lead < 19 := longestPart_lt hlead
  have hvowel : vowel < 21 := longestPart_lt hvowel
  have htail : tail < 28 := longestPart_lt htail
  dsimp only at h
  split_ifs at h
  cases h
  omega

end Text.Names

open Text.Names in
/-- What has a name is a code point. -/
theorem Text.named?_lt {name : String} {n : Nat} (h : Text.named? name = some n) : n < 0x110000 := by
  unfold Text.named? at h
  rcases (Option.orElse_eq_some _ _ _).1 h with h | ⟨-, h⟩
  · split at h
    · exact ideograph?_lt h
    · obtain ⟨_, -, h⟩ := Option.bind_eq_some_iff.1 h
      exact syllable?_lt h
  · rcases (Option.orElse_eq_some _ _ _).1 h with h | ⟨-, h⟩
    · obtain ⟨b, hb, hfound⟩ := List.exists_of_findSome?_eq_some h
      have hfits : b.Fits := by
        rcases List.mem_append.1 hb with hb | hb
        · rcases List.mem_append.1 hb with hb | hb
          · exact fits_letters b hb
          · exact fits_signs b hb
        · exact fits_pictures b hb
      exact hfits.find?_lt hfound
    · obtain ⟨a, ha, rfl⟩ := Option.map_eq_some_iff.1 h
      have haliases : ∀ a ∈ aliases, a.2 < 0x110000 := by decide +kernel
      exact haliases a (List.mem_of_find?_eq_some ha)

namespace Literal

/-! ## Escapes -/

/-- The numbers that may stand between quotes are below this one. -/
def pointBound (inText : Bool) : Nat := if inText then 0x110000 else 256

theorem toNat_lt (c : Char) : c.toNat < 0x110000 := by
  rcases c.valid with h | h
  · exact Nat.lt_trans h (by decide)
  · exact h.2

theorem hexValue?_lt {c : Char} {n : Nat} (h : hexValue? c = some n) : n < 16 := by
  unfold hexValue? at h
  dsimp only at h
  split_ifs at h <;> cases h <;> omega

/-- A number that is read digit by digit is below the power of the base that has as many digits more. -/
theorem foldlM_digits_lt {base : Nat} {digit : Char → Option Nat} {cs : List Char}
    (hdigit : ∀ c ∈ cs, ∀ d, digit c = some d → d < base) {a n : Nat}
    (h : cs.foldlM (fun n c => (digit c).map (base * n + ·)) a = some n) : n < base ^ cs.length * (a + 1) := by
  induction cs generalizing a with
  | nil =>
    cases h
    simp
  | cons c cs ih =>
    obtain ⟨hc, hcs⟩ := List.forall_mem_cons.1 hdigit
    obtain ⟨b, hb, h⟩ := Option.bind_eq_some_iff.1 h
    obtain ⟨d, hd, rfl⟩ := Option.map_eq_some_iff.1 hb
    have hstep : base * a + d + 1 ≤ base * (a + 1) := by
      have hd := hc d hd
      rw [Nat.mul_succ]
      omega
    calc n < base ^ cs.length * (base * a + d + 1) := ih hcs h
      _ ≤ base ^ cs.length * (base * (a + 1)) := Nat.mul_le_mul_left _ hstep
      _ = base ^ (c :: cs).length * (a + 1) := by rw [List.length_cons, pow_succ, Nat.mul_assoc]

theorem hexNumber?_lt {cs : List Char} {n : Nat} (h : hexNumber? cs = some n) : n < 16 ^ cs.length := by
  simpa using foldlM_digits_lt (fun _ _ _ hd => hexValue?_lt hd) h

theorem octalNumber_lt {cs : List Char} (h : ∀ c ∈ cs, isOctal c = true) : octalNumber cs < 8 ^ cs.length := by
  have hread : cs.foldlM (fun n c => (some (c.toNat - 48)).map (8 * n + ·)) 0 = some (octalNumber cs) := List.foldlM_pure ..
  refine Nat.lt_of_lt_of_eq (foldlM_digits_lt (fun c hc d hd => ?_) hread) (Nat.mul_one _)
  have hle : c.toNat ≤ 55 := of_decide_eq_true (Bool.and_eq_true_iff.1 (h c hc)).2
  cases hd
  omega

theorem simpleEscape?_lt {c : Char} {n : Nat} (h : simpleEscape? c = some n) : n < 256 := by
  unfold simpleEscape? at h
  split at h <;> cases h <;> decide

theorem pointBound_ge (inText : Bool) : 256 ≤ pointBound inText := by
  cases inText <;> decide

/-- The number that an escape spells in hexadecimal. -/
theorem numberEscape_lt {inText : Bool} {c : Char} {width n : Nat} {r : List Char} (hwidth : hexWidth? inText c = some width)
    (hlong : ¬ r.length < width) (hn : hexNumber? (r.take width) = some n) (hlast : ¬ 0x10ffff < n) :
    n < pointBound inText := by
  cases inText with
  | true => exact Nat.lt_succ_of_le (Nat.not_lt.1 hlast)
  | false =>
    have htwo : width = 2 := by
      simp only [hexWidth?, Bool.false_and, Bool.false_eq_true, if_false] at hwidth
      split_ifs at hwidth
      exact (Option.some.inj hwidth).symm
    have hlt := hexNumber?_lt hn
    rw [htwo, List.length_take_of_le (htwo ▸ Nat.not_lt.1 hlong)] at hlt
    exact hlt

/-- The number that an escape spells with up to three octal digits. -/
theorem octalEscape_lt (inText : Bool) {c : Char} (hc : isOctal c = true) (r : List Char) :
    (if inText then octalNumber (c :: (r.take 2).takeWhile isOctal)
      else octalNumber (c :: (r.take 2).takeWhile isOctal) % 256) < pointBound inText := by
  have hall : ∀ d ∈ c :: (r.take 2).takeWhile isOctal, isOctal d = true :=
    List.forall_mem_cons.2 ⟨hc, fun d hd => List.mem_takeWhile_imp hd⟩
  have hlength : (c :: (r.take 2).takeWhile isOctal).length ≤ 3 := by
    have htake : (r.take 2).length ≤ 2 := List.length_take_le 2 r
    have hwhile := (List.takeWhile_sublist isOctal (l := r.take 2)).length_le
    rw [List.length_cons]
    omega
  have hlt : octalNumber (c :: (r.take 2).takeWhile isOctal) < 8 ^ 3 :=
    Nat.lt_of_lt_of_le (octalNumber_lt hall) (Nat.pow_le_pow_right (by decide) hlength)
  cases inText with
  | true => exact Nat.lt_trans hlt (by decide)
  | false => exact Nat.mod_lt _ (by decide)

/-- What an escape stands for is in bounds, and the rest is an end of what followed. -/
theorem readEscape_spec {inText : Bool} {c : Char} {r rest : List Char} {ns : List Nat} (hc : c.toNat < pointBound inText)
    (h : readEscape inText c r = some (ns, rest)) : (∀ n ∈ ns, n < pointBound inText) ∧ rest <:+ r := by
  have hone {n : Nat} (hn : n < pointBound inText) : ∀ m ∈ [n], m < pointBound inText := List.forall_mem_singleton.2 hn
  unfold readEscape at h
  -- The ways in which an escape can be written, in the order in which they are tried.
  split at h
  · cases h
    exact ⟨fun _ hn => absurd hn List.not_mem_nil, List.suffix_refl _⟩
  split at h
  · next hsimple =>
    cases h
    exact ⟨hone (Nat.lt_of_lt_of_le (simpleEscape?_lt hsimple) (pointBound_ge _)), List.suffix_refl _⟩
  split at h
  · next width hwidth =>
    split_ifs at h with hlong
    obtain ⟨n, hn, h⟩ := Option.bind_eq_some_iff.1 h
    split_ifs at h with hlast
    cases h
    exact ⟨hone (numberEscape_lt hwidth hlong hn hlast), List.drop_suffix _ _⟩
  split at h
  · next hoctal =>
    cases h
    exact ⟨hone (octalEscape_lt inText hoctal r), List.drop_suffix _ _⟩
  split at h
  · next hname =>
    have htext : inText = true := (Bool.and_eq_true_iff.1 hname).1
    subst htext
    split at h
    · obtain ⟨n, hn, h⟩ := Option.bind_eq_some_iff.1 h
      split_ifs at h
      cases h
      exact ⟨hone (Text.named?_lt hn), (List.drop_suffix _ _).trans (List.suffix_cons _ _)⟩
    · cases h
  · cases h
    exact ⟨List.forall_mem_cons.2 ⟨Nat.lt_of_lt_of_le (by decide) (pointBound_ge _), hone hc⟩, List.suffix_refl _⟩

theorem unescape_lt {inText : Bool} {cs : List Char} {ns : List Nat} (hcs : ∀ c ∈ cs, c.toNat < pointBound inText)
    (h : unescape inText cs = some ns) : ∀ n ∈ ns, n < pointBound inText := by
  induction hlength : cs.length using Nat.strong_induction_on generalizing cs ns with
  | _ length ih =>
    subst hlength
    unfold unescape at h
    split at h
    · cases h
      exact fun _ hn => absurd hn List.not_mem_nil
    · next c r =>
      obtain ⟨hbackslash, hcs⟩ := List.forall_mem_cons.1 hcs
      obtain ⟨hc, hr⟩ := List.forall_mem_cons.1 hcs
      split at h
      · cases h
      · next read rest hread =>
        obtain ⟨hread, hsuffix⟩ := readEscape_spec hc hread
        obtain ⟨more, hmore, rfl⟩ := Option.map_eq_some_iff.1 h
        have hlt : rest.length < ('\\' :: c :: r).length :=
          Nat.lt_of_le_of_lt hsuffix.length_le (Nat.lt_succ_of_lt (Nat.lt_succ_self _))
        exact List.forall_mem_append.2 ⟨hread, ih _ hlt (fun d hd => hr d (hsuffix.subset hd)) hmore rfl⟩
    · next c r _ =>
      obtain ⟨hc, hr⟩ := List.forall_mem_cons.1 hcs
      obtain ⟨more, hmore, rfl⟩ := Option.map_eq_some_iff.1 h
      exact List.forall_mem_cons.2 ⟨hc, ih _ (Nat.lt_succ_self _) hr hmore rfl⟩

/-! ## Words -/

/-- A word whose points are code points and whose bytes are bytes. -/
def Token.InRange : Token → Prop
  | .text ns => ∀ n ∈ ns, n < 0x110000
  | .octets os => ∀ n ∈ os, n < 256
  | _ => True

theorem inRange_points {inText : Bool} {ns : List Nat} (h : ∀ n ∈ ns, n < pointBound inText) :
    (if inText then Token.text ns else .octets ns).InRange := by
  cases inText <;> exact h

theorem inRange_quotedWord {letters r rest : List Char} {quote : Char} {t : Token}
    (h : quotedWord letters quote r = some (t, rest)) : t.InRange := by
  unfold quotedWord at h
  obtain ⟨⟨inText, raw⟩, -, h⟩ := Option.bind_eq_some_iff.1 h
  obtain ⟨⟨body, rest'⟩, -, h⟩ := Option.bind_eq_some_iff.1 h
  dsimp only at h
  split at h
  · cases h
  next hwide =>
  have hbody : ∀ c ∈ body, c.toNat < pointBound inText := by
    intro c hc
    cases inText with
    | true => exact toNat_lt c
    | false =>
      rw [Bool.not_false, Bool.true_and, Bool.not_eq_true, List.any_eq_false] at hwide
      exact Nat.lt_of_le_of_lt (Nat.not_lt.1 fun hlt => hwide c hc (decide_eq_true hlt)) (by decide)
  split at h
  · cases h
    refine inRange_points fun n hn => ?_
    obtain ⟨c, hc, rfl⟩ := List.mem_map.1 hn
    exact hbody c hc
  · obtain ⟨ns, hns, h⟩ := Option.bind_eq_some_iff.1 h
    cases h
    exact inRange_points (unescape_lt hbody hns)

theorem exists_number_of_numberWord {cs rest : List Char} {t : Token} (h : numberWord cs = some (t, rest)) :
    ∃ n, t = .number n := by
  have hend {o : Option (Number × List Char)} (h : (o.bind fun p =>
      if (p.2.head?.map isNameChar).getD false then none else some (Token.number p.1, p.2)) = some (t, rest)) :
      ∃ n, t = .number n := by
    obtain ⟨p, -, h⟩ := Option.bind_eq_some_iff.1 h
    split at h
    · cases h
    · cases h
      exact ⟨_, rfl⟩
  unfold numberWord at h
  split at h
  · split at h
    · dsimp only at h
      split at h
      · cases h
      · exact hend h
    · exact hend h
  · exact hend h

theorem inRange_wordAt {cs rest : List Char} {t : Token} (h : wordAt cs = some (t, rest)) : t.InRange := by
  unfold wordAt at h
  split at h
  · cases h
  · cases h
    trivial
  split at h
  · obtain ⟨n, rfl⟩ := exists_number_of_numberWord h
    trivial
  split at h
  · exact inRange_quotedWord h
  split at h
  · dsimp only at h
    split at h
    · split at h
      · exact inRange_quotedWord h
      · cases h
        trivial
    · cases h
      trivial
  split at h
  · cases h
    trivial
  · cases h

theorem inRange_scanWith {fuel depth : Nat} {atStart : Bool} {cs : List Char} {ts : List Token}
    (h : scanWith fuel depth atStart cs = some ts) : ∀ t ∈ ts, t.InRange := by
  induction fuel generalizing depth atStart cs ts with
  | zero =>
    unfold scanWith at h
    split_ifs at h
    cases h
    exact fun _ ht => nomatch ht
  | succ fuel ih =>
    have hcons {t : Token} {o : Option (List Token)} (ht : t.InRange) (ho : ∀ us, o = some us → ∀ u ∈ us, u.InRange)
        (h : o.map (t :: ·) = some ts) : ∀ u ∈ ts, u.InRange := by
      obtain ⟨us, hus, rfl⟩ := Option.map_eq_some_iff.1 h
      exact List.forall_mem_cons.2 ⟨ht, ho us hus⟩
    cases atStart with
    | true =>
      unfold scanWith at h
      split at h
      · cases h
      · exact ih h
      · exact ih h
      · split at h
        · cases h
        · exact ih h
    | false =>
      unfold scanWith at h
      split at h
      · cases h
        exact fun _ ht => nomatch ht
      · split at h
        · cases h
        · exact ih h
      · exact ih h
      · split at h
        · exact hcons (show Token.InRange .lineEnd from trivial) (fun _ h => ih h) h
        · exact ih h
      · split at h
        · exact ih h
        · split at h
          · next hword => exact hcons (inRange_wordAt hword) (fun _ h => ih h) h
          · cases h

/-- **Words are in range:** every point of a text is a code point, and every byte a byte. -/
theorem inRange_of_scan {s : String} {ts : List Token} (h : Token.scan s = some ts) : ∀ t ∈ ts, t.InRange := by
  unfold Token.scan at h
  dsimp only at h
  split_ifs at h
  exact inRange_scanWith h

end Literal

end Lineage
