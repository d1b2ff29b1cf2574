import Mathlib
import Lineage.Proofs.Literals
import Lineage.Proofs.Rereading.Quotation
import Lineage.Value.Printer

/-!
# Words — the printed form of a value, cut into words

`Value.words` are the words that a value is printed with. Each of them ends where it should, because what follows a printed
value is a comma, a colon, a closing bracket or nothing (`Follows`); so cutting the printed form gives the words back
(`Value.Rereadable.scan_literal`).
-/

set_option autoImplicit false

namespace Lineage

open Literal

namespace Value

/-! ## Values that read back -/

/-- Values made of nothing, booleans, whole numbers short enough to be read, texts, bytes, lists, tuples and
dictionaries. -/
inductive Rereadable : Value → Prop where
  | nil : Rereadable .nil
  | bool (b : Bool) : Rereadable (.bool b)
  | int {n : Int} (h : n.natAbs < 10 ^ maxDecimalDigits) : Rereadable (.number (.int n))
  | text {t : Text} (h : ∀ n ∈ t.points, n < 0x110000) : Rereadable (.text t)
  | bytes {os : List Nat} (h : ∀ n ∈ os, n < 256) : Rereadable (.bytes .fixed os)
  | tuple {xs : List Value} (h : ∀ x ∈ xs, Rereadable x) : Rereadable (.tuple xs)
  | list {xs : List Value} (h : ∀ x ∈ xs, Rereadable x) : Rereadable (.list xs)
  | dict {es : List (Value × Value)} (hkeys : ∀ e ∈ es, Rereadable e.1) (hvalues : ∀ e ∈ es, Rereadable e.2)
      (hkeyed : Keyed es) : Rereadable (.dict es)

/-! ## The words of a value -/

/-- Runs of words with commas between them. -/
def separated (tss : List (List Token)) : List Token := [Token.mark ','].intercalate tss

/-- The words between the brackets of a tuple: one item keeps a comma behind it. -/
def tupleWords : List (List Token) → List Token
  | [ts] => ts ++ [.mark ',']
  | tss => separated tss

/-- The words of a whole number: its sign, if it has one, is a word of its own. -/
def intWords (n : Int) : List Token :=
  if n < 0 then [.mark '-', .number (.int n.natAbs)] else [.number (.int n.natAbs)]

mutual

/-- The words that a value is printed with. -/
def words (v : Value) : List Token :=
  match v with
  | nil => [.name "None"]
  | bool b => [.name (if b then "True" else "False")]
  | number (.int n) => intWords n
  | text t => [.text t.points]
  | bytes _ os => [.octets os]
  | tuple xs => .mark '(' :: (tupleWords (wordsAll xs) ++ [.mark ')'])
  | list xs => .mark '[' :: (separated (wordsAll xs) ++ [.mark ']'])
  | dict es => .mark '\x7b' :: (separated (wordsEntries es) ++ [.mark '\x7d'])
  | _ => []
termination_by structural v

/-- The words of the items of a sequence. -/
def wordsAll (xs : List Value) : List (List Token) :=
  match xs with
  | [] => []
  | x :: xs => words x :: wordsAll xs
termination_by structural xs

/-- The words of the entries of a dictionary. -/
def wordsEntries (es : List (Value × Value)) : List (List Token) :=
  match es with
  | [] => []
  | (k, v) :: es => (words k ++ .mark ':' :: words v) :: wordsEntries es
termination_by structural es

end

/-! ## The printed form of containers -/

theorem renderAll_leafText (xs : List Value) :
    Id.run (renderAll (fun v => pure v.leafText) xs) = xs.map literal := by
  induction xs with
  | nil => rfl
  | cons x xs ih =>
    rw [List.map_cons, ← ih]
    rfl

theorem literal_tuple (xs : List Value) : (tuple xs).literal = tupleText (xs.map literal) :=
  congrArg tupleText (renderAll_leafText xs)

theorem literal_list (xs : List Value) : (list xs).literal = "[" ++ commaSeparated (xs.map literal) ++ "]" :=
  congrArg (fun ts => "[" ++ commaSeparated ts ++ "]") (renderAll_leafText xs)

theorem literal_dict (es : List (Value × Value)) :
    (dict es).literal = dictText (es.map fun e => e.1.literal ++ ": " ++ e.2.literal) := by
  have hentries : Id.run (renderEntries (m := Id) (fun v => pure v.leafText) es) =
      es.map fun e => e.1.literal ++ ": " ++ e.2.literal := by
    induction es with
    | nil => rfl
    | cons e es ih =>
      rw [List.map_cons, ← ih]
      rfl
  exact congrArg dictText hentries

end Value

namespace Literal

/-! ## Cutting -/

/-- A bracket that opens. -/
abbrev OpeningMark (c : Char) : Prop := c = '(' ∨ c = '[' ∨ c = '\x7b'

/-- A bracket that closes. -/
abbrev ClosingMark (c : Char) : Prop := c = ')' ∨ c = ']' ∨ c = '\x7d'

/-- A mark at which a value before it ends. -/
abbrev EndMark (c : Char) : Prop := c = ',' ∨ c = ':' ∨ ClosingMark c

/-- The marks that values are printed with. -/
def printedMarks : List Char := ['(', ')', '[', ']', '\x7b', '\x7d', ',', ':', '-']

/-- What can follow a printed value: nothing, or a mark at which it ends. -/
def Follows (rest : List Char) : Prop := ∀ c, rest.head? = some c → EndMark c

/-- A character that starts a word: no blank, line break, comment or continuation. -/
structure Starts (c : Char) : Prop where
  blank : isBlankInLine c = false
  newline : c ≠ '\n'
  comment : c ≠ '#'
  continued : c ≠ '\\'

/-- Characters in one line that are cut into words. -/
inductive Cuts : List Char → List Token → Prop where
  | nil : Cuts [] []
  | blank {cs : List Char} {ts : List Token} (h : Cuts cs ts) : Cuts (' ' :: cs) ts
  | word {c : Char} {cs rest : List Char} {t : Token} {ts : List Token} (hc : Starts c)
      (hword : wordAt (c :: cs) = some (t, rest)) (hrest : rest.length ≤ cs.length) (h : Cuts rest ts) :
      Cuts (c :: cs) (t :: ts)

theorem scanWith_word (fuel depth : Nat) {c : Char} {cs rest : List Char} {t : Token} (hc : Starts c)
    (hword : wordAt (c :: cs) = some (t, rest)) :
    ∃ depth', scanWith (fuel + 1) depth false (c :: cs) = (scanWith fuel depth' false rest).map (t :: ·) := by
  rw [scanWith]
  · simp only [hc.blank, Bool.false_eq_true, if_false, hword]
    exact ⟨_, rfl⟩
  · exact fun _ heq _ => hc.continued heq
  · exact hc.comment
  · exact hc.newline

/-- Enough fuel is as many steps as there are characters. -/
theorem Cuts.scanWith_eq {cs : List Char} {ts : List Token} (h : Cuts cs ts) {fuel : Nat} (hfuel : cs.length ≤ fuel)
    (depth : Nat) : scanWith fuel depth false cs = some ts := by
  induction h generalizing fuel depth with
  | nil => cases fuel <;> rfl
  | blank _ ih =>
    cases fuel with
    | zero => cases hfuel
    | succ fuel => exact ih (Nat.le_of_succ_le_succ hfuel) depth
  | word hc hword hrest _ ih =>
    cases fuel with
    | zero => cases hfuel
    | succ fuel =>
      obtain ⟨depth', hscan⟩ := scanWith_word fuel depth hc hword
      rw [hscan, ih (Nat.le_trans hrest (Nat.le_of_succ_le_succ hfuel)) depth']
      rfl

/-- Blanks in front make no difference, and what stands behind them starts a word. -/
theorem Cuts.dropBlanks {cs : List Char} {ts : List Token} (h : Cuts cs ts) :
    Cuts (cs.dropWhile fun c => c = ' ' || c = '\t') ts ∧
      ∀ c, (cs.dropWhile fun c => c = ' ' || c = '\t').head? = some c → Starts c := by
  induction h with
  | nil => exact ⟨.nil, fun _ h => nomatch h⟩
  | blank _ ih => exact ih
  | @word c cs rest t ts hc hword hrest h _ =>
    have hblank : ¬ (decide (c = ' ') || decide (c = '\t')) = true := by
      intro hor
      have htrue : isBlankInLine c = true := by
        unfold isBlankInLine
        rw [hor]
        rfl
      cases hc.blank.symm.trans htrue
    rw [List.dropWhile_cons, if_neg hblank]
    exact ⟨.word hc hword hrest h, fun d hd => Option.some.inj hd ▸ hc⟩

theorem normalizeBreaks_eq {cs : List Char} (h : ∀ c ∈ cs, 32 ≤ c.toNat) : normalizeBreaks cs = cs := by
  induction cs with
  | nil => rfl
  | cons c cs ih =>
    obtain ⟨hc, hcs⟩ := List.forall_mem_cons.1 h
    have hne : c ≠ '\r' := by
      rintro rfl
      exact absurd hc (by decide)
    rw [normalizeBreaks, ih hcs]
    · exact fun _ heq _ => hne heq
    · exact hne

/-- A line that starts with a word is scanned from there. -/
theorem scanWith_start {cs : List Char} (h : ∀ c, cs.head? = some c → Starts c) (fuel : Nat) :
    scanWith (fuel + 1) 0 true cs = scanWith fuel 0 false cs := by
  cases cs with
  | nil => rfl
  | cons c cs =>
    have hc := h c rfl
    have hne {d : Char} (hd : isBlankInLine d = true) (r : List Char) : c :: cs = d :: r → False := by
      intro heq
      rw [← (List.cons.inj heq).1, hc.blank] at hd
      cases hd
    have hindent : indentation 0 0 (c :: cs) = some (0, c :: cs) := by
      rw [indentation]
      · rfl
      · exact fun r => hne (by decide) r
      · exact fun r => hne (by decide) r
      · exact fun r => hne (by decide) r
      · exact fun _ heq => hc.continued (List.cons.inj heq).1
    rw [scanWith, hindent]
    split
    · next heq => cases heq
    · next heq =>
      cases heq
      exact absurd rfl hc.newline
    · next heq =>
      cases heq
      exact absurd rfl hc.comment
    · next heq =>
      cases heq
      rfl

/-- Characters that are all shown are cut as they stand. -/
theorem Cuts.scan_eq {cs : List Char} {ts : List Token} (h : Cuts cs ts) (hshown : ∀ c ∈ cs, 32 ≤ c.toNat) :
    Token.scan (String.ofList cs) = some ts := by
  obtain ⟨hcuts, hstart⟩ := h.dropBlanks
  have hdropped : ∀ c ∈ cs.dropWhile fun c => c = ' ' || c = '\t', 32 ≤ c.toNat :=
    fun c hc => hshown c ((List.dropWhile_suffix _).subset hc)
  unfold Token.scan
  rw [String.toList_ofList]
  generalize cs.dropWhile (fun c => c = ' ' || c = '\t') = ds at hcuts hstart hdropped
  have hnul : ds.contains (Char.ofNat 0) = false := by
    refine Bool.eq_false_iff.2 fun hmem => ?_
    exact absurd (hdropped _ (List.contains_iff_mem.1 hmem)) (by decide)
  simp only [normalizeBreaks_eq hdropped, hnul, Bool.false_eq_true, if_false]
  rw [scanWith_start hstart, hcuts.scanWith_eq (by omega)]

/-! ## Single words -/

theorem follows_nil : Follows [] := fun _ h => nomatch h

theorem Follows.not_nameChar {rest : List Char} (h : Follows rest) {c : Char} (hc : rest.head? = some c) :
    isNameChar c = false ∧ c ≠ '.' ∧ c ≠ '\'' ∧ c ≠ '"' := by
  rcases h c hc with rfl | rfl | rfl | rfl | rfl <;> decide

/-- A mark is a word of its own. -/
theorem Cuts.mark {c : Char} (hc : c ∈ printedMarks) {cs : List Char} {ts : List Token} (h : Cuts cs ts) :
    Cuts (c :: cs) (.mark c :: ts) := by
  have hword : wordAt (c :: cs) = some (.mark c, cs) ∧ Starts c := by
    simp only [printedMarks, List.mem_cons, List.not_mem_nil, or_false] at hc
    rcases hc with rfl | rfl | rfl | rfl | rfl | rfl | rfl | rfl | rfl <;>
      exact ⟨rfl, by decide, by decide, by decide, by decide⟩
  exact .word hword.2 hword.1 (Nat.le_refl _) h

theorem starts_of_isNameChar {c : Char} (h : isNameChar c = true) : Starts c := by
  have hne {d : Char} (hd : isNameChar d = false) : c ≠ d := by
    rintro rfl
    cases h.symm.trans hd
  refine ⟨?_, hne (by decide), hne (by decide), hne (by decide)⟩
  simp only [isBlankInLine, Bool.or_eq_false_iff, decide_eq_false_iff_not]
  exact ⟨⟨hne (by decide), hne (by decide)⟩, hne (by decide)⟩

theorem Follows.takeWhile {rest : List Char} (h : Follows rest) : rest.takeWhile isNameChar = [] := by
  cases rest with
  | nil => rfl
  | cons c r => rw [List.takeWhile_cons, (h.not_nameChar rfl).1, if_neg Bool.false_ne_true]

theorem Follows.dropWhile {rest : List Char} (h : Follows rest) : rest.dropWhile isNameChar = rest := by
  cases rest with
  | nil => rfl
  | cons c r => rw [List.dropWhile_cons, (h.not_nameChar rfl).1, if_neg Bool.false_ne_true]

/-- A word that starts like a name. -/
theorem wordAt_letter {c : Char} (hdigit : c.isDigit = false) (hc : isNameChar c = true) (r : List Char) :
    wordAt (c :: r) = match (c :: r).dropWhile isNameChar with
      | q :: rest =>
        if q = '\'' ∨ q = '"' then quotedWord ((c :: r).takeWhile isNameChar) q rest
        else some (.name (String.ofList ((c :: r).takeWhile isNameChar)), q :: rest)
      | [] => some (.name (String.ofList ((c :: r).takeWhile isNameChar)), []) := by
  have hne {d : Char} (hd : isNameChar d = false) : c ≠ d := by
    rintro rfl
    cases hc.symm.trans hd
  have hpoint : c ≠ '.' := hne (by decide)
  have hnumber : ¬ (c.isDigit || (c = '.' && (r.head?.map Char.isDigit).getD false)) = true := by simp [hdigit, hpoint]
  have hquote : ¬ (c = '\'' ∨ c = '"') := not_or.2 ⟨hne (by decide), hne (by decide)⟩
  rw [wordAt]
  · exact (if_neg hnumber).trans ((if_neg hquote).trans (if_pos hc))
  · exact fun _ heq _ => hne (by decide) heq

/-- A name is one word, up to what follows. -/
theorem Cuts.name {c : Char} {cs rest : List Char} {ts : List Token} (hdigit : c.isDigit = false)
    (hcs : ∀ d ∈ c :: cs, isNameChar d = true) (hrest : Follows rest) (h : Cuts rest ts) :
    Cuts (c :: cs ++ rest) (.name (String.ofList (c :: cs)) :: ts) := by
  have hc := hcs c List.mem_cons_self
  refine .word (starts_of_isNameChar hc) ?_ (by simp) h
  have htake : (c :: (cs ++ rest)).takeWhile isNameChar = c :: cs := by
    rw [← List.cons_append, List.takeWhile_append_of_pos hcs, hrest.takeWhile, List.append_nil]
  have hdrop : (c :: (cs ++ rest)).dropWhile isNameChar = rest := by
    rw [← List.cons_append, List.dropWhile_append_of_pos hcs, hrest.dropWhile]
  show wordAt (c :: (cs ++ rest)) = _
  rw [wordAt_letter hdigit hc, htake, hdrop]
  cases rest with
  | nil => rfl
  | cons d r =>
    obtain ⟨-, -, hsingle, hdouble⟩ := hrest.not_nameChar rfl
    exact if_neg (not_or.2 ⟨hsingle, hdouble⟩)

/-! ## Quoted words -/

theorem Follows.not_quote {rest : List Char} (h : Follows rest) {q : Char} (hq : q = '\'' ∨ q = '"') : rest.head? ≠ some q := by
  intro hhead
  obtain ⟨-, -, hsingle, hdouble⟩ := h.not_nameChar hhead
  exact hq.elim hsingle hdouble

theorem wordAt_quote {q : Char} (hq : q = '\'' ∨ q = '"') (r : List Char) : wordAt (q :: r) = quotedWord [] q r := by
  rcases hq with rfl | rfl <;> rfl

theorem starts_quote {q : Char} (hq : q = '\'' ∨ q = '"') : Starts q := by
  rcases hq with rfl | rfl <;> exact ⟨by decide, by decide, by decide, by decide⟩

theorem length_le_quoted (cs rest : List Char) (q : Char) : rest.length ≤ (cs ++ q :: rest).length := by
  rw [List.length_append, List.length_cons]
  omega

/-- A quoted text is one word. -/
theorem Cuts.text {t : Text} (ht : ∀ n ∈ t.points, n < 0x110000) {rest : List Char} {ts : List Token} (hrest : Follows rest)
    (h : Cuts rest ts) : Cuts (t.quotedChars ++ rest) (.text t.points :: ts) := by
  have hq := quoteFor_eq t.points
  have hpoints := quotedWord_points ht (hrest.not_quote hq)
  rw [Text.quotedChars, List.cons_append, List.append_assoc, List.singleton_append]
  exact .word (starts_quote hq) ((wordAt_quote hq _).trans hpoints) (length_le_quoted _ _ _) h

/-- Quoted bytes are one word. -/
theorem Cuts.octets {os : List Nat} (hos : ∀ n ∈ os, n < 256) {rest : List Char} {ts : List Token} (hrest : Follows rest)
    (h : Cuts rest ts) : Cuts ((Text.quotedOctets os).toList ++ rest) (.octets os :: ts) := by
  have hq := quoteFor_eq os
  have hoctets := quotedWord_octets hos (hrest.not_quote hq)
  have hquote : isNameChar (Char.ofNat (Text.quoteFor os)) = false := by
    rcases hq with hq | hq <;> rw [hq] <;> decide
  rw [Text.quotedOctets, String.toList_ofList, List.cons_append, List.cons_append, List.append_assoc, List.singleton_append]
  refine .word (starts_of_isNameChar (by decide)) ?_ (Nat.le_succ_of_le (length_le_quoted _ _ _)) h
  rw [wordAt_letter (by decide) (by decide), List.takeWhile_cons_of_pos (by decide), List.dropWhile_cons_of_pos (by decide),
    List.takeWhile_cons_of_neg (by simp [hquote]), List.dropWhile_cons_of_neg (by simp [hquote])]
  exact (if_pos hq).trans hoctets

/-! ## Whole numbers -/

theorem digitRun_append {ds rest : List Char} (hds : ∀ c ∈ ds, c.isDigit = true) (hrest : Follows rest) :
    digitRun Char.isDigit (ds ++ rest) = (ds, rest) := by
  induction ds with
  | nil =>
    cases rest with
    | nil => rfl
    | cons c r => rcases hrest c rfl with rfl | rfl | rfl | rfl | rfl <;> rfl
  | cons d ds ih =>
    obtain ⟨hd, hds⟩ := List.forall_mem_cons.1 hds
    have hne : d ≠ '_' := by
      rintro rfl
      cases hd
    rw [List.cons_append, digitRun]
    · rw [if_pos hd, ih hds]
    · exact fun _ _ heq _ => hne heq

/-- The digits of a whole number start with a zero only for zero itself. -/
theorem eq_zero_of_head_toDigits {n : Nat} (h : (Nat.toDigits 10 n).head? = some '0') : n = 0 := by
  induction n using Nat.strong_induction_on with
  | _ n ih =>
    by_cases hn : n < 10
    · rw [Nat.toDigits_of_lt_base hn] at h
      interval_cases n <;> first | rfl | cases h
    · have hn := Nat.not_lt.1 hn
      have hdiv : 0 < n / 10 := Nat.div_pos hn (by decide)
      rw [Nat.toDigits_of_base_le (by decide) hn, List.head?_append_of_ne_nil _ Nat.toDigits_ne_nil] at h
      exact absurd (ih _ (Nat.div_lt_self (Nat.lt_of_lt_of_le (by decide) hn) (by decide)) h) hdiv.ne'

theorem decimalWord_toDigits {n : Nat} (hn : n < 10 ^ maxDecimalDigits) {rest : List Char} (hrest : Follows rest) :
    decimalWord (Nat.toDigits 10 n ++ rest) = some (.int n, rest) := by
  have hdigits : ∀ c ∈ Nat.toDigits 10 n, c.isDigit = true := fun c hc => Nat.isDigit_of_mem_toDigits (by decide) (by decide) hc
  have hfirst : ((Nat.toDigits 10 n ++ rest).head?.map Char.isDigit).getD false = true := by
    obtain ⟨d, ds, heq⟩ := List.exists_cons_of_ne_nil (Nat.toDigits_ne_nil (n := n) (b := 10))
    rw [heq]
    exact hdigits d (heq ▸ List.mem_cons_self)
  have hlength : ¬ maxDecimalDigits < (Nat.toDigits 10 n).length :=
    Nat.not_lt.2 ((Nat.length_toDigits_le_iff (by decide) (by decide)).2 hn)
  have hzero : ¬ ((Nat.toDigits 10 n).head? = some '0' ∧ (Nat.toDigits 10 n).any (· ≠ '0')) := by
    rintro ⟨hhead, hany⟩
    rw [eq_zero_of_head_toDigits hhead, Nat.toDigits_zero] at hany
    cases hany
  have hvalue : Decimal.digitsValue (Nat.toDigits 10 n) = n := Nat.ofDigitChars_toDigits (by decide) (by decide)
  have hfinish (x : Binary64) : decimalWord.finish (Nat.toDigits 10 n) x false rest = some (.int n, rest) := by
    rw [decimalWord.finish, if_neg Bool.false_ne_true, if_neg hlength, if_neg hzero, hvalue]
  unfold decimalWord
  rw [if_pos hfirst, digitRun_append hdigits hrest]
  cases rest with
  | nil => exact hfinish _
  | cons c r => rcases hrest c rfl with rfl | rfl | rfl | rfl | rfl <;> simp [exponentRun, hfinish]

/-- The digits of a whole number are one word. -/
theorem numberWord_toDigits {n : Nat} (hn : n < 10 ^ maxDecimalDigits) {rest : List Char} (hrest : Follows rest) :
    numberWord (Nat.toDigits 10 n ++ rest) = some (.number (.int n), rest) := by
  have hend : ((rest.head?.map isNameChar).getD false) = false := by
    cases rest with
    | nil => rfl
    | cons c r => exact (hrest.not_nameChar rfl).1
  have hplain : (decimalWord (Nat.toDigits 10 n ++ rest)).bind (fun p => if (p.2.head?.map isNameChar).getD false then none
      else some (Token.number p.1, p.2)) = some (.number (.int n), rest) := by
    rw [decimalWord_toDigits hn hrest, Option.bind_some, hend]
    rfl
  unfold numberWord
  split
  · -- Only zero starts with a zero, and what follows it is no base mark.
    next c r heq =>
    have hbase : baseOf? c = none := by
      cases hds : Nat.toDigits 10 n with
      | nil => exact absurd hds Nat.toDigits_ne_nil
      | cons d ds =>
        rw [hds, List.cons_append] at heq
        obtain ⟨rfl, htail⟩ := List.cons.inj heq
        have hn : n = 0 := eq_zero_of_head_toDigits (by rw [hds]; rfl)
        rw [hn, Nat.toDigits_zero] at hds
        cases hds
        rw [List.nil_append] at htail
        rcases hrest c (by rw [htail]; rfl) with rfl | rfl | rfl | rfl | rfl <;> rfl
    rw [hbase]
    exact heq ▸ hplain
  · exact hplain

/-- A whole number is one word. -/
theorem Cuts.number {n : Nat} (hn : n < 10 ^ maxDecimalDigits) {rest : List Char} {ts : List Token} (hrest : Follows rest)
    (h : Cuts rest ts) : Cuts (Nat.toDigits 10 n ++ rest) (.number (.int n) :: ts) := by
  have hword := numberWord_toDigits hn hrest
  obtain ⟨d, ds, heq⟩ := List.exists_cons_of_ne_nil (Nat.toDigits_ne_nil (n := n) (b := 10))
  have hd : d.isDigit = true := Nat.isDigit_of_mem_toDigits (by decide) (by decide) (heq ▸ List.mem_cons_self)
  have hname : isNameChar d = true := by simp [isNameChar, Char.isAlphanum, hd]
  rw [heq, List.cons_append] at hword ⊢
  refine .word (starts_of_isNameChar hname) ?_ (by simp) h
  rw [wordAt]
  · rw [if_pos (by simp [hd]), hword]
  · rintro _ rfl
    cases hd

/-! ## Printed values -/

/-- Characters that are cut into words wherever a printed value can stand. -/
structure CutInto (cs : List Char) (ts : List Token) : Prop where
  shown : ∀ c ∈ cs, 32 ≤ c.toNat
  cuts : ∀ {rest : List Char} {us : List Token}, Follows rest → Cuts rest us → Cuts (cs ++ rest) (ts ++ us)

theorem cutInto_nil : CutInto [] [] := ⟨fun _ hc => absurd hc List.not_mem_nil, fun _ h => h⟩

theorem CutInto.mark {c : Char} (hc : c ∈ printedMarks) {cs : List Char} {ts : List Token} (h : CutInto cs ts) : CutInto (c :: cs) (.mark c :: ts) where
  shown := by
    refine List.forall_mem_cons.2 ⟨?_, h.shown⟩
    simp only [printedMarks, List.mem_cons, List.not_mem_nil, or_false] at hc
    rcases hc with rfl | rfl | rfl | rfl | rfl | rfl | rfl | rfl | rfl <;> decide
  cuts hrest hcuts := Cuts.mark hc (h.cuts hrest hcuts)

theorem CutInto.blank {cs : List Char} {ts : List Token} (h : CutInto cs ts) : CutInto (' ' :: cs) ts where
  shown := List.forall_mem_cons.2 ⟨by decide, h.shown⟩
  cuts hrest hcuts := Cuts.blank (h.cuts hrest hcuts)

/-- A mark that can follow a printed value may stand behind it. -/
theorem CutInto.before {c : Char} (hc : EndMark c) {cs ds : List Char} {ts us : List Token} (h : CutInto cs ts)
    (hd : CutInto (c :: ds) us) : CutInto (cs ++ c :: ds) (ts ++ us) where
  shown := List.forall_mem_append.2 ⟨h.shown, hd.shown⟩
  cuts := by
    intro rest vs hrest hcuts
    have hfollows : Follows (c :: ds ++ rest) := fun _ hd => Option.some.inj hd ▸ hc
    rw [List.append_assoc, List.append_assoc]
    exact h.cuts hfollows (hd.cuts hrest hcuts)

section

variable {α : Type} {f : α → List Char} {g : α → List Token} {xs : List α}

/-- Printed values with commas between them, before a closing bracket. -/
theorem cutInto_separated (h : ∀ x ∈ xs, CutInto (f x) (g x)) :
    CutInto ([',', ' '].intercalate (xs.map f)) (Value.separated (xs.map g)) := by
  induction xs with
  | nil => exact cutInto_nil
  | cons x xs ih =>
    obtain ⟨hx, hxs⟩ := List.forall_mem_cons.1 h
    cases xs with
    | nil => simpa [Value.separated] using hx
    | cons y ys =>
      have hrest := hx.before (.inl rfl) (CutInto.mark (by decide) (ih hxs).blank)
      rw [Value.separated, List.map_cons, List.map_cons, List.map_cons, List.map_cons, List.intercalate_cons_cons,
        List.intercalate_cons_cons, List.append_assoc, List.append_assoc]
      exact hrest

/-- Words between brackets. -/
theorem CutInto.bracketed {a b : Char} {cs : List Char} {ts : List Token} (h : CutInto cs ts) (ha : OpeningMark a)
    (hb : ClosingMark b) : CutInto (a :: (cs ++ [b])) (.mark a :: (ts ++ [.mark b])) := by
  have hclose : CutInto [b] [.mark b] := cutInto_nil.mark (by rcases hb with rfl | rfl | rfl <;> decide)
  refine (h.before ?_ hclose).mark ?_
  · exact .inr (.inr hb)
  · rcases ha with rfl | rfl | rfl <;> decide

end

end Literal

namespace Value

theorem toList_commaSeparated (ts : List String) : (commaSeparated ts).toList = [',', ' '].intercalate (ts.map String.toList) :=
  String.toList_intercalate

theorem wordsAll_eq (xs : List Value) : wordsAll xs = xs.map words := by
  induction xs with
  | nil => rfl
  | cons x xs ih => rw [wordsAll, ih, List.map_cons]

theorem wordsEntries_eq (es : List (Value × Value)) :
    wordsEntries es = es.map fun e => e.1.words ++ .mark ':' :: e.2.words := by
  induction es with
  | nil => rfl
  | cons e es ih => rw [wordsEntries, ih, List.map_cons]

theorem cutInto_tuple {xs : List Value} (h : ∀ x ∈ xs, CutInto x.literal.toList x.words) :
    CutInto (tuple xs).literal.toList (tuple xs).words := by
  have hitems := (cutInto_separated h).bracketed (.inl rfl) (.inl rfl)
  rw [literal_tuple, words, wordsAll_eq]
  match xs with
  | [] => exact hitems
  | [x] =>
    have hcomma := (h x List.mem_cons_self).before (.inl rfl) (CutInto.mark (by decide) cutInto_nil)
    simpa [tupleText, tupleWords] using hcomma.bracketed (.inl rfl) (.inl rfl)
  | x :: y :: zs => simpa [tupleText, tupleWords, toList_commaSeparated, Function.comp_def] using hitems

theorem cutInto_list {xs : List Value} (h : ∀ x ∈ xs, CutInto x.literal.toList x.words) :
    CutInto (list xs).literal.toList (list xs).words := by
  have hitems := (cutInto_separated h).bracketed (.inr (.inl rfl)) (.inr (.inl rfl))
  rw [literal_list, words, wordsAll_eq]
  simpa [toList_commaSeparated, Function.comp_def] using hitems

theorem cutInto_dict {es : List (Value × Value)} (hkeys : ∀ e ∈ es, CutInto e.1.literal.toList e.1.words)
    (hvalues : ∀ e ∈ es, CutInto e.2.literal.toList e.2.words) : CutInto (dict es).literal.toList (dict es).words := by
  have hentry : ∀ e ∈ es,
      CutInto (e.1.literal.toList ++ ':' :: ' ' :: e.2.literal.toList) (e.1.words ++ .mark ':' :: e.2.words) :=
    fun e he => (hkeys e he).before (.inr (.inl rfl)) (CutInto.mark (by decide) (hvalues e he).blank)
  have hentries := (cutInto_separated hentry).bracketed (.inr (.inr rfl)) (.inr (.inr rfl))
  rw [literal_dict, words, wordsEntries_eq]
  simpa [dictText, toList_commaSeparated, Function.comp_def] using hentries

theorem cutInto_digits {n : Nat} (h : n < 10 ^ maxDecimalDigits) : CutInto (Nat.toDigits 10 n) [.number (.int n)] := by
  refine ⟨fun c hc => ?_, Cuts.number h⟩
  have hdigit : c.isDigit = true := Nat.isDigit_of_mem_toDigits (by decide) (by decide) hc
  exact Nat.le_trans (by decide) (show 48 ≤ c.toNat from of_decide_eq_true (Bool.and_eq_true_iff.1 hdigit).1)

theorem cutInto_int {n : Int} (h : n.natAbs < 10 ^ maxDecimalDigits) : CutInto (toString n).toList (intWords n) := by
  have hdigits := cutInto_digits h
  cases n with
  | ofNat n =>
    have htext : toString (Int.ofNat n) = String.ofList (Nat.toDigits 10 n) := Nat.toString_eq_ofList_toDigits
    have hsign : ¬ Int.ofNat n < 0 := Int.not_lt.2 (Int.natCast_nonneg n)
    rw [htext, String.toList_ofList, intWords, if_neg hsign]
    exact hdigits
  | negSucc n =>
    have htext : (toString (Int.negSucc n)).toList = '-' :: (toString (n + 1)).toList := String.toList_append
    rw [htext, Nat.toString_eq_ofList_toDigits, String.toList_ofList, intWords, if_pos (Int.negSucc_lt_zero n)]
    exact hdigits.mark (c := '-') (by decide)

theorem cutInto_name (c : Char) (cs : List Char) (hc : c.isDigit = false) (hcs : (c :: cs).all isNameChar = true)
    (hshown : (c :: cs).all (32 ≤ ·.toNat) = true) : CutInto (c :: cs) [.name (String.ofList (c :: cs))] :=
  ⟨fun d hd => of_decide_eq_true (List.all_eq_true.1 hshown d hd), Cuts.name hc (List.all_eq_true.1 hcs)⟩

/-- **A printed value is cut into its words,** wherever it stands. -/
theorem Rereadable.cutInto {v : Value} (h : v.Rereadable) : CutInto v.literal.toList v.words := by
  induction h with
  | nil => exact cutInto_name 'N' ['o', 'n', 'e'] (by decide) (by decide) (by decide)
  | bool b =>
    cases b with
    | true => exact cutInto_name 'T' ['r', 'u', 'e'] (by decide) (by decide) (by decide)
    | false => exact cutInto_name 'F' ['a', 'l', 's', 'e'] (by decide) (by decide) (by decide)
  | int h => exact cutInto_int h
  | @text t h =>
    have hcut : CutInto t.quotedChars [.text t.points] := ⟨shown_flatMap (quoteFor_eq _) (writes_points h), Cuts.text h⟩
    rwa [← String.toList_ofList (l := t.quotedChars)] at hcut
  | @bytes os h =>
    refine ⟨?_, Cuts.octets h⟩
    have hshown := shown_flatMap (quoteFor_eq _) (writes_octets h)
    rw [show (Value.bytes .fixed os).literal = Text.quotedOctets os from rfl, Text.quotedOctets, String.toList_ofList]
    exact List.forall_mem_cons.2 ⟨by decide, hshown⟩
  | tuple _ ih => exact cutInto_tuple ih
  | list _ ih => exact cutInto_list ih
  | dict _ _ _ ihkeys ihvalues => exact cutInto_dict ihkeys ihvalues

/-- **A printed value is scanned into its words.** -/
theorem Rereadable.scan_literal {v : Value} (h : v.Rereadable) : Token.scan v.literal = some v.words := by
  have hcut := h.cutInto
  have hcuts : Cuts v.literal.toList v.words := by simpa using hcut.cuts follows_nil Cuts.nil
  have hscan := hcuts.scan_eq hcut.shown
  rwa [String.ofList_toList] at hscan

end Value

end Lineage
