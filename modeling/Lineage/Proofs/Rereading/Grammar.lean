import Mathlib
import Lineage.Literal
import Lineage.Proofs.Rereading.Words

/-!
# Grammar — the words of a value are read as that value

`Value.tree` is the tree that the words of a value make. The grammar finds it wherever those words stand before a word that
ends a value (`Ends`), with eight steps for each word that is left (`Value.Rereadable.parses`); and the value of the tree is
the value itself (`Value.Rereadable.value_tree`). So the literal form of a value is read as the value
(`Value.Rereadable.read_literal`).
-/

set_option autoImplicit false

namespace Lineage

open Literal

namespace Value

/-! ## The tree of a value -/

/-- The tree of a whole number. -/
def intTree (n : Int) : Tree := if n < 0 then .negated (.number (.int n.natAbs)) else .number (.int n.natAbs)

mutual

/-- The tree that the words of a value make. -/
def tree (v : Value) : Tree :=
  match v with
  | number (.int n) => intTree n
  | tuple xs => .tuple (trees xs)
  | list xs => .list (trees xs)
  | dict es => .dict (treeEntries es)
  | v => .data v
termination_by structural v

/-- The trees of the items of a sequence. -/
def trees (xs : List Value) : List Tree :=
  match xs with
  | [] => []
  | x :: xs => tree x :: trees xs
termination_by structural xs

/-- The trees of the entries of a dictionary. -/
def treeEntries (es : List (Value × Value)) : List (Tree × Tree) :=
  match es with
  | [] => []
  | (k, v) :: es => (tree k, tree v) :: treeEntries es
termination_by structural es

end

end Value

namespace Literal

/-! ## Where a value ends -/

/-- Words at which a value before them ends. -/
def Ends (rest : List Token) : Prop :=
  rest = [] ∨ ∃ c r, rest = .mark c :: r ∧ EndMark c

theorem ends_nil : Ends [] := .inl rfl

theorem ends_mark {c : Char} (hc : EndMark c) (r : List Token) : Ends (.mark c :: r) :=
  .inr ⟨c, r, rfl, hc⟩

/-- Words that start a value without a sign. -/
def Opens (ts : List Token) : Prop :=
  ∃ t r, ts = t :: r ∧ ∀ c, t = .mark c → c = '(' ∨ c = '[' ∨ c = '\x7b' ∨ c = '-'

variable {rest : List Token}

theorem quotedRun_eq (h : Ends rest) (v : Value) : Tree.quotedRun v rest = some (.data v, rest) := by
  rcases h with rfl | ⟨c, r, rfl, -⟩ <;> rfl

theorem called_eq (h : Ends rest) (t : Tree) : Tree.called (t, rest) = (t, rest) := by
  rcases h with rfl | ⟨c, r, rfl, hc⟩
  · unfold Tree.called
    split
    · next heq => cases heq
    · rfl
  · unfold Tree.called
    split
    · next heq =>
      cases heq
      rcases hc with h | h | h | h | h <;> cases h
    · rfl

theorem terms_eq (h : Ends rest) (fuel : Nat) (t : Tree) : Tree.terms (fuel + 1) t rest = some (t, rest) := by
  rcases h with rfl | ⟨c, r, rfl, hc⟩
  · rfl
  · rcases hc with rfl | rfl | rfl | rfl | rfl <;> rfl

/-- An atom that ends a value is an expression. -/
theorem expression_eq (h : Ends rest) {fuel : Nat} {ts : List Token} {t : Tree}
    (hsign : ∀ r, ts ≠ .mark '+' :: r ∧ ts ≠ .mark '-' :: r) (hatom : Tree.atom fuel ts = some (t, rest)) : Tree.expression (fuel + 2) ts = some (t, rest) := by
  have hoperand : Tree.operand (fuel + 1) ts = some (t, rest) := by
    rw [Tree.operand]
    · rw [hatom, Option.map_some, called_eq h]
    · exact fun r heq => (hsign r).1 heq
    · exact fun r heq => (hsign r).2 heq
  rw [Tree.expression, hoperand]
  exact terms_eq h fuel t

/-! ## Sequences -/

/-- A value whose words are read as its tree, wherever they stand: eight steps are enough for each word that is left. -/
structure Parses (v : Value) : Prop where
  opens : Opens v.words
  expression : ∀ fuel rest, Ends rest → 8 * (v.words ++ rest).length ≤ fuel →
    Tree.expression fuel (v.words ++ rest) = some (v.tree, rest)

theorem separated_cons (ts : List Token) (tss : List (List Token)) :
    Value.separated (ts :: tss) = ts ++ tss.flatMap (.mark ',' :: ·) := by
  induction tss generalizing ts with
  | nil => simp [Value.separated]
  | cons us tss ih =>
    rw [Value.separated, List.intercalate_cons_cons, List.append_assoc, List.flatMap_cons]
    exact congrArg (ts ++ .mark ',' :: ·) (ih us)

/-- A sequence of words that starts no closing bracket. -/
theorem Opens.not_close {ts : List Token} (h : Opens ts) {close : Char} (hclose : ClosingMark close)
    (rest r : List Token) : ts ++ rest ≠ .mark close :: r := by
  obtain ⟨t, us, rfl, hmark⟩ := h
  intro heq
  rcases hmark close (List.cons.inj heq).1 with rfl | rfl | rfl | rfl <;>
    rcases hclose with h | h | h <;> cases h

theorem items_eq_itemsFrom {ts : List Token} (h : Opens ts) {close : Char} (hclose : ClosingMark close)
    (fuel : Nat) (rest : List Token) : Tree.items (fuel + 1) close (ts ++ rest) = Tree.itemsFrom fuel close (ts ++ rest) := by
  rw [Tree.items.eq_def]
  split
  · cases ‹fuel + 1 = 0›
  · next heq =>
    cases heq
    split
    · next hts =>
      split
      · next hc => exact absurd (hc ▸ hts) (h.not_close hclose rest _)
      · rw [hts]
    · rfl

/-- The items of a sequence are read up to its closing bracket. -/
theorem items_eq {xs : List Value} (h : ∀ x ∈ xs, Parses x) {close : Char} (hclose : ClosingMark close)
    (fuel : Nat) (rest : List Token)
    (hfuel : 8 * (Value.separated (xs.map Value.words) ++ .mark close :: rest).length + 2 ≤ fuel) :
    Tree.items fuel close (Value.separated (xs.map Value.words) ++ .mark close :: rest) = some (xs.map Value.tree, rest) := by
  -- By induction on the items. Two steps lead to the first one; the comma behind it is a word less for the others.
  induction xs generalizing fuel with
  | nil =>
    cases fuel with
    | zero => cases hfuel
    | succ fuel =>
      show Tree.items (fuel + 1) close (.mark close :: rest) = some ([], rest)
      rw [Tree.items, if_pos rfl]
  | cons x xs ih =>
    obtain ⟨hx, hxs⟩ := List.forall_mem_cons.1 h
    obtain ⟨fuel, rfl⟩ := Nat.exists_eq_add_of_le' (Nat.le_trans (Nat.le_add_left 2 _) hfuel)
    rw [List.map_cons, separated_cons, List.append_assoc] at hfuel ⊢
    rw [items_eq_itemsFrom hx.opens hclose, Tree.itemsFrom]
    cases xs with
    | nil =>
      have hends : Ends (.mark close :: rest) := ends_mark (.inr (.inr hclose)) rest
      have hfirst := hx.expression fuel _ hends (by simp only [List.length_append, List.length_cons] at hfuel ⊢; omega)
      rcases hclose with rfl | rfl | rfl <;> simp [hfirst]
    | cons y ys =>
      have htail : ((y :: ys).map Value.words).flatMap (.mark ',' :: ·) ++ .mark close :: rest =
          .mark ',' :: (Value.separated ((y :: ys).map Value.words) ++ .mark close :: rest) := by
        rw [List.map_cons, List.flatMap_cons, separated_cons]
        simp
      rw [htail] at hfuel ⊢
      generalize Value.separated ((y :: ys).map Value.words) ++ .mark close :: rest = more at hfuel ih
      have hfirst := hx.expression fuel (.mark ',' :: more) (ends_mark (.inl rfl) _) (by omega)
      have hmore := ih hxs fuel (by simp only [List.length_append, List.length_cons] at hfuel; omega)
      simp only [hfirst, Option.bind_eq_bind, Option.bind_some, hmore]
      rfl

/-- The words of an entry. -/
def entryWords (e : Value × Value) : List Token := e.1.words ++ .mark ':' :: e.2.words

/-- An entry is read as a key and a value. -/
theorem entry_eq {e : Value × Value} (hkey : Parses e.1) (hvalue : Parses e.2) (fuel : Nat) {more : List Token}
    (hends : Ends more) (hfuel : 8 * (entryWords e ++ more).length ≤ fuel) :
    Tree.expression fuel (entryWords e ++ more) = some (e.1.tree, .mark ':' :: (e.2.words ++ more)) ∧
      Tree.expression fuel (e.2.words ++ more) = some (e.2.tree, more) := by
  rw [entryWords, List.append_assoc, List.cons_append] at hfuel ⊢
  refine ⟨hkey.expression _ _ (ends_mark (.inr (.inl rfl)) _) hfuel, hvalue.expression _ _ hends ?_⟩
  simp only [List.length_append, List.length_cons] at hfuel ⊢
  omega

/-- The words of the entries behind the first one, up to the closing brace. -/
def moreEntries (es : List (Value × Value)) (rest : List Token) : List Token :=
  (es.map entryWords).flatMap (.mark ',' :: ·) ++ .mark '\x7d' :: rest

theorem moreEntries_cons (e : Value × Value) (es : List (Value × Value)) (rest : List Token) :
    moreEntries (e :: es) rest = .mark ',' :: (entryWords e ++ moreEntries es rest) := by
  simp [moreEntries]

theorem ends_moreEntries (es : List (Value × Value)) (rest : List Token) : Ends (moreEntries es rest) := by
  cases es with
  | nil => exact ends_mark (by decide) _
  | cons e es => exact ends_mark (by decide) _

/-- The entries behind the first one are read up to the closing brace. -/
theorem entries_eq {es : List (Value × Value)} (hkeys : ∀ e ∈ es, Parses e.1) (hvalues : ∀ e ∈ es, Parses e.2) (fuel : Nat)
    (rest : List Token) (hfuel : 8 * (moreEntries es rest).length + 1 ≤ fuel) :
    Tree.entries fuel (moreEntries es rest) = some (es.map fun e => (e.1.tree, e.2.tree), rest) := by
  induction es generalizing fuel with
  | nil =>
    cases fuel with
    | zero => cases hfuel
    | succ fuel => rfl
  | cons e es ih =>
    obtain ⟨hkey, hkeys⟩ := List.forall_mem_cons.1 hkeys
    obtain ⟨hvalue, hvalues⟩ := List.forall_mem_cons.1 hvalues
    obtain ⟨fuel, rfl⟩ := Nat.exists_eq_add_of_le' (Nat.le_trans (Nat.le_add_left 1 _) hfuel)
    rw [moreEntries_cons] at hfuel ⊢
    obtain ⟨hfirst, hsecond⟩ := entry_eq hkey hvalue fuel (ends_moreEntries es rest) (by simp only [List.length_append, List.length_cons] at hfuel ⊢; omega)
    have hmore := ih hkeys hvalues fuel (by simp only [List.length_append, List.length_cons] at hfuel; omega)
    rw [Tree.entries]
    · simp only [hfirst, hsecond, hmore, Option.bind_eq_bind, Option.bind_some]
      rfl
    · intro r heq
      rw [entryWords, List.append_assoc] at heq
      exact hkey.opens.not_close (.inr (.inr rfl)) _ r heq

end Literal

namespace Value

/-! ## Values of one word -/

theorem trees_eq (xs : List Value) : trees xs = xs.map tree := by
  induction xs with
  | nil => rfl
  | cons x xs ih => rw [trees, ih, List.map_cons]

theorem treeEntries_eq (es : List (Value × Value)) : treeEntries es = es.map fun e => (e.1.tree, e.2.tree) := by
  induction es with
  | nil => rfl
  | cons e es ih => rw [treeEntries, ih, List.map_cons]

/-- A value whose only word is an atom by itself. -/
theorem parses_word {v : Value} {t : Token} (hwords : v.words = [t]) (hmark : ∀ c, t ≠ .mark c)
    (hatom : ∀ fuel rest, Ends rest → Tree.atom (fuel + 1) (t :: rest) = some (v.tree, rest)) : Parses v where
  opens := ⟨t, [], hwords, fun c hc => absurd hc (hmark c)⟩
  expression fuel rest hends hfuel := by
    rw [hwords] at hfuel ⊢
    obtain ⟨fuel, rfl⟩ := Nat.exists_eq_add_of_le' (show 3 ≤ fuel by simp at hfuel; omega)
    exact expression_eq hends (fun r => ⟨fun heq => hmark _ (List.cons.inj heq).1, fun heq => hmark _ (List.cons.inj heq).1⟩)
      (hatom fuel rest hends)

/-- A whole number, with its sign if it has one. -/
theorem parses_int (n : Int) : Parses (.number (.int n)) := by
  by_cases hn : n < 0
  · have hwords : words (.number (.int n)) = [.mark '-', .number (.int n.natAbs)] := by rw [words, intWords, if_pos hn]
    have htree : tree (.number (.int n)) = .negated (.number (.int n.natAbs)) := by rw [tree, intTree, if_pos hn]
    refine ⟨⟨_, _, hwords, fun c hc => by cases hc; exact .inr (.inr (.inr rfl))⟩, fun fuel rest hends hfuel => ?_⟩
    rw [hwords] at hfuel ⊢
    obtain ⟨fuel, rfl⟩ := Nat.exists_eq_add_of_le' (show 4 ≤ fuel by simp at hfuel; omega)
    have hatom : Tree.operand (fuel + 2) (.number (.int n.natAbs) :: rest) = some (.number (.int n.natAbs), rest) := by
      rw [Tree.operand]
      · exact congrArg some (called_eq hends _)
      · exact fun _ heq => by cases heq
      · exact fun _ heq => by cases heq
    have hoperand : Tree.operand (fuel + 3) (.mark '-' :: .number (.int n.natAbs) :: rest) =
        some (.negated (.number (.int n.natAbs)), rest) := by
      rw [Tree.operand, hatom]
      rfl
    rw [htree, List.cons_append, List.singleton_append, Tree.expression, hoperand]
    exact terms_eq hends _ _
  · refine parses_word (t := .number (.int n.natAbs)) ?_ (fun _ heq => by cases heq) fun _ _ _ => ?_
    · rw [words, intWords, if_neg hn]
    · rw [tree, intTree, if_neg hn, Tree.atom]

/-! ## Containers -/

/-- A value in brackets: the first word is the opening one. -/
theorem parses_bracketed {v : Value} {c : Char} {ts : List Token} (hwords : v.words = .mark c :: ts)
    (hc : OpeningMark c)
    (hatom : ∀ fuel rest, 8 * (ts ++ rest).length + 2 ≤ fuel →
      Tree.atom (fuel + 1) (.mark c :: (ts ++ rest)) = some (v.tree, rest)) : Parses v where
  opens := ⟨.mark c, ts, hwords, fun d hd => by cases hd; exact hc.imp_right (Or.imp_right .inl)⟩
  expression fuel rest hends hfuel := by
    rw [hwords] at hfuel ⊢
    obtain ⟨fuel, rfl⟩ := Nat.exists_eq_add_of_le' (show 3 ≤ fuel by simp at hfuel; omega)
    refine expression_eq hends (fun r => ⟨fun heq => ?_, fun heq => ?_⟩) (hatom fuel rest ?_)
    · cases heq
      rcases hc with h | h | h <;> cases h
    · cases heq
      rcases hc with h | h | h <;> cases h
    · simp only [List.length_append, List.length_cons] at hfuel ⊢
      omega

theorem parses_list {xs : List Value} (h : ∀ x ∈ xs, Parses x) : Parses (list xs) := by
  have hwords : (list xs).words = .mark '[' :: (separated (xs.map words) ++ [.mark ']']) := by rw [words, wordsAll_eq]
  refine parses_bracketed hwords (.inr (.inl rfl)) fun fuel rest hfuel => ?_
  rw [List.append_assoc, List.singleton_append] at hfuel ⊢
  rw [Tree.atom, items_eq h (.inr (.inl rfl)) fuel rest hfuel, tree, trees_eq]
  rfl

theorem tupleWords_cons (ts : List Token) (tss : List (List Token)) :
    tupleWords (ts :: tss) = ts ++ .mark ',' :: separated tss := by
  cases tss with
  | nil => rfl
  | cons us tss =>
    rw [tupleWords, separated, List.intercalate_cons_cons, List.append_assoc, List.singleton_append]
    · rfl
    · exact fun _ heq => by cases heq

theorem parses_tuple {xs : List Value} (h : ∀ x ∈ xs, Parses x) : Parses (tuple xs) := by
  have hwords : (tuple xs).words = .mark '(' :: (tupleWords (xs.map words) ++ [.mark ')']) := by rw [words, wordsAll_eq]
  refine parses_bracketed hwords (.inl rfl) fun fuel rest hfuel => ?_
  rw [List.append_assoc, List.singleton_append] at hfuel ⊢
  rw [tree, trees_eq]
  cases xs with
  | nil => rfl
  | cons x xs =>
    obtain ⟨hx, hxs⟩ := List.forall_mem_cons.1 h
    rw [List.map_cons, tupleWords_cons, List.append_assoc, List.cons_append] at hfuel ⊢
    have hfirst := hx.expression fuel _ (ends_mark (.inl rfl) _) (Nat.le_trans (Nat.le_add_right _ _) hfuel)
    have hmore := items_eq hxs (.inl rfl) fuel rest (by simp only [List.length_append, List.length_cons] at hfuel ⊢; omega)
    rw [Tree.atom]
    · simp only [hfirst, Option.bind_eq_bind, Option.bind_some, hmore]
      rfl
    · exact fun r heq => hx.opens.not_close (.inl rfl) _ r heq

theorem parses_dict {es : List (Value × Value)} (hkeys : ∀ e ∈ es, Parses e.1) (hvalues : ∀ e ∈ es, Parses e.2) :
    Parses (dict es) := by
  have hwords : (dict es).words = .mark '\x7b' :: (separated (es.map entryWords) ++ [.mark '\x7d']) := by
    rw [words, wordsEntries_eq]
    rfl
  refine parses_bracketed hwords (.inr (.inr rfl)) fun fuel rest hfuel => ?_
  rw [List.append_assoc, List.singleton_append] at hfuel ⊢
  rw [tree, treeEntries_eq]
  cases es with
  | nil => rfl
  | cons e es =>
    obtain ⟨hkey, hkeys⟩ := List.forall_mem_cons.1 hkeys
    obtain ⟨hvalue, hvalues⟩ := List.forall_mem_cons.1 hvalues
    have hentries : separated ((e :: es).map entryWords) ++ .mark '\x7d' :: rest = entryWords e ++ moreEntries es rest := by
      rw [List.map_cons, separated_cons, List.append_assoc]
      rfl
    rw [hentries] at hfuel ⊢
    obtain ⟨hfirst, hsecond⟩ := entry_eq hkey hvalue fuel (ends_moreEntries es rest) (by omega)
    have hmore := entries_eq hkeys hvalues fuel rest (by
      simp only [entryWords, List.length_append, List.length_cons] at hfuel
      omega)
    rw [Tree.atom]
    · simp only [hfirst, hsecond, hmore, Option.bind_eq_bind, Option.bind_some]
      rfl
    · intro r heq
      rw [entryWords, List.append_assoc] at heq
      exact hkey.opens.not_close (.inr (.inr rfl)) _ r heq

/-- **The words of a value are read as its tree.** -/
theorem Rereadable.parses {v : Value} (h : v.Rereadable) : Parses v := by
  induction h with
  | nil => exact parses_word rfl (fun _ heq => by cases heq) fun _ _ _ => rfl
  | bool b => exact parses_word rfl (fun _ heq => by cases heq) fun _ _ _ => by cases b <;> rfl
  | int _ => exact parses_int _
  | text _ => exact parses_word rfl (fun _ heq => by cases heq) fun _ _ hends => quotedRun_eq hends _
  | bytes _ => exact parses_word rfl (fun _ heq => by cases heq) fun _ _ hends => quotedRun_eq hends _
  | tuple _ ih => exact parses_tuple ih
  | list _ ih => exact parses_list ih
  | dict _ _ _ ihkeys ihvalues => exact parses_dict ihkeys ihvalues

/-! ## The value of the tree -/

theorem values_trees {xs : List Value} (h : ∀ x ∈ xs, x.tree.value = .ok x) : Tree.values (xs.map tree) = .ok xs := by
  induction xs with
  | nil => rfl
  | cons x xs ih =>
    obtain ⟨hx, hxs⟩ := List.forall_mem_cons.1 h
    rw [List.map_cons, Tree.values, hx, ih hxs]
    rfl

/-- Keys that can be keys and are not equal to each other are put in one after the other. -/
theorem dictEntries_trees (sofar : List (Value × Value)) {es : List (Value × Value)}
    (hkeys : ∀ e ∈ es, e.1.tree.value = .ok e.1) (hvalues : ∀ e ∈ es, e.2.tree.value = .ok e.2) (hkeyed : Keyed (sofar ++ es)) :
    Tree.dictEntries sofar (es.map fun e => (e.1.tree, e.2.tree)) = .ok (sofar ++ es) := by
  induction es generalizing sofar with
  | nil => rw [List.append_nil, List.map_nil, Tree.dictEntries]
  | cons e es ih =>
    obtain ⟨hkey, hkeys⟩ := List.forall_mem_cons.1 hkeys
    obtain ⟨hvalue, hvalues⟩ := List.forall_mem_cons.1 hvalues
    have hhashable : e.1.unhashable? = none := hkeyed.hashable e (List.mem_append_right _ List.mem_cons_self)
    have hnew : sofar.any (·.1.equalInside e.1) = false := by
      refine List.any_eq_false.2 fun f hf => ?_
      rw [(List.pairwise_append.1 hkeyed.distinct).2.2 f hf e List.mem_cons_self]
      exact Bool.false_ne_true
    have hcheck : Tree.checkKey e.1 = .ok () := by rw [Tree.checkKey, hhashable]
    have hinsert : Tree.insertEntry sofar e.1 e.2 = sofar ++ [e] := by
      rw [Tree.insertEntry, hnew]
      rfl
    rw [List.append_cons] at hkeyed ⊢
    rw [List.map_cons, Tree.dictEntries, hkey, hvalue, ← ih _ hkeys hvalues hkeyed, ← hinsert]
    simp only [bind, Except.bind, hcheck]

/-- **The value of its tree is the value itself.** -/
theorem Rereadable.value_tree {v : Value} (h : v.Rereadable) : v.tree.value = .ok v := by
  induction h with
  | nil | bool | text | bytes => rfl
  | @int n _ =>
    rw [tree, intTree]
    split
    · next hn =>
      have hnegated : -(n.natAbs : Int) = n := by omega
      show Except.ok (Value.number (.int (-(n.natAbs : Int)))) = _
      rw [hnegated]
    · next hn =>
      have hplain : (n.natAbs : Int) = n := by omega
      rw [Tree.value, hplain]
  | @tuple xs _ ih =>
    rw [tree, trees_eq, Tree.value, values_trees ih]
    rfl
  | @list xs _ ih =>
    rw [tree, trees_eq, Tree.value, values_trees ih]
    rfl
  | @dict es _ _ hkeyed ihkeys ihvalues =>
    rw [tree, treeEntries_eq, Tree.value, dictEntries_trees [] ihkeys ihvalues hkeyed]
    rfl

/-- **What is printed is read back** as the same value. -/
theorem Rereadable.read_literal {v : Value} (h : v.Rereadable) : Literal.read v.literal = .ok v := by
  have hparsed := h.parses.expression (8 * v.words.length + 8) [] ends_nil (by simp)
  have htree : Tree.ofTokens? v.words = some v.tree := by
    rw [List.append_nil] at hparsed
    unfold Tree.ofTokens?
    simp [hparsed]
  rw [Literal.read, h.scan_literal, Option.bind_some, htree]
  simp only [h.value_tree]

end Value

end Lineage
