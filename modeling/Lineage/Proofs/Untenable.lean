import Mathlib
import Lineage.Literal
import Lineage.Proofs.Data

/-!
# Untenable — literals that cannot be built, and data that cannot be printed

A text that has the shape of a literal stands for the data it describes, and any other text for itself; but some literals
describe data that there cannot be. `Breaks` says which and with what failure: the first part, from left to right, that is the
item of a set or the key of a dictionary and cannot be one, or a whole number too large for the complex number it is part of.
`read_eq_error_iff` says that reading fails for these and for no others. Data that can be built may still be too long to print
(`Overlong`): `printed_eq_error_iff` says that this is so exactly when a whole number in it has more than 4300 digits.
-/

set_option autoImplicit false

namespace Lineage

namespace Literal.Tree

/-! ## The first failure of a sequence -/

section FirstError

variable {α β ε : Type} {step : α → Except ε β} {xs : List α} {r : ε}

/-- The failure of the first item for which a step fails. -/
def firstError? (step : α → Except ε β) : List α → Option ε
  | [] => none
  | x :: xs => match step x with
    | .ok _ => firstError? step xs
    | .error e => some e

/-- The failure of a step, if it fails. -/
def failure? : Except ε β → Option ε
  | .ok _ => none
  | .error e => some e

theorem failure?_eq_none_iff {x : Except ε β} : failure? x = none ↔ ∃ b, x = .ok b := by
  cases x with
  | ok b => exact ⟨fun _ => ⟨b, rfl⟩, fun _ => rfl⟩
  | error e => exact ⟨fun h => (nomatch h), fun ⟨_, h⟩ => nomatch h⟩

theorem failure?_eq_some_iff {x : Except ε β} : failure? x = some r ↔ x = .error r := by
  cases x with
  | ok b => exact ⟨fun h => (nomatch h), fun h => nomatch h⟩
  | error e => exact ⟨fun h => congrArg Except.error (Option.some.inj h), fun h => congrArg some (Except.error.inj h)⟩

theorem firstError?_eq_findSome? : firstError? step xs = xs.findSome? fun x => failure? (step x) := by
  induction xs with
  | nil => rfl
  | cons x xs ih =>
    rw [firstError?, List.findSome?_cons, ih]
    cases step x <;> rfl

theorem firstError?_eq_some_iff : firstError? step xs = some r ↔
    ∃ before x after, xs = before ++ x :: after ∧ (∀ y ∈ before, ∃ b, step y = .ok b) ∧ step x = .error r := by
  rw [firstError?_eq_findSome?, List.findSome?_eq_some_iff]
  simp only [failure?_eq_none_iff, failure?_eq_some_iff]
  exact exists₃_congr fun _ _ _ => and_congr_right fun _ => and_comm

/-- A run that puts in the result of one step after the other fails with the first failure. -/
theorem run_eq_error_iff {σ τ : Type} {run : σ → List α → Except ε τ} {put : σ → β → σ} (hnil : ∀ s, ∃ y, run s [] = .ok y)
    (hcons : ∀ s x xs, run s (x :: xs) = (step x).bind fun y => run (put s y) xs) {s : σ} :
    run s xs = .error r ↔ firstError? step xs = some r := by
  induction xs generalizing s with
  | nil =>
    obtain ⟨y, hy⟩ := hnil s
    rw [hy, firstError?]
    exact ⟨fun h => (nomatch h), fun h => (nomatch h)⟩
  | cons x xs ih =>
    rw [hcons, firstError?]
    cases step x with
    | error e => exact ⟨fun h => congrArg some (Except.error.inj h), fun h => congrArg Except.error (Option.some.inj h)⟩
    | ok y => exact ih

end FirstError

/-! ## Parts of containers -/

/-- The value of a tree as the item of a set. -/
def itemValue (t : Tree) : Except Refusal Value := do
  let v ← value t
  checkKey v
  return v

/-- The values of a key and what stands under it. -/
def entryValue (p : Tree × Tree) : Except Refusal (Value × Value) := do
  let k ← value p.1
  let v ← value p.2
  checkKey k
  return (k, v)

variable {r : Refusal}

theorem values_eq_error_iff {ts : List Tree} : values ts = .error r ↔ firstError? value ts = some r := by
  induction ts with
  | nil => exact ⟨fun h => (nomatch h), fun h => (nomatch h)⟩
  | cons t ts ih =>
    rw [values, firstError?]
    cases value t with
    | error e => exact ⟨fun h => congrArg some (Except.error.inj h), fun h => congrArg Except.error (Option.some.inj h)⟩
    | ok v =>
      dsimp only
      rw [← ih]
      cases values ts with
      | error e => exact Iff.rfl
      | ok vs => exact ⟨fun h => (nomatch h), fun h => (nomatch h)⟩

theorem setItems_cons (sofar : List Value) (t : Tree) (ts : List Tree) :
    setItems sofar (t :: ts) = (itemValue t).bind fun v => setItems (insertItem sofar v) ts := by
  rw [setItems, itemValue]
  cases value t with
  | error e => rfl
  | ok v =>
    show (checkKey v).bind _ = ((checkKey v).bind _).bind _
    cases checkKey v <;> rfl

theorem setItems_eq_error_iff {ts : List Tree} {sofar : List Value} :
    setItems sofar ts = .error r ↔ firstError? itemValue ts = some r :=
  run_eq_error_iff (fun xs => ⟨xs, rfl⟩) setItems_cons

theorem dictEntries_cons (sofar : List (Value × Value)) (p : Tree × Tree) (es : List (Tree × Tree)) :
    dictEntries sofar (p :: es) = (entryValue p).bind fun e => dictEntries (insertEntry sofar e.1 e.2) es := by
  rw [dictEntries, entryValue]
  cases value p.1 with
  | error e => rfl
  | ok k =>
    cases value p.2 with
    | error e => rfl
    | ok v =>
      show (checkKey k).bind _ = ((checkKey k).bind _).bind _
      cases checkKey k <;> rfl

theorem dictEntries_eq_error_iff {es : List (Tree × Tree)} {sofar : List (Value × Value)} :
    dictEntries sofar es = .error r ↔ firstError? entryValue es = some r :=
  run_eq_error_iff (fun es => ⟨es, rfl⟩) dictEntries_cons

theorem checkKey_eq_error_iff {v : Value} :
    checkKey v = .error r ↔ ∃ c, v.unhashable? = some c ∧ r = .failed (.unhashable c) := by
  unfold checkKey
  cases v.unhashable? with
  | none => exact ⟨fun h => (nomatch h), fun ⟨_, h, _⟩ => (nomatch h)⟩
  | some c =>
    constructor
    · exact fun h => ⟨c, rfl, (Except.error.inj h).symm⟩
    · rintro ⟨_, h, rfl⟩
      cases h
      rfl

theorem map_eq_error_iff {α β : Type} {x : Except Refusal α} {f : α → β} : x.map f = .error r ↔ x = .error r := by
  cases x with
  | error e => exact ⟨fun h => congrArg _ (Except.error.inj h), fun h => congrArg _ (Except.error.inj h)⟩
  | ok a => exact ⟨fun h => (nomatch h), fun h => (nomatch h)⟩

theorem itemValue_eq_error_iff {t : Tree} : itemValue t = .error r ↔
    value t = .error r ∨ ∃ v c, value t = .ok v ∧ v.unhashable? = some c ∧ r = .failed (.unhashable c) := by
  unfold itemValue
  cases value t with
  | error e =>
    constructor
    · exact .inl
    · rintro (h | ⟨_, _, hv, -⟩)
      · exact h
      · cases hv
  | ok v =>
    show (checkKey v).map (fun _ => v) = .error r ↔ _
    rw [map_eq_error_iff, checkKey_eq_error_iff]
    constructor
    · rintro ⟨c, hc, hr⟩
      exact .inr ⟨v, c, rfl, hc, hr⟩
    · rintro (h | ⟨_, c, hv, hc, hr⟩)
      · cases h
      · cases hv
        exact ⟨c, hc, hr⟩

theorem entryValue_eq_error_iff {p : Tree × Tree} : entryValue p = .error r ↔
    value p.1 = .error r ∨ (∃ k, value p.1 = .ok k) ∧ value p.2 = .error r ∨
      (∃ v, value p.2 = .ok v) ∧ ∃ k c, value p.1 = .ok k ∧ k.unhashable? = some c ∧ r = .failed (.unhashable c) := by
  unfold entryValue
  cases value p.1 with
  | error e =>
    constructor
    · exact fun h => .inl (congrArg _ (Except.error.inj h))
    · rintro (h | ⟨⟨_, hk⟩, -⟩ | ⟨-, _, _, hk, -⟩)
      · exact congrArg _ (Except.error.inj h)
      · cases hk
      · cases hk
  | ok k =>
    cases value p.2 with
    | error e =>
      constructor
      · exact fun h => .inr (.inl ⟨⟨k, rfl⟩, congrArg _ (Except.error.inj h)⟩)
      · rintro (h | ⟨-, h⟩ | ⟨⟨_, hv⟩, -⟩)
        · cases h
        · exact congrArg _ (Except.error.inj h)
        · cases hv
    | ok v =>
      show (checkKey k).map (fun _ => (k, v)) = .error r ↔ _
      rw [map_eq_error_iff, checkKey_eq_error_iff]
      constructor
      · rintro ⟨c, hc, hr⟩
        exact .inr (.inr ⟨⟨v, rfl⟩, k, c, rfl, hc, hr⟩)
      · rintro (h | ⟨-, h⟩ | ⟨-, _, c, hk, hc, hr⟩)
        · cases h
        · cases h
        · cases hk
          exact ⟨c, hc, hr⟩

/-! ## Trees that break -/

/-- **A tree breaks** with the failure of the first part that there cannot be. What stands before it can be built, and what
stands behind it does not matter. -/
inductive Breaks : Tree → Failure → Prop where
  /-- A whole number plus or minus an imaginary one, too large for a double. -/
  | sum {a : Tree} {minus : Bool} {re im : Binary64} {n : Int} (ha : signedNumber? a = some (.int n))
      (hn : Binary64.ofInt? n = none) :
      Breaks (.sum a minus (.number (.complex re im))) (.misuse .overflow "int too large to convert to float")
  | tuple {before after : List Tree} {t : Tree} {e : Failure} (hbefore : ∀ x ∈ before, ∃ v, value x = .ok v)
      (h : Breaks t e) : Breaks (.tuple (before ++ t :: after)) e
  | list {before after : List Tree} {t : Tree} {e : Failure} (hbefore : ∀ x ∈ before, ∃ v, value x = .ok v)
      (h : Breaks t e) : Breaks (.list (before ++ t :: after)) e
  | item {before after : List Tree} {t : Tree} {e : Failure} (hbefore : ∀ x ∈ before, ∃ v, itemValue x = .ok v)
      (h : Breaks t e) : Breaks (.set (before ++ t :: after)) e
  /-- An item that cannot be looked up. -/
  | unhashableItem {before after : List Tree} {t : Tree} {v : Value} {c : String}
      (hbefore : ∀ x ∈ before, ∃ v, itemValue x = .ok v) (ht : value t = .ok v) (hc : v.unhashable? = some c) :
      Breaks (.set (before ++ t :: after)) (.unhashable c)
  | key {before after : List (Tree × Tree)} {k v : Tree} {e : Failure}
      (hbefore : ∀ p ∈ before, ∃ e, entryValue p = .ok e) (h : Breaks k e) : Breaks (.dict (before ++ (k, v) :: after)) e
  | under {before after : List (Tree × Tree)} {k v : Tree} {x : Value} {e : Failure}
      (hbefore : ∀ p ∈ before, ∃ e, entryValue p = .ok e) (hk : value k = .ok x) (h : Breaks v e) :
      Breaks (.dict (before ++ (k, v) :: after)) e
  /-- A key that cannot be looked up. It is looked up when what stands under it has been built. -/
  | unhashableKey {before after : List (Tree × Tree)} {k v : Tree} {x y : Value} {c : String}
      (hbefore : ∀ p ∈ before, ∃ e, entryValue p = .ok e) (hk : value k = .ok x) (hv : value v = .ok y)
      (hc : x.unhashable? = some c) : Breaks (.dict (before ++ (k, v) :: after)) (.unhashable c)

/-- What breaks has no value. -/
theorem Breaks.value_eq {t : Tree} {e : Failure} (h : Breaks t e) : value t = .error (.failed e) := by
  induction h with
  | sum ha hn => simp only [value, ha, Option.bind_some, realPart?, hn]
  | tuple hbefore _ ih | list hbefore _ ih =>
    rw [value, map_eq_error_iff, values_eq_error_iff, firstError?_eq_some_iff]
    exact ⟨_, _, _, rfl, hbefore, ih⟩
  | item hbefore _ ih =>
    rw [value, map_eq_error_iff, setItems_eq_error_iff, firstError?_eq_some_iff]
    exact ⟨_, _, _, rfl, hbefore, itemValue_eq_error_iff.2 (.inl ih)⟩
  | unhashableItem hbefore ht hc =>
    rw [value, map_eq_error_iff, setItems_eq_error_iff, firstError?_eq_some_iff]
    exact ⟨_, _, _, rfl, hbefore, itemValue_eq_error_iff.2 (.inr ⟨_, _, ht, hc, rfl⟩)⟩
  | key hbefore _ ih =>
    rw [value, map_eq_error_iff, dictEntries_eq_error_iff, firstError?_eq_some_iff]
    exact ⟨_, _, _, rfl, hbefore, entryValue_eq_error_iff.2 (.inl ih)⟩
  | under hbefore hk _ ih =>
    rw [value, map_eq_error_iff, dictEntries_eq_error_iff, firstError?_eq_some_iff]
    exact ⟨_, _, _, rfl, hbefore, entryValue_eq_error_iff.2 (.inr (.inl ⟨⟨_, hk⟩, ih⟩))⟩
  | unhashableKey hbefore hk hv hc =>
    rw [value, map_eq_error_iff, dictEntries_eq_error_iff, firstError?_eq_some_iff]
    exact ⟨_, _, _, rfl, hbefore, entryValue_eq_error_iff.2 (.inr (.inr ⟨⟨_, hv⟩, _, _, hk, hc, rfl⟩))⟩

theorem breaks_of_sum {a b : Tree} {minus : Bool} {e : Failure} (h : value (.sum a minus b) = .error (.failed e)) :
    Breaks (.sum a minus b) e := by
  unfold value at h
  split at h
  · cases h
  · next e' _ _ ha =>
    cases h
    obtain ⟨n, hn, hreal⟩ := Option.bind_eq_some_iff.1 ha
    unfold realPart? at hreal
    split at hreal
    · next k =>
      cases hk : Binary64.ofInt? k with
      | some x =>
        rw [hk] at hreal
        cases hreal
      | none =>
        rw [hk] at hreal
        cases hreal
        exact .sum hn hk
    · cases hreal
    · cases hreal
  · cases h

theorem sizeOf_lt_append {α : Type} [SizeOf α] (before : List α) (x : α) (after : List α) :
    sizeOf x < sizeOf (before ++ x :: after) :=
  List.sizeOf_lt_of_mem (List.mem_append_right before List.mem_cons_self)

/-- **What fails to be built breaks.** The recursion is on the part that breaks. -/
theorem breaks_of_value {t : Tree} {e : Failure} (h : value t = .error (.failed e)) : Breaks t e := by
  match t with
  | .number _ | .data _ | .name _ | .emptySet => cases h
  | .signed _ | .negated _ =>
    unfold value at h
    split at h <;> cases h
  | .sum a minus b => exact breaks_of_sum h
  | .tuple ts =>
    obtain ⟨before, x, after, rfl, hbefore, hx⟩ :=
      firstError?_eq_some_iff.1 (values_eq_error_iff.1 (map_eq_error_iff.1 h))
    exact .tuple hbefore (breaks_of_value hx)
  | .list ts =>
    obtain ⟨before, x, after, rfl, hbefore, hx⟩ :=
      firstError?_eq_some_iff.1 (values_eq_error_iff.1 (map_eq_error_iff.1 h))
    exact .list hbefore (breaks_of_value hx)
  | .set ts =>
    obtain ⟨before, x, after, rfl, hbefore, hx⟩ :=
      firstError?_eq_some_iff.1 (setItems_eq_error_iff.1 (map_eq_error_iff.1 h))
    rcases itemValue_eq_error_iff.1 hx with hx | ⟨v, c, hv, hc, heq⟩
    · exact .item hbefore (breaks_of_value hx)
    · cases heq
      exact .unhashableItem hbefore hv hc
  | .dict es =>
    obtain ⟨before, ⟨k, v⟩, after, rfl, hbefore, hp⟩ :=
      firstError?_eq_some_iff.1 (dictEntries_eq_error_iff.1 (map_eq_error_iff.1 h))
    rcases entryValue_eq_error_iff.1 hp with hk | ⟨⟨x, hk⟩, hv⟩ | ⟨⟨y, hv⟩, x, c, hk, hc, heq⟩
    · exact .key hbefore (breaks_of_value hk)
    · exact .under hbefore hk (breaks_of_value hv)
    · cases heq
      exact .unhashableKey hbefore hk hv hc
termination_by sizeOf t
decreasing_by
  all_goals
    subst_vars
    first
    | have := sizeOf_lt_append before x after
      simp only [tuple.sizeOf_spec, list.sizeOf_spec, set.sizeOf_spec]
      omega
    | have := sizeOf_lt_append before (k, v) after
      simp only [dict.sizeOf_spec, Prod.mk.sizeOf_spec] at this ⊢
      omega

theorem breaks_iff {t : Tree} {e : Failure} : value t = .error (.failed e) ↔ Breaks t e :=
  ⟨breaks_of_value, Breaks.value_eq⟩

/-- **There are two reasons to break:** something stands where it cannot be looked up, or a number is too large. -/
theorem Breaks.cause {t : Tree} {e : Failure} (h : Breaks t e) :
    (∃ c, e = .unhashable c) ∨ e = .misuse .overflow "int too large to convert to float" := by
  induction h with
  | sum => exact .inr rfl
  | unhashableItem | unhashableKey => exact .inl ⟨_, rfl⟩
  | tuple _ _ ih | list _ _ ih | item _ _ ih | key _ _ ih | under _ _ _ ih => exact ih

end Literal.Tree

namespace Literal

/-- **A text cannot be built:** it has the shape of a literal, and what it describes breaks. -/
def Unbuildable (s : String) (e : Failure) : Prop := ∃ t, (Token.scan s).bind Tree.ofTokens? = some t ∧ t.Breaks e

/-- **Every other text stands for a value.** -/
theorem read_eq_error_iff {s : String} {e : Failure} : read s = .error e ↔ Unbuildable s e := by
  unfold read Unbuildable
  cases (Token.scan s).bind Tree.ofTokens? with
  | none => exact ⟨fun h => (nomatch h), fun ⟨_, h, _⟩ => (nomatch h)⟩
  | some t =>
    simp only [Option.some.injEq, exists_eq_left', ← Tree.breaks_iff]
    cases t.value with
    | ok v => exact ⟨fun h => (nomatch h), fun h => (nomatch h)⟩
    | error r =>
      cases r with
      | notLiteral => exact ⟨fun h => (nomatch h), fun h => (nomatch h)⟩
      | failed f => simp only [Except.error.injEq, Tree.Refusal.failed.injEq]

/-- What keeps a text from being built is no complaint about its value. -/
theorem Unbuildable.isA_value {s : String} {e : Failure} (h : Unbuildable s e) : e.kind.isA .value = false := by
  obtain ⟨t, -, ht⟩ := h
  rcases ht.cause with ⟨c, rfl⟩ | rfl <;> rfl

end Literal

namespace Access

theorem two_pow_le_ten_pow {k : Nat} (hk : 4 ≤ k) : 2 ^ (k * 3 + 1) ≤ 10 ^ k := by
  induction k, hk using Nat.le_induction with
  | base => decide
  | succ k _ ih =>
    rw [Nat.add_mul, Nat.add_right_comm, Nat.pow_add, Nat.pow_succ]
    exact Nat.mul_le_mul ih (by decide)

/-- A number with many decimal digits has three times as many binary ones. -/
theorem lt_log2_of_ten_pow_le {k m : Nat} (hk : 4 ≤ k) (hm : 10 ^ k ≤ m) : k * 3 < m.log2 := by
  have hpow : 2 ^ (k * 3 + 1) ≤ m := Nat.le_trans (two_pow_le_ten_pow hk) hm
  exact (Nat.le_log2 (Nat.ne_of_gt (Nat.lt_of_lt_of_le (Nat.two_pow_pos _) hpow))).2 hpow

/-- A whole number is too long when it has more than 4300 digits. Its binary digits, which are counted first, decide nothing. -/
theorem isTooLong_iff {n : Int} : isTooLong (.number (.int n)) = true ↔ 10 ^ maxDigits ≤ n.natAbs := by
  have hlength : maxDigits < (toString n.natAbs).length ↔ 10 ^ maxDigits ≤ n.natAbs := by
    rw [Nat.toString_eq_ofList_toDigits, String.length_ofList, ← Nat.not_le,
      Nat.length_toDigits_le_iff (by decide) (by decide), Nat.not_lt]
  simp only [isTooLong, Bool.and_eq_true, decide_eq_true_eq, hlength, and_iff_right_iff_imp]
  exact lt_log2_of_ten_pow_le (by decide)

end Access

namespace Value

/-! ## What is too long to print -/

mutual

/-- **A value is too long to print** when a whole number that is a part of it has more than 4300 digits. -/
def Overlong (v : Value) : Prop :=
  match v with
  | number (.int n) => 10 ^ Access.maxDigits ≤ n.natAbs
  | tuple xs | list xs | set _ xs => SomeOverlong xs
  | dict es | enum _ _ es => EntryOverlong es
  | _ => False
termination_by structural v

/-- An item of a sequence is too long. -/
def SomeOverlong (xs : List Value) : Prop :=
  match xs with
  | [] => False
  | x :: xs => Overlong x ∨ SomeOverlong xs
termination_by structural xs

/-- A key or what stands under it is too long. -/
def EntryOverlong (es : List (Value × Value)) : Prop :=
  match es with
  | [] => False
  | (k, v) :: es => (Overlong k ∨ Overlong v) ∨ EntryOverlong es
termination_by structural es

end

/-- **How a form is printed:** not at all when something in it is too long. -/
inductive Printing {α : Type} (long : Prop) (form : α) : Except Failure α → Prop where
  | tooLong (h : long) : Printing long form (.error .digitLimit)
  | printed (h : ¬ long) : Printing long form (.ok form)

section Printing

variable {α β γ : Type} {p q : Prop} {a : α} {b : β} {x : Except Failure α} {y : Except Failure β}

theorem Printing.map (h : Printing p a x) (f : α → β) : Printing p (f a) (do return f (← x)) := by
  cases h with
  | tooLong h => exact .tooLong h
  | printed h => exact .printed h

theorem Printing.both (hx : Printing p a x) (hy : Printing q b y) (f : α → β → γ) :
    Printing (p ∨ q) (f a b) (do return f (← x) (← y)) := by
  cases hx with
  | tooLong hp => exact .tooLong (.inl hp)
  | printed hp =>
    cases hy with
    | tooLong hq => exact .tooLong (.inr hq)
    | printed hq => exact .printed (not_or.2 ⟨hp, hq⟩)

theorem Printing.eq_error_iff {e : Failure} (h : Printing p a x) : x = .error e ↔ p ∧ e = .digitLimit := by
  cases h with
  | tooLong h => exact ⟨fun heq => ⟨h, (Except.error.inj heq).symm⟩, fun ⟨_, he⟩ => he ▸ rfl⟩
  | printed h => exact ⟨fun heq => (nomatch heq), fun ⟨hp, _⟩ => absurd hp h⟩

theorem Printing.eq_ok (h : Printing p a x) (hp : ¬ p) : x = .ok a := by
  cases h with
  | tooLong h => exact absurd h hp
  | printed => rfl

theorem isTooLong_iff_overlong (n : Number) : Access.isTooLong (.number n) = true ↔ (number n).Overlong := by
  cases n with
  | int n => exact Access.isTooLong_iff
  | float | decimal | fraction | complex => exact ⟨fun h => (nomatch h), False.elim⟩

/-- A number that is not too long has the form asked for. -/
theorem printing_number (n : Number) (form : α) : Printing (number n).Overlong form
    (if Access.isTooLong (number n) then .error .digitLimit else .ok form) := by
  split
  · next h => exact .tooLong ((isTooLong_iff_overlong n).1 h)
  · next h => exact .printed (mt (isTooLong_iff_overlong n).2 h)

end Printing

mutual

theorem printing_render (v : Value) :
    Printing v.Overlong (Id.run (render (fun v => pure v.leafText) v)) (render printedLeaf v) := by
  cases v with
  | tuple xs => exact (printing_renderAll xs).map tupleText
  | list xs => exact (printing_renderAll xs).map fun ts => "[" ++ commaSeparated ts ++ "]"
  | set frozen xs => exact (printing_renderAll xs).map (setText frozen)
  | dict es => exact (printing_renderEntries es).map dictText
  | enum id name es => exact (printing_renderEntries es).map (enumText name)
  | number n => exact printing_number n n.text
  | _ => exact .printed id

theorem printing_renderAll (xs : List Value) :
    Printing (SomeOverlong xs) (Id.run (renderAll (fun v => pure v.leafText) xs)) (renderAll printedLeaf xs) := by
  match xs with
  | [] => exact .printed id
  | x :: xs => exact (printing_render x).both (printing_renderAll xs) List.cons

theorem printing_renderEntries (es : List (Value × Value)) :
    Printing (EntryOverlong es) (Id.run (renderEntries (fun v => pure v.leafText) es)) (renderEntries printedLeaf es) := by
  match es with
  | [] => exact .printed id
  | (k, v) :: es =>
    have hpair := (printing_render k).both (printing_render v) fun s t => s ++ ": " ++ t
    have hall := hpair.both (printing_renderEntries es) List.cons
    simp only [bind_assoc, pure_bind] at hall
    exact hall

end

/-- **Data is printed in its literal form,** unless a whole number in it is too long. -/
theorem printing (v : Value) : Printing v.Overlong v.literal v.printed := printing_render v

theorem printed_eq_error_iff {v : Value} {e : Failure} : v.printed = .error e ↔ v.Overlong ∧ e = .digitLimit :=
  (printing v).eq_error_iff

end Value

end Lineage
