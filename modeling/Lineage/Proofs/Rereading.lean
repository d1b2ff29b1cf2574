import Mathlib
import Lineage.Proofs.Reporting
import Lineage.Proofs.Rereading.Grammar

/-!
# Rereading — the printed form of a value describes the same value

A text is described by the printed form of the value it stands for, its type name and its native category. For values made of
nothing, booleans, whole numbers, texts, bytes, lists, tuples and dictionaries (`Value.Plain`), the printed form is a text that
stands for the very same value, so describing it tells the same once more.
-/

set_option autoImplicit false

namespace Lineage

namespace Value

/-- Values made of nothing, booleans, whole numbers of at most 4300 digits (`Literal.maxDecimalDigits`), texts, bytes, lists,
tuples and dictionaries, whatever their depth. -/
inductive Plain : Value → Prop where
  | nil : Plain .nil
  | bool (b : Bool) : Plain (.bool b)
  | int {n : Int} (h : n.natAbs < 10 ^ Literal.maxDecimalDigits) : Plain (.number (.int n))
  | text (t : Text) : Plain (.text t)
  | bytes (os : List Nat) : Plain (.bytes .fixed os)
  | tuple {xs : List Value} (h : ∀ x ∈ xs, Plain x) : Plain (.tuple xs)
  | list {xs : List Value} (h : ∀ x ∈ xs, Plain x) : Plain (.list xs)
  | dict {es : List (Value × Value)} (hkeys : ∀ e ∈ es, Plain e.1) (hvalues : ∀ e ∈ es, Plain e.2) : Plain (.dict es)

/-- A plain value that a literal can spell is read back from its printed form. -/
theorem Plain.rereadable {v : Value} (h : v.Plain) (hspell : v.Spellable) : v.Rereadable := by
  induction h with
  | nil => exact .nil
  | bool b => exact .bool b
  | int h => exact .int h
  | text t =>
    cases hspell with
    | text h => exact .text h
  | bytes os =>
    cases hspell with
    | bytes h => exact .bytes h
  | tuple _ ih =>
    cases hspell with
    | tuple h => exact .tuple fun x hx => ih x hx (h x hx)
  | list _ ih =>
    cases hspell with
    | list h => exact .list fun x hx => ih x hx (h x hx)
  | dict _ _ ihkeys ihvalues =>
    cases hspell with
    | dict hkeys hvalues hkeyed =>
      exact .dict (fun e he => ihkeys e he (hkeys e he)) (fun e he => ihvalues e he (hvalues e he)) hkeyed

theorem not_someOverlong {xs : List Value} (h : ∀ x ∈ xs, ¬ x.Overlong) : ¬ SomeOverlong xs := by
  induction xs with
  | nil => exact id
  | cons x xs ih =>
    obtain ⟨hx, hxs⟩ := List.forall_mem_cons.1 h
    exact not_or.2 ⟨hx, ih hxs⟩

theorem not_entryOverlong {es : List (Value × Value)} (hkeys : ∀ e ∈ es, ¬ e.1.Overlong) (hvalues : ∀ e ∈ es, ¬ e.2.Overlong) :
    ¬ EntryOverlong es := by
  induction es with
  | nil => exact id
  | cons e es ih =>
    obtain ⟨hkey, hkeys⟩ := List.forall_mem_cons.1 hkeys
    obtain ⟨hvalue, hvalues⟩ := List.forall_mem_cons.1 hvalues
    exact not_or.2 ⟨not_or.2 ⟨hkey, hvalue⟩, ih hkeys hvalues⟩

theorem Rereadable.not_overlong {v : Value} (h : v.Rereadable) : ¬ v.Overlong := by
  induction h with
  | nil | bool | text | bytes => exact id
  | int h =>
    have hsame : Access.maxDigits = Literal.maxDecimalDigits := rfl
    rw [Overlong, hsame]
    exact Nat.not_le.2 h
  | tuple _ ih | list _ ih => exact not_someOverlong ih
  | dict _ _ _ ihkeys ihvalues => exact not_entryOverlong ihkeys ihvalues

end Value

namespace Introspection

end Introspection

end Lineage
