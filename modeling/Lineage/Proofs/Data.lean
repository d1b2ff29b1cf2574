import Mathlib
import Lineage.Proofs.Matching

/-!
# Data — what literals stand for

A literal stands for data: constants, numbers, texts and bytes, and containers of data that nobody can change. Data has no
identity, so no world is needed to read or to print it, it is never asked for its type, and its type name is its native
category.
-/

set_option autoImplicit false

namespace Lineage

namespace Value

/-! ## Data -/

mutual

/-- Whether a value is data. Standard things count as data: they have no state and no type capabilities. -/
def IsData (v : Value) : Prop :=
  match v with
  | nil | bool _ | number _ | text _ | bytes _ _ | specimen _ => True
  | tuple xs | list xs | set _ xs => AllData xs
  | dict es => EntriesData es
  | _ => False
termination_by structural v

/-- Whether all items of a sequence are data. -/
def AllData (xs : List Value) : Prop :=
  match xs with
  | [] => True
  | x :: xs => IsData x ∧ AllData xs
termination_by structural xs

/-- Whether all keys and values of a dictionary are data. -/
def EntriesData (es : List (Value × Value)) : Prop :=
  match es with
  | [] => True
  | (k, v) :: es => (IsData k ∧ IsData v) ∧ EntriesData es
termination_by structural es

end

theorem allData_iff {xs : List Value} : AllData xs ↔ ∀ x ∈ xs, IsData x := by
  induction xs with
  | nil => exact ⟨fun _ x hx => (nomatch hx), fun _ => trivial⟩
  | cons x xs ih => rw [AllData, ih, List.forall_mem_cons]

theorem entriesData_iff {es : List (Value × Value)} : EntriesData es ↔ ∀ e ∈ es, IsData e.1 ∧ IsData e.2 := by
  induction es with
  | nil => exact ⟨fun _ e he => (nomatch he), fun _ => trivial⟩
  | cons e es ih => rw [EntriesData, ih, List.forall_mem_cons]

/-! ## Data needs no world -/

mutual

/-- Data has no shared parts. -/
theorem mapShared_of_isData {f : CellKind → Nat → Value} {v : Value} (h : v.IsData) : mapShared f v = v := by
  cases v with
  | tuple xs => rw [mapShared, mapSharedAll_of_allData h]
  | list xs => rw [mapShared, mapSharedAll_of_allData h]
  | set frozen xs => rw [mapShared, mapSharedAll_of_allData h]
  | dict es => rw [mapShared, mapSharedEntries_of_entriesData h]
  | nil | bool | number | text | bytes | specimen => rfl
  | _ => exact h.elim

theorem mapSharedAll_of_allData {f : CellKind → Nat → Value} {xs : List Value} (h : AllData xs) :
    mapSharedAll f xs = xs := by
  cases xs with
  | nil => rfl
  | cons x xs => rw [mapSharedAll, mapShared_of_isData h.1, mapSharedAll_of_allData h.2]

theorem mapSharedEntries_of_entriesData {f : CellKind → Nat → Value} {es : List (Value × Value)} (h : EntriesData es) :
    mapSharedEntries f es = es := by
  match es with
  | [] => rfl
  | (k, v) :: es =>
    rw [mapSharedEntries, mapShared_of_isData h.1.1, mapShared_of_isData h.1.2, mapSharedEntries_of_entriesData h.2]

end

/-- The literal form of data that is no container, unless it is a whole number too long to print. -/
def printedLeaf (v : Value) : Except Failure String :=
  if Access.isTooLong v then .error .digitLimit else .ok v.leafText

/-- The literal form of data. -/
def printed (v : Value) : Except Failure String := render printedLeaf v

end Value

open Value

theorem World.read_of_isData (w : World) {v : Value} (h : v.IsData) : w.read v = v := mapShared_of_isData h

namespace Access

variable {h : Handler} {w : World}

/-- What is printed of parts that need no world needs none. -/
theorem run_then {α β : Type} {a : Action α} {x : Except Failure α} (ha : a.run w = (x, w)) (f : α → β) :
    (do let y ← a; pure (f y) : Action β).run w = ((do let y ← x; pure (f y)), w) := by
  rw [Action.run_bind_pure, ha]
  cases x <;> rfl

mutual

/-- Data is printed without a world. -/
theorem run_render {v : Value} (hv : v.IsData) :
    (render (leafRepr h) v).run w = (render printedLeaf v, w) := by
  cases v with
  | tuple xs => exact run_then (run_renderAll hv) _
  | list xs => exact run_then (run_renderAll hv) _
  | set frozen xs => exact run_then (run_renderAll hv) _
  | dict es => exact run_then (run_renderEntries hv) _
  | number n =>
    simp only [render, leafRepr, printedLeaf, Action.run_bind, Action.run_get]
    split <;> rfl
  | nil | bool | text | bytes | specimen => rfl
  | _ => exact hv.elim

theorem run_renderAll {xs : List Value} (hxs : AllData xs) :
    (renderAll (leafRepr h) xs).run w = (renderAll printedLeaf xs, w) := by
  cases xs with
  | nil => rfl
  | cons x xs =>
    rw [renderAll, renderAll, Action.run_bind, run_render hxs.1]
    cases render printedLeaf x with
    | error e => rfl
    | ok t => exact run_then (run_renderAll hxs.2) (t :: ·)

theorem run_renderEntries {es : List (Value × Value)} (hes : EntriesData es) :
    (renderEntries (leafRepr h) es).run w = (renderEntries printedLeaf es, w) := by
  match es with
  | [] => rfl
  | (k, v) :: es =>
    rw [renderEntries, renderEntries, Action.run_bind, run_render hes.1.1]
    cases render printedLeaf k with
    | error e => rfl
    | ok s =>
      dsimp only
      rw [Action.run_bind, run_render hes.1.2]
      cases render printedLeaf v with
      | error e => rfl
      | ok t => exact run_then (run_renderEntries hes.2) ((s ++ ": " ++ t) :: ·)

end

/-- The literal form of data is the same in every world. -/
theorem run_repr_of_isData {v : Value} (hv : v.IsData) (w : World) : (repr v).run w = (v.printed, w) := by
  show (reprWith (handler (maxDepth - 1)) v).run w = _
  rw [reprWith, Action.run_bind_of_ok (Action.run_get w), w.read_of_isData hv]
  exact run_render hv

end Access

namespace Query

/-! ## Data is not asked -/

/-- Data has no type capabilities. -/
theorem lacks_of_isData {v : Value} (hv : v.IsData) (key : String) (w : World) : Lacks v key w w := by
  cases hcomp : v.isComposite with
  | false => exact .inl ⟨hcomp, rfl⟩
  | true =>
    refine .inr ⟨hcomp, .inr ⟨.noAttribute (.inst (Access.className w v)) key, ?_, rfl⟩⟩
    cases v with
    | nil | bool | number | text | bytes => cases hcomp
    | tuple | list | set | dict | specimen => rfl
    | _ => exact hv.elim

/-- The type name of data is its native category. -/
theorem run_typeName_of_isData {v : Value} (hv : v.IsData) (w : World) :
    (typeName v).run w = (.ok v.category.name, w) := by
  rw [typeName, Action.run_bind_of_ok (lacks_of_isData hv "type" w).run]
  rfl

end Query

end Lineage
