import Mathlib
import Lineage.World

/-!
# Action — running computations step by step

An action run in a world gives a result or a failure, and the world afterwards; so does every computation on a state.
The equations below run the parts that actions are made of; `bind_eq_ok` takes a successful run apart again. `wp_iff`
says what a triple means of a run.
-/

set_option autoImplicit false

open Std.Do

namespace Lineage.Action

/-- A computation on a state, which keeps its changes when it fails. -/
abbrev Stateful (σ : Type) := ExceptT Failure (StateM σ)

variable {σ α β : Type}

@[simp] theorem run_pure (x : α) (w : σ) : (pure x : Stateful σ α).run w = (.ok x, w) := rfl

@[simp] theorem run_get (w : σ) : (get : Stateful σ σ).run w = (.ok w, w) := rfl

@[simp] theorem run_set (w w' : σ) : (set w' : Stateful σ Unit).run w = (.ok (), w') := rfl

@[simp] theorem run_modify (f : σ → σ) (w : σ) : (modify f : Stateful σ Unit).run w = (.ok (), f w) := rfl

@[simp] theorem run_throw (e : Failure) (w : σ) : (throw e : Stateful σ α).run w = (.error e, w) := rfl

@[simp] theorem run_lift_ok (x : α) (w : σ) : (liftM (Except.ok x : Except Failure α) : Stateful σ α).run w = (.ok x, w) :=
  rfl

@[simp] theorem run_lift_error (e : Failure) (w : σ) :
    (liftM (Except.error e : Except Failure α) : Stateful σ α).run w = (.error e, w) :=
  rfl

/-- What comes second runs in the world that the first part leaves, unless that fails. -/
theorem run_bind (a : Stateful σ α) (f : α → Stateful σ β) (w : σ) :
    (a >>= f).run w = match a.run w with
      | (.ok x, w₁) => (f x).run w₁
      | (.error e, w₁) => (.error e, w₁) := by
  show (ExceptT.bindCont f (a.run w).1) (a.run w).2 = _
  cases a.run w with
  | mk r w₁ => cases r <;> rfl

theorem run_bind_of_ok {a : Stateful σ α} {f : α → Stateful σ β} {w w₁ : σ} {x : α}
    (h : a.run w = (.ok x, w₁)) : (a >>= f).run w = (f x).run w₁ := by
  rw [run_bind, h]

theorem run_bind_of_error {a : Stateful σ α} {f : α → Stateful σ β} {w w₁ : σ} {e : Failure}
    (h : a.run w = (.error e, w₁)) : (a >>= f).run w = (.error e, w₁) := by
  rw [run_bind, h]

@[simp] theorem run_map (f : α → β) (a : Stateful σ α) (w : σ) :
    (f <$> a).run w = ((a.run w).1.map f, (a.run w).2) := by
  rw [map_eq_pure_bind, run_bind]
  cases a.run w with
  | mk r w₁ => cases r <;> rfl

/-- What comes last may only give a result. -/
theorem run_bind_pure (a : Stateful σ α) (f : α → β) (w : σ) :
    (a >>= fun x => pure (f x)).run w = ((a.run w).1.map f, (a.run w).2) := by
  rw [← map_eq_pure_bind, run_map]

/-- A failure is handled in the world that it leaves. -/
theorem run_tryCatch (a : Stateful σ α) (f : Failure → Stateful σ α) (w : σ) :
    (tryCatch a f).run w = match a.run w with
      | (.ok x, w₁) => (.ok x, w₁)
      | (.error e, w₁) => (f e).run w₁ := by
  simp only [tryCatch, tryCatchThe, MonadExceptOf.tryCatch, ExceptT.tryCatch, ExceptT.run, ExceptT.mk]
  show StateT.bind a _ w = _
  unfold StateT.bind
  show (match a w with | (r, w₁) => _) = _
  cases a w with
  | mk r w₁ => cases r <;> rfl

/-- A sequence succeeds when both of its parts do. -/
theorem bind_eq_ok {a : Stateful σ α} {f : α → Stateful σ β} {w w' : σ} {y : β} :
    (a >>= f).run w = (.ok y, w') ↔ ∃ x w₁, a.run w = (.ok x, w₁) ∧ (f x).run w₁ = (.ok y, w') := by
  rw [run_bind]
  constructor
  · intro h
    cases ha : a.run w with
    | mk r w₁ =>
      cases r with
      | ok x =>
        rw [ha] at h
        exact ⟨x, w₁, rfl, h⟩
      | error e =>
        rw [ha] at h
        cases h
  · rintro ⟨x, w₁, ha, hf⟩
    rw [ha]
    exact hf

/-- A sequence fails when its first part does, or its second after the first. -/
theorem bind_eq_error {a : Stateful σ α} {f : α → Stateful σ β} {w w' : σ} {e : Failure} :
    (a >>= f).run w = (.error e, w') ↔
      a.run w = (.error e, w') ∨ ∃ x w₁, a.run w = (.ok x, w₁) ∧ (f x).run w₁ = (.error e, w') := by
  rw [run_bind]
  constructor
  · intro h
    cases ha : a.run w with
    | mk r w₁ =>
      rw [ha] at h
      cases r with
      | ok x => exact .inr ⟨x, w₁, rfl, h⟩
      | error f =>
        cases h
        exact .inl rfl
  · rintro (ha | ⟨x, w₁, ha, hf⟩)
    · rw [ha]
    · rw [ha]
      exact hf

/-- A result that does not depend on what came before. -/
theorem eq_of_map_const {r : Except Failure α} {x y : β} (h : r.map (fun _ => y) = .ok x) : x = y := by
  cases r with
  | error e => cases h
  | ok a => exact (Except.ok.inj h).symm

/-- A result that is made from another one. -/
theorem map_eq_ok {ε : Type} {r : Except ε α} {f : α → β} {y : β} (h : r.map f = .ok y) : ∃ x, r = .ok x ∧ f x = y := by
  cases r with
  | error e => cases h
  | ok x => exact ⟨x, rfl, Except.ok.inj h⟩

/-- A result can be told from its value alone. -/
theorem eq_ok_of_toOption {r : Except Failure α} {x : α} (h : r.toOption = some x) : r = .ok x := by
  cases r with
  | error e => cases h
  | ok y => exact congrArg _ (Option.some.inj h)

/-- What a triple says of an action is said of its run. -/
theorem wp_iff {σ : Type} (a : ExceptT Failure (StateM σ) α) (Q : PostCond α (.except Failure (.arg σ .pure))) (w : σ) :
    (wp⟦a⟧ Q w).down ↔ match a.run w with
      | (.ok x, w') => (Q.1 x w').down
      | (.error e, w') => (Q.2.1 e w').down := by
  obtain ⟨t, ht⟩ : ∃ t, (StateT.run a.run w).run = t := ⟨_, rfl⟩
  have hrun : a.run w = t := ht
  simp only [wp, PredTrans.apply_pushExcept, PredTrans.apply_pushArg, PredTrans.apply_Pure_pure, ht, hrun]
  obtain ⟨_ | _, _⟩ := t <;> exact Iff.rfl

end Lineage.Action
