import Lineage.Proofs.Action
import Lineage.Proofs.Separation.Together

/-!
# Abreast — one computation in two worlds

A client does the same in two worlds that look alike to it. `Abreast c s w w' R a a'` says of two computations
that, run in such worlds, they match new things only, leave alone what is not matched (`Onward`), end in worlds that look
alike again, and give related results, or fail alike. Sequences run abreast when their parts do
(`Abreast.bind`), and this is all that is needed of a computation to follow it through both worlds.
-/

set_option autoImplicit false

namespace Lineage

/-- Results that are equal: they carry no numbers. -/
def Same {α : Type} (_ : Matching) (x y : α) : Prop := x = y

/-- Results that are alike, or fail alike. -/
inductive ResultLike {α : Type} (R : Matching → α → α → Prop) (t : Matching) :
    Except Failure α → Except Failure α → Prop where
  | ok {x y : α} (h : R t x y) : ResultLike R t (.ok x) (.ok y)
  | error {e e' : Failure} (h : FailureLike t e e') : ResultLike R t (.error e) (.error e')

/-- Results without numbers, or equal failures without values. -/
theorem ResultLike.same {α : Type} {t : Matching} (r : Except Failure α) (h : ∀ e, r = .error e → e.carried? = none) :
    ResultLike Same t r r := by
  cases r with
  | ok x => exact .ok rfl
  | error e => exact .error (.plain e (h e rfl))

theorem ResultLike.imp {α : Type} {R R' : Matching → α → α → Prop} {t t' : Matching} {r r' : Except Failure α}
    (h : ResultLike R t r r') (hle : t ≤ t') (hR : ∀ {x y}, R t x y → R' t' x y) : ResultLike R' t' r r' := by
  cases h with
  | ok h => exact .ok (hR h)
  | error h => exact .error (h.mono hle)

/-- **Two computations run abreast** for a client: run in two worlds that look alike to it, they do the same to both as far
as it can see, and give alike results. -/
def Abreast (c : Client) (s : Matching) (w w' : World) {α : Type} (R : Matching → α → α → Prop) (a a' : Action α) : Prop :=
  ∃ t, Onward c s w w' t (a.run w).2 (a'.run w').2 ∧ Together c t (a.run w).2 (a'.run w').2 ∧
    ResultLike R t (a.run w).1 (a'.run w').1

namespace Abreast

variable {c : Client} {s t : Matching} {w w' u u' : World} {α β : Type} {R R' : Matching → α → α → Prop}
  {S : Matching → β → β → Prop} {a a' : Action α} {f f' : α → Action β}

theorem pure (h : Together c s w w') {x x' : α} (hx : R s x x') : Abreast c s w w' R (pure x) (pure x') :=
  ⟨s, .refl c s w w', h, .ok hx⟩

theorem throw (h : Together c s w w') {e e' : Failure} (he : FailureLike s e e') :
    Abreast c s w w' R (throw e : Action α) (throw e') :=
  ⟨s, .refl c s w w', h, .error he⟩

/-- After a failure nothing follows. -/
theorem throw_bind (h : Together c s w w') {e e' : Failure} (he : FailureLike s e e') :
    Abreast c s w w' S ((MonadExcept.throw e : Action α) >>= f) ((MonadExcept.throw e' : Action α) >>= f') :=
  ⟨s, .refl c s w w', h, .error he⟩

/-- A failure that carries no value. -/
theorem fail (h : Together c s w w') (e : Failure) (he : e.carried? = none) :
    Abreast c s w w' R (MonadExcept.throw e : Action α) (MonadExcept.throw e) :=
  throw h (.plain e he)

/-- A failure with the same text on both sides. -/
theorem fail_eq (h : Together c s w w') {e e' : Failure} (heq : e = e') (he : e.carried? = none) :
    Abreast c s w w' R (MonadExcept.throw e : Action α) (MonadExcept.throw e') :=
  heq ▸ fail h e he

/-- **Sequences** run abreast when their parts do. -/
theorem bind (ha : Abreast c s w w' R a a') (hf : ∀ {t u u' x x'}, Onward c s w w' t u u' → Together c t u u' → R t x x' →
    Abreast c t u u' S (f x) (f' x')) : Abreast c s w w' S (a >>= f) (a' >>= f') := by
  obtain ⟨t, ho, hu, hr⟩ := ha
  unfold Abreast
  rw [Action.run_bind, Action.run_bind]
  revert ho hu hr
  rcases a.run w with ⟨r, u⟩
  rcases a'.run w' with ⟨r', u'⟩
  intro ho hu hr
  cases hr with
  | ok hx =>
    obtain ⟨t', ho', hv, hr'⟩ := hf ho hu hx
    exact ⟨t', ho.trans ho', hv, hr'⟩
  | error he => exact ⟨t, ho, hu, .error he⟩

theorem get_bind {f f' : World → Action β} (hf : Abreast c s w w' S (f w) (f' w')) :
    Abreast c s w w' S (get >>= f) (get >>= f') := hf

theorem pure_bind {x x' : α} (hf : Abreast c s w w' S (f x) (f' x')) :
    Abreast c s w w' S (Pure.pure x >>= f) (Pure.pure x' >>= f') := hf

theorem set (hu : Onward c s w w' t u u' ∧ Together c t u u') :
    Abreast c s w w' Same (set u : Action Unit) (set u') :=
  ⟨t, hu.1, hu.2, .ok rfl⟩

theorem modify {g g' : World → World} (hu : Onward c s w w' t (g w) (g' w') ∧ Together c t (g w) (g' w')) :
    Abreast c s w w' Same (modify g : Action Unit) (modify g') :=
  ⟨t, hu.1, hu.2, .ok rfl⟩

/-- What is set is gone on with. -/
theorem set_bind {f f' : Unit → Action β} (hs : Onward c s w w' t u u' ∧ Together c t u u')
    (hf : Abreast c t u u' S (f ()) (f' ())) :
    Abreast c s w w' S (MonadStateOf.set u >>= f) (MonadStateOf.set u' >>= f') := by
  obtain ⟨t', ho', hv, hr⟩ := hf
  exact ⟨t', hs.1.trans ho', hv, hr⟩

theorem map {g g' : α → β} (ha : Abreast c s w w' R a a') (hg : ∀ {t x x'}, R t x x' → S t (g x) (g' x')) :
    Abreast c s w w' S (g <$> a) (g' <$> a') := by
  rw [map_eq_pure_bind, map_eq_pure_bind]
  exact ha.bind fun _ hu hx => .pure hu (hg hx)

/-- Failures are handled abreast. -/
theorem tryCatch {g g' : Failure → Action α} (ha : Abreast c s w w' R a a')
    (hg : ∀ {t u u' e e'}, Onward c s w w' t u u' → Together c t u u' → FailureLike t e e' →
      Abreast c t u u' R (g e) (g' e')) : Abreast c s w w' R (tryCatch a g) (tryCatch a' g') := by
  obtain ⟨t, ho, hu, hr⟩ := ha
  unfold Abreast
  rw [Action.run_tryCatch, Action.run_tryCatch]
  revert ho hu hr
  rcases a.run w with ⟨r, u⟩
  rcases a'.run w' with ⟨r', u'⟩
  intro ho hu hr
  cases hr with
  | ok hx => exact ⟨t, ho, hu, .ok hx⟩
  | error he =>
    obtain ⟨t', ho', hv, hr'⟩ := hg ho hu he
    exact ⟨t', ho.trans ho', hv, hr'⟩

/-- What is known before the run gives a result or fails. -/
theorem liftExcept (h : Together c s w w') {r r' : Except Failure α} (hr : ResultLike R s r r') :
    Abreast c s w w' R (liftM r : Action α) (liftM r') := by
  cases hr with
  | ok hx => exact pure h hx
  | error he => exact throw h he

/-- What is known before the run is gone on with in the same worlds. -/
theorem liftExcept_bind {r r' : Except Failure α} (h : Together c s w w') (hr : ResultLike R s r r')
    (hf : ∀ {x x'}, r = .ok x → r' = .ok x' → R s x x' → Abreast c s w w' S (f x) (f' x')) :
    Abreast c s w w' S (liftM r >>= f) (liftM r' >>= f') := by
  cases hr with
  | ok hx => exact hf rfl rfl hx
  | error he => exact throw_bind h he

end Abreast

end Lineage
