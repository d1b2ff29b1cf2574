import Mathlib
import Lineage.Proofs.Lasting.Defining
import Lineage.Script

/-!
# Scripting — what a run of steps keeps

Every step of a script changes the world in the ways that `Change` lists, whether it ends well or in a failure. So what
no change destroys holds at the end of any run of steps if it held at the beginning (`run_holds`), and the world at
the end is always reached from the world at the beginning (`run_reaches`).
-/

set_option autoImplicit false
set_option mvcgen.warning false

open Std.Do

namespace Lineage.Script

open Lasting (holds)
open Enduring (step)

variable [Enduring]

/-! ## Computations in a session -/

/-- **A computation keeps the property of the world,** whether it succeeds or fails. -/
abbrev RunLasts {α : Type} (r : Run α) : Prop :=
  ⦃fun s => ⌜holds s.world⌝⦄ r ⦃post⟨fun _ s => ⌜holds s.world⌝, fun _ s => ⌜holds s.world⌝⟩⦄

@[spec] theorem lift_lasts {α : Type} {a : Action α} (ha : Lasts a) : RunLasts (lift a) := by
  mvcgen [lift] <;> exact Lasts.run_eq ha ‹_› ‹_›

theorem foldlM_lasts {α β : Type} {f : β → α → Action β} (hf : ∀ b x, Lasts (f b x)) (b : β) (xs : List α) :
    Lasts (xs.foldlM f b) := by
  induction xs generalizing b with
  | nil =>
    rw [List.foldlM_nil]
    mvcgen
  | cons x r ih =>
    have hx := hf b x
    rw [List.foldlM_cons]
    mvcgen [hx, ih, -Spec.foldlM_list]

/-! ## Terms -/

@[spec] theorem newFunction_lasts (b : Behaviour) : Lasts (newFunction b) := by
  mvcgen [newFunction]
  exact step (.behaviour _) ‹_›

@[spec] theorem newCell_lasts (kind : CellKind) (c : Cell) : Lasts (newCell kind c) := by
  mvcgen [newCell]
  exact holds_addCell _ ‹_›

@[spec] theorem makeSet_lasts (items : List Value) : Lasts (makeSet items) := by
  mvcgen [makeSet, foldlM_lasts, -Spec.foldlM_list]

@[spec] theorem makeDict_lasts (entries : List (Value × Value)) : Lasts (makeDict entries) := by
  mvcgen [makeDict, foldlM_lasts, -Spec.foldlM_list]

mutual

theorem eval_lasts (names : Bindings) (t : Term) : Lasts (t.eval names) := by
  cases t with
  | data v => mvcgen [Term.eval]
  | specimen n => mvcgen [Term.eval]
  | reference n => mvcgen [Term.eval]
  | tuple ts =>
    have h := evalAll_lasts names ts
    mvcgen [Term.eval, h]
  | list ts =>
    have h := evalAll_lasts names ts
    mvcgen [Term.eval, h]
  | set frozen ts =>
    have h := evalAll_lasts names ts
    mvcgen [Term.eval, h]
  | dict es =>
    have h := evalEntries_lasts names es
    mvcgen [Term.eval, h]
  | function b => mvcgen [Term.eval]
  | returns t =>
    have h := eval_lasts names t
    mvcgen [Term.eval, h]
  | constant t =>
    have h := eval_lasts names t
    mvcgen [Term.eval, h]
  | isOneOf ts =>
    have h := evalAll_lasts names ts
    mvcgen [Term.eval, h]
  | property lead => mvcgen [Term.eval]
  | foreign base type typeOf equalTo =>
    have ht := answering_lasts names type
    have ho := answering_lasts names typeOf
    cases equalTo with
    | none =>
      mvcgen [Term.eval, ht, ho]
      exact step (.foreign _) ‹_›
    | some t =>
      have h := eval_lasts names t
      mvcgen [Term.eval, h, ht, ho]
      exact step (.foreign _) ‹_›

theorem answering_lasts (names : Bindings) (a : Answering) : Lasts (a.eval names) := by
  cases a with
  | plain c => mvcgen [Answering.eval]
  | returns t =>
    have h := eval_lasts names t
    mvcgen [Answering.eval, h]
  | holds t =>
    have h := eval_lasts names t
    mvcgen [Answering.eval, h]
  | names ts =>
    have h := evalAll_lasts names ts
    mvcgen [Answering.eval, h]

theorem evalAll_lasts (names : Bindings) (ts : List Term) : Lasts (evalAll names ts) := by
  cases ts with
  | nil => mvcgen [evalAll]
  | cons t ts =>
    have h := eval_lasts names t
    have hs := evalAll_lasts names ts
    mvcgen [evalAll, h, hs]

theorem evalEntries_lasts (names : Bindings) (es : List (Term × Term)) : Lasts (evalEntries names es) := by
  match es with
  | [] => mvcgen [evalEntries]
  | (k, v) :: es =>
    have hk := eval_lasts names k
    have hv := eval_lasts names v
    have hs := evalEntries_lasts names es
    mvcgen [evalEntries, hk, hv, hs]

end

@[spec] theorem evalOne_lasts (t : Term) : RunLasts (eval t) := by
  have h := fun names => eval_lasts names t
  mvcgen [eval, h]

@[spec] theorem evalList_lasts (ts : List Term) : RunLasts (evalList ts) := by
  have h := fun names => evalAll_lasts names ts
  mvcgen [evalList, h]

@[spec] theorem evalBody_lasts (es : List (Term × Term)) : RunLasts (evalBody es) := by
  have h := fun names => evalEntries_lasts names es
  mvcgen [evalBody, h]

@[spec] theorem evalKey_lasts (t : Term) : RunLasts (evalKey t) := by
  mvcgen [evalKey]

@[spec] theorem makePlugin_lasts (t : PluginTerm) : RunLasts (makePlugin t) := by
  mvcgen [makePlugin]

@[spec] theorem evalAdverts_lasts (adverts : List Advert) : RunLasts (evalAdverts adverts) := by
  induction adverts with
  | nil => mvcgen [evalAdverts]
  | cons a r ih => mvcgen [evalAdverts, ih]

/-! ## Answers and deeds that touch values -/

@[spec] theorem classAnswer_lasts (v : Value) : Lasts (classAnswer v) := by
  mvcgen [classAnswer]

@[spec] theorem fieldsOf_lasts (v : Value) : Lasts (fieldsOf v) := by
  mvcgen [fieldsOf]

@[spec] theorem enumAnswer_lasts (v : Value) : Lasts (enumAnswer v) := by
  mvcgen [enumAnswer]

@[spec] theorem callMethod_lasts (on : Value) (method : String) (args : List Value) :
    Lasts (callMethod on method args) := by
  mvcgen [callMethod]

@[spec] theorem checkHash_lasts (v : Value) : Lasts (checkHash v) := by
  mvcgen [checkHash]

@[spec] theorem enumOf_lasts (v : Value) : Lasts (enumOf v) := by
  mvcgen [enumOf]

@[spec] theorem refuseMember_lasts (touch : EnumTouch) (on key : Value) : Lasts (refuseMember touch on key) := by
  mvcgen [refuseMember]

@[spec] theorem hasMember_lasts (on key : Value) : Lasts (hasMember on key) := by
  mvcgen [hasMember]

@[spec] theorem copyEnum_lasts (v : Value) (depth : CopyDepth) : Lasts (copyEnum v depth) := by
  mvcgen [copyEnum]
  · exact step .enumCount ‹_›
  · exact step (.use (.cells _)) (step .enumCount ‹_›)

@[spec] theorem registered?_lasts (sys : String) (name : Value) : Lasts (registered? sys name) := by
  mvcgen [registered?]

@[spec] theorem managerOf_lasts (sys : String) : Lasts (managerOf sys) := by
  mvcgen [managerOf]

@[spec] theorem exclude_lasts (sys : String) (add discard : List String) : Lasts (exclude sys add discard) := by
  mvcgen [exclude]
  case vc1.pre changed =>
    dsimp only [changed]
    exact step (.excluded _ _) ‹_›

theorem holds_addConfigured {w : World} (name : String) (types : TypeSection) (plugins : PluginSection)
    (shared : Option Nat) (entries : List EntryPoint) (hw : holds w) :
    holds (w.addConfigured name types plugins shared entries) :=
  holds_addSystem _ _ _ _ _ _ hw

@[spec] theorem newSystem_lasts (sys : String) (types plugins : Option Document) (share : Option String)
    (installed : List Advert) : RunLasts (newSystem sys types plugins share installed) := by
  mvcgen [newSystem]
  · exact holds_ensureSystem _ ‹_›
  all_goals
    rename_i added
    dsimp only [added]
    exact holds_addConfigured _ _ _ _ _ ‹_›

@[spec] theorem register_lasts (sys : String) (plugin : PluginTerm ⊕ String) (name : Option String) :
    RunLasts (register sys plugin name) := by
  mvcgen [register] <;> exact holds_registerPlugin ‹_› ‹_›

@[spec] theorem unregister_lasts (sys id : String) : RunLasts (unregister sys id) := by
  mvcgen [unregister]
  exact step (.plugins _ _) ‹_›

/-! ## Deeds and steps -/

@[spec] theorem perform_lasts (sys : String) (stack : CallStack) (d : Deed) : RunLasts (perform sys stack d) := by
  cases d with
  | discover installed =>
    mvcgen [perform]
    exact holds_discover _ _ ‹_›
  | announceEnum name members =>
    mvcgen [perform]
    exact step .enumCount ‹_›
  | takeLog =>
    mvcgen [perform]
    exact step (.events _) ‹_›
  | addModule name exports =>
    have h := fun names => evalEntries_lasts names (exports.map fun e => (.data (.ofString e.1), e.2))
    mvcgen [perform, h]
  | _ => mvcgen [perform]

theorem step_lasts (s : Step) : RunLasts s.run := by
  mvcgen [Step.run]
  exact holds_ensureSystem _ ‹_›

/-! ## Runs -/

/-- **What no change destroys outlasts every step,** also one that fails. -/
theorem step_holds (s : Session) (st : Step) (hs : holds s.world) : holds (st.run.run s).2.world := by
  have h := (Action.wp_iff st.run _ s).1 (step_lasts st s hs)
  cases hr : st.run.run s with
  | mk r s' =>
    rw [hr] at h
    cases r <;> exact h

/-- **What no change destroys outlasts every run.** -/
theorem run_holds (s : Session) (steps : List Step) (hs : holds s.world) : holds (s.run steps).1.world := by
  induction steps generalizing s with
  | nil => exact hs
  | cons st r ih => exact ih _ (step_holds s st hs)

omit [Enduring]

/-- **Every run is a sequence of changes.** -/
theorem run_reaches (s : Session) (steps : List Step) : Reaches s.world (s.run steps).1.world :=
  let _ := Enduring.reached s.world
  run_holds s steps .refl

/-- The worlds between the beginning and the end of a run, also those in the middle of a step. -/
def Passes (s : Session) (steps : List Step) (u : World) : Prop :=
  Reaches s.world u ∧ Reaches u (s.run steps).1.world

theorem passes_last (s : Session) (steps : List Step) : Passes s steps (s.run steps).1.world :=
  ⟨run_reaches s steps, .refl⟩

/-- One moment of a run and a later one. -/
structure Follows (s : Session) (steps : List Step) (u v : World) : Prop where
  first : Reaches s.world u
  later : Reaches u v
  last : Reaches v (s.run steps).1.world

theorem follows_whole (s : Session) (steps : List Step) : Follows s steps s.world (s.run steps).1.world :=
  ⟨.refl, run_reaches s steps, .refl⟩

end Lineage.Script
