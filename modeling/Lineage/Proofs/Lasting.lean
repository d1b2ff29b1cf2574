import Mathlib
import Lineage.Proofs.Action
import Lineage.Proofs.Change

/-!
# Lasting — what one use of a value keeps, and what it never raises

A `Lasting` property is one that no use of a value destroys. Each use (reading and setting attributes, calling,
printing, asking for its type) is followed here once through its branches: where it changes the world, the
change is one of those that `Use` lists, so every such property outlasts the use, whether it ends well or in an
error. The property stands in an instance, so that the same lemmas serve every law.

On the way it is seen that the errors of uses blame nobody (`Uses`): argument errors and type mismatches are raised by
the library alone. What does more than use values may raise these too; of it only the property is claimed (`Lasts`).

The functions that take a handler for nested uses are uses if the handler's are; `handler_uses` ties the knot by
induction on the depth.
-/

set_option autoImplicit false
set_option mvcgen.warning false

open Std.Do

namespace Lineage

/-- A property of worlds that no use of a value destroys. -/
class Lasting where
  holds : World → Prop
  use : ∀ {w w' : World}, Use w w' → holds w → holds w'

open Lasting (holds use)

/-- **An action keeps the property,** whether it succeeds or fails. -/
abbrev Lasts {α : Type} [Lasting] (a : Action α) : Prop :=
  ⦃fun w => ⌜holds w⌝⦄ a ⦃post⟨fun _ w => ⌜holds w⌝, fun _ w => ⌜holds w⌝⟩⦄

/-- Whether an error blames somebody, as argument errors and type mismatches do. The library raises these in its own name, at a
place that it looks up. -/
def Failure.blames (f : Failure) : Bool := f.kind == .argument || f.kind == .typeMismatch

/-- **Nothing but uses of values:** an action that keeps the property and raises none but errors that blame nobody. -/
abbrev Uses {α : Type} [Lasting] (a : Action α) : Prop :=
  ⦃fun w => ⌜holds w⌝⦄ a ⦃post⟨fun _ w => ⌜holds w⌝, fun f w => ⌜holds w ∧ f.blames = false⌝⟩⦄

/-- A handler whose uses are that. -/
class Handler.Uses [Lasting] (h : Handler) : Prop where
  read : ∀ v key, Lineage.Uses (h.read v key)
  call : ∀ f args, Lineage.Uses (h.call f args)
  repr : ∀ v, Lineage.Uses (h.repr v)

/-- A checked result is used as it is: it goes on with its value or fails with its failure. -/
@[spec] theorem lift_eq {α σ : Type} (x : Except Failure α) :
    (MonadLift.monadLift x : ExceptT Failure (StateM σ) α) = match x with
      | .ok a => pure a
      | .error e => throw e := by
  cases x <;> rfl

variable [Lasting]

/-- **The world after a run** has the property if the world before it has. -/
theorem Lasts.run {α : Type} {a : Action α} (ha : Lasts a) {w : World} (hw : holds w) : holds (a.run w).2 := by
  have h := (Action.wp_iff a _ w).1 (ha w hw)
  cases hr : a.run w with
  | mk r w' =>
    rw [hr] at h
    cases r <;> exact h

theorem Lasts.run_eq {α : Type} {a : Action α} (ha : Lasts a) {w w' : World} {r : Except Failure α}
    (h : a.run w = (r, w')) (hw : holds w) : holds w' := by
  have hrun := ha.run hw
  rwa [h] at hrun

/-- An action that keeps the property may be known to give results with a property of their own. -/
theorem Lasts.and {α : Type} {a : Action α} (ha : Lasts a) {P : α → World → Prop}
    (hP : ∀ {w w' : World} {x : α}, a.run w = (.ok x, w') → P x w') :
    ⦃fun w => ⌜holds w⌝⦄ a ⦃post⟨fun x w => ⌜holds w ∧ P x w⌝, fun _ w => ⌜holds w⌝⟩⦄ := by
  intro w hw
  have h := ha.run hw
  refine (Action.wp_iff a _ w).2 ?_
  cases hr : a.run w with
  | mk r w' =>
    rw [hr] at h
    cases r with
    | ok x => exact ⟨h, hP hr⟩
    | error e => exact h

theorem tryCatch_lasts {α : Type} {a : Action α} {f : Failure → Action α} (ha : Lasts a) (hf : ∀ e, Lasts (f e)) :
    Lasts (tryCatch a f) := by
  mvcgen [ha]
  · exact id
  · exact hf _

/-- A failure that is expected becomes a result, any other passes on. -/
theorem recover_lasts {α : Type} (expected : Bool) (x : α) (e : Failure) :
    Lasts (if expected then pure x else throw e : Action α) := by
  cases expected <;> mvcgen

theorem Uses.run_eq {α : Type} {a : Action α} (ha : Uses a) {w w' : World} {f : Failure} (h : a.run w = (.error f, w'))
    (hw : holds w) : holds w' ∧ f.blames = false := by
  have hrun := (Action.wp_iff a _ w).1 (ha w hw)
  rw [h] at hrun
  exact hrun

/-- What nothing but uses values keeps the property in particular. -/
theorem Uses.lasts {α : Type} {a : Action α} (ha : Uses a) : Lasts a := by
  intro w hw
  have hrun := (Action.wp_iff a _ w).1 (ha w hw)
  refine (Action.wp_iff a _ w).2 ?_
  cases hr : a.run w with
  | mk r w' =>
    rw [hr] at hrun
    cases r with
    | ok x => exact hrun
    | error f => exact hrun.1

/-- A failure of a use that is expected becomes a result, any other passes on. -/
theorem Uses.recover {α : Type} {a : Action α} (ha : Uses a) (expected : Failure → Bool) (x : α) :
    Uses (tryCatch a fun f => if expected f then pure x else throw f) := by
  intro w hw
  have hrun := (Action.wp_iff a _ w).1 (ha w hw)
  refine (Action.wp_iff _ _ w).2 ?_
  rw [Action.run_tryCatch]
  cases hr : a.run w with
  | mk r w' =>
    rw [hr] at hrun
    cases r with
    | ok y => exact hrun
    | error f =>
      dsimp only
      cases expected f with
      | true => exact hrun.1
      | false => exact hrun

/-! ## Changes made of one or more steps -/

theorem holds_setCell {w : World} (i : Nat) (c : Cell) (hw : holds w) : holds (w.setCell i c) :=
  use (.cells _) hw

theorem holds_addCell {w : World} (c : Cell) (hw : holds w) : holds (w.addCell c).1 :=
  use (.cells _) hw

theorem holds_addInstance {w : World} {i : Nat} {c : ClassRecord} (hc : w.class? i = some c) (hw : holds w) :
    holds (w.addInstance i).1 :=
  use (.made ⟨rfl, (List.getElem?_eq_some_iff.1 hc).1⟩) hw

namespace Access

/-! ## Reading -/

variable {h : Handler} [h.Uses]

@[spec] theorem handler_read_uses (v : Value) (key : String) : Uses (h.read v key) := Handler.Uses.read v key

@[spec] theorem handler_call_uses (f : Value) (args : List Value) : Uses (h.call f args) := Handler.Uses.call f args

@[spec] theorem handler_repr_uses (v : Value) : Uses (h.repr v) := Handler.Uses.repr v

@[spec] theorem readInstance_uses (i : Nat) (key : String) : Uses (readInstance h i key) := by
  mvcgen [readInstance]

@[spec] theorem readClass_uses (i : Nat) (key : String) : Uses (readClass i key) := by
  mvcgen [readClass]

@[spec] theorem shownWith_uses (v : Value) : Uses (shownWith h v) := by
  mvcgen [shownWith]

@[spec] theorem refuseWith_uses (touch : EnumTouch) (name : String) (key : Value) : Uses (refuseWith h touch name key) := by
  mvcgen [refuseWith]

@[spec] theorem readItemWith_uses (name : String) (members : List (Value × Value)) (key : Value) :
    Uses (readItemWith h name members key) := by
  mvcgen [readItemWith]

@[spec] theorem getItemWith_uses (name : String) (members : List (Value × Value)) (key default : Value) :
    Uses (getItemWith h name members key default) :=
  (readItemWith_uses name members key).recover (·.kind.isA .key) default

@[spec] theorem readEnum_uses (identity : Nat) (name : String) (members : List (Value × Value)) (key : String) :
    Uses (readEnum h identity name members key) := by
  mvcgen [readEnum]

@[spec] theorem readCapability_uses (v : Value) (c : Capability) (own : Option Value) (key : String) :
    Uses (readCapability v c own key) := by
  mvcgen [readCapability]

@[spec] theorem readForeign_uses (v : Value) (i : Nat) (key : String) : Uses (readForeign v i key) := by
  mvcgen [readForeign]

@[spec] theorem readWith_uses (v : Value) (key : String) : Uses (readWith h v key) := by
  mvcgen [readWith]

/-! ## Writing -/

omit [Lasting] in
theorem blames_of_instanceSetRefusal? {w : World} {i : Nat} {r : InstanceRecord} {key : String} {x : Value} {f : Failure}
    (hf : instanceSetRefusal? w i r key x = some f) : f.blames = false := by
  unfold instanceSetRefusal? at hf
  split at hf
  · cases hf
    rfl
  · by_cases hkey : key = "__class__"
    · rw [if_pos hkey] at hf
      split at hf
      all_goals
        split_ifs at hf
        all_goals
          cases hf
          rfl
    · rw [if_neg hkey] at hf
      cases hf

omit [Lasting] in
theorem blames_of_classSetRefusal? {w : World} {c : ClassRecord} {key : String} {x : Value} {f : Failure}
    (hf : classSetRefusal? w c key x = some f) : f.blames = false := by
  unfold classSetRefusal? at hf
  split_ifs at hf
  all_goals
    cases hf
    rfl

omit [Lasting] in
theorem blames_of_classEraseRefusal? {c : ClassRecord} {key : String} {f : Failure}
    (hf : classEraseRefusal? c key = some f) : f.blames = false := by
  unfold classEraseRefusal? at hf
  split_ifs at hf
  all_goals
    cases hf
    rfl

theorem write_uses (v : Value) (key : String) (x : Value) : Uses (write v key x) := by
  mvcgen [write]
  · exact ⟨‹_›, blames_of_instanceSetRefusal? ‹_›⟩
  · rename_i w hw i _ r hr hn
    exact use (.assigned (.inst i) key x ⟨r, hr, hn⟩) hw
  · exact ⟨‹_›, blames_of_classSetRefusal? ‹_›⟩
  · rename_i w hw i _ c hc hn
    exact use (.assigned (.cls i) key x ⟨c, hc, hn⟩) hw
  · rename_i hw _ _ _ _
    exact use (.foreignAttributes _ _) hw

theorem erase_uses (v : Value) (key : String) : Uses (erase v key) := by
  mvcgen [erase]
  · rename_i w hw i _ r hr hk hn
    exact use (.erased (.inst i) key ⟨r, hr, hk, hn⟩) hw
  · exact ⟨‹_›, blames_of_classEraseRefusal? ‹_›⟩
  · rename_i w hw i _ c hc hn
    exact use (.erased (.cls i) key ⟨c, hc, hn⟩) hw
  · rename_i hw _ _ _ _ _
    exact use (.foreignAttributes _ _) hw

/-! ## Calling -/

@[spec] theorem checkArity_uses (function : String) (parameters : List String) (given : Nat) :
    Uses (checkArity function parameters given) := by
  mvcgen [checkArity]

@[spec] theorem receiverClass_uses (v : Value) : Uses (receiverClass v) := by
  mvcgen [receiverClass]

@[spec] theorem holdsName_uses (c : ClassRecord) (name : Value) : Uses (holdsName c name) := by
  mvcgen [holdsName]

@[spec] theorem callBase_uses (m : BaseMethod) (args : List Value) : Uses (callBase h m args) := by
  mvcgen [callBase]

@[spec] theorem apply_uses (b : Behaviour) (args : List Value) : Uses (apply h b args) := by
  mvcgen [apply, write_uses]

@[spec] theorem construct_uses (cls : Nat) (args : List Value) : Uses (construct h cls args) := by
  mvcgen [construct]
  all_goals exact holds_addInstance ‹_› ‹_›

@[spec] theorem callInteger_uses (args : List Value) : Uses (callInteger args) := by
  mvcgen [callInteger]

@[spec] theorem callSpecimen_uses (s : Specimen) (args : List Value) : Uses (callSpecimen s args) := by
  mvcgen [callSpecimen]

@[spec] theorem callEnum_uses (name : String) (members : List (Value × Value)) (method : String) (args : List Value) :
    Uses (callEnum h name members method args) := by
  mvcgen [callEnum]

@[spec] theorem callDict_uses (address : Nat) (entries : List (Value × Value)) (method : String) (args : List Value) :
    Uses (callDict address entries method args) := by
  mvcgen [callDict]
  all_goals first | exact holds_setCell _ _ ‹_› | exact holds_addCell _ ‹_›

@[spec] theorem callList_uses (address : Nat) (items : List Value) (method : String) (args : List Value) :
    Uses (callList address items method args) := by
  mvcgen [callList]
  all_goals first | exact holds_setCell _ _ ‹_› | exact holds_addCell _ ‹_›

@[spec] theorem callForeign_uses (i : Nat) (question : String) (args : List Value) :
    Uses (callForeign i question args) := by
  mvcgen [callForeign]
  all_goals exact use (.asked _) ‹_›

@[spec] theorem callBuiltIn_uses (receiver : Value) (method : String) (args : List Value) :
    Uses (callBuiltIn h receiver method args) := by
  mvcgen [callBuiltIn]

@[spec] theorem callWith_uses (f : Value) (args : List Value) : Uses (callWith h f args) := by
  mvcgen [callWith]

/-! ## Printing -/

@[spec] theorem leafRepr_uses (v : Value) : Uses (leafRepr h v) := by
  mvcgen [leafRepr]

end Access

mutual

theorem render_uses {leaf : Value → Action String} (hl : ∀ v, Uses (leaf v)) (v : Value) :
    Uses (Value.render leaf v) := by
  cases v with
  | tuple xs =>
    have hx := renderAll_uses hl xs
    simp only [Value.render]
    mvcgen [hx]
  | list xs =>
    have hx := renderAll_uses hl xs
    simp only [Value.render]
    mvcgen [hx]
  | set frozen xs =>
    have hx := renderAll_uses hl xs
    simp only [Value.render]
    mvcgen [hx]
  | dict es =>
    have hx := renderEntries_uses hl es
    simp only [Value.render]
    mvcgen [hx]
  | enum i name es =>
    have hx := renderEntries_uses hl es
    simp only [Value.render]
    mvcgen [hx]
  | _ =>
    simp only [Value.render]
    exact hl _

theorem renderAll_uses {leaf : Value → Action String} (hl : ∀ v, Uses (leaf v)) (xs : List Value) :
    Uses (Value.renderAll leaf xs) := by
  cases xs with
  | nil =>
    simp only [Value.renderAll]
    mvcgen
  | cons x xs =>
    have hx := render_uses hl x
    have hxs := renderAll_uses hl xs
    simp only [Value.renderAll]
    mvcgen [hx, hxs]

theorem renderEntries_uses {leaf : Value → Action String} (hl : ∀ v, Uses (leaf v)) (es : List (Value × Value)) :
    Uses (Value.renderEntries leaf es) := by
  match es with
  | [] =>
    simp only [Value.renderEntries]
    mvcgen
  | (k, v) :: es =>
    have hk := render_uses hl k
    have hv := render_uses hl v
    have hes := renderEntries_uses hl es
    simp only [Value.renderEntries]
    mvcgen [hk, hv, hes]

end

namespace Access

variable {h : Handler} [h.Uses]

@[spec] theorem reprWith_uses (v : Value) : Uses (reprWith h v) := by
  have hr : ∀ v, Uses (Value.render (leafRepr h) v) := render_uses leafRepr_uses
  mvcgen [reprWith, hr]

/-! ## The knot -/

/-- Uses nested at any depth keep the property. -/
instance handler_uses (depth : Nat) : (handler depth).Uses := by
  induction depth with
  | zero =>
    have refused {α : Type} : Uses (throw .tooDeep : Action α) := by mvcgen
    exact ⟨fun _ _ => refused, fun _ _ => refused, fun _ => refused⟩
  | succ depth _ =>
    exact ⟨fun v key => readWith_uses v key, fun f args => callWith_uses f args, fun v => reprWith_uses v⟩

theorem read_uses (v : Value) (key : String) : Uses (read v key) := (handler_uses maxDepth).read v key

theorem call_uses (f : Value) (args : List Value) : Uses (call f args) := (handler_uses maxDepth).call f args

theorem repr_uses (v : Value) : Uses (repr v) := (handler_uses maxDepth).repr v

theorem shown_uses (v : Value) : Uses (shown v) := shownWith_uses v

theorem readItem_uses (name : String) (members : List (Value × Value)) (key : Value) :
    Uses (readItem name members key) :=
  readItemWith_uses name members key

theorem read?_uses (v : Value) (key : String) : Uses (read? v key) := by
  have hread : Uses (some <$> read v key) := by mvcgen [read_uses]
  exact hread.recover _ none

end Access

namespace Query

/-! ## Asking for types -/

theorem system_uses (name : String) : Uses (system name) := by
  mvcgen [system]

omit [Lasting] in
theorem run_system {name : String} {w : World} {s : System} (hs : w.system? name = some s) :
    (system name).run w = (.ok s, w) := by
  simp only [system, Action.run_bind, Action.run_get, hs, Action.run_pure]

omit [Lasting] in
theorem run_system_of_none {name : String} {w : World} (hs : w.system? name = none) :
    (system name).run w = (.error (.unknownName name), w) := by
  simp only [system, Action.run_bind, Action.run_get, hs, Action.run_throw]

omit [Lasting] in
theorem system_eq_ok {name : String} {w w' : World} {s : System} (h : (system name).run w = (.ok s, w')) :
    w' = w ∧ w.system? name = some s := by
  cases hs : w.system? name with
  | some s' =>
    cases (run_system hs).symm.trans h
    exact ⟨rfl, rfl⟩
  | none => cases (run_system_of_none hs).symm.trans h

theorem capability?_uses (v : Value) (key : String) : Uses (capability? v key) := by
  mvcgen [capability?, Access.read?_uses]

theorem satisfies_uses (sys : String) (v : Value) (name : String) : Uses (satisfies sys v name) := by
  mvcgen [satisfies, capability?_uses, Access.call_uses, system_uses]

theorem firstSatisfied_uses (sys : String) (v : Value) (names : List String) : Uses (firstSatisfied sys v names) := by
  induction names with
  | nil => mvcgen [firstSatisfied]
  | cons name rest ih => mvcgen [firstSatisfied, satisfies_uses, ih]

/-- Asking for the alternatives of an expression is a use; asking for those of anything else is refused by the library. -/
theorem findMatch_uses {expression : Value} {e : String} (he : expression.string? = some e) (sys : String) (v : Value) :
    Uses (findMatch sys v expression) := by
  simp only [findMatch, he]
  mvcgen [system_uses, firstSatisfied_uses]

theorem typeOf_uses {expression : Value} {e : String} (he : expression.string? = some e) (sys : String) (v : Value) :
    Uses (typeOf sys v expression) := by
  have hfind := findMatch_uses he sys v
  mvcgen [typeOf, hfind]

theorem typeName_uses (v : Value) : Uses (typeName v) := by
  mvcgen [typeName, capability?_uses, Access.call_uses, Access.shown_uses]

end Query

/-! ## Uses in what does more -/

namespace Access

@[spec] theorem read_lasts (v : Value) (key : String) : Lasts (read v key) := (read_uses v key).lasts

@[spec] theorem call_lasts (f : Value) (args : List Value) : Lasts (call f args) := (call_uses f args).lasts

@[spec] theorem repr_lasts (v : Value) : Lasts (repr v) := (repr_uses v).lasts

@[spec] theorem shown_lasts (v : Value) : Lasts (shown v) := (shown_uses v).lasts

@[spec] theorem readItem_lasts (name : String) (members : List (Value × Value)) (key : Value) :
    Lasts (readItem name members key) :=
  (readItem_uses name members key).lasts

@[spec] theorem read?_lasts (v : Value) (key : String) : Lasts (read? v key) := (read?_uses v key).lasts

@[spec] theorem write_lasts (v : Value) (key : String) (x : Value) : Lasts (write v key x) := (write_uses v key x).lasts

@[spec] theorem erase_lasts (v : Value) (key : String) : Lasts (erase v key) := (erase_uses v key).lasts

end Access

namespace Query

@[spec] theorem system_lasts (name : String) : Lasts (system name) := (system_uses name).lasts

@[spec] theorem capability?_lasts (v : Value) (key : String) : Lasts (capability? v key) := (capability?_uses v key).lasts

@[spec] theorem satisfies_lasts (sys : String) (v : Value) (name : String) : Lasts (satisfies sys v name) :=
  (satisfies_uses sys v name).lasts

@[spec] theorem firstSatisfied_lasts (sys : String) (v : Value) (names : List String) :
    Lasts (firstSatisfied sys v names) :=
  (firstSatisfied_uses sys v names).lasts

@[spec] theorem typeName_lasts (v : Value) : Lasts (typeName v) := (typeName_uses v).lasts

@[spec] theorem findMatch_lasts (sys : String) (v expression : Value) : Lasts (findMatch sys v expression) := by
  mvcgen [findMatch]

@[spec] theorem typeOf_lasts (sys : String) (v expression : Value) : Lasts (typeOf sys v expression) := by
  mvcgen [typeOf]

@[spec] theorem require_lasts (sys : String) (v expression label : Value) (site : Option Frame) :
    Lasts (require sys v expression label site) := by
  mvcgen [require]

@[spec] theorem requireArgument_lasts (sys : String) (index v expression : Value) (site : Option Frame) :
    Lasts (requireArgument sys index v expression site) := by
  mvcgen [requireArgument]

@[spec] theorem assertType_lasts (entry : Entry) (sys : String) (v expression label : Value) (depth : Int)
    (stack : CallStack) : Lasts (assertType entry sys v expression label depth stack) := by
  mvcgen [assertType, assertTypeFor]

@[spec] theorem assertArgument_lasts (entry : Entry) (sys : String) (index v expression : Value) (depth : Option Int)
    (stack : CallStack) : Lasts (assertArgument entry sys index v expression depth stack) := by
  mvcgen [assertArgument, assertArgumentFor]

@[spec] theorem typed_lasts (entry : Entry) (sys : String) (v expression label : Value) (depth : Int)
    (stack : CallStack) : Lasts (typed entry sys v expression label depth stack) := by
  mvcgen [typed]

@[spec] theorem typedArgument_lasts (entry : Entry) (sys : String) (index v expression : Value) (depth : Option Int)
    (stack : CallStack) : Lasts (typedArgument entry sys index v expression depth stack) := by
  mvcgen [typedArgument]

end Query

end Lineage
