import Mathlib
import Lineage.Introspection
import Lineage.Proofs.Action
import Lineage.Proofs.Lasting

/-!
# Defining — what a definition keeps

Defining an enumeration or a class changes the world in the ways that `Change` lists, and so do the plugins that are told
of it, to any depth of nested definitions. A class is entered only after it has been examined (`examine_spec`), an
enumeration only under a name that is free (`holds_enterEnum`).
-/

set_option autoImplicit false
set_option mvcgen.warning false

open Std.Do

namespace Lineage

/-- A property of worlds that no change destroys. -/
class Enduring extends Lasting where
  step : ∀ {w w' : World}, Change w w' → holds w → holds w'

/-- What is reached from a world is reached still after a change. -/
abbrev Enduring.reached (w : World) : Enduring where
  holds := Reaches w
  use := fun h hw => hw.tail (.use h)
  step := fun h hw => hw.tail h

open Lasting (holds)
open Enduring (step)

namespace Definition

/-! ## Looking at a request for a class -/

variable [Lasting]

@[spec] theorem checkParents_lasts (site : Option Frame) (index : Nat) (vs : List Value) :
    Lasts (checkParents site index vs) := by
  induction vs generalizing index with
  | nil => mvcgen [checkParents]
  | cons v r ih => mvcgen [checkParents, ih]

@[spec] theorem checkName_lasts (b : Blueprint) : Lasts (checkName b) := by
  mvcgen [checkName]

theorem examine_lasts (b : Blueprint) : Lasts (examine b) := by
  mvcgen [examine]

end Definition

variable [Enduring]

/-! ## Worlds with other plugins and systems -/

theorem holds_log {w : World} (logger : String) (level : Level) (event : String) (error : Option Failure)
    (hw : holds w) : holds (w.log logger level event error) :=
  step (.records _) hw

theorem holds_discover {w : World} (manager : Nat) (entries : List EntryPoint) (hw : holds w) :
    holds (w.discover manager entries) := by
  unfold World.discover
  split
  · exact hw
  · dsimp only
    split <;> exact holds_log _ _ _ _ (step (.plugins _ _) hw)

theorem holds_addSystem {w : World} (name delimiter : String) (excluded : List String) (autoload : Bool)
    (shared : Option Nat) (entries : List EntryPoint) (hw : holds w) :
    holds (w.addSystem name delimiter excluded autoload shared entries) := by
  unfold World.addSystem
  cases shared with
  | none =>
    dsimp only
    split
    · exact step (.system _ _ _ _) (holds_discover _ _ (step .manager hw))
    · exact step (.system _ _ _ _) (step .manager hw)
  | some m =>
    dsimp only
    split
    · exact step (.system _ _ _ _) (holds_discover _ _ hw)
    · exact step (.system _ _ _ _) hw

theorem holds_registerPlugin {w w' : World} {manager : Nat} {name : Option String} {p : Plugin} {resolved : String}
    (h : w.registerPlugin manager name p = .ok (w', resolved)) (hw : holds w) : holds w' := by
  unfold World.registerPlugin at h
  dsimp only at h
  split at h
  · cases h
    exact holds_log _ _ _ _ (step (.plugins _ _) hw)
  · cases h

theorem holds_ensureSystem {w : World} (name : String) (hw : holds w) : holds (w.ensureSystem name) := by
  unfold World.ensureSystem
  split
  · exact hw
  · exact holds_addSystem _ _ _ _ _ _ hw

namespace Definition

/-! ## Telling the plugins -/

/-- A reaction that keeps the property. -/
abbrev Reaction.Lasts (react : Reaction) : Prop := ∀ p news, Lineage.Lasts (react p news)

variable {react : Reaction}

theorem tellOne_lasts (hr : react.Lasts) (p : Plugin) (news : News) : Lasts (tellOne react p news) := by
  have hp := hr p news
  mvcgen [tellOne, hp] <;> exact step (.events _) ‹_›

theorem tellAll_lasts (hr : react.Lasts) (news : News) (ps : List Plugin) : Lasts (tellAll react news ps) := by
  induction ps with
  | nil => mvcgen [tellAll]
  | cons p r ih =>
    have hp := tellOne_lasts hr p news
    mvcgen [tellAll, hp, ih]

theorem announce_lasts (hr : react.Lasts) (manager : Nat) (news : News) : Lasts (announce react manager news) := by
  have ha := tellAll_lasts hr news
  mvcgen [announce, ha]

/-! ## Examining a request for a class -/

@[spec] theorem addProbe_lasts (b : Blueprint) : Lasts (addProbe b) := by
  mvcgen [addProbe]
  exact step (.behaviour _) ‹_›

/-- What an examination lets through fits the world that it leaves. -/
theorem examine_spec (b : Blueprint) :
    ⦃fun w => ⌜holds w⌝⦄ examine b
    ⦃post⟨fun r w => ⌜holds w ∧ Entry.Fits w (.built w.classes.length r)⌝, fun _ w => ⌜holds w⌝⟩⦄ :=
  (examine_lasts b).and fun h => ⟨rfl, b, _, h⟩

/-! ## Entering a class -/

theorem holds_enterClass {w : World} {b : Birth} (hb : Entry.Fits w (.built w.classes.length b)) (hw : holds w) :
    holds (enterClass w b).1 :=
  holds_log _ _ _ _ (step (.built hb) hw)

theorem buildWith_lasts (hr : react.Lasts) (b : Blueprint) : Lasts (buildWith react b) := by
  have ha := announce_lasts hr
  mvcgen [buildWith, examine_spec, ha]
  exact holds_enterClass (And.right ‹_›) (And.left ‹_›)

theorem defineClassWith_lasts (hr : react.Lasts) (sys : String) (name : Value) (parents : List Value)
    (module : Option Value) (inner : List Frame) (depth : Int) (stack : CallStack) :
    Lasts (defineClassWith react sys name parents module inner depth stack) := by
  have hb := buildWith_lasts hr
  mvcgen [defineClassWith, defineClassFor, hb]

/-! ## Entering an enumeration -/

omit [Enduring] in
theorem checkEnum_eq_ok {w : World} {enums : List (String × Value)} {name members : Value} {n : String}
    {entries : List (Value × Value)} (h : checkEnum w enums name members = .ok (n, entries)) :
    Fields.has enums n = false := by
  unfold checkEnum at h
  split at h
  · cases h
  · split at h
    · cases h
    · split at h
      · cases h
      · split at h
        · cases h
        · next hn =>
          cases h
          exact Bool.eq_false_iff.2 hn

theorem holds_enterEnum {w : World} {s : System} {sys n : String} {name members : Value} {entries : List (Value × Value)}
    (hs : w.system? sys = some s) (hc : checkEnum w s.enums name members = .ok (n, entries)) (hw : holds w) :
    holds (enterEnum w sys n entries).1 :=
  holds_log _ _ _ _ (step (.enum entries hs (checkEnum_eq_ok hc)) hw)

theorem defineEnumWith_lasts (hr : react.Lasts) (sys : String) (name members : Value) :
    Lasts (defineEnumWith react sys name members) := by
  have ha := announce_lasts hr
  have hs : ⦃fun w => ⌜holds w⌝⦄ Query.system sys
      ⦃post⟨fun s w => ⌜holds w ∧ w.system? sys = some s⌝, fun _ w => ⌜holds w⌝⟩⦄ :=
    (Query.system_lasts sys).and fun h => (Query.system_eq_ok h).1 ▸ (Query.system_eq_ok h).2
  mvcgen [defineEnumWith, ha, hs, -Query.system_lasts]
  case vc2.post.success.h_1.pre hw e he => exact holds_enterEnum hw.2 he hw.1
  case vc3.post.success.h_2 hw _ _ => exact hw.1

/-! ## What plugins do -/

theorem reactWith_lasts {define : Definer} (hd : ∀ d, Lasts (define d)) : (reactWith define).Lasts := by
  intro p news
  mvcgen [reactWith, hd]
  case vc4.h_3 hw changed =>
    dsimp only [changed]
    exact step (.excluded _ _) (holds_ensureSystem _ hw)

/-! ## The knot -/

theorem defineNested_lasts (depth : Nat) (d : Nested) : Lasts (defineNested depth d) := by
  induction depth generalizing d with
  | zero => mvcgen [defineNested]
  | succ depth ih =>
    have he := defineEnumWith_lasts (reactWith_lasts ih)
    have hc := defineClassWith_lasts (reactWith_lasts ih)
    mvcgen [defineNested, he, hc] <;> exact holds_ensureSystem _ ‹_›

theorem react_lasts : Definition.react.Lasts := reactWith_lasts (defineNested_lasts maxNesting)

@[spec] theorem react_announce_lasts (manager : Nat) (news : News) : Lasts (announce Definition.react manager news) :=
  announce_lasts react_lasts manager news

@[spec] theorem defineEnum_lasts (sys : String) (name members : Value) : Lasts (defineEnum sys name members) :=
  defineEnumWith_lasts react_lasts sys name members

@[spec] theorem build_lasts (b : Blueprint) : Lasts (build b) := buildWith_lasts react_lasts b

@[spec] theorem defineClass_lasts (sys : String) (throughPackage : Bool) (name : Value) (parents : List Value)
    (module : Option Value) (depth : Int) (stack : CallStack) :
    Lasts (defineClass sys throughPackage name parents module depth stack) :=
  defineClassWith_lasts react_lasts sys name parents module _ depth stack

end Definition

namespace Introspection

/-! ## Reports -/

@[spec] theorem describe_lasts (raw : String) : Lasts (describe raw) := by
  mvcgen [describe]

@[spec] theorem defineAll_lasts (sys : String) (specs : List String) : Lasts (defineAll sys specs) := by
  induction specs with
  | nil => mvcgen [defineAll]
  | cons spec r ih => mvcgen [defineAll, ih]

@[spec] theorem check_lasts (sys raw expression : String) (enums : List String) :
    Lasts (check sys raw expression enums) := by
  mvcgen [check, tryCatch_lasts, -Spec.tryCatch_MonadExcept, -Spec.tryCatch_ExceptT]
  all_goals exact recover_lasts _ _ _

@[spec] theorem describeMembers_lasts (members : List (Value × Value)) : Lasts (describeMembers members) := by
  induction members with
  | nil => mvcgen [describeMembers]
  | cons m r ih => mvcgen [describeMembers, ih]

@[spec] theorem describeExports_lasts (exports : Fields) : Lasts (describeExports exports) := by
  induction exports with
  | nil => mvcgen [describeExports]
  | cons e r ih =>
    mvcgen [describeExports, ih]

@[spec] theorem inspect_lasts (lib : Library) (module : String) : Lasts (inspect lib module) := by
  mvcgen [inspect]
  exact holds_log _ _ _ _ ‹_›

end Introspection

end Lineage
