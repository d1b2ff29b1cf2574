import Mathlib
import Lineage.Proofs.Refusal

/-!
# ClassNames — what is let through as the name of a class

The name of a class is checked like any other argument, against the expression that names the strings. So the answer is that of
a type query: it depends on the delimiter, which may cut that expression apart, on an enumeration that is registered under one
of its alternatives, and on what a value says of itself. No value without a text ever becomes the name of a class
(`run_build_unnamed`), but which error it meets, and whether a text is let through at all, follows the query.
`class_names_are_checked_as_types` says how.
-/

set_option autoImplicit false

namespace Lineage.Definition

variable {w w₁ u : World} {s : System} {b : Blueprint} {name : Value}

/-! ## Names without a text -/

/-- A text without characters: the empty one, or an outside object made of it. -/
def IsEmptyText : Value → Prop
  | .text t => t.isEmpty = true
  | .foreign _ .text _ => True
  | _ => False

/-- **A complaint about the first argument.** -/
def BlamesFirst (f : Failure) : Prop := f.kind = .argument ∧ ("index", Value.ofInt 1) ∈ f.details

theorem IsEmptyText.isComposite {v : Value} (h : IsEmptyText v) : v.isComposite = false := by
  cases v with
  | text => rfl
  | foreign _ base => cases base <;> first | rfl | exact h.elim
  | _ => exact h.elim

theorem IsEmptyText.not_truthy {v : Value} (h : IsEmptyText v) (w : World) : (w.read v).isTruthy = false := by
  cases v with
  | text => exact (Bool.not_eq_false' _).mpr h
  | foreign _ base => cases base <;> first | rfl | exact h.elim
  | _ => exact h.elim

/-- A value without a text is none that the language could name a class with. -/
theorem classText_of_none (h : name.string? = none) (w : World) : ∃ f, classText w name = .error f ∧ f.kind = .type := by
  unfold classText
  split
  · exact ⟨_, rfl, rfl⟩
  · rw [h]
    exact ⟨_, rfl, rfl⟩

/-- **A value without a text never names a class:** the request ends in an error, and nothing was done but looking. -/
theorem run_build_unnamed (hprobe : b.probe = none) (hname : b.name.string? = none) {react : Reaction}
    {r : Except Failure Value} (h : (buildWith react b).run w = (r, u)) :
    (∃ f, r = .error f) ∧ Idle w u ∧ u.classes.length = w.classes.length := by
  cases hexamined : (examine b).run w with
  | mk rb v =>
    cases rb with
    | ok birth =>
      obtain ⟨hnamed, -⟩ := examine_eq_ok hexamined
      cases hname.symm.trans hnamed
    | error f =>
      cases (run_buildWith_of_error hprobe hexamined).symm.trans h
      exact ⟨⟨f, rfl⟩, .of_lasts (examine_lasts b) hexamined, length_classes_of_lasts (examine_lasts b) hexamined⟩

/-! ## The check -/

/-- The place that a name is blamed on which does not count as a string. -/
def Blueprint.nameSite (b : Blueprint) : Option Frame :=
  CallStack.locate b.callers (Query.assertionFrame "assert_argument" :: buildFrame :: b.inner) (b.depth + 1)

/-- The value is refused under its type name if it does not count as a string. -/
theorem run_checkName_of_refused (h : (Query.typeOf b.sys b.name (.ofString "string")).run w = (.ok false, w₁))
    {actual : String} (hactual : (Query.typeName b.name).run w₁ = (.ok actual, u)) :
    (checkName b).run w = (.error (.argument (.ofInt 1) "1" "string" actual b.nameSite), u) :=
  Action.run_bind_of_error
    (Query.run_requireArgument_of_refused h hactual (Value.string?_ofString "string") rfl b.nameSite)

/-- An error that answering the query raises passes on. -/
theorem run_checkName_of_raised {f : Failure}
    (h : (Query.typeOf b.sys b.name (.ofString "string")).run w = (.error f, w₁)) :
    (checkName b).run w = (.error f, w₁) :=
  Action.run_bind_of_error (Action.run_bind_of_error h)

/-- What counts as a string and is empty is refused without a type name. -/
theorem run_checkName_of_empty (h : (Query.typeOf b.sys b.name (.ofString "string")).run w = (.ok true, w₁))
    (hempty : (w₁.read b.name).isTruthy = false) : (checkName b).run w = (.error (.emptyClassName b.site), w₁) := by
  rw [checkName, Action.run_bind_of_ok (Query.requireArgument_ok_iff.2 h), Action.run_bind_of_ok (Action.run_get w₁), hempty]
  rfl

theorem run_examine_of_error {f : Failure} (h : (checkName b).run w = (.error f, u)) :
    (examine b).run w = (.error f, u) :=
  Action.run_bind_of_error h

section

variable (hs : w.system? b.sys = some s)
include hs

/-- A value that is not asked is judged by its category and the registry, and refused under its category. -/
theorem run_checkName_of_uncounted (htype : Query.Lacks b.name "type_of" w w)
    (hname : (Query.typeName b.name).run w = (.ok b.name.category.name, w)) (hcounts : ¬CountsAsString w s b.name) :
    (checkName b).run w = (.error (.argument (.ofInt 1) "1" "string" b.name.category.name b.nameSite), w) := by
  obtain ⟨answer, hrun, hiff⟩ := htype.run_typeOf hs (Value.string?_ofString "string")
  have hanswer : answer = false := Bool.eq_false_iff.2 (mt hiff.1 hcounts)
  exact run_checkName_of_refused (hanswer ▸ hrun) hname

/-- A text that does not count as a string is refused under that very type name. -/
theorem run_checkName_of_uncounted_text {n : String} (hname : b.name = .ofString n) (hcounts : ¬CountsAsString w s b.name) :
    (checkName b).run w = (.error (.argument (.ofInt 1) "1" "string" "string" b.nameSite), w) := by
  have hlacks {key : String} : Query.Lacks b.name key w w := hname ▸ lacks_text _ key w
  have hcategory : b.name.category.name = "string" := by
    rw [hname]
    rfl
  rw [run_checkName_of_uncounted hs hlacks (Action.run_bind_of_ok hlacks.run) hcounts, hcategory]

/-- An empty text is refused as the first argument, whether it counts as a string or not. -/
theorem run_checkName_of_isEmptyText (hempty : IsEmptyText b.name) :
    ∃ f, (checkName b).run w = (.error f, w) ∧ BlamesFirst f := by
  have hlacks (key : String) : Query.Lacks b.name key w w := .inl ⟨hempty.isComposite, rfl⟩
  obtain ⟨answer, hrun, hiff⟩ := (hlacks "type_of").run_typeOf hs (Value.string?_ofString "string")
  cases answer with
  | true => exact ⟨_, run_checkName_of_empty hrun (hempty.not_truthy w), rfl, List.mem_cons_self⟩
  | false =>
    have hname : (Query.typeName b.name).run w = (.ok b.name.category.name, w) :=
      Action.run_bind_of_ok (hlacks "type").run
    exact ⟨_, run_checkName_of_refused hrun hname, rfl, List.mem_cons_self⟩

end

/-! ## Through a type system -/

/-- **Names of classes are checked as types.** Whatever is registered and whatever the delimiter is, an empty text is refused
as the first argument, and a value without a text names no class. Such a value is asked whether it is a string, by the
expression that names the strings: if it says no, or cannot be asked and no enumeration under an alternative has it, it is
refused as the first argument under its type name; if it is let through, the language refuses it, after the parents have been
checked; and an error of the query passes on. A text that is not empty is let through exactly when it counts as a string, and
then the class is entered; it always does where the delimiter does not occur in the name of the strings. -/
theorem class_names_are_checked_as_types {sys : String} (hs : w.system? sys = some s) (throughPackage : Bool) (name : Value)
    (parents : List Value) (module : Option Value) {depth : Int} (hdepth : depth.toNat ≤ CallStack.outsideDepth)
    (stack : CallStack) :
    -- an empty text
    (IsEmptyText name →
      ∃ f, (defineClass sys throughPackage name parents module depth stack).run w = (.error f, w) ∧ BlamesFirst f) ∧
    -- a value without a text
    (name.string? = none →
      (∀ r u, (defineClass sys throughPackage name parents module depth stack).run w = (r, u) →
        (∃ f, r = .error f) ∧ Idle w u ∧ u.classes.length = w.classes.length) ∧
      (name.IsNative → ¬CountsAsString w s name → ∃ site,
        (defineClass sys throughPackage name parents module depth stack).run w =
          (.error (.argument (.ofInt 1) "1" "string" name.category.name site), w)) ∧
      (∀ w₁ actual u, (Query.typeOf sys name (.ofString "string")).run w = (.ok false, w₁) →
        (Query.typeName name).run w₁ = (.ok actual, u) → ∃ site,
          (defineClass sys throughPackage name parents module depth stack).run w =
            (.error (.argument (.ofInt 1) "1" "string" actual site), u)) ∧
      (∀ w₁, (Query.typeOf sys name (.ofString "string")).run w = (.ok true, w₁) →
        (w₁.read name).isTruthy = true → ∀ given : List Nat, parents = given.map .cls →
          (∀ p ∈ given, ∃ c, w₁.class? p = some c) →
          ∃ f, (defineClass sys throughPackage name parents module depth stack).run w = (.error f, w₁) ∧ f.kind = .type) ∧
      (∀ w₁, (Query.typeOf sys name (.ofString "string")).run w = (.ok true, w₁) → (w₁.read name).isTruthy = false →
        ∃ f, (defineClass sys throughPackage name parents module depth stack).run w = (.error f, w₁) ∧ BlamesFirst f) ∧
      ∀ f w₁, (Query.typeOf sys name (.ofString "string")).run w = (.error f, w₁) →
        (defineClass sys throughPackage name parents module depth stack).run w = (.error f, w₁)) ∧
    -- a text
    (∀ n, name = .ofString n → n ≠ "" → Char.ofNat 0 ∉ n.toList → ∀ given : List Nat, parents = given.map .cls →
      (∀ p ∈ given, ∃ c, w.class? p = some c) → ¬HandsDownCell w s.excluded (effectiveParents given) →
      (¬CountsAsString w s name → ∃ site, (defineClass sys throughPackage name parents module depth stack).run w =
        (.error (.argument (.ofInt 1) "1" "string" "string" site), w)) ∧
      (CountsAsString w s name → ∃ r, r.name = n ∧ r.parents = effectiveParents given ∧
        (∀ (told : Except Failure Unit) u,
          (announce react s.manager (.cls w.classes.length r.parents)).run (enterClass w r).1 = (told, u) →
          (defineClass sys throughPackage name parents module depth stack).run w =
            (told.map fun _ => .cls w.classes.length, u)) ∧
        (Silent w s.manager → (defineClass sys throughPackage name parents module depth stack).run w =
          (.ok (.cls w.classes.length), (enterClass w r).1))) ∧
      (¬ s.delimiter.toList <:+: "string".toList → CountsAsString w s name)) := by
  obtain ⟨inner, b, hb, hrun⟩ := run_defineClass hs throughPackage name parents module hdepth stack
  obtain ⟨rfl, hmanager, hexcluded, rfl, rfl, hprobe, -, hown⟩ := hb.fixed hs
  have hrefused {f : Failure} {u : World} (h : (checkName b).run w = (.error f, u)) :
      (defineClass b.sys throughPackage b.name b.parents module depth stack).run w = (.error f, u) :=
    hrun.trans (run_buildWith_of_error hprobe (run_examine_of_error h))
  have hfree : reservedIn? b.own = none := reservedIn?_eq_none_iff.2 fun e he => (hown e he).1
  refine ⟨fun hempty => ?_, fun hnone => ⟨fun r u h => ?_, fun hnative hcounts => ?_, fun w₁ actual u h hactual => ?_,
    fun w₁ h htrue given hparents hgiven => ?_, fun w₁ h hfalse => ?_, fun f w₁ h => hrefused (run_checkName_of_raised h)⟩,
    fun n hname hn hnull given hparents hgiven hcell => ⟨fun hcounts => ?_, fun hcounts => ?_, fun hd => ?_⟩⟩
  · obtain ⟨f, hchecked, hf⟩ := run_checkName_of_isEmptyText hs hempty
    exact ⟨f, hrefused hchecked, hf⟩
  · exact run_build_unnamed hprobe hnone (hrun.symm.trans h)
  · exact ⟨_, hrefused (run_checkName_of_uncounted hs (Query.lacks_of_isNative hnative (by decide) w)
      (Query.run_typeName_of_isNative hnative w) hcounts)⟩
  · exact ⟨_, hrefused (run_checkName_of_refused h hactual)⟩
  · obtain ⟨f, hf, hkind⟩ := classText_of_none hnone w₁
    refine ⟨f, hrun.trans (run_buildWith_of_error hprobe ?_), hkind⟩
    rw [run_examine_of_unreserved (checkName_ok_iff.2 ⟨h, htrue⟩) hparents hgiven hfree, hf]
    rfl
  · exact ⟨_, hrefused (run_checkName_of_empty h hfalse), rfl, List.mem_cons_self⟩
  · exact ⟨_, hrefused (run_checkName_of_uncounted_text hs hname hcounts)⟩
  · have hnames : Names w s b.name n := hname ▸ names_ofString hn hnull (hname ▸ hcounts)
    obtain ⟨r, hr, hexamined⟩ := run_examine hs hnames hparents hgiven hown (hexcluded ▸ hcell)
    obtain ⟨hrname, -, -, hrparents, -⟩ := birth_eq_ok hr
    refine ⟨r, hrname, hrparents, fun told u htold => ?_, fun hsilent => ?_⟩
    · exact hrun.trans (run_buildWith_of_ok hprobe hexamined (hmanager ▸ htold))
    · exact hrun.trans (run_buildWith_of_silent hprobe (hmanager ▸ hsilent) hexamined)
  · rw [hname]
    exact countsAsString_text hd _

/-- A world with a type system whose delimiter occurs in the name of the strings, and another in which an enumeration with a
number stands under that name. -/
def obstinateWorld : World :=
  { World.initial with
    systems := [("torn", ⟨"t", [], defaultExcluded, 0⟩),
      ("main", ⟨"|", [("string", .enum 0 "string" [(.ofString "FIVE", .ofInt 5)])], defaultExcluded, 0⟩)]
    managers := [⟨[], false⟩] }

/-- No class can be defined in the one system, and in the other a number gets past the check of the name. -/
theorem name_is_refused_and_number_is_not :
    obstinateWorld.system? "torn" = some ⟨"t", [], defaultExcluded, 0⟩ ∧
      (∃ site, (defineClass "torn" false (.ofString "A") [] none 1 ⟨[]⟩).run obstinateWorld =
        (.error (.argument (.ofInt 1) "1" "string" "string" site), obstinateWorld)) ∧
      ∃ f, (defineClass "main" false (.ofInt 5) [] none 1 ⟨[]⟩).run obstinateWorld = (.error f, obstinateWorld) ∧
        f.kind = .type := by
  have hdepth : (1 : Int).toNat ≤ CallStack.outsideDepth := by decide
  have htorn : obstinateWorld.system? "torn" = some ⟨"t", [], defaultExcluded, 0⟩ := rfl
  have hmain : obstinateWorld.system? "main" =
      some ⟨"|", [("string", .enum 0 "string" [(.ofString "FIVE", .ofInt 5)])], defaultExcluded, 0⟩ := rfl
  obtain ⟨-, -, htext⟩ := class_names_are_checked_as_types htorn false (.ofString "A") [] none hdepth ⟨[]⟩
  obtain ⟨-, hnumber, -⟩ := class_names_are_checked_as_types hmain false (.ofInt 5) [] none hdepth ⟨[]⟩
  have hcounts : ¬CountsAsString obstinateWorld ⟨"t", [], defaultExcluded, 0⟩ (.ofString "A") := by
    rintro ⟨a, ha, heq | ⟨_, _, _, hregistered, -⟩⟩
    · rw [heq] at ha
      exact absurd ha (by decide +kernel)
    · cases hregistered
  have hcell : ¬HandsDownCell obstinateWorld defaultExcluded (effectiveParents []) := by
    unfold HandsDownCell
    decide +kernel
  obtain ⟨hrefused, -⟩ := htext "A" rfl (by decide) (by decide) [] rfl (fun _ hp => nomatch hp) hcell
  have hnative : (Value.ofInt 5).IsNative := trivial
  have hlacks := Query.lacks_of_isNative hnative (by decide : "type_of" ∈ answerKeys) obstinateWorld
  obtain ⟨answer, hrun, hiff⟩ := hlacks.run_typeOf hmain (Value.string?_ofString "string")
  have hyes : answer = true := hiff.2 ⟨"string", by decide +kernel, .inr ⟨0, "string", _, rfl, _, List.mem_cons_self, rfl,
    by decide +kernel⟩⟩
  obtain ⟨-, -, -, hpassed, -⟩ := hnumber rfl
  exact ⟨htorn, hrefused hcounts, hpassed _ (hyes ▸ hrun) rfl [] rfl (fun _ hp => nomatch hp)⟩

end Lineage.Definition
