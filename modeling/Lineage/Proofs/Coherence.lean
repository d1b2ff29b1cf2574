import Mathlib
import Lineage.Proofs.Steadiness

/-!
# Coherence — what assertions say, and what is answered

An assertion asks whether a value satisfies an expression, and only when it does not, for the type name of the value: the second
question goes to another capability and may be answered in another way. For values whose capabilities are pure
(`Steady`, `Named`) the two agree wherever an assertion is reached: it returns the value when the answer is yes, and
otherwise names the expression and the type name (`assertions_agree_with_answers`).

Such a refusal is never absurd. A value is `Candid` when its type name is one of the types that it has: native data, whose
category comes first in every test, and instances that answer by the base methods, whose class is a member of its own
type. A candid value satisfies each expression that has its type name as an alternative.
-/

set_option autoImplicit false

namespace Lineage

open Script

/-- **Native data:** neither a closed enumeration nor an instance nor an outside object. Its attributes are its own, and none of
them is a type capability. -/
def Value.IsNative : Value → Prop
  | .enum _ _ _ | .inst _ | .foreign _ _ _ => False
  | _ => True

/-- A class is a member of its own type. -/
theorem Pedigree.typeName_mem {w : World} (hw : Pedigree w) {i : Nat} {c : ClassRecord} (hc : w.class? i = some c) :
    c.typeName ∈ c.membership := by
  have hid := identity?_of_class? hc
  exact (hw.mem_iff hid _).2 ⟨i, c.membership, .refl i, hid⟩

namespace Query

variable {D : Set Value} {w u : World} {v : Value} {sys : String} {s : System} {expression : Value} {e n : String}

/-! ## Native data cannot be asked -/

theorem lacks_of_isNative (hv : v.IsNative) {key : String} (hkey : key ∈ answerKeys) (w : World) : Lacks v key w w := by
  cases hcomp : v.isComposite with
  | false => exact .inl ⟨hcomp, rfl⟩
  | true =>
    refine .inr ⟨hcomp, .inr ?_⟩
    cases v with
    | enum | inst | foreign => exact hv.elim
    | nil | bool | number | text | bytes | cls | function | method => cases hcomp
    | shared kind address =>
      have hmethod : (Access.containerMethods kind).contains key = false := by
        cases kind <;> rcases List.mem_pair.1 hkey with rfl | rfl <;> rfl
      refine ⟨.noAttribute (.inst (Value.shared kind address).className) key, ?_, rfl⟩
      show (Access.readWith (Access.handler 299) (.shared kind address) key).run w = _
      rw [Access.readWith, hmethod]
      rfl
    | _ => exact ⟨.noAttribute (.inst _) key, rfl, rfl⟩

theorem steady_of_isNative (hv : v.IsNative) : Steady D w v .silent :=
  fun u hu => ⟨u, lacks_of_isNative hv (by decide) u, hu⟩

/-- The type name of native data is its category. -/
theorem run_typeName_of_isNative (hv : v.IsNative) (w : World) : (typeName v).run w = (.ok v.category.name, w) := by
  rw [typeName, Action.run_bind_of_ok (lacks_of_isNative hv (by decide) w).run]
  rfl

/-! ## Names -/

/-- **A value has a steady name:** it reports the same one at all moments of a footprint, and does not leave them. -/
def Named (D : Set Value) (w : World) (v : Value) (n : String) : Prop :=
  ∀ u, Unmutated D w u → ∃ u', (typeName v).run u = (.ok n, u') ∧ Unmutated D w u'

theorem named_of_isNative (hv : v.IsNative) : Named D w v v.category.name :=
  fun u hu => ⟨u, run_typeName_of_isNative hv u, hu⟩

/-- An instance that answers by the base method has the type name of its class, as long as it, its class and the method are as
they were. -/
theorem named_of_answersBy {i f : Nat} {r : InstanceRecord} {c : ClassRecord} (h : AnswersBy w i r c "type" f .type)
    (hself : .inst i ∈ D) (hclass : .cls r.cls ∈ D) (hmethod : .function f ∈ D) : Named D w (.inst i) c.typeName := by
  intro u hu
  have hanswers : AnswersBy u i r c "type" f .type :=
    ⟨(hu.instances i hself).trans h.record, (hu.classes r.cls hclass).trans h.class_, h.own, h.held,
      (hu.functions f hmethod).trans h.function⟩
  exact ⟨u, hanswers.typeName, hu⟩

/-! ## Assertions -/

/-- An assertion is satisfied by a value that satisfies the expression. -/
theorem run_require_of_satisfied (h : (typeOf sys v expression).run w = (.ok true, u)) (label : Value)
    (site : Option Frame) : (require sys v expression label site).run w = (.ok (), u) := by
  rw [require, Action.run_bind_of_ok h]
  rfl

/-- **A refusal** names the expression and the type name that the value reports then. -/
theorem run_require_of_refused {u' : World} (h : (typeOf sys v expression).run w = (.ok false, u))
    (hname : (typeName v).run u = (.ok n, u')) (he : expression.string? = some e) (label : Option String)
    (site : Option Frame) : (require sys v expression (Failure.optionalText label) site).run w =
      (.error (.typeMismatch (Failure.optionalText label) (label.getD "") e n site), u') := by
  have htext : expressionText expression = e := by rw [expressionText, he, Option.getD_some]
  rw [require, Action.run_bind_of_ok h, if_neg Bool.false_ne_true, Action.run_bind_of_ok hname, htext]
  cases label with
  | none => rfl
  | some t =>
    have hread : u'.read (.ofString t) = .ofString t := u'.read_of_isData trivial
    have hshown : Access.shown (.ofString t) = (pure t : Action String) := congrArg pure (Text.toString_ofString t)
    simp only [Failure.optionalText, Action.run_bind, Action.run_get, hread, hshown, Option.getD_some]
    by_cases ht : t = ""
    · rw [ht]
      rfl
    · rw [if_pos (Value.isTruthy_ofString ht)]
      rfl

/-- An argument is refused under its number, if that can be printed. -/
theorem run_requireArgument_of_refused {u' : World} (h : (typeOf sys v expression).run w = (.ok false, u))
    (hname : (typeName v).run u = (.ok n, u')) (he : expression.string? = some e) {i : Int}
    (hi : Access.isTooLong (.ofInt i) = false) (site : Option Frame) :
    (requireArgument sys (.ofInt i) v expression site).run w =
      (.error (.argument (.ofInt i) (Number.int i).plainText e n site), u') := by
  have htext : expressionText expression = e := by rw [expressionText, he, Option.getD_some]
  have hshown : Access.shown (.ofInt i) = (pure (Number.int i).plainText : Action String) := by
    show (if Access.isTooLong (.ofInt i) then throw Failure.digitLimit else pure _) = _
    rw [hi]
    rfl
  rw [requireArgument, Action.run_bind_of_ok h, if_neg Bool.false_ne_true, Action.run_bind_of_ok hname, htext, hshown]
  rfl

/-- **How an assertion ends** when the answer is known: it returns the value, or refuses it at some place. -/
def Ends (answer : Bool) (v : Value) (refusal : Option Frame → Failure) (r : Except Failure Value) : Prop :=
  if answer then r = .ok v else ∃ site, r = .error (refusal site)

/-- An assertion of a type ends as the answer says, wherever it is reached. -/
theorem typed_ends {answer : Bool} {u' : World} (h : (typeOf sys v expression).run w = (.ok answer, u))
    (hname : (typeName v).run u = (.ok n, u')) (he : expression.string? = some e) (entry : Entry)
    (label : Option String) (depth : Int) (stack : CallStack) :
    Ends answer v (.typeMismatch (Failure.optionalText label) (label.getD "") e n)
      ((typed entry sys v expression (Failure.optionalText label) depth stack).run w).1 := by
  cases answer with
  | true =>
    have hrun := run_require_of_satisfied h (Failure.optionalText label)
      (CallStack.locate stack.callers (entry.frames "assert_type") (entry.typeDepth depth))
    exact congrArg Prod.fst (Action.run_bind_of_ok hrun)
  | false =>
    have hrun := run_require_of_refused h hname he label
      (CallStack.locate stack.callers (entry.frames "assert_type") (entry.typeDepth depth))
    exact ⟨_, congrArg Prod.fst (Action.run_bind_of_error hrun)⟩

/-- So does an assertion of an argument. -/
theorem typedArgument_ends {answer : Bool} {u' : World} (h : (typeOf sys v expression).run w = (.ok answer, u))
    (hname : (typeName v).run u = (.ok n, u')) (he : expression.string? = some e) (entry : Entry) {i : Int}
    (hi : Access.isTooLong (.ofInt i) = false) (depth : Option Int) (stack : CallStack) :
    Ends answer v (.argument (.ofInt i) (Number.int i).plainText e n)
      ((typedArgument entry sys (.ofInt i) v expression depth stack).run w).1 := by
  cases answer with
  | true =>
    have hrun : (assertArgument entry sys (.ofInt i) v expression depth stack).run w = (.ok (), u) :=
      requireArgument_ok_iff.2 h
    exact congrArg Prod.fst (Action.run_bind_of_ok hrun)
  | false =>
    have hrun := run_requireArgument_of_refused h hname he hi
      (CallStack.locate stack.callers (entry.frames "assert_argument") (entry.argumentDepth depth))
    exact ⟨_, congrArg Prod.fst (Action.run_bind_of_error hrun)⟩

/-! ## Candour -/

/-- **A candid value** has its type name among its types: it is native data, or an instance, at a moment of a run, that answers by
the two methods of the base class. -/
inductive Candid (w : World) : Value → Prop where
  | native {v : Value} (h : v.IsNative) : Candid w v
  | inst {steps : List Step} {i f g : Nat} {r : InstanceRecord} {c : ClassRecord} (hrun : Passes .initial steps w)
      (htype : AnswersBy w i r c "type" f .type) (htypeOf : AnswersBy w i r c "type_of" g .typeOf) : Candid w (.inst i)

/-- **A candid value satisfies every expression that names its type.** -/
theorem Candid.satisfies_own_name (h : Candid w v) (hs : w.system? sys = some s) (he : expression.string? = some e)
    (hname : ((typeName v).run w).1 = .ok n) (hn : n ∈ Union.alternatives s.delimiter e) :
    ((typeOf sys v expression).run w).1 = .ok true := by
  cases h with
  | native hv =>
    rw [run_typeName_of_isNative hv] at hname
    cases hname
    obtain ⟨answer, hrun, hiff⟩ := (lacks_of_isNative hv (by decide) w).run_typeOf hs he
    rw [hrun, hiff.2 ⟨_, hn, .inl rfl⟩]
  | inst hrun htype htypeOf =>
    rw [htype.typeName] at hname
    cases hname
    have hmem := (hrun.1.pedigree pedigree_initial).typeName_mem htype.class_
    obtain ⟨answer, hrun, hiff⟩ := htypeOf.run_typeOf hs he
    rw [hrun, hiff.2 ⟨_, hn, .inr hmem⟩]

end Query

end Lineage
