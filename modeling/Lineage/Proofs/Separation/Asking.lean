import Lineage.Proofs.Separation.Calling

/-!
# Asking — type queries and assertions in two worlds

Asking a value for its type name, asking whether it satisfies an expression, and asserting that it does run abreast in two
worlds that look alike to a client: the answers are the same, and what a refusal says is the same.
-/

set_option autoImplicit false

namespace Lineage

namespace Query

variable {c : Client} {s : Matching} {w w' : World} {v v' x x' : Value}
  (hw : Together c s w w')

include hw

/-- A client finds its own system, which is alike in both worlds. -/
theorem system_abreast : Abreast c s w w' (SystemLike c) (system c.system) (system c.system) := by
  obtain ⟨p, q, hp, hq, hpq⟩ := hw.system
  refine .get_bind ?_
  simp only [hp, hq]
  exact .pure hw hpq

theorem isMember_eq (hv : Like s v v') (hx : Like s x x') : isMember w v x = isMember w' v' x' := by
  unfold isMember
  rw [hx.category, hv.category, (hw.read hx).equal hw.oneToOne (hw.read hv)]

theorem registryHas_eq {p q : System} (hpq : SystemLike c s p q) (name : String) (hv : Like s v v') :
    registryHas w p.enums name v = registryHas w' q.enums name v' := by
  unfold registryHas
  obtain ⟨he, hf⟩ | ⟨e, f, he, hf, hef⟩ := rel_cases (hpq.enums.get? name) <;> rw [he, hf]
  · rfl
  · rw [Option.elim_some, Option.elim_some]
    cases hef with
    | enum n _ hes => exact hes.any_eq fun _ hm => isMember_eq hw hv hm
    | _ => rfl

theorem capability?_abreast (hv : Like s v v') (key : String) :
    Abreast c s w w' Access.LikeOption (capability? v key) (capability? v' key) := by
  unfold capability?
  rw [hv.isComposite]
  split
  · exact .pure hw .none
  · refine (Access.read?_abreast hw hv key).bind fun _ hu hf => ?_
    cases hf with
    | none => exact .pure hu .none
    | some hf =>
      refine .get_bind ?_
      rw [hu.named.isCallable_eq hf]
      split
      · exact .pure hu (.some hf)
      · exact .pure hu .none

theorem satisfies_abreast (hv : Like s v v') (name : String) :
    Abreast c s w w' Same (satisfies c.system v name) (satisfies c.system v' name) := by
  unfold satisfies
  rw [hv.category]
  split
  · exact .pure hw rfl
  · refine (capability?_abreast hw hv "type_of").bind fun ho hu hf => ?_
    cases hf with
    | none =>
      refine (system_abreast hu).bind fun ho' hu' hp => .get_bind (.pure hu' ?_)
      exact registryHas_eq hu' hp name (hv.mono (ho.le.trans ho'.le))
    | some hf =>
      refine (Access.call_abreast hu hf (.cons (.ofString name) .nil)).bind fun _ hu' ha => .get_bind (.pure hu' ?_)
      exact (hu'.read ha).isTruthy

theorem firstSatisfied_abreast (hv : Like s v v') (names : List String) :
    Abreast c s w w' Same (firstSatisfied c.system v names) (firstSatisfied c.system v' names) := by
  induction names generalizing s w w' with
  | nil => exact .pure hw rfl
  | cons name rest ih =>
    refine (satisfies_abreast hw hv name).bind fun ho hu ha => ?_
    cases ha
    split
    · exact .pure hu rfl
    · exact ih hu (hv.mono ho.le)

theorem findMatch_abreast (hv : Like s v v') (hx : Like s x x') :
    Abreast c s w w' Same (findMatch c.system v x) (findMatch c.system v' x') := by
  unfold findMatch
  rw [hx.string?, hx.category]
  split
  · exact .throw hw (.argument (.ofInt 2) _ _ _ _)
  · refine (system_abreast hw).bind fun ho hu hp => ?_
    rw [hp.delimiter]
    exact firstSatisfied_abreast hu (hv.mono ho.le) _

/-- **Type queries** run abreast. -/
theorem typeOf_abreast (hv : Like s v v') (hx : Like s x x') :
    Abreast c s w w' Same (typeOf c.system v x) (typeOf c.system v' x') :=
  (findMatch_abreast hw hv hx).bind fun _ hu h => .pure hu (congrArg Option.isSome h)

/-- **Type names** are asked for abreast. -/
theorem typeName_abreast (hv : Like s v v') : Abreast c s w w' Same (typeName v) (typeName v') := by
  refine (capability?_abreast hw hv "type").bind fun ho hu hf => ?_
  cases hf with
  | none => exact .pure hu (congrArg Category.name hv.category)
  | some hf => exact (Access.call_abreast hu hf .nil).bind fun _ hu' ha => Access.shown_abreast hu' ha

/-! ## Assertions -/

theorem require_abreast (hv : Like s v v') (hx : Like s x x') {l l' : Value} (hl : Like s l l') (site : Option Frame) :
    Abreast c s w w' Same (require c.system v x l site) (require c.system v' x' l' site) := by
  refine (typeOf_abreast hw hv hx).bind fun ho hu ha => ?_
  cases ha
  split
  · exact .pure hu rfl
  refine (typeName_abreast hu (hv.mono ho.le)).bind fun ho' hu' hn => ?_
  cases hn
  have hl' := hl.mono (ho.le.trans ho'.le)
  refine .get_bind ?_
  rw [(hu'.read hl').isTruthy, expressionText, hx.string?]
  split
  · refine (Access.shown_abreast hu' hl').bind fun ho'' hu'' ht => ?_
    cases ht
    exact .throw hu'' (.typeMismatch (hl'.mono ho''.le) _ _ _ _)
  · exact .throw hu' (.typeMismatch hl' _ _ _ _)

theorem requireArgument_abreast (hv : Like s v v') (hx : Like s x x') {i i' : Value} (hi : Like s i i') (site : Option Frame) :
    Abreast c s w w' Same (requireArgument c.system i v x site) (requireArgument c.system i' v' x' site) := by
  refine (typeOf_abreast hw hv hx).bind fun ho hu ha => ?_
  cases ha
  split
  · exact .pure hu rfl
  refine (typeName_abreast hu (hv.mono ho.le)).bind fun ho' hu' hn => ?_
  cases hn
  have hi' := hi.mono (ho.le.trans ho'.le)
  refine (Access.shown_abreast hu' hi').bind fun ho'' hu'' ht => ?_
  cases ht
  rw [expressionText, hx.string?]
  exact .throw hu'' (.argument (hi'.mono ho''.le) _ _ _ _)

theorem typed_abreast (entry : Entry) (hv : Like s v v') (hx : Like s x x') {l l' : Value} (hl : Like s l l') (depth : Int)
    (stack : CallStack) :
    Abreast c s w w' Like (typed entry c.system v x l depth stack) (typed entry c.system v' x' l' depth stack) :=
  (require_abreast hw hv hx hl _).bind fun ho hu _ => .pure hu (hv.mono ho.le)

theorem typedArgument_abreast (entry : Entry) (hv : Like s v v') (hx : Like s x x') {i i' : Value} (hi : Like s i i')
    (depth : Option Int) (stack : CallStack) : Abreast c s w w' Like (typedArgument entry c.system i v x depth stack)
      (typedArgument entry c.system i' v' x' depth stack) :=
  (requireArgument_abreast hw hv hx hi _).bind fun ho hu _ => .pure hu (hv.mono ho.le)

end Query

end Lineage
