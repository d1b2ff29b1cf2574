import Mathlib
import Lineage.Proofs.Ancestry
import Lineage.Proofs.Matching

/-!
# Delegation — type queries on instances are membership queries

Instances answer for their types with two methods of the base class, which every build copies along. As long as nobody
touches the keys of the two (`Entry.KeepsAnswers`), every class holds them and no instance hides them (`Delegating`);
the copied functions work on the class of the receiver. So the type name of an instance is that of its class, and an
expression is satisfied when it names an object in general or a type that the class is a member of, whatever is registered
(`type_queries_are_membership`).
-/

set_option autoImplicit false

namespace Lineage

open Script

/-! ## Lines that leave the answers alone -/

/-- The keys of the methods that answer for the type. -/
def answerKeys : List String := ["type", "type_of"]

/-- The keys that the language itself puts into the body of a class. -/
def bodyKeys : List String :=
  bookkeepingKeys ++ ["__classcell__", "__annotations__", "__annotate__", "__annotate_func__", "__conditional_annotations__",
    "__classdictcell__", "__type_params__", "__orig_bases__"]

/-- Whether a key is written like those that the language gives a meaning. -/
def isDunder (key : String) : Bool := key.startsWith "__" && key.endsWith "__"

/-- A key that a class may hold without its instances answering differently. -/
def Harmless (key : String) : Prop :=
  key ∉ answerKeys ∧ (isDunder key = true → key ∈ ["__init__", "__repr__"] ++ bodyKeys)

/-- **A line of the journal that leaves the answers alone.** -/
def Entry.KeepsAnswers : Entry → Prop
  | .built _ b => (∀ e ∈ b.own, Harmless e.1) ∧ ∀ key ∈ b.excluded, key ∉ answerKeys
  | .made _ _ => True
  | .assigned (.cls _) key _ => Harmless key
  | .assigned (.inst _) key _ => key ∉ answerKeys
  | .erased _ key => key ∉ answerKeys

instance (key : String) : Decidable (Harmless key) := inferInstanceAs (Decidable (_ ∧ _))

instance : DecidablePred Entry.KeepsAnswers
  | .built _ _ => inferInstanceAs (Decidable (_ ∧ _))
  | .made _ _ => inferInstanceAs (Decidable True)
  | .assigned (.cls _) key _ => inferInstanceAs (Decidable (Harmless key))
  | .assigned (.inst _) key _ => inferInstanceAs (Decidable (key ∉ answerKeys))
  | .erased _ key => inferInstanceAs (Decidable (key ∉ answerKeys))

/-! ## The invariant -/

/-- A key stands for one method of the base class on all classes, and on no instance for anything else. -/
structure Answers (w : World) (key : String) (n : Nat) (m : BaseMethod) : Prop where
  /-- The function is the method. -/
  function : w.behaviours[n]? = some (.base m)
  /-- Every class holds the function. -/
  held : ∀ {i : Nat} {c : ClassRecord}, w.class? i = some c → c.body.Pins key (.function n)
  /-- No instance hides it. -/
  own : ∀ {i : Nat} {r : InstanceRecord}, w.instances[i]? = some r → Fields.get? r.attributes key = none

/-- Every instance is of a class. -/
def Placed (w : World) : Prop :=
  ∀ {i : Nat} {r : InstanceRecord}, w.instances[i]? = some r → ∃ c, w.class? r.cls = some c

/-- **Type queries are delegated:** both methods answer on every instance. -/
structure Delegating (w : World) : Prop where
  type : Answers w "type" 1 .type
  typeOf : Answers w "type_of" 2 .typeOf
  placed : Placed w

/-! ## One change -/

theorem answerKeys_ordinary :
    ∀ key ∈ answerKeys, key ∉ reservedKeys ∧ key ≠ "__hash__" ∧ key ∉ bookkeepingKeys := by
  decide

theorem isInherited_of_keeps {b : Birth} {i : Nat} (h : (Entry.built i b).KeepsAnswers) {key : String}
    (hkey : key ∈ answerKeys) : Composition.isInherited b.excluded key = true := by
  have hbookkeeping : key ∉ bookkeepingKeys := (answerKeys_ordinary key hkey).2.2
  have hexcluded : key ∉ b.excluded := fun hmem => h.2 key hmem hkey
  simp only [Composition.isInherited, List.contains_eq_mem, hbookkeeping, hexcluded, decide_false, Bool.not_false,
    Bool.and_self]

theorem attributes_assign {r : InstanceRecord} {k key : String} (hne : k ≠ key) (x : Value) :
    Fields.get? (r.assign k x).attributes key = Fields.get? r.attributes key := by
  unfold InstanceRecord.assign
  split
  · cases x <;> rfl
  · exact Fields.get?_set_of_ne r.attributes x (Ne.symm hne)

theorem Answers.commit {w : World} {key : String} {n : Nat} {m : BaseMethod} (h : Answers w key n m)
    (hkey : key ∈ answerKeys) (hw : Pedigree w) {e : Entry} (he : e.Fits w) (hkeeps : e.KeepsAnswers) :
    Answers (w.commit e) key n m where
  function := by
    rw [World.commit_behaviours]
    exact h.function
  held := by
    intro i c' hc'
    rcases class?_commit hc' with ⟨c, hc, rfl | ⟨k, x, rfl, rfl⟩ | ⟨k, rfl, rfl⟩⟩ | ⟨j, b, rfl, -, rfl⟩
    · exact h.held hc
    · exact ClassRecord.pins_assign (h.held hc) (ne_of_mem_of_not_mem hkey hkeeps.1).symm x
    · exact (h.held hc).erase_of_ne (ne_of_mem_of_not_mem hkey hkeeps).symm
    · obtain ⟨hreserved, hhash, -⟩ := answerKeys_ordinary key hkey
      obtain ⟨hne, hparents⟩ := parents_of_fits he (identity?_lt hw.base)
      refine Composition.pins_classOf (fun hnil => ?_) (fun p hp => ?_) (isInherited_of_keeps hkeeps hkey)
        (fun e he' => (ne_of_mem_of_not_mem hkey (hkeeps.1 e he').1).symm) hreserved hhash
      · obtain ⟨p, hp⟩ := List.exists_mem_of_ne_nil _ hne
        have hnone := List.filterMap_eq_nil_iff.1 hnil p hp
        rw [World.class?, List.getElem?_eq_getElem (hparents p hp)] at hnone
        cases hnone
      · obtain ⟨q, -, hq⟩ := List.mem_filterMap.1 hp
        exact h.held hq
  own := by
    intro i r' hr'
    rcases instances_commit hr' with ⟨r, hr, rfl | ⟨k, x, rfl, rfl⟩ | ⟨k, rfl, rfl⟩⟩ | ⟨j, k, rfl, -, rfl⟩
    · exact h.own hr
    · rw [attributes_assign (ne_of_mem_of_not_mem hkey hkeeps).symm]
      exact h.own hr
    · rw [InstanceRecord.erase, Fields.get?_erase_of_ne _ (ne_of_mem_of_not_mem hkey hkeeps)]
      exact h.own hr
    · rfl

/-- Classes stay. -/
theorem class?_kept {w : World} {e : Entry} (he : e.Fits w) {i : Nat} {c : ClassRecord} (hc : w.class? i = some c) :
    ∃ c', (w.commit e).class? i = some c' := by
  have hid := identity?_of_class? hc
  rw [← identity?_commit he (identity?_lt hid)] at hid
  obtain ⟨c', hc', -⟩ := class?_of_identity? hid
  exact ⟨c', hc'⟩

theorem class_of_assign {w : World} {i : Nat} {r : InstanceRecord} {key : String} {x : Value}
    (hn : Access.instanceSetRefusal? w i r key x = none) (hr : ∃ c, w.class? r.cls = some c) :
    ∃ c, w.class? (r.assign key x).cls = some c := by
  unfold InstanceRecord.assign
  split
  · next hkey =>
    cases x with
    | cls j =>
      unfold Access.instanceSetRefusal? at hn
      split at hn
      · cases hn
      · rw [if_pos hkey] at hn
        dsimp only at hn
        split at hn
        · next hsome => exact Option.isSome_iff_exists.1 hsome
        · cases hn
    | _ => exact hr
  · exact hr

theorem Placed.commit {w : World} (h : Placed w) {e : Entry} (he : e.Fits w) : Placed (w.commit e) := by
  intro i r' hr'
  have hplaced : ∃ c, w.class? r'.cls = some c := by
    rcases instances_commit hr' with ⟨r, hr, rfl | ⟨k, x, rfl, rfl⟩ | ⟨k, rfl, rfl⟩⟩ | ⟨j, k, rfl, -, rfl⟩
    · exact h hr
    · obtain ⟨r₀, hr₀, hn⟩ := he
      cases hr.symm.trans hr₀
      exact class_of_assign hn (h hr)
    · show ∃ c, w.class? r.cls = some c
      exact h hr
    · exact ⟨_, List.getElem?_eq_getElem he.2⟩
  obtain ⟨c, hc⟩ := hplaced
  exact class?_kept he hc

/-- Functions stay what they are. -/
theorem Change.behaviours {w w' : World} (h : Change w w') : w.behaviours <+: w'.behaviours := by
  cases h with
  | use h =>
    cases h with
    | made | assigned | erased => rw [World.commit_behaviours]
    | foreignAttributes | cells | asked => exact List.prefix_refl _
  | built => rw [World.commit_behaviours]
  | behaviour b => exact List.prefix_append _ _
  | _ => exact List.prefix_refl _

theorem Answers.rest {w w' : World} {key : String} {n : Nat} {m : BaseMethod} (h : Answers w key n m)
    (hbehaviours : w.behaviours <+: w'.behaviours) (hclasses : w'.classes = w.classes)
    (hinstances : w'.instances = w.instances) : Answers w' key n m where
  function := by
    obtain ⟨more, hmore⟩ := hbehaviours
    rw [← hmore, List.getElem?_append_left (List.getElem?_eq_some_iff.1 h.function).1]
    exact h.function
  held := by
    intro i c hc
    rw [World.class?, hclasses] at hc
    exact h.held hc
  own := by
    intro i r hr
    rw [hinstances] at hr
    exact h.own hr

/-- **No change that leaves the answers alone ends the delegation.** -/
theorem Delegating.change {w w' : World} (h : Change w w') (hw : Pedigree w) (hd : Delegating w)
    (hkeeps : ∀ e ∈ w'.journal, e.KeepsAnswers) : Delegating w' := by
  rcases h.line_or_rest with ⟨e, he, rfl⟩ | ⟨hclasses, hinstances, -⟩
  · have hk := hkeeps e (List.mem_append_right _ List.mem_cons_self)
    exact ⟨hd.type.commit (by decide) hw he hk, hd.typeOf.commit (by decide) hw he hk, Placed.commit hd.placed he⟩
  · refine ⟨hd.type.rest h.behaviours hclasses hinstances, hd.typeOf.rest h.behaviours hclasses hinstances, ?_⟩
    intro i r hr
    rw [hinstances] at hr
    rw [World.class?, hclasses]
    exact hd.placed hr

theorem delegating_initial : Delegating World.initial := by
  have hbase {i : Nat} {c : ClassRecord} (h : World.initial.class? i = some c) : c = baseClass :=
    List.mem_singleton.1 (List.mem_of_getElem? h)
  refine ⟨⟨rfl, fun h => ?_, fun h => (nomatch h)⟩, ⟨rfl, fun h => ?_, fun h => (nomatch h)⟩, fun h => (nomatch h)⟩
  · rw [hbase h]
    simp [Fields.Pins, baseClass, typeNameKey, membershipKey]
  · rw [hbase h]
    simp [Fields.Pins, baseClass, typeNameKey, membershipKey]

theorem Reaches.delegating {w : World} (h : Reaches World.initial w) (hkeeps : ∀ e ∈ w.journal, e.KeepsAnswers) :
    Delegating w := by
  induction h with
  | refl => exact delegating_initial
  | @tail u u' hu hstep ih =>
    refine Delegating.change hstep (Reaches.pedigree hu pedigree_initial) (ih fun e he => hkeeps e ?_) hkeeps
    rcases hstep.line_or_rest with ⟨e', -, rfl⟩ | ⟨-, -, hj⟩
    · exact List.mem_append_left _ he
    · rw [hj]
      exact he

/-! ## What instances answer -/

theorem run_callMethod (i n : Nat) (args : List Value) {w : World} {m : BaseMethod}
    (h : w.behaviours[n]? = some (.base m)) :
    (Access.call (.method (.inst i) (.inl n)) args).run w =
      (Access.callBase (Access.handler 299) m (.inst i :: args)).run w := by
  show (Access.callWith (Access.handler 299) (.method (.inst i) (.inl n)) args).run w = _
  simp only [Access.callWith, Action.run_bind, Action.run_get, h]
  rfl

theorem run_receiverClass {w : World} {i : Nat} {r : InstanceRecord} {c : ClassRecord} (hi : w.instances[i]? = some r)
    (hc : w.class? r.cls = some c) : (Access.receiverClass (.inst i)).run w = (.ok (r.cls, c), w) := by
  simp only [Access.receiverClass, Action.run_bind, Action.run_get, World.classOf?, hi, Option.map_some, hc]
  rfl

/-- **An instance answers by a method of the base class:** its class holds the method under the key, and the instance itself
has nothing there. -/
structure AnswersBy (w : World) (i : Nat) (r : InstanceRecord) (c : ClassRecord) (key : String) (n : Nat)
    (m : BaseMethod) : Prop where
  record : w.instances[i]? = some r
  class_ : w.class? r.cls = some c
  own : Fields.get? r.attributes key = none
  held : Fields.get? c.body key = some (.function n)
  function : w.behaviours[n]? = some (.base m)

section Instance

variable {w : World} {i : Nat} {r : InstanceRecord} {c : ClassRecord} {n : Nat}

theorem Answers.by {key : String} {m : BaseMethod} (h : Answers w key n m) (hi : w.instances[i]? = some r)
    (hc : w.class? r.cls = some c) : AnswersBy w i r c key n m :=
  ⟨hi, hc, h.own hi, (h.held hc).get?, h.function⟩

/-- Both methods are read from the class of the instance, and bound to the instance. -/
theorem AnswersBy.offers {key : String} {m : BaseMethod} (h : AnswersBy w i r c key n m) (hkey : key ∈ answerKeys) :
    Query.Offers (.inst i) key w (.method (.inst i) (.inl n)) w := by
  have hheld : Access.classHolds? c key = some (.function n) := by
    have hbookkeeping : key ∉ bookkeepingKeys := (answerKeys_ordinary key hkey).2.2
    have hmodule : key ≠ "__module__" := (ne_of_mem_of_not_mem (by decide) hbookkeeping).symm
    have hdoc : key ≠ "__doc__" := (ne_of_mem_of_not_mem (by decide) hbookkeeping).symm
    rw [Access.classHolds?, if_neg hmodule, if_neg hdoc, h.held]
  have hreceiver : (Behaviour.base m).binding = .receiver := rfl
  refine ⟨rfl, ?_, rfl⟩
  show (Access.readInstance (Access.handler 299) i key).run w = _
  simp only [Access.readInstance, Action.run_bind, Action.run_get, h.record, h.class_, hheld, h.own, Access.bind,
    h.function, Option.map_some, hreceiver]
  rfl

/-- An instance that answers so has the type name of its class. -/
theorem AnswersBy.typeName (h : AnswersBy w i r c "type" n .type) :
    (Query.typeName (.inst i)).run w = (.ok c.typeName, w) := by
  have hcall : (Access.call (.method (.inst i) (.inl n)) []).run w = (.ok (.ofString c.typeName), w) := by
    rw [run_callMethod i n [] h.function]
    simp only [Access.callBase, Action.run_bind, run_receiverClass h.record h.class_]
    rfl
  rw [Query.typeName, Action.run_bind_of_ok (h.offers (by decide)).run]
  simp only [Action.run_bind, hcall]
  show (Except.ok (Text.ofString c.typeName).toString, w) = _
  rw [Text.toString_ofString]

/-- Asked about a name, it says whether its class is a member of that type. -/
theorem AnswersBy.call (h : AnswersBy w i r c "type_of" n .typeOf) (a : String) :
    (Access.call (.method (.inst i) (.inl n)) [.ofString a]).run w = (.ok (.bool (c.membership.contains a)), w) := by
  have hname : (Access.holdsName c (.ofString a)).run w = (.ok (c.membership.contains a), w) := by
    show (Except.ok ((Value.ofString a).string?.elim false c.membership.contains), w) = _
    rw [Value.string?_ofString]
    rfl
  rw [run_callMethod i n _ h.function]
  simp only [Access.callBase, Action.run_bind, run_receiverClass h.record h.class_, hname]
  rfl

/-- Such an instance is an object, and what its class is a member of. -/
theorem AnswersBy.satisfies (h : AnswersBy w i r c "type_of" n .typeOf) (sys a : String) :
    (Query.satisfies sys (.inst i) a).run w = (.ok (decide (a = "object") || c.membership.contains a), w) := by
  unfold Query.satisfies
  by_cases ha : (Value.inst i).category.name = a
  · rw [if_pos ha, ← ha]
    rfl
  · have hne : decide (a = "object") = false := decide_eq_false (fun heq => ha heq.symm)
    rw [if_neg ha, Action.run_bind_of_ok (h.offers (by decide)).run]
    simp only [Action.run_bind, h.call, Action.run_get, hne, Bool.false_or]
    rfl

/-- It satisfies an expression when that names objects in general or a type that the class is a member of. -/
theorem AnswersBy.run_typeOf (h : AnswersBy w i r c "type_of" n .typeOf) {sys : String} {s : System}
    (hs : w.system? sys = some s) {expression : Value} {e : String} (he : expression.string? = some e) :
    ∃ answer, (Query.typeOf sys (.inst i) expression).run w = (.ok answer, w) ∧
      (answer = true ↔ ∃ a ∈ Union.alternatives s.delimiter e, a = "object" ∨ a ∈ c.membership) := by
  have hfirst := Query.run_firstSatisfied (h.satisfies sys) (Union.alternatives s.delimiter e)
  have hrun : (Query.findMatch sys (.inst i) expression).run w = (.ok _, w) :=
    (Query.run_findMatch hs he (.inst i)).trans hfirst
  refine ⟨_, Action.run_bind_of_ok hrun, ?_⟩
  rw [List.find?_isSome]
  simp only [Bool.or_eq_true, decide_eq_true_eq, List.contains_iff_mem]

end Instance

/-- A new instance answers by the base method. -/
theorem Delegating.addInstance {w : World} (h : Delegating w) {i : Nat} {c : ClassRecord} (hc : w.class? i = some c) :
    AnswersBy (w.addInstance i).1 w.instances.length ⟨i, []⟩ c "type_of" 2 .typeOf :=
  ⟨List.getElem?_concat_length .., hc, rfl, (h.typeOf.held hc).get?, h.typeOf.function⟩

/-- The delegation does not depend on the type systems. -/
theorem Delegating.underSystems {w : World} (h : Delegating w) (systems : List (String × System)) :
    Delegating { w with systems } :=
  ⟨⟨h.type.function, h.type.held, h.type.own⟩, ⟨h.typeOf.function, h.typeOf.held, h.typeOf.own⟩, h.placed⟩

/-- **Type queries on instances are membership queries.** As long as the answers are left alone, an instance has the type
name of its class, and it satisfies an expression exactly when an alternative is the category of objects or a type
that its class is a member of, in any type system, with any delimiter and whatever is registered. So what satisfies the
instances of an ancestor satisfies those of a descendant. -/
theorem type_queries_are_membership (steps : List Step) {u : World} (hu : Passes .initial steps u)
    (hkeeps : ∀ e ∈ u.journal, e.KeepsAnswers) {i : Nat} {r : InstanceRecord} (hi : u.instances[i]? = some r) :
    ∃ c, u.class? r.cls = some c ∧ (Query.typeName (.inst i)).run u = (.ok c.typeName, u) ∧
      (∀ systems sys s expression e, Fields.get? systems sys = some s → expression.string? = some e →
        ∃ answer, (Query.typeOf sys (.inst i) expression).run { u with systems } = (.ok answer, { u with systems }) ∧
          (answer = true ↔ ∃ a ∈ Union.alternatives s.delimiter e, a = "object" ∨ a ∈ c.membership)) ∧
      (∀ j r', u.instances[j]? = some r' → Descends u r.cls r'.cls →
        ∀ systems sys s expression e, Fields.get? systems sys = some s → expression.string? = some e →
          ((Query.typeOf sys (.inst j) expression).run { u with systems }).1 = .ok true →
            ((Query.typeOf sys (.inst i) expression).run { u with systems }).1 = .ok true) := by
  have hd : Delegating u := hu.1.delegating hkeeps
  have hw : Pedigree u := hu.1.pedigree pedigree_initial
  obtain ⟨c, hc⟩ := hd.placed hi
  refine ⟨c, hc, (hd.type.by hi hc).typeName, fun systems sys s expression e hs he => ?_, ?_⟩
  · exact ((hd.underSystems systems).typeOf.by hi hc).run_typeOf hs he
  · intro j r' hj hdesc systems sys s expression e hs he hsatisfied
    obtain ⟨d, hdc⟩ := hd.placed hj
    obtain ⟨answer, hrun, hiff⟩ := ((hd.underSystems systems).typeOf.by hi hc).run_typeOf hs he
    obtain ⟨answer', hrun', hiff'⟩ := ((hd.underSystems systems).typeOf.by hj hdc).run_typeOf hs he
    rw [hrun'] at hsatisfied
    obtain ⟨a, ha, hmem⟩ := hiff'.1 (Except.ok.inj hsatisfied)
    rw [hrun, hiff.2 ⟨a, ha, hmem.imp_right fun h => hw.membership_mono hdesc hc hdc h⟩]

/-- A run that builds a class and makes an instance of it. -/
def oneInstance : List Step :=
  [⟨"main", some "A", ⟨[]⟩, .build (.data (.ofString "A")) [] none [] 1⟩,
    ⟨"main", none, ⟨[]⟩, .construct (.reference "A") []⟩]

theorem instance_of_a_class_answers :
    ∃ r c, (Session.initial.run oneInstance).1.world.instances[0]? = some r ∧
      (Session.initial.run oneInstance).1.world.class? r.cls = some c ∧
      (∀ e ∈ (Session.initial.run oneInstance).1.world.journal, e.KeepsAnswers) ∧
      (Query.typeName (.inst 0)).run (Session.initial.run oneInstance).1.world =
        (.ok c.typeName, (Session.initial.run oneInstance).1.world) := by
  have hkeeps : ∀ e ∈ (Session.initial.run oneInstance).1.world.journal, e.KeepsAnswers := by decide +kernel
  have hsome : ((Session.initial.run oneInstance).1.world.instances[0]?).isSome = true := by decide +kernel
  obtain ⟨r, hr⟩ := Option.isSome_iff_exists.1 hsome
  obtain ⟨c, hc, hname, -⟩ := type_queries_are_membership oneInstance (passes_last _ _) hkeeps hr
  exact ⟨r, c, hr, hc, hkeeps, hname⟩

end Lineage
