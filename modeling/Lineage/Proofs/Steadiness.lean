import Mathlib
import Lineage.Proofs.Alternatives
import Lineage.Proofs.Data
import Lineage.Proofs.Delegation

/-!
# Steadiness — values that always answer alike

A type query may run a function of the value that is asked, and a function may do anything. What is proved here is about values
for which it does not. A footprint is a set of values; a world in which all of them are as they were is another moment of the
same footprint (`Unmutated`). A value is `Steady` when at each such moment it answers in the same `Manner` and leaves such a
moment behind: it is pure as far as the footprint shows. `steady_of_isData`, `steady_of_knowsNames` and `steady_of_answersBy`
say so of data, of outside objects that know names, and of instances that answer by the base method.

Each alternative then has one judgement (`Manner.judge`), whenever and in whatever order it is asked for, so a union is the set
of its names (`union_is_set_of_names`).
-/

set_option autoImplicit false

namespace Lineage.Query

variable {D : Set Value} {w u u' : World} {v : Value} {sys : String} {s : System}

/-! ## Moments of a footprint -/

/-- **What the footprint shows is as it was:** what shared parts hold, the attributes and classes of instances, what classes and
outside objects are, and what functions do. -/
structure Unmutated (D : Set Value) (w u : World) : Prop where
  read : ∀ x ∈ D, u.read x = w.read x
  instances : ∀ i, .inst i ∈ D → u.instances[i]? = w.instances[i]?
  classes : ∀ i, .cls i ∈ D → u.class? i = w.class? i
  functions : ∀ i, .function i ∈ D → u.behaviours[i]? = w.behaviours[i]?
  foreigns : ∀ i base verdict, .foreign i base verdict ∈ D → u.foreigns[i]? = w.foreigns[i]?

theorem Unmutated.refl (D : Set Value) (w : World) : Unmutated D w w :=
  ⟨fun _ _ => .refl _, fun _ _ => .refl _, fun _ _ => .refl _, fun _ _ => .refl _, fun _ _ _ _ => .refl _⟩

theorem Unmutated.trans (h : Unmutated D w u) (h' : Unmutated D u u') : Unmutated D w u' where
  read x hx := (h'.read x hx).trans (h.read x hx)
  instances i hi := (h'.instances i hi).trans (h.instances i hi)
  classes i hi := (h'.classes i hi).trans (h.classes i hi)
  functions i hi := (h'.functions i hi).trans (h.functions i hi)
  foreigns i base verdict hi := (h'.foreigns i base verdict hi).trans (h.foreigns i base verdict hi)

/-- The record of what outside objects were asked about is no part of any footprint. -/
theorem Unmutated.of_asked (log : List (Nat × Value)) : Unmutated D w { w with asked := w.asked ++ log } :=
  ⟨fun _ _ => .refl _, fun _ _ => .refl _, fun _ _ => .refl _, fun _ _ => .refl _, fun _ _ _ _ => .refl _⟩

/-- The members that are registered under any name. -/
def membersOf (enums : List (String × Value)) : Set Value :=
  { x | ∃ name i n ms, (name, .enum i n ms) ∈ enums ∧ ∃ m ∈ ms, x = m.2 }

/-- What is registered is the same at all moments of a footprint that contains the members. -/
theorem Unmutated.registryHas (h : Unmutated D w u) {enums : List (String × Value)} (hv : v ∈ D)
    (hmembers : membersOf enums ⊆ D) (a : String) : registryHas u enums a v = registryHas w enums a v := by
  have hregistered : Registered enums u a v ↔ Registered enums w a v :=
    exists_congr fun i => exists_congr fun n => exists_congr fun ms => and_congr_right fun hget =>
      exists_congr fun m => and_congr_right fun hm => by
        rw [h.read _ hv, h.read _ (hmembers ⟨a, i, n, ms, Fields.mem_of_get? hget, m, hm, rfl⟩)]
  rw [Bool.eq_iff_iff, registryHas_iff, registryHas_iff, hregistered]

/-! ## Manners -/

/-- How a value takes a question about a type: it answers with a verdict or an error, or it cannot be asked, or finding out
whether it can ends in an error. -/
inductive Manner where
  | answers (verdict : String → Except Failure Bool)
  | silent
  | withheld (e : Failure)

/-- A value takes questions in a manner, and leaves a world of a certain sort behind. -/
def Manner.Shows (v : Value) (moment : World → Prop) (w : World) : Manner → Prop
  | .answers verdict => ∃ f u, Offers v "type_of" w f u ∧ moment u ∧
    ∀ a, ∃ r u', (Access.call f [.ofString a]).run u = (r, u') ∧ moment u' ∧
      r.map (fun x => (u'.read x).isTruthy) = verdict a
  | .silent => ∃ u, Lacks v "type_of" w u ∧ moment u
  | .withheld e => ∃ u, Withholds v "type_of" w e u ∧ moment u

/-- **A steady value** takes questions in the same manner at all moments of a footprint, and does not leave them. -/
def Steady (D : Set Value) (w : World) (v : Value) (m : Manner) : Prop :=
  ∀ u, Unmutated D w u → m.Shows v (Unmutated D w) u

/-- Data cannot be asked, whatever happens. -/
theorem steady_of_isData (hv : v.IsData) : Steady D w v .silent :=
  fun u hu => ⟨u, lacks_of_isData hv "type_of" u, hu⟩

/-- An outside object that knows names does so as long as it and the names are as they were; the record of what it was asked
about is no part of any footprint. -/
theorem steady_of_knowsNames {i : Nat} {base : ForeignBase} {verdict : Option Bool} {accepted : List Value}
    (h : KnowsNames w i accepted) (hcomp : (Value.foreign i base verdict).isComposite = true)
    (hself : .foreign i base verdict ∈ D) (haccepted : ∀ n ∈ accepted, n ∈ D) :
    Steady D w (.foreign i base verdict)
      (.answers fun a => .ok (accepted.any fun n => (w.read n).equalInside (.ofString a))) := by
  intro u hu
  have hknows : KnowsNames u i accepted := by
    obtain ⟨r, hr, hrest⟩ := h
    exact ⟨r, (hu.foreigns i base verdict hself).trans hr, hrest⟩
  refine ⟨_, u, hknows.offers hcomp, hu, fun a => ⟨_, _, hknows.call base verdict a, ?_, ?_⟩⟩
  · exact hu.trans (.of_asked _)
  · have hread : u.read (.ofString a) = .ofString a := u.read_of_isData trivial
    have hsame : (accepted.any fun n => (u.read n).equalInside (.ofString a)) =
        accepted.any fun n => (w.read n).equalInside (.ofString a) := by
      rw [Bool.eq_iff_iff, List.any_eq_true, List.any_eq_true]
      exact exists_congr fun n => and_congr_right fun hn => by rw [hu.read n (haccepted n hn)]
    rw [hread, hsame]
    rfl

/-- An instance that answers by the base method does so as long as it, its class and the method are as they were. -/
theorem steady_of_answersBy {i n : Nat} {r : InstanceRecord} {c : ClassRecord}
    (h : AnswersBy w i r c "type_of" n .typeOf) (hself : .inst i ∈ D) (hclass : .cls r.cls ∈ D)
    (hmethod : .function n ∈ D) : Steady D w (.inst i) (.answers fun a => .ok (c.membership.contains a)) := by
  intro u hu
  have hanswers : AnswersBy u i r c "type_of" n .typeOf :=
    ⟨(hu.instances i hself).trans h.record, (hu.classes r.cls hclass).trans h.class_, h.own, h.held,
      (hu.functions n hmethod).trans h.function⟩
  exact ⟨_, u, hanswers.offers (by decide), hu, fun a => ⟨_, u, hanswers.call a, hu, rfl⟩⟩

/-! ## Judgements -/

/-- **How an alternative is judged** of a value that takes questions in a manner: by the native category, else by the answer,
else by the registry. -/
def Manner.judge (m : Manner) (w : World) (enums : List (String × Value)) (v : Value) (a : String) :
    Except Failure Bool :=
  if v.category.name = a then .ok true
  else match m with
    | .answers verdict => verdict a
    | .silent => .ok (registryHas w enums a v)
    | .withheld e => .error e

/-- What is registered at one moment of a footprint that contains the members is so at another. -/
theorem Unmutated.judge (h : Unmutated D w u) (m : Manner) {enums : List (String × Value)} (hv : v ∈ D)
    (hmembers : membersOf enums ⊆ D) (a : String) : m.judge u enums v a = m.judge w enums v a := by
  unfold Manner.judge
  cases m with
  | silent => rw [h.registryHas hv hmembers]
  | _ => rfl

/-- **Testing one alternative gives its judgement,** and leaves a moment of the footprint. -/
theorem Steady.run_satisfies {m : Manner} (h : Steady D w v m) (hu : Unmutated D w u) (hs : u.system? sys = some s)
    (a : String) :
    ∃ u', (satisfies sys v a).run u = (m.judge u' s.enums v a, u') ∧ Unmutated D w u' := by
  have hshows := h u hu
  unfold satisfies Manner.judge
  by_cases ha : v.category.name = a
  · simp only [if_pos ha]
    exact ⟨u, rfl, hu⟩
  · simp only [if_neg ha]
    cases m with
    | answers verdict =>
      obtain ⟨f, u₁, hoffers, -, hcall⟩ := hshows
      obtain ⟨r, u₂, hrun, hu₂, hr⟩ := hcall a
      refine ⟨u₂, ?_, hu₂⟩
      rw [Action.run_bind_of_ok hoffers.run]
      simp only [← hr]
      cases r with
      | ok x => exact Action.run_bind_of_ok hrun
      | error e => exact Action.run_bind_of_error hrun
    | silent =>
      obtain ⟨u₁, hlacks, hu₁⟩ := hshows
      have hs₁ : u₁.system? sys = some s := by rw [World.system?, hlacks.systems]; exact hs
      refine ⟨u₁, ?_, hu₁⟩
      rw [Action.run_bind_of_ok hlacks.run]
      exact Action.run_bind_of_ok (run_system hs₁)
    | withheld e =>
      obtain ⟨u₁, hwithholds, hu₁⟩ := hshows
      exact ⟨u₁, Action.run_bind_of_error hwithholds.run, hu₁⟩

theorem system?_of_satisfies (hs : u.system? sys = some s) {a : String} {r : Except Failure Bool}
    (hrun : (satisfies sys v a).run u = (r, u')) : u'.system? sys = some s := by
  rw [World.system?, Lasts.systems (satisfies_lasts sys v a) hrun]
  exact hs

/-- A search looks for the first alternative whose judgement is positive, and fails where a judgement before that does. -/
theorem Steady.run_firstSatisfied {m : Manner} (h : Steady D w v m) (hv : v ∈ D) (hmembers : membersOf s.enums ⊆ D)
    (as : List String) (hu : Unmutated D w u) (hs : u.system? sys = some s) :
    ∃ u', (firstSatisfied sys v as).run u = (as.findM? (m.judge w s.enums v), u') ∧ Unmutated D w u' := by
  induction as generalizing u with
  | nil => exact ⟨u, rfl, hu⟩
  | cons a as ih =>
    obtain ⟨u₁, hrun, hu₁⟩ := h.run_satisfies hu hs a
    have hs₁ := system?_of_satisfies hs hrun
    rw [hu₁.judge m hv hmembers] at hrun
    rw [List.findM?]
    cases hjudge : m.judge w s.enums v a with
    | error e =>
      rw [hjudge] at hrun
      exact ⟨u₁, Action.run_bind_of_error hrun, hu₁⟩
    | ok b =>
      rw [hjudge] at hrun
      cases b with
      | true => exact ⟨u₁, Action.run_bind_of_ok hrun, hu₁⟩
      | false =>
        obtain ⟨u₂, hrest, hu₂⟩ := ih hu₁ hs₁
        exact ⟨u₂, (Action.run_bind_of_ok hrun).trans hrest, hu₂⟩

/-! ## Unions -/

/-- A value that takes questions in this manner is never the source of an error. -/
def Manner.Decided : Manner → Prop
  | .answers verdict => ∀ a, ∃ b, verdict a = .ok b
  | .silent => True
  | .withheld _ => False

theorem Manner.Decided.judge {m : Manner} (h : m.Decided) (w : World) (enums : List (String × Value)) (v : Value) :
    ∃ holds : String → Bool, ∀ a, m.judge w enums v a = .ok (holds a) := by
  refine Classical.axiomOfChoice (r := fun a b => m.judge w enums v a = .ok b) fun a => ?_
  unfold Manner.judge
  split
  · exact ⟨true, rfl⟩
  · cases m with
    | answers verdict => exact h a
    | silent => exact ⟨_, rfl⟩
    | withheld e => exact h.elim

/-- **The answer to an expression at every moment** of a footprint in which the type systems are as they were; each asking
leaves such a moment. -/
def Says (D : Set Value) (w : World) (sys : String) (v : Value) (text : String) (answer : Bool) : Prop :=
  ∀ u, Unmutated D w u → u.systems = w.systems → ∀ expression : Value, expression.string? = some text →
    ∃ u', (typeOf sys v expression).run u = (.ok answer, u') ∧ Unmutated D w u' ∧ u'.systems = w.systems

/-- Names that can be joined into a union and told apart again. -/
def Joinable (delimiter : String) (names : List String) : Prop :=
  names ≠ [] ∧ ∀ n ∈ names, Union.Clear delimiter.toList n.toList ∧ n ≠ ""

theorem Joinable.append {d : String} {ns ms : List String} (h : Joinable d ns) (h' : Joinable d ms) :
    Joinable d (ns ++ ms) :=
  ⟨List.append_ne_nil_of_left_ne_nil h.1 ms, fun n hn => (List.mem_append.1 hn).elim (h.2 n) (h'.2 n)⟩

theorem Joinable.singleton {d n : String} {ns : List String} (h : Joinable d ns) (hn : n ∈ ns) : Joinable d [n] :=
  ⟨List.cons_ne_nil n [], fun _ hm => List.mem_singleton.1 hm ▸ h.2 n hn⟩

/-- What is said of an expression is whether one of its alternatives holds. -/
theorem Steady.says_iff {m : Manner} (h : Steady D w v m) (hv : v ∈ D) (hs : w.system? sys = some s)
    (hmembers : membersOf s.enums ⊆ D) {holds : String → Bool}
    (hholds : ∀ a, m.judge w s.enums v a = .ok (holds a)) {text : String} {answer : Bool} :
    Says D w sys v text answer ↔ answer = (Union.alternatives s.delimiter text).any holds := by
  have hsays : Says D w sys v text ((Union.alternatives s.delimiter text).any holds) := by
    intro u hu hsystems expression he
    have hs' : u.system? sys = some s := by rw [World.system?, hsystems]; exact hs
    obtain ⟨u', hrun, hu'⟩ := h.run_firstSatisfied hv hmembers (Union.alternatives s.delimiter text) hu hs'
    rw [show m.judge w s.enums v = fun a => pure (holds a) from funext hholds, List.findM?_pure] at hrun
    have hmatch := (run_findMatch hs' he v).trans hrun
    have hanswer : (typeOf sys v expression).run u = (.ok _, u') := Action.run_bind_of_ok hmatch
    rw [List.isSome_find?] at hanswer
    exact ⟨u', hanswer, hu', (Lasts.systems (typeOf_lasts sys v expression) hanswer).trans hsystems⟩
  constructor
  · intro h'
    obtain ⟨_, hrun, -⟩ := h' w (.refl D w) rfl (.ofString text) (Value.string?_ofString text)
    obtain ⟨_, hrun', -⟩ := hsays w (.refl D w) rfl (.ofString text) (Value.string?_ofString text)
    exact Except.ok.inj (Prod.mk.inj (hrun.symm.trans hrun')).1
  · rintro rfl
    exact hsays

end Lineage.Query
