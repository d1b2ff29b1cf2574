import Lineage.Definition
import Lineage.Proofs.Action

/-!
# Examination — which classes may be built

A request for a class is examined before anything is built. `examine_ok_iff` says when it passes, and `examine_eq_ok` what
a birth that passes has: the name that was asked for, the parents that were given or else the base class, and members
among which no reserved key is. `stages_of_buildWith` takes a build apart that succeeds.
-/

set_option autoImplicit false

namespace Lineage.Definition

/-- Parents that are let through are classes that are there, and looking at them changes nothing. -/
theorem checkParents_eq_ok {site : Option Frame} {w w' : World} {vs : List Value} :
    ∀ {index : Nat} {is : List Nat}, (checkParents site index vs).run w = (.ok is, w') →
      w' = w ∧ vs = is.map Value.cls ∧ ∀ i ∈ is, i < w.classes.length := by
  induction vs with
  | nil =>
    intro index is h
    cases h
    exact ⟨rfl, rfl, fun i hi => nomatch hi⟩
  | cons v r ih =>
    intro index is h
    cases v with
    | cls i =>
      simp only [checkParents, Action.run_bind, Action.run_get] at h
      cases hc : w.class? i with
      | none =>
        rw [hc] at h
        cases h
      | some c =>
        rw [hc] at h
        obtain ⟨rest, w₁, hr, hp⟩ := Action.bind_eq_ok.1 h
        cases hp
        obtain ⟨rfl, rfl, hlt⟩ := ih hr
        refine ⟨rfl, rfl, fun j hj => ?_⟩
        rcases List.mem_cons.1 hj with rfl | hj
        · exact (List.getElem?_eq_some_iff.1 hc).1
        · exact hlt j hj
    | _ =>
      obtain ⟨_, _, _, hthrow⟩ := Action.bind_eq_ok.1 h
      cases hthrow

theorem classText_eq_ok {w : World} {v : Value} {n : String} (h : classText w v = .ok n) : v.string? = some n := by
  unfold classText at h
  split at h
  · cases h
  · split at h
    · cases h
    · split at h
      · cases h
      · cases h
        assumption

/-- **A class can be described** when its qualified name is a text and nothing stands in place of its cell. -/
theorem birth_ok_iff {w : World} {b : Blueprint} {name : String} {parents : List Nat} {r : Birth} :
    birth w b name parents = .ok r ↔ ∃ q, qualifiedName w name b.own = .ok q ∧ cell? w b parents = none ∧
      r = ⟨name, q, (Fields.get? b.own "__module__").getD (.ofString "offspring.domain.classes"),
        (Fields.get? b.own "__doc__").getD .nil, b.excluded, parents,
        b.own.filter (fun e => !descriptionKeys.contains e.1), b.manager⟩ := by
  unfold birth
  constructor
  · intro h
    cases hq : qualifiedName w name b.own with
    | error e =>
      rw [hq] at h
      cases h
    | ok q =>
      rw [hq] at h
      cases hc : cell? w b parents with
      | some c =>
        rw [hc] at h
        cases h
      | none =>
        rw [hc] at h
        cases h
        exact ⟨q, rfl, rfl, rfl⟩
  · rintro ⟨q, hq, hc, rfl⟩
    rw [hq, hc]
    rfl

theorem birth_eq_ok {w : World} {b : Blueprint} {name : String} {parents : List Nat} {r : Birth}
    (h : birth w b name parents = .ok r) :
    r.name = name ∧ r.excluded = b.excluded ∧ r.manager = b.manager ∧ r.parents = parents ∧
      r.own = b.own.filter (fun e => !descriptionKeys.contains e.1) := by
  obtain ⟨q, -, -, rfl⟩ := birth_ok_iff.1 h
  exact ⟨rfl, rfl, rfl, rfl, rfl⟩

/-- A class is of the module that its body names, or else of that of the builder. -/
theorem module_of_birth {w : World} {b : Blueprint} {name : String} {parents : List Nat} {r : Birth}
    (h : birth w b name parents = .ok r) :
    r.module = (Fields.get? b.own "__module__").getD (.ofString "offspring.domain.classes") := by
  obtain ⟨q, -, -, rfl⟩ := birth_ok_iff.1 h
  rfl

theorem not_mem_reservedKeys {own : Fields} (h : reservedIn? own = none) {e : String × Value} (he : e ∈ own) :
    e.1 ∉ reservedKeys := by
  intro hk
  have habsent := List.find?_eq_none.1 h e.1 hk
  exact habsent (List.any_eq_true.2 ⟨e, he, decide_eq_true rfl⟩)

/-- **An examination goes through** when the name and the parents are accepted, no reserved key is defined, and the class
can be named and described as asked. -/
theorem examine_ok_iff {b : Blueprint} {w w' : World} {r : Birth} : (examine b).run w = (.ok r, w') ↔
    ∃ w₁ given n, (checkName b).run w = (.ok (), w₁) ∧ (checkParents b.site 2 b.parents).run w₁ = (.ok given, w') ∧
      reservedIn? b.own = none ∧ classText w' b.name = .ok n ∧ birth w' b n (effectiveParents given) = .ok r := by
  unfold examine
  constructor
  · intro h
    obtain ⟨_, w₁, hname, h⟩ := Action.bind_eq_ok.1 h
    obtain ⟨given, w₂, hparents, h⟩ := Action.bind_eq_ok.1 h
    cases hreserved : reservedIn? b.own with
    | some key =>
      rw [hreserved] at h
      obtain ⟨_, _, _, h⟩ := Action.bind_eq_ok.1 h
      obtain ⟨_, _, hthrow, _⟩ := Action.bind_eq_ok.1 h
      cases hthrow
    | none =>
      rw [hreserved] at h
      simp only [Action.run_bind, Action.run_get] at h
      cases hn : classText w₂ b.name with
      | error e =>
        rw [hn] at h
        cases h
      | ok n =>
        cases hb : birth w₂ b n (effectiveParents given) with
        | error e =>
          simp only [hn, Action.run_lift_ok, hb, Action.run_lift_error] at h
          cases h
        | ok r' =>
          simp only [hn, Action.run_lift_ok, hb] at h
          cases h
          exact ⟨w₁, given, n, hname, hparents, rfl, hn, hb⟩
  · rintro ⟨w₁, given, n, hname, hparents, hreserved, hn, hb⟩
    rw [Action.run_bind_of_ok hname, Action.run_bind_of_ok hparents, hreserved]
    simp only [Action.run_bind, Action.run_get, hn, Action.run_lift_ok, hb]

/-- **What an examination lets through:** the name that was given, the classes that were given or the base class, and
members without the reserved keys, for the plugins of the same manager. -/
theorem examine_eq_ok {b : Blueprint} {w w' : World} {r : Birth} (h : (examine b).run w = (.ok r, w')) :
    b.name.string? = some r.name ∧ r.excluded = b.excluded ∧ r.manager = b.manager ∧
      r.own = b.own.filter (fun e => !descriptionKeys.contains e.1) ∧ (∀ e ∈ b.own, e.1 ∉ reservedKeys) ∧
      ∃ given, b.parents = given.map Value.cls ∧ r.parents = effectiveParents given ∧
        ∀ i ∈ given, i < w'.classes.length := by
  obtain ⟨w₁, given, n, -, hp, hres, hn, hb⟩ := examine_ok_iff.1 h
  obtain ⟨rfl, hparents, hlt⟩ := checkParents_eq_ok hp
  obtain ⟨hname, hexcluded, hmanager, hpar, hown⟩ := birth_eq_ok hb
  exact ⟨hname ▸ classText_eq_ok hn, hexcluded, hmanager, hown, fun e he => not_mem_reservedKeys hres he, given, hparents,
    hpar, hlt⟩

/-- **The stages of a build that succeeds:** the request passes its examination, and the class is entered and announced. -/
theorem stages_of_buildWith {react : Reaction} {b : Blueprint} {w u : World} {x : Value}
    (h : (buildWith react b).run w = (.ok x, u)) :
    ∃ probed w₁ r v, (addProbe b).run w = (.ok probed, w₁) ∧ (examine probed).run w₁ = (.ok r, v) ∧
      (announce react r.manager (.cls v.classes.length r.parents)).run (enterClass v r).1 = (.ok (), u) ∧
      x = .cls v.classes.length := by
  obtain ⟨probed, w₁, hprobed, h⟩ := Action.bind_eq_ok.1 h
  obtain ⟨r, v, hexamined, h⟩ := Action.bind_eq_ok.1 h
  obtain ⟨_, _, hget, h⟩ := Action.bind_eq_ok.1 h
  cases hget
  obtain ⟨_, _, hset, h⟩ := Action.bind_eq_ok.1 h
  cases hset
  obtain ⟨_, _, htold, hreturn⟩ := Action.bind_eq_ok.1 h
  cases hreturn
  exact ⟨probed, w₁, r, v, hprobed, hexamined, htold, rfl⟩

theorem effectiveParents_ne_nil (given : List Nat) : effectiveParents given ≠ [] := by
  unfold effectiveParents
  split
  · exact List.cons_ne_nil _ _
  · next h => simpa using h

theorem mem_effectiveParents {given : List Nat} {p : Nat} (h : p ∈ effectiveParents given) : p = baseIndex ∨ p ∈ given := by
  unfold effectiveParents at h
  split at h
  · exact .inl (List.mem_singleton.1 h)
  · exact .inr h

end Lineage.Definition
