import Mathlib
import Lineage.Composition

/-!
# Composition — what a composed class has

A new class has the type name it was born with and the membership composed for it, whatever was copied or given under the
reserved keys (`typeName_classOf`, `membership_classOf`). Setting or removing any other attribute leaves both as they
are. `mem_membership` reads a composed membership as a set. A key that all parents hold with one value, and that is neither
excluded nor given anew, is held with that value by the new class (`pins_classOf`).
-/

set_option autoImplicit false

namespace Lineage

namespace Composition

/-! ## Names -/

/-- Names are collected without losing any. -/
theorem mem_collect {n : String} (names seen : List String) :
    n ∈ names.foldl (fun seen n => if seen.contains n then seen else seen ++ [n]) seen ↔ n ∈ seen ∨ n ∈ names := by
  induction names generalizing seen with
  | nil => exact ⟨.inl, fun h => h.resolve_right (fun h => nomatch h)⟩
  | cons m r ih =>
    rw [List.foldl_cons, ih]
    by_cases hm : seen.contains m = true
    · rw [if_pos hm, List.mem_cons]
      have hseen : m ∈ seen := List.contains_iff_mem.1 hm
      constructor
      · exact fun h => h.imp_right .inr
      · rintro (h | rfl | h)
        · exact .inl h
        · exact .inl hseen
        · exact .inr h
    · rw [if_neg hm, List.mem_append, List.mem_singleton, List.mem_cons, or_assoc]

theorem mem_distinct {n : String} {names : List String} : n ∈ distinct names ↔ n ∈ names := by
  rw [distinct, mem_collect]
  exact ⟨fun h => h.resolve_left (fun h => nomatch h), .inr⟩

/-- The membership of a new class is its own name and everything that its parents are members of. -/
theorem mem_membership {n name : String} {parents : List (List String)} :
    n ∈ membership name parents ↔ n = name ∨ ∃ ms ∈ parents, n ∈ ms := by
  rw [membership, mem_distinct, List.mem_cons, List.mem_flatten]

/-! ## Composed classes -/

theorem get?_withHash (fs : Fields) {key : String} (h : key ≠ "__hash__") :
    Fields.get? (withHash fs) key = Fields.get? fs key := by
  unfold withHash
  split
  · have hother : ("__hash__" = key) = False := eq_false (Ne.symm h)
    simp only [Fields.get?, List.find?_append, List.find?_singleton, hother, decide_false, Bool.false_eq_true, if_false,
      Option.or_none]
  · rfl

/-- A new class has the name it was born with. -/
theorem typeName_classOf (b : Birth) (parents : List ClassRecord) : (classOf b parents).typeName = b.name := by
  have hget : Fields.get? (classOf b parents).body typeNameKey = some (.ofString b.name) := by
    rw [classOf, get?_withHash _ (by decide), reserve, Fields.get?_set_of_ne _ _ (by decide), Fields.get?_set_self]
  rw [ClassRecord.typeName, hget, Option.bind_some, Value.string?_ofString, Option.getD_some]

/-- A new class has the membership that is composed from its parents. -/
theorem membership_classOf (b : Birth) (parents : List ClassRecord) :
    (classOf b parents).membership = membership b.name (parents.map (·.membership)) := by
  have hget : Fields.get? (classOf b parents).body membershipKey =
      some (.set true ((membership b.name (parents.map (·.membership))).map .ofString)) := by
    rw [classOf, get?_withHash _ (by decide), reserve, Fields.get?_set_self]
  rw [ClassRecord.membership, hget, Option.elim_some, ClassRecord.namesIn, List.filterMap_map]
  refine (List.filterMap_congr fun n _ => Value.string?_ofString n).trans ?_
  exact List.filterMap_some

end Composition

namespace ClassRecord

/-! ## Changed classes -/

theorem get?_assign (c : ClassRecord) {key reserved : String} (x : Value) (h : reserved ≠ key) :
    Fields.get? (c.assign key x).body reserved = Fields.get? c.body reserved := by
  unfold assign
  split
  · rfl
  · split
    · rfl
    · split
      · rfl
      · split
        · rfl
        · exact Fields.get?_set_of_ne c.body x h

variable {key : String}

theorem ne_of_not_reserved (h : key ∉ reservedKeys) : typeNameKey ≠ key ∧ membershipKey ≠ key :=
  ⟨fun heq => h (heq ▸ List.mem_cons_self), fun heq => h (heq ▸ List.mem_cons_of_mem _ List.mem_cons_self)⟩

theorem typeName_assign (c : ClassRecord) (x : Value) (h : key ∉ reservedKeys) :
    (c.assign key x).typeName = c.typeName := by
  rw [typeName, typeName, get?_assign c x (ne_of_not_reserved h).1]

theorem membership_assign (c : ClassRecord) (x : Value) (h : key ∉ reservedKeys) :
    (c.assign key x).membership = c.membership := by
  rw [membership, membership, get?_assign c x (ne_of_not_reserved h).2]

theorem typeName_erase (c : ClassRecord) (h : key ∉ reservedKeys) : (c.erase key).typeName = c.typeName := by
  rw [typeName, typeName, erase, Fields.get?_erase_of_ne c.body (ne_of_not_reserved h).1]

theorem membership_erase (c : ClassRecord) (h : key ∉ reservedKeys) : (c.erase key).membership = c.membership := by
  rw [membership, membership, erase, Fields.get?_erase_of_ne c.body (ne_of_not_reserved h).2]

end ClassRecord

/-! ## Members that all parents share -/

/-- A table holds a key, and one value only under it. -/
def Fields.Pins (fs : Fields) (key : String) (v : Value) : Prop :=
  key ∈ fs.map Prod.fst ∧ ∀ e ∈ fs, e.1 = key → e.2 = v

namespace Fields.Pins

variable {fs : Fields} {key : String} {v : Value}

theorem get? (h : Pins fs key v) : Fields.get? fs key = some v := by
  obtain ⟨e, he, hkey⟩ := List.mem_map.1 h.1
  have hsome : (fs.find? (·.1 = key)).isSome = true := List.find?_isSome.2 ⟨e, he, decide_eq_true hkey⟩
  obtain ⟨e', he'⟩ := Option.isSome_iff_exists.1 hsome
  have hkey' : e'.1 = key := by simpa using List.find?_some he'
  rw [Fields.get?, he', Option.map_some, h.2 e' (List.mem_of_find?_eq_some he') hkey']

theorem set_of_ne (h : Pins fs key v) {k : String} (hne : k ≠ key) (x : Value) : Pins (Fields.set fs k x) key v :=
  ⟨mem_keys_set.2 (.inr h.1), forall_mem_set h.2 fun hk => absurd hk hne⟩

theorem erase_of_ne (h : Pins fs key v) {k : String} (hne : k ≠ key) : Pins (Fields.erase fs k) key v := by
  obtain ⟨e, he, hkey⟩ := List.mem_map.1 h.1
  refine ⟨List.mem_map.2 ⟨e, List.mem_filter.2 ⟨he, ?_⟩, hkey⟩, fun e' he' => h.2 e' (List.mem_of_mem_filter he')⟩
  exact decide_eq_true (hkey ▸ Ne.symm hne)

theorem append (h : Pins fs key v) {gs : Fields} (hg : ∀ e ∈ gs, e.1 = key → e.2 = v) : Pins (fs ++ gs) key v := by
  refine ⟨?_, fun e he => ?_⟩
  · rw [List.map_append]
    exact List.mem_append_left _ h.1
  · rcases List.mem_append.1 he with he | he
    · exact h.2 e he
    · exact hg e he

theorem update_of_not_mem (h : Pins fs key v) {gs : Fields} (hg : ∀ e ∈ gs, e.1 ≠ key) : Pins (Fields.update fs gs) key v :=
  ⟨mem_keys_update.2 (.inl h.1), forall_mem_update h.2 fun e he hk => absurd hk (hg e he)⟩

theorem update (hfs : ∀ e ∈ fs, e.1 = key → e.2 = v) {gs : Fields} (hg : Pins gs key v) :
    Pins (Fields.update fs gs) key v :=
  ⟨mem_keys_update.2 (.inr hg.1), forall_mem_update hfs hg.2⟩

end Fields.Pins

theorem ClassRecord.pins_assign {c : ClassRecord} {key : String} {v : Value} (h : c.body.Pins key v) {k : String}
    (hne : k ≠ key) (x : Value) : (c.assign k x).body.Pins key v := by
  unfold assign
  split
  · exact h
  · split
    · exact h
    · split
      · exact h
      · split
        · exact h
        · exact h.set_of_ne hne x

namespace Composition

variable {key : String} {v : Value} {excluded : List String}

theorem pins_inherited {parent : Fields} (h : parent.Pins key v) (hkey : isInherited excluded key = true) :
    Fields.Pins (inherited excluded parent) key v := by
  obtain ⟨e, he, hek⟩ := List.mem_map.1 h.1
  refine ⟨List.mem_map.2 ⟨e, List.mem_filter.2 ⟨he, ?_⟩, hek⟩, fun e' he' => h.2 e' (List.mem_of_mem_filter he')⟩
  rw [hek]
  exact hkey

/-- What is pinned stays so under parents that agree. -/
theorem pins_foldl_inherited {parents : List Fields} (h : ∀ p ∈ parents, Fields.Pins p key v)
    (hkey : isInherited excluded key = true) {t : Fields} (ht : t.Pins key v) :
    Fields.Pins (parents.foldl (fun t p => Fields.update t (inherited excluded p)) t) key v := by
  induction parents generalizing t with
  | nil => exact ht
  | cons p r ih =>
    have hp : Fields.Pins p key v := h p List.mem_cons_self
    exact ih (fun q hq => h q (List.mem_cons_of_mem _ hq)) (.update ht.2 (pins_inherited hp hkey))

/-- The first parent brings the key, the others keep it. -/
theorem pins_inheritedAll {parents : List Fields} (hne : parents ≠ []) (h : ∀ p ∈ parents, Fields.Pins p key v)
    (hkey : isInherited excluded key = true) : Fields.Pins (inheritedAll excluded parents) key v := by
  cases parents with
  | nil => exact absurd rfl hne
  | cons p r =>
    have hp : Fields.Pins p key v := h p List.mem_cons_self
    refine pins_foldl_inherited (fun q hq => h q (List.mem_cons_of_mem _ hq)) hkey (.update ?_ (pins_inherited hp hkey))
    exact fun e he => absurd he List.not_mem_nil

/-- A key that all parents hold with one value is handed down with it, unless it is excluded or given anew. -/
theorem pins_classOf {b : Birth} {parents : List ClassRecord} (hne : parents ≠ [])
    (h : ∀ p ∈ parents, Fields.Pins p.body key v) (hkey : isInherited b.excluded key = true)
    (hown : ∀ e ∈ b.own, e.1 ≠ key) (hreserved : key ∉ reservedKeys) (hhash : key ≠ "__hash__") :
    Fields.Pins (classOf b parents).body key v := by
  have hne' : parents.map (·.body) ≠ [] := fun heq => hne (List.map_eq_nil_iff.1 heq)
  have hbodies : ∀ fs ∈ parents.map (·.body), Fields.Pins fs key v := by
    intro fs hfs
    obtain ⟨p, hp, rfl⟩ := List.mem_map.1 hfs
    exact h p hp
  have hcompose : Fields.Pins (compose b.excluded (parents.map (·.body)) b.own) key v :=
    (pins_inheritedAll hne' hbodies hkey).update_of_not_mem hown
  obtain ⟨hname, hmembership⟩ := ClassRecord.ne_of_not_reserved hreserved
  have hreserve := (hcompose.set_of_ne hname (.ofString b.name)).set_of_ne hmembership
    (.set true ((membership b.name (parents.map (·.membership))).map .ofString))
  show Fields.Pins (withHash _) key v
  unfold withHash
  split
  · refine hreserve.append fun e he hek => ?_
    rw [List.mem_singleton.1 he] at hek
    exact absurd hek.symm hhash
  · exact hreserve

end Composition

end Lineage
