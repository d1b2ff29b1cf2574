import Mathlib
import Lineage.Proofs.Coherence
import Lineage.Proofs.Equality

/-!
# Membership — being a member of an enumeration

A value is a member of an enumeration when a member of its native category equals it. Equality of built-in data is symmetric and
transitive, so equal data of one category is a member of the same enumerations, and it matches the same alternative of every
expression (`equal_data_matches_alike`). The categories keep booleans and numbers apart, which equality does not: a boolean
equals the number that it stands for, but it is a member only where a boolean is, and a number only where something else than
a boolean is.
-/

set_option autoImplicit false

namespace Lineage.Query

variable {w : World} {sys : String} {s : System} {x y m : Value} {enums : List (String × Value)} {a : String}

/-! ## Equal data -/

/-- What reads as built-in data is native data. -/
theorem isNative_of_isBuiltIn (hx : (w.read x).IsBuiltIn) : x.IsNative := by
  cases x with
  | enum i n ms =>
    have henum : ∃ es, w.read (.enum i n ms) = .enum i n es := ⟨_, rfl⟩
    obtain ⟨es, hread⟩ := henum
    rw [hread] at hx
    cases hx
  | inst i =>
    have hread : w.read (.inst i) = .inst i := rfl
    rw [hread] at hx
    cases hx
  | foreign i base verdict =>
    have hread : w.read (.foreign i base verdict) = .foreign i base verdict := rfl
    rw [hread] at hx
    cases hx
  | _ => trivial

/-- Equal data of one category is registered under the same names. -/
theorem registryHas_congr (hmembers : ∀ m ∈ membersOf enums, (w.read m).IsBuiltIn) (hx : (w.read x).IsBuiltIn)
    (hy : (w.read y).IsBuiltIn) (hcategory : x.category = y.category) (hequal : (w.read x).equal (w.read y) = true)
    (a : String) : registryHas w enums a x = registryHas w enums a y := by
  have hregistered : Registered enums w a x ↔ Registered enums w a y :=
    exists_congr fun i => exists_congr fun n => exists_congr fun ms => and_congr_right fun hget =>
      exists_congr fun m => and_congr_right fun hm => by
        have hbuilt : (w.read m.2).IsBuiltIn := hmembers _ ⟨a, i, n, ms, Fields.mem_of_get? hget, m, hm, rfl⟩
        rw [hcategory, Value.equal_congr hbuilt hx hy hequal]
  rw [Bool.eq_iff_iff, registryHas_iff, registryHas_iff, hregistered]

/-! ## Booleans and numbers -/

/-- Only a boolean is equal to a boolean within its category. -/
theorem bool_of_isMember {b : Bool} (h : isMember w (.bool b) m = true) : ∃ b', m = .bool b' := by
  obtain ⟨hcategory, hequal⟩ := Bool.and_eq_true_iff.1 h
  have hcategory : m.category = .boolean := of_decide_eq_true hcategory
  cases m with
  | bool b' => exact ⟨b', rfl⟩
  | specimen t =>
    have hread : (w.read (.specimen t)).equal (w.read (.bool b)) =
        ((Value.specimen t).isEmptyMapping && false || (Value.specimen t).isEmptyList && false || false) := rfl
    rw [hread, Bool.and_false, Bool.and_false] at hequal
    cases hequal
  | view c =>
    rw [Value.category] at hcategory
    split at hcategory <;> cases hcategory
  | foreign i base => cases base <;> cases hcategory
  | _ => cases hcategory

/-- No boolean is a member where none is. -/
theorem hasValue_bool {i : Nat} {n : String} {ms : List (Value × Value)} (h : ∀ m ∈ ms, ∀ b, m.2 ≠ .bool b) (b : Bool) :
    hasValue w (.enum i n ms) (.bool b) = false := by
  refine Bool.eq_false_iff.2 fun hvalue => ?_
  obtain ⟨m, hm, hmember⟩ := List.any_eq_true.1 hvalue
  obtain ⟨b', hb⟩ := bool_of_isMember hmember
  exact h m hm b' hb

/-- No number is a member where only booleans are. -/
theorem hasValue_number {i : Nat} {n : String} {ms : List (Value × Value)} (h : ∀ m ∈ ms, ∃ b, m.2 = .bool b)
    (hx : x.category = .number) : hasValue w (.enum i n ms) x = false := by
  refine Bool.eq_false_iff.2 fun hvalue => ?_
  obtain ⟨m, hm, hmember⟩ := List.any_eq_true.1 hvalue
  obtain ⟨b, hb⟩ := h m hm
  have hcategory : m.2.category = x.category := of_decide_eq_true (Bool.and_eq_true_iff.1 hmember).1
  rw [hb, hx] at hcategory
  cases hcategory

/-- A value that is not composite does not satisfy the name of an enumeration that it is no member of, unless that is its
category. -/
theorem run_satisfies_of_not_member (hs : w.system? sys = some s) (hcomposite : x.isComposite = false) {e : Value}
    (he : Fields.get? s.enums a = some e) (hne : a ≠ x.category.name) (hno : hasValue w e x = false) :
    (satisfies sys x a).run w = (.ok false, w) := by
  have hlacks : Lacks x "type_of" w w := .inl ⟨hcomposite, rfl⟩
  rw [hlacks.run_satisfies hs, decide_eq_false (Ne.symm hne), registryHas, he, Option.elim_some, hno]
  rfl

/-- **Equal data matches alike.** Where the registered members are built-in data, two values of one native category that are
equal as built-in data match the same alternative of every expression, and the world is left as it is. The category counts:
though a boolean equals the number that it stands for, it satisfies no enumeration without a boolean among its members, and no number
satisfies one that has only booleans, apart from what the name says as that of a category. -/
theorem equal_data_matches_alike (hs : w.system? sys = some s)
    (hmembers : ∀ m ∈ membersOf s.enums, (w.read m).IsBuiltIn) :
    (∀ x y, (w.read x).IsBuiltIn → (w.read y).IsBuiltIn → x.category = y.category →
      (w.read x).equal (w.read y) = true → ∀ expression e, expression.string? = some e →
        ∃ found, (findMatch sys x expression).run w = (.ok found, w) ∧
          (findMatch sys y expression).run w = (.ok found, w)) ∧
    (∀ b, (Value.bool b).equal (.ofInt (if b then 1 else 0)) = true) ∧
    (∀ a i n ms, Fields.get? s.enums a = some (.enum i n ms) →
      ((∀ m ∈ ms, ∀ b, m.2 ≠ .bool b) → ∀ b, hasValue w (.enum i n ms) (.bool b) = false ∧
        (a ≠ "boolean" → (satisfies sys (.bool b) a).run w = (.ok false, w))) ∧
      ((∀ m ∈ ms, ∃ b, m.2 = .bool b) → ∀ x, x.category = .number → hasValue w (.enum i n ms) x = false ∧
        (a ≠ "number" → (satisfies sys x a).run w = (.ok false, w)))) := by
  refine ⟨fun x y hx hy hcategory hequal expression e he => ?_, fun b => ?_, fun a i n ms hget => ⟨fun h b => ?_, ?_⟩⟩
  · have hlacks {z : Value} (hz : (w.read z).IsBuiltIn) : Lacks z "type_of" w w :=
      lacks_of_isNative (isNative_of_isBuiltIn hz) (by decide) w
    refine ⟨_, (hlacks hx).run_findMatch hs he, ?_⟩
    rw [(hlacks hy).run_findMatch hs he]
    simp only [hcategory, registryHas_congr hmembers hx hy hcategory hequal]
  · cases b <;> decide +kernel
  · have hno := hasValue_bool (w := w) (i := i) (n := n) h b
    exact ⟨hno, fun hne => run_satisfies_of_not_member hs rfl hget hne hno⟩
  · intro h x hx
    have hno := hasValue_number (w := w) (i := i) (n := n) h hx
    have hcomposite : x.isComposite = false := by rw [Value.isComposite, hx]; rfl
    exact ⟨hno, fun hne => run_satisfies_of_not_member hs hcomposite hget (hx ▸ hne) hno⟩

/-- A world with a list that can be changed, and with an enumeration that has it as a member. -/
def sharingWorld : World :=
  { World.initial with
    cells := [.list [.ofInt 1, .set false [.ofInt 2]]]
    systems := [("main", ⟨"|", [("Lists", .enum 0 "Lists" [(.ofString "ONE", .shared .list 0)])], [], 0⟩)] }

/-- The list, and one of fractions with a frozen set in it, match the same alternatives. -/
theorem lists_match_alike :
    ∃ s, sharingWorld.system? "main" = some s ∧ (∀ m ∈ membersOf s.enums, (sharingWorld.read m).IsBuiltIn) ∧
      ∀ expression e, expression.string? = some e → ∃ found,
        (findMatch "main" (.shared .list 0) expression).run sharingWorld = (.ok found, sharingWorld) ∧
        (findMatch "main" (.list [.number (.fraction 1), .set true [.number (.fraction 2)]]) expression).run sharingWorld =
          (.ok found, sharingWorld) := by
  have hshared : sharingWorld.read (.shared .list 0) = .list [.ofInt 1, .set false [.ofInt 2]] := rfl
  have hlist {p q : Number} (frozen : Bool) : (Value.list [.number p, .set frozen [.number q]]).IsBuiltIn := by
    refine .list fun x hx => ?_
    rcases List.mem_pair.1 hx with rfl | rfl
    · exact .number p
    · refine .set frozen (fun x hx => ?_) (List.pairwise_singleton _ _)
      rw [List.mem_singleton.1 hx]
      exact .number q
  have hx : (sharingWorld.read (.shared .list 0)).IsBuiltIn := by rw [hshared]; exact hlist false
  have hs : sharingWorld.system? "main" =
      some ⟨"|", [("Lists", .enum 0 "Lists" [(.ofString "ONE", .shared .list 0)])], [], 0⟩ := rfl
  have hmembers : ∀ m ∈ membersOf [("Lists", .enum 0 "Lists" [(.ofString "ONE", .shared .list 0)])],
      (sharingWorld.read m).IsBuiltIn := by
    rintro _ ⟨name, i, n, ms, hmem, m, hm, rfl⟩
    cases List.mem_singleton.1 hmem
    rw [List.mem_singleton.1 hm]
    exact hx
  exact ⟨_, hs, hmembers, (equal_data_matches_alike hs hmembers).1 _ _ hx (hlist true) rfl (by decide +kernel)⟩

end Lineage.Query
