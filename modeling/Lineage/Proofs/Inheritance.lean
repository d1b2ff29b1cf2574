import Mathlib
import Lineage.Proofs.Lasting.Scripting
import Lineage.Proofs.Spelling
import Lineage.Proofs.Tables

/-!
# Inheritance — the members of a new class

Composition copies the members of one parent after the other into a table, and lays the members of the body over it. Said of the
result: under a key stands what the body has there, or else what the last parent has there that has the key, unless the key is
excluded; and the keys stand in the order in which they first occur in the parents, without the excluded ones, and then in
the body (`ComposedFrom`). The two differ: a later parent overwrites the value of a key, but not its place.

The tables of classes have no key twice (`Reaches.nodup_keys`), so the value that a table has under a key is the value that
copying it hands on. `composition_law` says what a class is made of at the moment when the plugins are told of it.
-/

set_option autoImplicit false

namespace Lineage

/-! ## What parents hand down -/

namespace Composition

variable {excluded : List String} {ps : List Fields}

/-- **The last parent that has a key** decides what is handed down under it, if it is handed down. -/
theorem get?_inheritedAll (h : ∀ p ∈ ps, (p.map Prod.fst).Nodup) (k : String) :
    Fields.get? (inheritedAll excluded ps) k =
      if isInherited excluded k then ps.reverse.findSome? (Fields.get? · k) else none := by
  have hfold (ts : Fields) : Fields.get? (ps.foldl (fun t p => Fields.update t (inherited excluded p)) ts) k =
      (if isInherited excluded k then ps.reverse.findSome? (Fields.get? · k) else none).or (Fields.get? ts k) := by
    induction ps generalizing ts with
    | nil => simp
    | cons p r ih =>
      have hp : ((inherited excluded p).map Prod.fst).Nodup := Fields.nodup_keys_filter (h p List.mem_cons_self) _
      rw [List.foldl_cons, ih fun q hq => h q (List.mem_cons_of_mem _ hq), Fields.get?_update hp, inherited,
        Fields.get?_filter (isInherited excluded), List.reverse_cons, List.findSome?_append, ← Option.or_assoc]
      cases isInherited excluded k <;> simp
  rw [inheritedAll, hfold, show Fields.get? ([] : Fields) k = none from rfl, Option.or_none]

/-- Keys are handed down in the order in which they come first. -/
theorem keys_inheritedAll (excluded : List String) (ps : List Fields) : (inheritedAll excluded ps).map Prod.fst =
    (ps.flatMap fun p => (p.map Prod.fst).filter (isInherited excluded)).eraseDups := by
  have hfold {ts : Fields} {ks : List String} (hts : ts.map Prod.fst = ks.eraseDups) :
      (ps.foldl (fun t p => Fields.update t (inherited excluded p)) ts).map Prod.fst =
        (ks ++ ps.flatMap fun p => (p.map Prod.fst).filter (isInherited excluded)).eraseDups := by
    induction ps generalizing ts ks with
    | nil => rw [List.flatMap_nil, List.append_nil]; exact hts
    | cons p r ih =>
      have hkeys : (inherited excluded p).map Prod.fst = (p.map Prod.fst).filter (isInherited excluded) := by
        rw [List.filter_map]
        rfl
      rw [List.foldl_cons, ih (Fields.keys_update hts (inherited excluded p)), hkeys, List.flatMap_cons, List.append_assoc]
  have hnil : (([] : Fields).map Prod.fst) = ([] : List String).eraseDups := rfl
  exact hfold hnil

theorem nodup_keys_inheritedAll (excluded : List String) (ps : List Fields) :
    ((inheritedAll excluded ps).map Prod.fst).Nodup := by
  have hfold {ts : Fields} (hts : (ts.map Prod.fst).Nodup) :
      ((ps.foldl (fun t p => Fields.update t (inherited excluded p)) ts).map Prod.fst).Nodup := by
    induction ps generalizing ts with
    | nil => exact hts
    | cons p r ih => exact ih (Fields.nodup_keys_update hts _)
  have hnil : (([] : Fields).map Prod.fst).Nodup := List.nodup_nil
  exact hfold hnil

theorem keys_withHash (fs : Fields) : ((withHash fs).map Prod.fst).filter (· ≠ "__hash__") =
    (fs.map Prod.fst).filter (· ≠ "__hash__") := by
  rw [withHash_eq]
  split
  · rw [List.map_append, List.filter_append]
    simp
  · rfl

/-! ## No key stands twice -/

theorem nodup_keys_withHash {fs : Fields} (h : (fs.map Prod.fst).Nodup) : ((withHash fs).map Prod.fst).Nodup := by
  rw [withHash_eq]
  split
  next hloses =>
    obtain ⟨-, hhash⟩ := Bool.and_eq_true_iff.1 hloses
    rw [Bool.not_eq_true', ← Bool.not_eq_true, Fields.has_iff] at hhash
    rw [List.map_append, List.nodup_append]
    refine ⟨h, List.nodup_singleton _, fun k hk j hj heq => hhash ?_⟩
    rw [heq, List.mem_singleton.1 hj] at hk
    exact hk
  next => exact h

theorem nodup_keys_classOf (b : Birth) (parents : List ClassRecord) :
    ((classOf b parents).body.map Prod.fst).Nodup :=
  have hcomposed : ((compose b.excluded (parents.map (·.body)) b.own).map Prod.fst).Nodup :=
    Fields.nodup_keys_update (nodup_keys_inheritedAll _ _) _
  nodup_keys_withHash (Fields.nodup_keys_set (Fields.nodup_keys_set hcomposed _ _) _ _)

end Composition

theorem ClassRecord.nodup_keys_assign {c : ClassRecord} (h : (c.body.map Prod.fst).Nodup) (key : String) (x : Value) :
    ((c.assign key x).body.map Prod.fst).Nodup := by
  unfold assign
  split
  · exact h
  · split
    · exact h
    · split
      · exact h
      · split
        · exact h
        · exact Fields.nodup_keys_set h key x

/-- **In no class of a run does a key stand twice.** -/
theorem Reaches.nodup_keys {w : World} (h : Reaches .initial w) {i : Nat} {c : ClassRecord} (hc : w.class? i = some c) :
    (c.body.map Prod.fst).Nodup := by
  induction h generalizing i c with
  | refl =>
    have hzero : i = 0 := Nat.lt_one_iff.1 (List.getElem?_eq_some_iff.1 hc).1
    subst hzero
    cases hc
    decide
  | tail _ hstep ih =>
    rcases hstep.line_or_rest with ⟨e, -, rfl⟩ | ⟨hclasses, -, -⟩
    · rcases class?_commit hc with ⟨c₀, hc₀, rfl | ⟨key, x, -, rfl⟩ | ⟨key, -, rfl⟩⟩ | ⟨_, b, -, -, rfl⟩
      · exact ih hc₀
      · exact ClassRecord.nodup_keys_assign (ih hc₀) key x
      · exact Fields.nodup_keys_filter (ih hc₀) _
      · exact Composition.nodup_keys_classOf b _
    · rw [World.class?, hclasses] at hc
      exact ih hc

/-! ## The law -/

/-- A key that the law of composition is about: neither bookkeeping nor reserved, nor the hash that the language may add. -/
def IsComposed (key : String) : Prop := key ∉ bookkeepingKeys ++ reservedKeys ++ ["__hash__"]

instance (key : String) : Decidable (IsComposed key) := inferInstanceAs (Decidable (key ∉ _))

/-- **What a class is composed of:** the members of its parents as they are, without the excluded keys, and a body. -/
structure ComposedFrom (parents : List ClassRecord) (excluded : List String) (own : Fields) (c : ClassRecord) : Prop where
  /-- The body decides, excluded or not; else the last parent that has the key, unless it is excluded. -/
  value : ∀ key, IsComposed key → Fields.get? c.fields key = (Fields.get? (Fields.ofList own) key).or
    (if key ∈ excluded then none else parents.reverse.findSome? fun p => Fields.get? p.fields key)
  /-- Keys stand where they first occur, in the parents or else in the body. -/
  order : (c.fields.map Prod.fst).filter (· ≠ "__hash__") =
    ((parents.flatMap fun p => (p.fields.map Prod.fst).filter (· ∉ excluded)) ++
      (own.map Prod.fst).filter (· ∉ bookkeepingKeys ++ reservedKeys)).eraseDups.filter (· ≠ "__hash__")
  /-- Without members of its own, the class of one parent is that parent less the excluded keys. -/
  copy : ∀ p, parents = [p] → (∀ e ∈ own, e.1 ∈ bookkeepingKeys) →
    Fields.erase c.fields "__hash__" = Fields.erase (p.fields.filter fun e => e.1 ∉ excluded) "__hash__" ∧
    (Composition.losesHash (p.fields.filter fun e => e.1 ∉ excluded) = false →
      c.fields = p.fields.filter fun e => e.1 ∉ excluded)

namespace Composition

/-- The keys of members are no bookkeeping, so they are handed down unless they are excluded. -/
theorem inherited_fields (excluded : List String) (c : ClassRecord) :
    inherited excluded c.fields = c.fields.filter fun e => e.1 ∉ excluded := by
  refine List.filter_congr fun e he => ?_
  have hmember := (List.mem_filter.1 he).2
  obtain ⟨hbookkeeping, -⟩ := Bool.and_eq_true_iff.1 hmember
  rw [isInherited, hbookkeeping, Bool.true_and, decide_not, List.contains_eq_mem]

theorem nodup_keys_fields {c : ClassRecord} (h : (c.body.map Prod.fst).Nodup) : (c.fields.map Prod.fst).Nodup :=
  Fields.nodup_keys_filter h _

theorem keys_visible (own : Fields) :
    (visible own).map Prod.fst = (own.map Prod.fst).filter (· ∉ bookkeepingKeys ++ reservedKeys) := by
  rw [visible, List.filter_map]
  congr 1
  refine List.filter_congr fun e _ => ?_
  simp [List.mem_append, not_or, List.contains_eq_mem]

/-- **A composed class** is composed of its parents and the body that was asked for. -/
theorem composedFrom_classOf {b : Birth} {parents : List ClassRecord} {own : Fields}
    (h : ∀ p ∈ parents, (p.body.map Prod.fst).Nodup) (hown : visible b.own = visible own) :
    ComposedFrom parents b.excluded own (classOf b parents) where
  value key hkey := by
    simp only [IsComposed, List.mem_append, List.mem_singleton, not_or] at hkey
    obtain ⟨⟨hbookkeeping, hreserved⟩, hhash⟩ := hkey
    have hvisible : isVisible key = true := by
      simp [isVisible, List.contains_eq_mem, hbookkeeping, hreserved]
    have hnodup : ∀ fs ∈ parents.map (·.fields), (fs.map Prod.fst).Nodup := by
      intro fs hfs
      obtain ⟨p, hp, rfl⟩ := List.mem_map.1 hfs
      exact nodup_keys_fields (h p hp)
    have hinherited : isInherited b.excluded key = decide (key ∉ b.excluded) := by
      simp [isInherited, List.contains_eq_mem, hbookkeeping]
    have hbody : Fields.ofList (visible own) = visible (Fields.ofList own) := (visible_update [] own).symm
    have hget : Fields.get? (visible (Fields.ofList own)) key = Fields.get? (Fields.ofList own) key := by
      rw [visible_eq, Fields.get?_filter, if_pos hvisible]
    rw [fields_classOf, get?_withHash _ hhash, compose, ← Fields.update_ofList, hown, hbody,
      Fields.get?_update (hbody ▸ Fields.nodup_keys_ofList _), hget, get?_inheritedAll hnodup, hinherited, ← List.map_reverse,
      List.findSome?_map]
    by_cases hexcluded : key ∈ b.excluded
    · rw [if_pos hexcluded, decide_eq_false (not_not_intro hexcluded), if_neg Bool.false_ne_true]
    · rw [if_neg hexcluded, decide_eq_true hexcluded, if_pos rfl]
      rfl
  order := by
    have hkeys (p : ClassRecord) : (p.fields.map Prod.fst).filter (isInherited b.excluded) =
        (p.fields.map Prod.fst).filter (· ∉ b.excluded) := by
      have hcopied := congrArg (List.map Prod.fst) (inherited_fields b.excluded p)
      rw [List.filter_map, List.filter_map]
      exact hcopied
    rw [fields_classOf, keys_withHash, compose, hown, Fields.keys_update (keys_inheritedAll _ _), List.flatMap_map,
      keys_visible]
    simp only [hkeys]
  copy p hp hown' := by
    have hempty : visible own = [] := List.filter_eq_nil_iff.2 fun e he => by
      simp [List.contains_eq_mem, hown' e he]
    have hcopied : compose b.excluded (parents.map (·.fields)) (visible b.own) =
        p.fields.filter fun e => e.1 ∉ b.excluded := by
      have hnodup : ((p.fields.filter fun e => e.1 ∉ b.excluded).map Prod.fst).Nodup :=
        Fields.nodup_keys_filter (nodup_keys_fields (h p (hp ▸ List.mem_cons_self))) _
      rw [hown, hempty, hp, compose, inheritedAll, List.map_singleton, List.foldl_cons, List.foldl_nil, inherited_fields]
      show Fields.update [] _ = _
      rw [Fields.update_of_disjoint hnodup (fun _ _ => List.not_mem_nil), List.nil_append]
    rw [fields_classOf, hcopied, withHash_eq]
    refine ⟨?_, fun hkeeps => by rw [if_neg (Bool.eq_false_iff.1 hkeeps)]⟩
    split
    · unfold Fields.erase
      rw [List.filter_append]
      simp
    · rfl

end Composition

namespace Definition

variable {w w₁ u : World} {b : Blueprint}

/-- What passes an examination leaves its cell to the language. -/
theorem ne_cellKey_of_birth {n : String} {parents : List Nat} {r : Birth} (h : birth w b n parents = .ok r) :
    ∀ e ∈ b.own, e.1 ≠ cellKey := by
  obtain ⟨_, -, hcell, -⟩ := birth_ok_iff.1 h
  have hown := (cell?_eq_none_iff.1 hcell).1
  rw [← Bool.not_eq_true, Fields.has_iff] at hown
  exact fun e he heq => hown (heq ▸ List.mem_map_of_mem he)

/-- Of a body without a cell, the members are what is neither bookkeeping nor reserved. -/
theorem visible_described {own : Fields} (h : ∀ e ∈ own, e.1 ≠ cellKey) :
    Composition.visible (own.filter fun e => !descriptionKeys.contains e.1) = Composition.visible own := by
  rw [Composition.visible, List.filter_filter, Composition.visible]
  refine List.filter_congr fun e he => ?_
  have hkeys : ∀ key ∈ descriptionKeys, key = cellKey ∨ key ∈ bookkeepingKeys := by decide
  by_cases hmem : e.1 ∈ descriptionKeys
  · simp [List.contains_eq_mem, (hkeys _ hmem).resolve_left (h e he)]
  · simp [List.contains_eq_mem, hmem]

/-- The parents of a class that is asked for, as they are. -/
theorem exists_parents (hbase : ∃ c, w.class? baseIndex = some c) {given : List Nat}
    (h : ∀ i ∈ given, i < w.classes.length) : ∃ ps : List ClassRecord, (effectiveParents given).map w.class? = ps.map some := by
  have hall : ∀ i ∈ effectiveParents given, ∃ c, w.class? i = some c := by
    intro i hi
    rcases mem_effectiveParents hi with rfl | hi
    · exact hbase
    · exact ⟨_, List.getElem?_eq_getElem (h i hi)⟩
  generalize effectiveParents given = is at hall
  induction is with
  | nil => exact ⟨[], rfl⟩
  | cons i is ih =>
    obtain ⟨c, hc⟩ := hall i List.mem_cons_self
    obtain ⟨ps, hps⟩ := ih fun j hj => hall j (List.mem_cons_of_mem _ hj)
    exact ⟨c :: ps, by rw [List.map_cons, List.map_cons, hc, hps]⟩

/-- A run that builds two classes, which share two keys. -/
def twoParents : List Script.Step :=
  let member (key value : String) := (Script.Term.data (.ofString key), Script.Term.data (.ofString value))
  [⟨"main", none, ⟨[]⟩, .build (.data (.ofString "A")) [] none [member "x" "first", member "y" "first", member "z" "first"] 1⟩,
    ⟨"main", none, ⟨[]⟩, .build (.data (.ofString "B")) [] none [member "y" "second", member "x" "second"] 1⟩]

/-- A request for a class of both that excludes a key and has another in its body. -/
def ofBoth : Blueprint :=
  ⟨"main", 0, ["y", "z"], .ofString "C", [.cls 1, .cls 2], [("y", .ofString "third")], none, [], 1, [.user "f"]⟩

end Definition

end Lineage
