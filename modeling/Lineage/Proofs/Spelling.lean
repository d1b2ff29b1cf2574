import Mathlib
import Lineage.Proofs.Conduct
import Lineage.Proofs.Delegation
import Lineage.Proofs.Isolation

/-!
# Spelling — two ways to write a class

A class can be written with its members, as a class statement does, or created without any and given them one after the
other. Both ways overwrite the members copied from the parents with the new ones in their order, so they agree; but a class
with an `__eq__` and no `__hash__` gets an empty one when it is built, and by then one way has set the members and the other
has not. So the two tables may differ in the place of that one entry (`Fields.SameBut`).

What is built from the two later inherits the likeness: composition carries it on (`Composition.Carried`), and
`Alongside.twins` follows it through any number of builds.
-/

set_option autoImplicit false

namespace Lineage

/-! ## Tables that differ in the place of one key -/

namespace Fields

/-- **The same but for the place of one key:** the other entries are the same in the same order, and so is what stands under
that key. -/
structure SameBut (key : String) (fs gs : Fields) : Prop where
  rest : Fields.erase fs key = Fields.erase gs key
  entry : fs.filter (fun e => e.1 = key) = gs.filter (fun e => e.1 = key)

namespace SameBut

variable {key : String} {fs gs : Fields}

theorem refl (key : String) (fs : Fields) : SameBut key fs fs := ⟨.refl _, .refl _⟩

/-- The same is found under every key. -/
theorem get? (h : SameBut key fs gs) (k : String) : Fields.get? fs k = Fields.get? gs k := by
  by_cases hk : k = key
  · subst hk
    have hfind (ts : Fields) : ts.find? (fun e => e.1 = k) = (ts.filter fun e => e.1 = k).head? := by
      rw [List.head?_filter]
    rw [Fields.get?, Fields.get?, hfind, hfind, h.entry]
  · rw [← get?_erase_of_ne fs hk, ← get?_erase_of_ne gs hk, h.rest]

theorem has (h : SameBut key fs gs) (k : String) : Fields.has fs k = Fields.has gs k := by
  have hsome (ts : Fields) : Fields.has ts k = (Fields.get? ts k).isSome := by
    rw [Fields.has, Fields.get?, Option.isSome_map, List.isSome_find?]
  rw [hsome, hsome, h.get?]

theorem filter (h : SameBut key fs gs) (p : String → Bool) :
    SameBut key (fs.filter fun e => p e.1) (gs.filter fun e => p e.1) where
  rest := by rw [← filter_erase, ← filter_erase, h.rest]
  entry := by
    have hcomm (ts : Fields) : (ts.filter fun e => p e.1).filter (fun e => e.1 = key) =
        (ts.filter fun e => e.1 = key).filter fun e => p e.1 := List.filter_comm ..
    rw [hcomm, hcomm, h.entry]

theorem update (h : SameBut key fs gs) {fs' gs' : Fields} (h' : SameBut key fs' gs') :
    SameBut key (Fields.update fs fs') (Fields.update gs gs') where
  rest := by
    show (Fields.update fs fs').filter _ = (Fields.update gs gs').filter _
    rw [filter_update (fun k => decide (k ≠ key)), filter_update (fun k => decide (k ≠ key))]
    exact congrArg₂ Fields.update h.rest h'.rest
  entry := by
    rw [filter_update (fun k => decide (k = key)), filter_update (fun k => decide (k = key))]
    exact congrArg₂ Fields.update h.entry h'.entry

theorem append (h : SameBut key fs gs) (more : Fields) : SameBut key (fs ++ more) (gs ++ more) where
  rest := by
    unfold Fields.erase
    rw [List.filter_append, List.filter_append]
    exact congrArg (· ++ _) h.rest
  entry := by rw [List.filter_append, List.filter_append, h.entry]

/-- A key that a table does not set may come before or after what the table sets. -/
theorem update_append {key : String} {hs : Fields} (hkey : ∀ e ∈ hs, e.1 ≠ key) (fs : Fields) (v : Value) :
    SameBut key (Fields.update fs hs ++ [(key, v)]) (Fields.update (fs ++ [(key, v)]) hs) where
  rest := by
    show (Fields.update fs hs ++ [(key, v)]).filter _ = (Fields.update (fs ++ [(key, v)]) hs).filter _
    rw [filter_update (fun k => decide (k ≠ key)), List.filter_append, List.filter_append,
      filter_update (fun k => decide (k ≠ key))]
    simp
  entry := by
    have hnone : hs.filter (fun e => decide (e.1 = key)) = [] :=
      List.filter_eq_nil_iff.2 fun e he h => hkey e he (of_decide_eq_true h)
    rw [filter_update (fun k => decide (k = key)), List.filter_append, List.filter_append,
      filter_update (fun k => decide (k = key)), hnone]
    rfl

end SameBut

/-- It comes to the same place only if the table sets nothing new. -/
theorem update_append_eq_iff {key : String} {hs : Fields} (hkey : ∀ e ∈ hs, e.1 ≠ key) (fs : Fields) (v : Value) :
    Fields.update fs hs ++ [(key, v)] = Fields.update (fs ++ [(key, v)]) hs ↔ ∀ e ∈ hs, Fields.has fs e.1 = true := by
  constructor
  · intro h e he
    rcases last_key_update (fs ++ [(key, v)]) hs with hall | ⟨k, hk, hlast⟩
    · have hmem := has_iff.1 (hall e he)
      rw [List.map_append, List.mem_append] at hmem
      rcases hmem with hmem | hmem
      · exact has_iff.2 hmem
      · exact absurd (List.mem_singleton.1 hmem) (hkey e he)
    · rw [← h, List.map_append, List.map_singleton, List.getLast?_concat] at hlast
      obtain ⟨e', he', rfl⟩ := List.mem_map.1 hk
      exact absurd (Option.some.inj hlast).symm (hkey e' he')
  · exact fun h => (update_append_of_has h _).symm

end Fields

/-! ## Members of a composed class -/

namespace Composition

/-- The entries that inheritance copies and reports show. -/
def visible (fs : Fields) : Fields := fs.filter fun e => !bookkeepingKeys.contains e.1 && !reservedKeys.contains e.1

/-- Whether the entries under a key are among them. -/
def isVisible (key : String) : Bool := !bookkeepingKeys.contains key && !reservedKeys.contains key

theorem visible_eq (fs : Fields) : visible fs = fs.filter fun e => isVisible e.1 := rfl

theorem visible_set (fs : Fields) (key : String) (v : Value) :
    visible (Fields.set fs key v) = if isVisible key then Fields.set (visible fs) key v else visible fs :=
  Fields.filter_set isVisible fs key v

theorem visible_update (fs gs : Fields) : visible (Fields.update fs gs) = Fields.update (visible fs) (visible gs) :=
  Fields.filter_update isVisible fs gs

/-- Whether a class with these members would lose its hash: it decides equality for itself, and has no hash of its own. -/
def losesHash (fs : Fields) : Bool := Fields.has fs "__eq__" && !Fields.has fs "__hash__"

theorem withHash_eq (fs : Fields) : withHash fs = if losesHash fs then fs ++ [("__hash__", .nil)] else fs := rfl

theorem has_visible (fs : Fields) {key : String} (h : isVisible key = true) :
    Fields.has (visible fs) key = Fields.has fs key := by
  rw [Bool.eq_iff_iff, Fields.has_iff, Fields.has_iff, List.mem_map, List.mem_map]
  constructor
  · rintro ⟨e, he, rfl⟩
    exact ⟨e, List.mem_of_mem_filter he, rfl⟩
  · rintro ⟨e, he, rfl⟩
    exact ⟨e, List.mem_filter.2 ⟨he, h⟩, rfl⟩

theorem visible_withHash (fs : Fields) : visible (withHash fs) = withHash (visible fs) := by
  have hsame : losesHash (visible fs) = losesHash fs := by
    rw [losesHash, losesHash, has_visible fs (by decide), has_visible fs (by decide)]
  rw [withHash_eq, withHash_eq, hsame]
  split
  · exact List.filter_append ..
  · rfl

theorem visible_reserve (name : String) (names : List String) (fs : Fields) :
    visible (reserve name names fs) = visible fs := by
  have hset (gs : Fields) {key : String} (v : Value) (hkey : key ∈ reservedKeys) :
      visible (Fields.set gs key v) = visible gs := by
    have hhidden : isVisible key = false := by
      rw [isVisible, List.contains_iff_mem.2 hkey, Bool.not_true, Bool.and_false]
    rw [visible_set, hhidden, if_neg Bool.false_ne_true]
  rw [reserve, hset _ _ (by decide), hset _ _ (by decide)]

theorem visible_inheritedAll (excluded : List String) (bodies : List Fields) :
    visible (inheritedAll excluded bodies) = inheritedAll excluded (bodies.map visible) := by
  have hfold (ts : Fields) : visible (bodies.foldl (fun t p => Fields.update t (inherited excluded p)) ts) =
      (bodies.map visible).foldl (fun t p => Fields.update t (inherited excluded p)) (visible ts) := by
    induction bodies generalizing ts with
    | nil => rfl
    | cons p r ih =>
      rw [List.foldl_cons, ih, List.map_cons, List.foldl_cons, visible_update]
      congr 2
      exact List.filter_comm ..
  exact hfold []

/-- **The members of a new class** are those of its parents, overwritten by its own. -/
theorem fields_classOf (b : Birth) (parents : List ClassRecord) : (classOf b parents).fields =
    withHash (compose b.excluded (parents.map (·.fields)) (visible b.own)) := by
  show visible (withHash (reserve _ _ (compose b.excluded (parents.map (·.body)) b.own))) = _
  rw [visible_withHash, visible_reserve, compose, visible_update, visible_inheritedAll, List.map_map]
  rfl

/-- A table is overwritten and hashed, or hashed and overwritten: the two differ at most in the place of the hash, and only
if one is missing and something new is set. -/
theorem withHash_update {own : Fields} (h : ∀ e ∈ own, e.1 ≠ "__eq__" ∧ e.1 ≠ "__hash__") (fs : Fields) :
    Fields.SameBut "__hash__" (withHash (Fields.update fs own)) (Fields.update (withHash fs) own) ∧
      (withHash (Fields.update fs own) = Fields.update (withHash fs) own ↔
        (losesHash fs = true → ∀ e ∈ own, Fields.has fs e.1 = true)) := by
  have hhas {key : String} (hkey : ∀ e ∈ own, e.1 ≠ key) : Fields.has (Fields.update fs own) key = Fields.has fs key := by
    rw [Bool.eq_iff_iff, Fields.has_iff, Fields.has_iff, Fields.mem_keys_update]
    refine or_iff_left fun hmem => ?_
    obtain ⟨e, he, rfl⟩ := List.mem_map.1 hmem
    exact hkey e he rfl
  have hloses : losesHash (Fields.update fs own) = losesHash fs := by
    rw [losesHash, losesHash, hhas fun e he => (h e he).1, hhas fun e he => (h e he).2]
  rw [withHash_eq, withHash_eq, hloses]
  cases losesHash fs with
  | false => exact ⟨.refl _ _, fun _ h => (nomatch h), fun _ => rfl⟩
  | true =>
    have hhash : ∀ e ∈ own, e.1 ≠ "__hash__" := fun e he => (h e he).2
    simp only [if_true, forall_const]
    exact ⟨.update_append hhash fs .nil, Fields.update_append_eq_iff hhash fs .nil⟩

/-! ## A likeness that is carried on -/

/-- **Composition carries a likeness on:** what is composed of tables that are alike in pairs, with the same members of its
own, is alike. -/
def Carried (T : Fields → Fields → Prop) : Prop :=
  ∀ excluded ps qs own, List.Forall₂ T ps qs →
    T (withHash (compose excluded ps own)) (withHash (compose excluded qs own))

theorem carried_eq : Carried Eq := by
  intro excluded ps qs own h
  rw [List.forall₂_eq_eq_eq] at h
  rw [h]

theorem carried_sameBut : Carried (Fields.SameBut "__hash__") := by
  intro excluded ps qs own h
  have hfold {ts us : Fields} (hstart : Fields.SameBut "__hash__" ts us) : Fields.SameBut "__hash__"
      (ps.foldl (fun t p => Fields.update t (inherited excluded p)) ts)
      (qs.foldl (fun t p => Fields.update t (inherited excluded p)) us) := by
    induction h generalizing ts us with
    | nil => exact hstart
    | cons hpq _ ih => exact ih (hstart.update (hpq.filter (isInherited excluded)))
  have hcomposed : Fields.SameBut "__hash__" (compose excluded ps own) (compose excluded qs own) :=
    (hfold (.refl _ [])).update (.refl _ own)
  have hsame : losesHash (compose excluded ps own) = losesHash (compose excluded qs own) := by
    rw [losesHash, losesHash, hcomposed.has, hcomposed.has]
  rw [withHash_eq, withHash_eq, hsame]
  split
  · exact hcomposed.append _
  · exact hcomposed

end Composition

/-- Two classes have the same type name, the same membership, and members that are alike. -/
structure Twins (T : Fields → Fields → Prop) (c d : ClassRecord) : Prop where
  typeName : c.typeName = d.typeName
  membership : c.membership = d.membership
  fields : T c.fields d.fields

/-- **Children of twins are twins,** if they are asked for in the same way. -/
theorem Twins.classOf {T : Fields → Fields → Prop} (hT : Composition.Carried T) {b b' : Birth} (hname : b.name = b'.name)
    (hexcluded : b.excluded = b'.excluded) (hown : Composition.visible b.own = Composition.visible b'.own)
    {ps qs : List ClassRecord} (h : List.Forall₂ (Twins T) ps qs) :
    Twins T (Composition.classOf b ps) (Composition.classOf b' qs) where
  typeName := by rw [Composition.typeName_classOf, Composition.typeName_classOf, hname]
  membership := by
    have hmemberships : ps.map (·.membership) = qs.map (·.membership) := by
      induction h with
      | nil => rfl
      | cons hpq _ ih => rw [List.map_cons, List.map_cons, hpq.membership, ih]
    rw [Composition.membership_classOf, Composition.membership_classOf, hname, hmemberships]
  fields := by
    rw [Composition.fields_classOf, Composition.fields_classOf, hexcluded, hown]
    refine hT _ _ _ _ ?_
    rw [List.forall₂_map_left_iff, List.forall₂_map_right_iff]
    exact h.imp fun _ _ hpq => hpq.fields

namespace Definition

variable {w u : World} {s : System}

/-! ## Names that a class may have -/

/-- **A name that a class may have:** a text that is neither empty nor has a null character in it, and that counts as a
string in the type system. -/
def Names (w : World) (s : System) (name : Value) (n : String) : Prop :=
  ∃ t, name = .text t ∧ t.toString = n ∧ t.isEmpty = false ∧ Char.ofNat 0 ∉ n.toList ∧
    ∃ a ∈ Union.alternatives s.delimiter "string", a = "string" ∨ Query.Registered s.enums w a name

theorem checkName_ok_iff {b : Blueprint} : (checkName b).run w = (.ok (), u) ↔
    (Query.typeOf b.sys b.name (.ofString "string")).run w = (.ok true, u) ∧ (u.read b.name).isTruthy = true := by
  unfold checkName
  rw [Action.bind_eq_ok]
  constructor
  · rintro ⟨_, w₁, hrequired, h⟩
    rw [Action.run_bind_of_ok (Action.run_get w₁)] at h
    cases htrue : (w₁.read b.name).isTruthy with
    | false =>
      simp only [htrue] at h
      cases h
    | true =>
      simp only [htrue] at h
      cases h
      exact ⟨Query.requireArgument_ok_iff.1 hrequired, htrue⟩
  · rintro ⟨htype, htrue⟩
    refine ⟨(), u, Query.requireArgument_ok_iff.2 htype, ?_⟩
    rw [Action.run_bind_of_ok (Action.run_get u), htrue]
    rfl

theorem classText_text_iff {t : Text} {n : String} :
    classText w (.text t) = .ok n ↔ t.toString = n ∧ Char.ofNat 0 ∉ n.toList := by
  have hrun : classText w (.text t) = if t.toString.toList.contains (Char.ofNat 0) then
      .error (.misuse .value "type name must not contain null characters") else .ok t.toString := rfl
  rw [hrun]
  by_cases h : t.toString.toList.contains (Char.ofNat 0) = true
  · rw [if_pos h]
    refine ⟨fun h' => (nomatch h'), ?_⟩
    rintro ⟨rfl, hnot⟩
    exact absurd (List.contains_iff_mem.1 h) hnot
  · rw [if_neg h, Except.ok.injEq]
    constructor
    · rintro rfl
      exact ⟨rfl, fun hmem => h (List.contains_iff_mem.2 hmem)⟩
    · exact fun h' => h'.1

/-- A text is not asked for its type. -/
theorem lacks_text (t : Text) (key : String) (w : World) : Query.Lacks (.text t) key w w := .inl ⟨rfl, rfl⟩

/-- **What passes an examination has a name,** and nothing was touched to find that out. -/
theorem examine_named {b : Blueprint} {r : Birth} (h : (examine b).run w = (.ok r, u)) :
    u = w ∧ ∃ s, w.system? b.sys = some s ∧ Names w s b.name r.name := by
  obtain ⟨w₁, given, n, hname, hparents, -, hn, hb⟩ := examine_ok_iff.1 h
  obtain ⟨rfl, -, -⟩ := checkParents_eq_ok hparents
  obtain ⟨htype, htrue⟩ := checkName_ok_iff.1 hname
  obtain ⟨rfl, -⟩ := birth_eq_ok hb
  cases hs : w.system? b.sys with
  | none =>
    simp only [Query.typeOf, Query.findMatch, Value.string?_ofString] at htype
    cases (Action.run_bind_of_error (Action.run_bind_of_error (Query.run_system_of_none hs))).symm.trans htype
  | some s =>
    have hstring := classText_eq_ok hn
    cases hvalue : b.name with
    | text t =>
      rw [hvalue] at htype htrue hn
      obtain ⟨answer, hrun, hiff⟩ := (lacks_text t "type_of" w).run_typeOf hs (Value.string?_ofString "string")
      cases hrun.symm.trans htype
      obtain ⟨hnt, hnull⟩ := classText_text_iff.1 hn
      exact ⟨rfl, s, rfl, t, rfl, hnt, (Bool.not_eq_true' _).mp htrue, hnull, hiff.1 rfl⟩
    | foreign i base verdict =>
      rw [hvalue] at htrue hstring
      cases base with
      | text => cases htrue
      | _ => cases hstring
    | _ =>
      rw [hvalue] at hstring
      cases hstring

/-! ## Requests that are granted -/

/-- The members that a class gets from its parents. -/
def handedDown (w : World) (excluded : List String) (parents : List Nat) : Fields :=
  Composition.inheritedAll excluded ((parents.filterMap w.class?).map (·.fields))

/-- Whether parents hand down something in place of the cell that the language alone may fill. -/
def HandsDownCell (w : World) (excluded : List String) (parents : List Nat) : Prop :=
  Fields.has (handedDown w excluded parents) cellKey = true

/-- Something stands in place of the cell when the body or a parent says so. -/
theorem cell?_eq_none_iff {b : Blueprint} {parents : List Nat} :
    cell? w b parents = none ↔ Fields.has b.own cellKey = false ∧ ¬HandsDownCell w b.excluded parents := by
  have hbodies : Fields.has (Composition.inheritedAll b.excluded ((parents.filterMap w.class?).map (·.body))) cellKey =
      Fields.has (handedDown w b.excluded parents) cellKey := by
    have hseen : handedDown w b.excluded parents =
        Composition.visible (Composition.inheritedAll b.excluded ((parents.filterMap w.class?).map (·.body))) := by
      rw [Composition.visible_inheritedAll, List.map_map]
      rfl
    rw [hseen, Composition.has_visible _ (by decide)]
  rw [HandsDownCell, ← hbodies, cell?, Composition.compose, Fields.get?_eq_none_iff, Fields.mem_keys_update, not_or,
    ← Fields.has_iff, ← Fields.has_iff, Bool.not_eq_true, Bool.not_eq_true]
  exact and_comm

/-- **A body that the language can read:** it leaves the cell to the language, and a qualified name in it is a text. -/
def Readable (own : Fields) : Prop := ∀ e ∈ own, e.1 ≠ cellKey ∧ (e.1 = "__qualname__" → e.2.string?.isSome = true)

/-- Members of its own that a class may be asked for: no reserved key is among them, and nothing that makes a class
statement fail. -/
def Plain (own : Fields) : Prop :=
  ∀ e ∈ own, e.1 ∉ reservedKeys ∧ e.1 ≠ cellKey ∧ (e.1 = "__qualname__" → e.2.string?.isSome = true)

theorem Plain.readable {own : Fields} (h : Plain own) : Readable own := fun e he => (h e he).2

theorem reservedIn?_eq_none_iff {own : Fields} : reservedIn? own = none ↔ ∀ e ∈ own, e.1 ∉ reservedKeys := by
  refine ⟨fun h e he => not_mem_reservedKeys h he, fun h => List.find?_eq_none.2 fun key hkey hhas => ?_⟩
  obtain ⟨e, he, rfl⟩ := List.mem_map.1 (Fields.has_iff.1 hhas)
  exact h e he hkey

theorem run_checkParents {is : List Nat} (h : ∀ i ∈ is, ∃ c, w.class? i = some c) (site : Option Frame) (index : Nat) :
    (checkParents site index (is.map .cls)).run w = (.ok is, w) := by
  induction is generalizing index with
  | nil => rfl
  | cons i is ih =>
    obtain ⟨c, hc⟩ := h i List.mem_cons_self
    rw [List.map_cons, checkParents]
    simp only [Action.run_bind, Action.run_get, hc, ih fun j hj => h j (List.mem_cons_of_mem _ hj), Action.run_pure]

theorem Readable.qualifiedName {own : Fields} (h : Readable own) (w : World) (n : String) :
    ∃ q, qualifiedName w n own = .ok q := by
  unfold Definition.qualifiedName
  cases hget : Fields.get? own "__qualname__" with
  | none => exact ⟨n, rfl⟩
  | some v =>
    obtain ⟨q, hq⟩ := Option.isSome_iff_exists.1 ((h _ (Fields.mem_of_get? hget)).2 rfl)
    exact ⟨q, by simp only [hq]⟩

/-- A class with a readable body can be described if its parents hand down no cell. -/
theorem Readable.birth {b : Blueprint} (h : Readable b.own) {parents : List Nat}
    (hcell : ¬HandsDownCell w b.excluded parents) (n : String) : ∃ r, birth w b n parents = .ok r := by
  have hown : Fields.has b.own cellKey = false := by
    rw [← Bool.not_eq_true, Fields.has_iff]
    intro hmem
    obtain ⟨e, he, heq⟩ := List.mem_map.1 hmem
    exact (h e he).1 heq
  obtain ⟨q, hq⟩ := h.qualifiedName w n
  exact ⟨_, birth_ok_iff.2 ⟨q, hq, cell?_eq_none_iff.2 ⟨hown, hcell⟩, rfl⟩⟩

/-- Where the name and the parents are accepted and no key is reserved, what is left to check can be read off the world. -/
theorem run_examine_of_unreserved {b : Blueprint} {w₁ : World} (hchecked : (checkName b).run w = (.ok (), w₁))
    {given : List Nat} (hparents : b.parents = given.map .cls) (hgiven : ∀ i ∈ given, ∃ c, w₁.class? i = some c)
    (hown : reservedIn? b.own = none) :
    (examine b).run w = ((classText w₁ b.name).bind fun n => birth w₁ b n (effectiveParents given), w₁) := by
  rw [examine, Action.run_bind_of_ok hchecked, hparents, Action.run_bind_of_ok (run_checkParents hgiven _ _), hown]
  simp only [Action.run_bind, Action.run_get]
  cases classText w₁ b.name with
  | error f => rfl
  | ok n =>
    simp only [Action.run_lift_ok, Except.bind]
    cases birth w₁ b n (effectiveParents given) <;> rfl

section

variable {b : Blueprint} (hs : w.system? b.sys = some s) {n : String} (hname : Names w s b.name n)
include hs hname

/-- A name that a class may have is let through, and is asked nothing. -/
theorem run_checkName_of_names : (checkName b).run w = (.ok (), w) := by
  obtain ⟨t, ht, -, hempty, -, hcounts⟩ := hname
  rw [ht] at hcounts
  obtain ⟨answer, hrun, hiff⟩ := (lacks_text t "type_of" w).run_typeOf hs (Value.string?_ofString "string")
  rw [hiff.2 hcounts] at hrun
  refine checkName_ok_iff.2 ⟨by rw [ht]; exact hrun, ?_⟩
  rw [ht]
  exact (Bool.not_eq_true' _).mpr hempty

variable {given : List Nat} (hparents : b.parents = given.map .cls) (hgiven : ∀ p ∈ given, ∃ c, w.class? p = some c)
include hparents hgiven

/-- A request with such a name, from classes and without reserved keys, is granted unless the language has something against
it. -/
theorem run_examine_of_names (hfree : ∀ e ∈ b.own, e.1 ∉ reservedKeys) :
    (examine b).run w = (birth w b n (effectiveParents given), w) := by
  rw [run_examine_of_unreserved (run_checkName_of_names hs hname) hparents hgiven (reservedIn?_eq_none_iff.2 hfree)]
  obtain ⟨t, ht, hn, -, hnull, -⟩ := hname
  rw [ht, classText_text_iff.2 ⟨hn, hnull⟩]
  rfl

/-- It passes its examination if its body is plain and its parents hand down no cell. -/
theorem run_examine (hown : Plain b.own) (hcell : ¬HandsDownCell w b.excluded (effectiveParents given)) :
    ∃ r, birth w b n (effectiveParents given) = .ok r ∧ (examine b).run w = (.ok r, w) := by
  obtain ⟨r, hr⟩ := hown.readable.birth hcell n
  refine ⟨r, hr, ?_⟩
  rw [run_examine_of_names hs hname hparents hgiven fun e he => (hown e he).1, hr]

end

theorem map_cls_inj {is js : List Nat} (h : is.map Value.cls = js.map .cls) : is = js :=
  List.map_injective_iff.2 (fun _ _ heq => Value.cls.inj heq) h

/-- What passes an examination has no cell from its parents. -/
theorem not_handsDownCell_of_examine {b : Blueprint} {r : Birth} (h : (examine b).run w = (.ok r, u)) {given : List Nat}
    (hparents : b.parents = given.map .cls) : ¬HandsDownCell u b.excluded (effectiveParents given) := by
  obtain ⟨w₁, given', n, -, hp, -, -, hb⟩ := examine_ok_iff.1 h
  obtain ⟨-, hgiven', -⟩ := checkParents_eq_ok hp
  obtain rfl := map_cls_inj (hparents.symm.trans hgiven')
  obtain ⟨_, -, hcell, -⟩ := birth_ok_iff.1 hb
  exact (cell?_eq_none_iff.1 hcell).2

/-! ## Builds that no plugin is told of -/

/-- No plugin of a manager is told of new classes. -/
def Silent (w : World) (m : Nat) : Prop := ∀ i parents, listenersOf w m (.cls i parents) = []

section

variable {react : Reaction} {b : Blueprint} (hprobe : b.probe = none)
include hprobe

theorem run_addProbe_of_none (w : World) : (addProbe b).run w = (.ok b, w) := by
  rw [addProbe, hprobe]
  rfl

/-- A build ends where its examination fails. -/
theorem run_buildWith_of_error {f : Failure} (h : (examine b).run w = (.error f, u)) :
    (buildWith react b).run w = (.error f, u) := by
  rw [buildWith, Action.run_bind_of_ok (run_addProbe_of_none hprobe w), Action.run_bind_of_error h]

/-- Otherwise it enters its class, and ends as the announcement ends. -/
theorem run_buildWith_of_ok {r : Birth} (h : (examine b).run w = (.ok r, u)) {told : Except Failure Unit} {v : World}
    (htold : (announce react b.manager (.cls u.classes.length r.parents)).run (enterClass u r).1 = (told, v)) :
    (buildWith react b).run w = (told.map fun _ => .cls u.classes.length, v) := by
  obtain ⟨-, -, hmanager, -⟩ := examine_eq_ok h
  have hlast := Action.run_bind_pure (announce react r.manager (.cls u.classes.length r.parents))
    (fun _ => Value.cls u.classes.length) (enterClass u r).1
  rw [hmanager, htold] at hlast
  rw [buildWith, Action.run_bind_of_ok (run_addProbe_of_none hprobe w), Action.run_bind_of_ok h,
    Action.run_bind_of_ok (Action.run_get u), hmanager]
  exact hlast

/-- Where no plugin is told, there is nothing that could fail then. -/
theorem run_buildWith_of_silent (hsilent : Silent w b.manager) {r : Birth} (h : (examine b).run w = (.ok r, w)) :
    (buildWith react b).run w = (.ok (.cls w.classes.length), (enterClass w r).1) := by
  have hlisteners : listenersOf (enterClass w r).1 b.manager (.cls w.classes.length r.parents) = [] := hsilent _ _
  have htold : (announce react b.manager (.cls w.classes.length r.parents)).run (enterClass w r).1 =
      (.ok (), (enterClass w r).1) := by
    rw [run_announce, hlisteners]
    rfl
  exact run_buildWith_of_ok hprobe h htold

/-- **A build that no plugin is told of** succeeds when the examination does, and all that it does is to enter the class. -/
theorem buildWith_ok_iff (hsilent : Silent w b.manager) {x : Value} : (buildWith react b).run w = (.ok x, u) ↔
    ∃ r, (examine b).run w = (.ok r, w) ∧ x = .cls w.classes.length ∧ u = (enterClass w r).1 := by
  constructor
  · intro h
    obtain ⟨_, _, r, _, hprobed, hr, -, -⟩ := stages_of_buildWith h
    cases (run_addProbe_of_none hprobe w).symm.trans hprobed
    obtain ⟨rfl, -⟩ := examine_named hr
    cases (run_buildWith_of_silent hprobe hsilent hr).symm.trans h
    exact ⟨r, hr, rfl, rfl⟩
  · rintro ⟨r, hr, rfl, rfl⟩
    exact run_buildWith_of_silent hprobe hsilent hr

end

theorem class?_entered (w : World) (r : Birth) : (enterClass w r).1.class? w.classes.length =
    some (Composition.classOf r (r.parents.filterMap w.class?)) :=
  List.getElem?_concat_length

theorem class?_enterClass_of_some {i : Nat} {c : ClassRecord} (hc : w.class? i = some c) (r : Birth) :
    (enterClass w r).1.class? i = some c :=
  (List.getElem?_append_left (List.getElem?_eq_some_iff.1 hc).1).trans hc

/-! ## The two spellings -/

/-- What the language writes into the namespace of a class statement in front of its body. -/
def placeKeys : List String := ["__module__", "__qualname__", "__doc__", "__firstlineno__", "__static_attributes__"]

/-- The place of a class statement: what the language says of it, with a text for the qualified name. -/
def IsPlace (place : Fields) : Prop :=
  ∀ e ∈ place, e.1 ∈ placeKeys ∧ (e.1 = "__qualname__" → e.2.string?.isSome = true)

/-- A key of a body that has no meaning of its own, neither to the language nor to the kind of classes. -/
def IsOrdinary (key : String) : Prop := isDunder key = false ∧ key ∉ Access.classProperties

/-- A class statement: the class is built with its members. -/
def byStatement (sys : String) (name : Value) (parents : List Value) (place body : Fields) (stack : CallStack) :
    Action Value := do
  let s ← Query.system sys
  build (Script.statementBlueprint sys s name parents (Fields.ofList (place ++ body)) none stack)

/-- Sets attributes one after the other. -/
def writeAll (v : Value) : Fields → Action Unit
  | [] => return ()
  | e :: r => do
    Access.write v e.1 e.2
    writeAll v r

/-- A class that is created first and given its members then. -/
def byCreation (sys : String) (throughPackage : Bool) (name : Value) (parents : List Value) (module : Option Value)
    (depth : Int) (stack : CallStack) (body : Fields) : Action Value := do
  let c ← defineClass sys throughPackage name parents module depth stack
  writeAll c body
  return c

/-- Keys with a meaning are written with underscores around them. -/
theorem isDunder_of_mem : ∀ key ∈ bookkeepingKeys ++ reservedKeys ++ ["__eq__", "__hash__", "__name__", cellKey],
    isDunder key = true := by
  decide +kernel

theorem IsOrdinary.not_mem {key : String} (h : IsOrdinary key) :
    key ∉ bookkeepingKeys ++ reservedKeys ++ ["__eq__", "__hash__", "__name__", cellKey] := fun hmem =>
  Bool.false_ne_true (h.1.symm.trans (isDunder_of_mem key hmem))

theorem IsOrdinary.ne {key other : String} (h : IsOrdinary key)
    (hother : other ∈ bookkeepingKeys ++ reservedKeys ++ ["__eq__", "__hash__", "__name__", cellKey]) :
    key ≠ other := fun heq => h.not_mem (heq ▸ hother)

theorem IsOrdinary.not_reserved {key : String} (h : IsOrdinary key) : key ∉ reservedKeys := fun hmem =>
  h.not_mem (List.mem_append_left _ (List.mem_append_right _ hmem))

theorem IsOrdinary.not_bookkeeping {key : String} (h : IsOrdinary key) : key ∉ bookkeepingKeys := fun hmem =>
  h.not_mem (List.mem_append_left _ (List.mem_append_left _ hmem))

theorem IsOrdinary.member {key : String} (h : IsOrdinary key) : isMemberKey key = true := by
  have hname : key ≠ "__name__" := h.ne (by decide)
  simp [isMemberKey, h.not_bookkeeping, h.not_reserved, hname]

section Members

variable {place body : Fields} (hplace : IsPlace place) (hbody : ∀ e ∈ body, IsOrdinary e.1)
include hplace hbody

theorem plain_ofList : Plain (Fields.update [] (Fields.ofList (place ++ body))) := by
  have hall : ∀ e ∈ place ++ body, e.1 ∉ reservedKeys ∧ e.1 ≠ cellKey ∧
      (e.1 = "__qualname__" → e.2.string?.isSome = true) := by
    have hkeys : ∀ key ∈ placeKeys, key ∉ reservedKeys ∧ key ≠ cellKey := by decide
    intro e he
    rcases List.mem_append.1 he with he | he
    · obtain ⟨hkey, hqual⟩ := hplace e he
      exact ⟨(hkeys _ hkey).1, (hkeys _ hkey).2, hqual⟩
    · have hordinary := hbody e he
      exact ⟨hordinary.not_reserved, hordinary.ne (by decide), fun h => absurd h (hordinary.ne (by decide))⟩
  rw [Fields.update_ofList]
  exact Fields.forall_mem_update (fun e he => nomatch he) hall

/-- Of what a class statement has in its namespace, the members are those of the body. -/
theorem visible_ofList : Composition.visible
    ((Fields.update [] (Fields.ofList (place ++ body))).filter fun e => !descriptionKeys.contains e.1) =
      Fields.ofList body := by
  have hkeys : ∀ key ∈ placeKeys, (Composition.isVisible key && !descriptionKeys.contains key) = false := by decide
  have hdescription : ∀ key ∈ descriptionKeys, key ∈ bookkeepingKeys ++ reservedKeys ++
      ["__eq__", "__hash__", "__name__", cellKey] := by decide
  have hhidden : place.filter (fun e => Composition.isVisible e.1 && !descriptionKeys.contains e.1) = [] :=
    List.filter_eq_nil_iff.2 fun e he => Bool.eq_false_iff.1 (hkeys _ (hplace e he).1)
  have hshown : body.filter (fun e => Composition.isVisible e.1 && !descriptionKeys.contains e.1) = body := by
    refine List.filter_eq_self.2 fun e he => ?_
    have hordinary := hbody e he
    have hnot : e.1 ∉ descriptionKeys := fun hmem => hordinary.not_mem (hdescription _ hmem)
    simp [Composition.isVisible, hordinary.not_bookkeeping, hordinary.not_reserved, hnot]
  rw [Composition.visible_eq, List.filter_filter, Fields.update_ofList,
    Fields.filter_update fun key => Composition.isVisible key && !descriptionKeys.contains key, List.filter_append, hhidden,
    hshown]
  rfl

end Members

/-- Ordinary attributes are set on a class one after the other, and nothing else changes. -/
theorem run_writeAll {i : Nat} {body : Fields} (hbody : ∀ e ∈ body, IsOrdinary e.1) {c : ClassRecord}
    (hc : w.class? i = some c) : ∃ u, (writeAll (.cls i) body).run w = (.ok (), u) ∧
      u.class? i = some (body.foldl (fun c e => c.assign e.1 e.2) c) ∧ ∀ j, j ≠ i → u.class? j = w.class? j := by
  induction body generalizing w c with
  | nil => exact ⟨w, rfl, hc, fun _ _ => rfl⟩
  | cons e r ih =>
    have hordinary := hbody e List.mem_cons_self
    have hfits : (Entry.assigned (.cls i) e.1 e.2).Fits w := by
      refine ⟨c, hc, ?_⟩
      have hnamed : ¬((e.1 = "__name__" ∨ e.1 = "__qualname__") ∧ e.2.string?.isNone = true) := by
        rintro ⟨h | h, -⟩
        · exact hordinary.ne (by decide) h
        · exact hordinary.ne (by decide) h
      rw [Access.classSetRefusal?, if_neg (fun h => hordinary.not_reserved (List.contains_iff_mem.1 h)),
        if_neg (fun h => hordinary.2 (List.contains_iff_mem.1 h)), if_neg hnamed]
    have hwrite : (Access.write (.cls i) e.1 e.2).run w = (.ok (), w.commit (.assigned (.cls i) e.1 e.2)) :=
      (write_ok_iff (h := .cls i)).2 ⟨hfits, rfl⟩
    have hset : (w.commit (.assigned (.cls i) e.1 e.2)).class? i = some (c.assign e.1 e.2) := by
      show (w.modifyClass i _).class? i = _
      rw [class?_of_modifyClass _ hc, if_pos rfl]
    obtain ⟨u, hrun, hu, hothers⟩ := ih (fun e' he' => hbody e' (List.mem_cons_of_mem _ he')) hset
    refine ⟨u, ?_, hu, fun j hj => (hothers j hj).trans ?_⟩
    · rw [writeAll, Action.run_bind_of_ok hwrite]
      exact hrun
    · show (w.modifyClass i _).class? j = _
      rw [World.class?_modifyClass]
      cases w.class? j with
      | none => rfl
      | some d => rw [Option.map_some, if_neg (Ne.symm hj)]

/-- What attributes that are set one after the other make of a class. -/
theorem assignAll_eq {body : Fields} (hbody : ∀ e ∈ body, IsOrdinary e.1) (c : ClassRecord) :
    (body.foldl (fun c e => c.assign e.1 e.2) c).typeName = c.typeName ∧
      (body.foldl (fun c e => c.assign e.1 e.2) c).membership = c.membership ∧
      (body.foldl (fun c e => c.assign e.1 e.2) c).fields = Fields.update c.fields body := by
  induction body generalizing c with
  | nil => exact ⟨rfl, rfl, rfl⟩
  | cons e r ih =>
    have hordinary := hbody e List.mem_cons_self
    obtain ⟨hname, hmembership, hfields⟩ := ih (fun e' he' => hbody e' (List.mem_cons_of_mem _ he')) (c.assign e.1 e.2)
    refine ⟨hname.trans (c.typeName_assign _ hordinary.not_reserved),
      hmembership.trans (c.membership_assign _ hordinary.not_reserved), ?_⟩
    rw [List.foldl_cons, hfields, ClassRecord.fields_assign, if_pos hordinary.member]
    rfl

/-! ## What is built -/

/-- The members that a request gives a class of its own. -/
def Blueprint.members (b : Blueprint) : Fields :=
  Composition.visible (b.own.filter fun e => !descriptionKeys.contains e.1)

/-- A request that is granted gives the class that was asked for, and leaves the others as they are. -/
theorem buildWith_eq_ok {react : Reaction} {b : Blueprint} (hprobe : b.probe = none) (hsilent : Silent w b.manager)
    {given : List Nat} (hparents : b.parents = given.map .cls) {x : Value}
    (h : (buildWith react b).run w = (.ok x, u)) :
    ∃ r, x = .cls w.classes.length ∧ b.name.string? = some r.name ∧ r.excluded = b.excluded ∧
      Composition.visible r.own = b.members ∧
      u.class? w.classes.length =
        some (Composition.classOf r ((effectiveParents given).filterMap w.class?)) ∧
      ∀ i c, w.class? i = some c → u.class? i = some c := by
  obtain ⟨r, hr, rfl, rfl⟩ := (buildWith_ok_iff hprobe hsilent).1 h
  obtain ⟨hname, hexcluded, -, hown, -, given', hgiven', hr', -⟩ := examine_eq_ok hr
  obtain rfl := map_cls_inj (hparents.symm.trans hgiven')
  refine ⟨r, rfl, hname, hexcluded, by rw [hown, Blueprint.members], ?_, fun i c hc => class?_enterClass_of_some hc r⟩
  rw [class?_entered, hr']

/-- A request that a class statement could make is granted exactly when the class may have the name, and the parents hand
down no cell. -/
theorem buildWith_granted_iff {react : Reaction} {b : Blueprint} (hprobe : b.probe = none) (hsilent : Silent w b.manager)
    (hs : w.system? b.sys = some s) {given : List Nat} (hparents : b.parents = given.map .cls)
    (hgiven : ∀ p ∈ given, ∃ c, w.class? p = some c) (hown : Plain b.own) :
    (∃ x u, (buildWith react b).run w = (.ok x, u)) ↔
      (∃ n, Names w s b.name n) ∧ ¬HandsDownCell w b.excluded (effectiveParents given) := by
  constructor
  · rintro ⟨x, u, h⟩
    obtain ⟨r, hr, -, -⟩ := (buildWith_ok_iff hprobe hsilent).1 h
    obtain ⟨-, s', hs', hnames⟩ := examine_named hr
    cases hs.symm.trans hs'
    exact ⟨⟨r.name, hnames⟩, not_handsDownCell_of_examine hr hparents⟩
  · rintro ⟨⟨n, hname⟩, hcell⟩
    obtain ⟨r, -, hr⟩ := run_examine hs hname hparents hgiven hown hcell
    exact ⟨_, _, (buildWith_ok_iff hprobe hsilent).2 ⟨r, hr, rfl, rfl⟩⟩

/-- The parts of a request that an order through a system fixes. -/
theorem Order.Requests.fixed {sys : String} {name : Value} {parents : List Value} {module : Option Value}
    {inner : List Frame} {depth : Int} {stack : CallStack} {b : Blueprint}
    (h : Order.Requests w (.cls sys name parents module inner depth stack) b) (hs : w.system? sys = some s) :
    b.sys = sys ∧ b.manager = s.manager ∧ b.excluded = s.excluded ∧ b.name = name ∧ b.parents = parents ∧
      b.probe = none ∧ b.members = [] ∧ Plain b.own := by
  cases h with
  | cls hs' hown =>
    cases hs.symm.trans hs'
    refine ⟨rfl, rfl, rfl, rfl, rfl, rfl, ?_, fun e he => ?_⟩
    · unfold Blueprint.members
      rw [List.filter_eq_nil_iff.2 fun e he => ?_]
      · rfl
      · rw [hown e he]
        decide
    · rw [hown e he]
      exact ⟨by decide, by decide, fun heq => absurd heq (by decide)⟩

/-- Two requests that an order amounts to differ in nothing that a class is made of. -/
theorem Order.Requests.same {o : Order} {b b' : Blueprint} (h : o.Requests w b) (h' : o.Requests w b') :
    b'.manager = b.manager ∧ b'.excluded = b.excluded ∧ b'.name = b.name ∧ b'.parents = b.parents ∧
      b'.probe = b.probe ∧ b'.members = b.members := by
  cases o with
  | enum => cases h
  | build request =>
    cases h
    cases h'
    exact ⟨rfl, rfl, rfl, rfl, rfl, rfl⟩
  | cls sys name parents module inner depth stack =>
    obtain ⟨s, hs⟩ : ∃ s, w.system? sys = some s := by
      cases h with
      | cls hs _ => exact ⟨_, hs⟩
    obtain ⟨-, h₁, h₂, h₃, h₄, h₅, h₆, -⟩ := h.fixed hs
    obtain ⟨-, h₁', h₂', h₃', h₄', h₅', h₆', -⟩ := h'.fixed hs
    exact ⟨h₁'.trans h₁.symm, h₂'.trans h₂.symm, h₃'.trans h₃.symm, h₄'.trans h₄.symm, h₅'.trans h₅.symm,
      h₆'.trans h₆.symm⟩

/-- An order for a class that is carried out is a request that is granted. -/
theorem carryOut_eq_ok {react : Reaction} {o : Order} {b : Blueprint} (ho : o.Requests w b) {x : Value}
    (h : (o.carryOut react).run w = (.ok x, u)) : ∃ b', o.Requests w b' ∧ (buildWith react b').run w = (.ok x, u) := by
  cases ho with
  | build => exact ⟨b, .build b, h⟩
  | cls =>
    rcases run_defineClassWith h with ⟨f, hf, -⟩ | hbuild
    · cases hf
    · exact hbuild

/-! ## Later builds -/

/-- Two requests for one class, from parents in one world and their counterparts in another. -/
structure Counterparts (S : Nat → Nat → Prop) (b b' : Blueprint) : Prop where
  name : b.name = b'.name
  excluded : b.excluded = b'.excluded
  members : b.members = b'.members
  parents : ∃ given given', given ≠ [] ∧ b.parents = given.map .cls ∧ b'.parents = given'.map .cls ∧
    List.Forall₂ S given given'
  probes : b.probe = none ∧ b'.probe = none

/-- **Later builds side by side.** Two worlds begin with some classes of one as counterparts of classes of the other. Whatever
happens that leaves counterparts as they are, builds that no plugin is told of, by any spelling, may be done in both from
counterparts, and give new ones. -/
inductive Alongside (u v : World) (R : Nat → Nat → Prop) : World → World → (Nat → Nat → Prop) → Prop where
  | start : Alongside u v R u v R
  | later {u₁ v₁ u₂ v₂ : World} {S : Nat → Nat → Prop} (h : Alongside u v R u₁ v₁ S)
      (hleft : ∀ k l, S k l → u₂.class? k = u₁.class? k) (hright : ∀ k l, S k l → v₂.class? l = v₁.class? l) :
      Alongside u v R u₂ v₂ S
  | build {u₁ v₁ u₂ v₂ : World} {S : Nat → Nat → Prop} {o o' : Order} {b b' : Blueprint} {i j : Nat}
      (h : Alongside u v R u₁ v₁ S) (ho : o.Requests u₁ b) (ho' : o'.Requests v₁ b') (hpair : Counterparts S b b')
      (hsilent : Silent u₁ b.manager) (hsilent' : Silent v₁ b'.manager)
      (hrun : (o.carryOut react).run u₁ = (.ok (.cls i), u₂)) (hrun' : (o'.carryOut react).run v₁ = (.ok (.cls j), v₂)) :
      Alongside u v R u₂ v₂ fun k l => S k l ∨ k = i ∧ l = j

/-- A class of one world and a class of another are twins. -/
def Paired (T : Fields → Fields → Prop) (u v : World) (k l : Nat) : Prop :=
  ∃ c d, u.class? k = some c ∧ v.class? l = some d ∧ Twins T c d

/-- Twins are found on both sides under numbers that are paired. -/
theorem forall₂_twins_of_paired {T : Fields → Fields → Prop} {u v : World} {R : Nat → Nat → Prop}
    (h : ∀ k l, R k l → Paired T u v k l) {ks ls : List Nat} (hrelated : List.Forall₂ R ks ls) :
    List.Forall₂ (Twins T) (ks.filterMap u.class?) (ls.filterMap v.class?) := by
  induction hrelated with
  | nil => exact .nil
  | cons hkl _ ih =>
    obtain ⟨c, d, hc, hd, htwins⟩ := h _ _ hkl
    rw [List.filterMap_cons_some hc, List.filterMap_cons_some hd]
    exact .cons htwins ih

/-- **Counterparts stay twins,** through any number of builds. -/
theorem Alongside.twins {T : Fields → Fields → Prop} (hT : Composition.Carried T) {u v u' v' : World}
    {R S : Nat → Nat → Prop} (hstart : ∀ k l, R k l → Paired T u v k l) (h : Alongside u v R u' v' S) :
    ∀ k l, S k l → Paired T u' v' k l := by
  induction h with
  | start => exact hstart
  | later _ hleft hright ih =>
    intro k l hkl
    obtain ⟨c, d, hc, hd, htwins⟩ := ih k l hkl
    exact ⟨c, d, (hleft k l hkl).trans hc, (hright k l hkl).trans hd, htwins⟩
  | @build u₁ v₁ u₂ v₂ S o o' b b' i j _ ho ho' hpair hsilent hsilent' hrun hrun' ih =>
    obtain ⟨given, given', hne, hgiven, hgiven', hrelated⟩ := hpair.parents
    obtain ⟨b₁, hb₁, hrun₁⟩ := carryOut_eq_ok ho hrun
    obtain ⟨b₂, hb₂, hrun₂⟩ := carryOut_eq_ok ho' hrun'
    obtain ⟨hmanager₁, hexcluded₁, hname₁, hparents₁, hprobe₁, hmembers₁⟩ := ho.same hb₁
    obtain ⟨hmanager₂, hexcluded₂, hname₂, hparents₂, hprobe₂, hmembers₂⟩ := ho'.same hb₂
    obtain ⟨r₁, hi, hr₁, he₁, ho₁, hc, hkeep₁⟩ := buildWith_eq_ok (hprobe₁.trans hpair.probes.1)
      (hmanager₁ ▸ hsilent) (hparents₁.trans hgiven) hrun₁
    obtain ⟨r₂, hj, hr₂, he₂, ho₂, hd, hkeep₂⟩ := buildWith_eq_ok (hprobe₂.trans hpair.probes.2)
      (hmanager₂ ▸ hsilent') (hparents₂.trans hgiven') hrun₂
    cases hi
    cases hj
    rintro k l (hkl | ⟨rfl, rfl⟩)
    · obtain ⟨c, d, hc, hd, htwins⟩ := ih k l hkl
      exact ⟨c, d, hkeep₁ k c hc, hkeep₂ l d hd, htwins⟩
    · have hparents := forall₂_twins_of_paired ih hrelated
      have hne' : given' ≠ [] := fun hnil => hne (List.forall₂_nil_right_iff.1 (hnil ▸ hrelated))
      rw [effectiveParents, if_neg (by simpa using hne)] at hc
      rw [effectiveParents, if_neg (by simpa using hne')] at hd
      have hname : r₁.name = r₂.name := Option.some.inj (by rw [← hr₁, ← hr₂, hname₁, hname₂, hpair.name])
      exact ⟨_, _, hc, hd, .classOf hT hname (by rw [he₁, he₂, hexcluded₁, hexcluded₂, hpair.excluded])
        (by rw [ho₁, ho₂, hmembers₁, hmembers₂, hpair.members]) hparents⟩

/-! ## Agreement -/

/-- A class that is created through a system is a request, if the stack is deep enough for the module to be found. -/
theorem run_defineClass {sys : String} (hs : w.system? sys = some s) (throughPackage : Bool) (name : Value)
    (parents : List Value) (module : Option Value) {depth : Int} (hdepth : depth.toNat ≤ CallStack.outsideDepth)
    (stack : CallStack) :
    ∃ inner b, Order.Requests w (.cls sys name parents module inner depth stack) b ∧
      (defineClass sys throughPackage name parents module depth stack).run w = (build b).run w := by
  cases hrun : (defineClass sys throughPackage name parents module depth stack).run w with
  | mk r u =>
    rcases run_defineClassWith hrun with ⟨_, -, -, hnone | ⟨-, hframe⟩⟩ | ⟨b, hb, hbuild⟩
    · cases hs.symm.trans hnone
    · have hlong : depth.toNat < (Query.systemFrame "define_class" ::
          (if throughPackage then [Query.packageFrame "define_class"] else []) ++ stack.callers).length := by
        simp only [CallStack.callers, List.length_append, List.length_replicate, List.length_cons]
        omega
      rw [List.getElem?_eq_getElem hlong] at hframe
      cases hframe
    · exact ⟨_, b, hb, hbuild.symm⟩

/-- A class is created and given its members: it is requested without any, and then they are set. -/
theorem byCreation_eq {sys : String} (hs : w.system? sys = some s) (throughPackage : Bool) (name : Value)
    (parents : List Value) (module : Option Value) {depth : Int} (hdepth : depth.toNat ≤ CallStack.outsideDepth)
    (stack : CallStack) (body : Fields) : ∃ b : Blueprint, b.sys = sys ∧ b.manager = s.manager ∧
      b.excluded = s.excluded ∧ b.name = name ∧ b.parents = parents ∧ b.probe = none ∧ b.members = [] ∧ Plain b.own ∧
      ∀ y v, (byCreation sys throughPackage name parents module depth stack body).run w = (.ok y, v) ↔
        ∃ v₁, (build b).run w = (.ok y, v₁) ∧ (writeAll y body).run v₁ = (.ok (), v) := by
  obtain ⟨inner, b, hb, hcreated⟩ := run_defineClass hs throughPackage name parents module hdepth stack
  obtain ⟨h₁, h₂, h₃, h₄, h₅, h₆, h₇, h₈⟩ := hb.fixed hs
  refine ⟨b, h₁, h₂, h₃, h₄, h₅, h₆, h₇, h₈, fun y v => ?_⟩
  rw [byCreation, Action.bind_eq_ok, hcreated]
  constructor
  · rintro ⟨c, v₁, hc, h⟩
    obtain ⟨_, v₂, hwrite, hpure⟩ := Action.bind_eq_ok.1 h
    cases hpure
    exact ⟨v₁, hc, hwrite⟩
  · rintro ⟨v₁, hc, hwrite⟩
    exact ⟨y, v₁, hc, Action.run_bind_of_ok hwrite⟩

section

variable {sys : String} (hs : w.system? sys = some s) (hsilent : Silent w s.manager) {name : Value} {given : List Nat}
  {body : Fields} (hbody : ∀ e ∈ body, IsOrdinary e.1) {stack : CallStack}
include hs hsilent hbody

section

variable {place : Fields} (hplace : IsPlace place)
include hplace

theorem byStatement_granted_iff (hgiven : ∀ p ∈ given, ∃ c, w.class? p = some c) :
    (∃ x u, (byStatement sys name (given.map .cls) place body stack).run w = (.ok x, u)) ↔
      (∃ n, Names w s name n) ∧ ¬HandsDownCell w s.excluded (effectiveParents given) := by
  rw [byStatement, Action.run_bind_of_ok (Query.run_system hs)]
  exact buildWith_granted_iff rfl hsilent hs rfl hgiven (plain_ofList hplace hbody)

/-- A class statement overwrites what the parents hand down with its body, and adds a hash if one is missing then. -/
theorem byStatement_eq_ok {x : Value}
    (h : (byStatement sys name (given.map .cls) place body stack).run w = (.ok x, u)) :
    ∃ i c, x = .cls i ∧ u.class? i = some c ∧ name.string? = some c.typeName ∧
      c.membership = Composition.membership c.typeName
        (((effectiveParents given).filterMap w.class?).map (·.membership)) ∧
      c.fields = Composition.withHash (Fields.update (handedDown w s.excluded (effectiveParents given)) body) := by
  rw [byStatement, Action.run_bind_of_ok (Query.run_system hs)] at h
  obtain ⟨r, rfl, hname, hexcluded, hown, hc, -⟩ := buildWith_eq_ok rfl hsilent rfl h
  have hmembers : Composition.visible r.own = Fields.ofList body := hown.trans (visible_ofList hplace hbody)
  refine ⟨_, _, rfl, hc, ?_, ?_, ?_⟩
  · rw [Composition.typeName_classOf]
    exact hname
  · rw [Composition.typeName_classOf, Composition.membership_classOf]
  · rw [Composition.fields_classOf, hmembers, Composition.compose, Fields.update_ofList, hexcluded]
    rfl

end

section

variable {throughPackage : Bool} {module : Option Value} {depth : Int}
  (hdepth : depth.toNat ≤ CallStack.outsideDepth)
include hdepth

theorem byCreation_granted_iff (hgiven : ∀ p ∈ given, ∃ c, w.class? p = some c) :
    (∃ y v, (byCreation sys throughPackage name (given.map .cls) module depth stack body).run w = (.ok y, v)) ↔
      (∃ n, Names w s name n) ∧ ¬HandsDownCell w s.excluded (effectiveParents given) := by
  obtain ⟨b, rfl, hmanager, hexcluded, rfl, hparents, hprobe, -, hown, hrun⟩ :=
    byCreation_eq hs throughPackage name (given.map .cls) module hdepth stack body
  have hgranted : (∃ x u, (build b).run w = (.ok x, u)) ↔ _ :=
    buildWith_granted_iff hprobe (hmanager ▸ hsilent) hs hparents hgiven hown
  rw [← hexcluded, ← hgranted]
  constructor
  · rintro ⟨y, v, h⟩
    obtain ⟨v₁, hbuilt, -⟩ := (hrun y v).1 h
    exact ⟨y, v₁, hbuilt⟩
  · rintro ⟨y, v₁, hbuilt⟩
    obtain ⟨r, rfl, -, -, -, hd, -⟩ := buildWith_eq_ok hprobe (hmanager ▸ hsilent) hparents hbuilt
    obtain ⟨v, hwrite, -⟩ := run_writeAll hbody hd
    exact ⟨_, v, (hrun _ v).2 ⟨v₁, hbuilt, hwrite⟩⟩

/-- A class that is created gets what the parents hand down and a hash if one is missing, and is overwritten then. -/
theorem byCreation_eq_ok {y : Value}
    (h : (byCreation sys throughPackage name (given.map .cls) module depth stack body).run w = (.ok y, u)) :
    ∃ i c, y = .cls i ∧ u.class? i = some c ∧ name.string? = some c.typeName ∧
      c.membership = Composition.membership c.typeName
        (((effectiveParents given).filterMap w.class?).map (·.membership)) ∧
      c.fields = Fields.update (Composition.withHash (handedDown w s.excluded (effectiveParents given))) body := by
  obtain ⟨b, -, hmanager, hbexcluded, rfl, hparents, hprobe, hmembers, -, hrun⟩ :=
    byCreation_eq hs throughPackage name (given.map .cls) module hdepth stack body
  obtain ⟨v₁, hbuilt, hwrite⟩ := (hrun y u).1 h
  obtain ⟨r, rfl, hname, hexcluded, hown, hd, -⟩ := buildWith_eq_ok hprobe (hmanager ▸ hsilent) hparents hbuilt
  obtain ⟨v, hwritten, hd', -⟩ := run_writeAll hbody hd
  cases hwritten.symm.trans hwrite
  obtain ⟨htypeName, hmembership, hfields⟩ :=
    assignAll_eq hbody (Composition.classOf r ((effectiveParents given).filterMap w.class?))
  rw [Composition.typeName_classOf] at htypeName
  refine ⟨_, _, rfl, hd', htypeName ▸ hname, ?_, ?_⟩
  · rw [hmembership, htypeName, Composition.membership_classOf]
  · rw [hfields, Composition.fields_classOf, hown, hmembers, Composition.compose, hexcluded, hbexcluded]
    rfl

end

end

/-- A world with a type system and a class that decides equality for itself, by an attribute that was set on it. -/
def equatedWorld : World :=
  { (World.initial.commit (.built 1 ⟨"P", "P", .nil, .nil, defaultExcluded, [baseIndex], [], 0⟩)).commit
      (.assigned (.cls 1) "__eq__" (.function 0)) with
    systems := [("main", ⟨Union.defaultDelimiter, [], defaultExcluded, 0⟩)]
    managers := [⟨[], false⟩] }

theorem silent_equatedWorld : Silent equatedWorld 0 := fun _ _ => rfl

end Definition

end Lineage
