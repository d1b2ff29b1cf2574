import Lineage.Proofs.Action
import Lineage.Proofs.Separation.Records

/-!
# Together — two worlds seen by one client

A client works with one type system and one plugin manager. It runs in one world alone, and in another one beside
somebody else. `Together c s w w'` says that the two worlds look alike to the client `c`: everything it can
reach in the first is matched by `s` with something alike in the second, its system and its manager are alike, and distinct
things stand for distinct things.

`Onward` is what the client may do to both worlds: it matches new things only, and what it has not matched it leaves as
it is, the systems and managers of others included. Every change of a world that the program makes puts one thing in
its place (`World.Puts`) or changes the client's system; `Together.put`, `Together.add` and `Together.changeSystem` carry
the likeness over.
-/

set_option autoImplicit false

namespace Lineage

/-! ## What a world says of its numbers -/

namespace World

/-- What a number stands for. -/
def thing? (w : World) (k : Numbered) (i : Nat) : Option Thing :=
  match k with
  | .cls => (w.class? i).map .cls
  | .inst => (w.instances[i]?).map .inst
  | .function => (w.behaviours[i]?).map .function
  | .foreign => (w.foreigns[i]?).map .foreign
  | .cell => (w.cells[i]?).map .cell
  | .enum => if i < w.enumCount then some .enum else none

/-- How many things of a sort there are; it is the number of the next one. -/
def count (w : World) : Numbered → Nat
  | .cls => w.classes.length
  | .inst => w.instances.length
  | .function => w.behaviours.length
  | .foreign => w.foreigns.length
  | .cell => w.cells.length
  | .enum => w.enumCount

/-- The next number stands for nothing yet. -/
theorem thing?_count (w : World) (k : Numbered) : w.thing? k (w.count k) = none := by
  cases k with
  | enum => exact if_neg (Nat.lt_irrefl _)
  | _ => exact Option.map_eq_none_iff.2 (List.getElem?_eq_none le_rfl)

/-- The second world is the first with one thing put in its place, be it new or changed. -/
structure Puts (w u : World) (k : Numbered) (i : Nat) (x : Thing) : Prop where
  here : u.thing? k i = some x
  elsewhere : ∀ {l j}, ¬ (l = k ∧ j = i) → u.thing? l j = w.thing? l j
  systems : u.systems = w.systems
  managers : u.managers = w.managers

/-- The second world is the first but for what is on record. -/
structure Keeps (w u : World) : Prop where
  things : ∀ k i, u.thing? k i = w.thing? k i
  systems : u.systems = w.systems
  managers : u.managers = w.managers

theorem Puts.keeps {w u v : World} {k : Numbered} {i : Nat} {x : Thing} (h : w.Puts u k i x) (hv : u.Keeps v) :
    w.Puts v k i x where
  here := (hv.things k i).trans h.here
  elsewhere hne := (hv.things _ _).trans (h.elsewhere hne)
  systems := hv.systems.trans h.systems
  managers := hv.managers.trans h.managers

theorem getElem?_concat_of_ne {α : Type} (xs : List α) (x : α) {i : Nat} (h : i ≠ xs.length) :
    (xs ++ [x])[i]? = xs[i]? := by
  rcases Nat.lt_or_gt_of_ne h with h | h
  · exact List.getElem?_append_left h
  · have hlen : (xs ++ [x]).length ≤ i := by simpa using h
    rw [List.getElem?_eq_none hlen, List.getElem?_eq_none h.le]

variable (w : World)

theorem puts_addCell (c : Cell) : w.Puts (w.addCell c).1 .cell w.cells.length (.cell c) where
  here := congrArg (Option.map Thing.cell) List.getElem?_concat_length
  elsewhere {l j} h := by
    cases l with
    | cell => exact congrArg (Option.map Thing.cell) (getElem?_concat_of_ne _ _ fun hj => h ⟨rfl, hj⟩)
    | _ => rfl
  systems := rfl
  managers := rfl

theorem puts_addForeign (f : ForeignRecord) :
    w.Puts (w.addForeign f).1 .foreign w.foreigns.length (.foreign f) where
  here := congrArg (Option.map Thing.foreign) List.getElem?_concat_length
  elsewhere {l j} h := by
    cases l with
    | foreign => exact congrArg (Option.map Thing.foreign) (getElem?_concat_of_ne _ _ fun hj => h ⟨rfl, hj⟩)
    | _ => rfl
  systems := rfl
  managers := rfl

theorem puts_addBehaviour (b : Behaviour) :
    w.Puts (w.addBehaviour b).1 .function w.behaviours.length (.function b) where
  here := congrArg (Option.map Thing.function) List.getElem?_concat_length
  elsewhere {l j} h := by
    cases l with
    | function => exact congrArg (Option.map Thing.function) (getElem?_concat_of_ne _ _ fun hj => h ⟨rfl, hj⟩)
    | _ => rfl
  systems := rfl
  managers := rfl

theorem puts_addInstance (cls : Nat) :
    w.Puts (w.addInstance cls).1 .inst w.instances.length (.inst ⟨cls, []⟩) where
  here := congrArg (Option.map Thing.inst) List.getElem?_concat_length
  elsewhere {l j} h := by
    cases l with
    | inst => exact congrArg (Option.map Thing.inst) (getElem?_concat_of_ne _ _ fun hj => h ⟨rfl, hj⟩)
    | _ => rfl
  systems := rfl
  managers := rfl

theorem puts_addClass (b : Birth) :
    w.Puts (w.addClass b).1 .cls w.classes.length
      (.cls (Composition.classOf b (b.parents.filterMap w.class?))) where
  here := congrArg (Option.map Thing.cls) List.getElem?_concat_length
  elsewhere {l j} h := by
    cases l with
    | cls => exact congrArg (Option.map Thing.cls) (getElem?_concat_of_ne _ _ fun hj => h ⟨rfl, hj⟩)
    | _ => rfl
  systems := rfl
  managers := rfl

/-- One more enumeration has been counted. -/
theorem puts_enum : w.Puts { w with enumCount := w.enumCount + 1 } .enum w.enumCount .enum where
  here := if_pos (Nat.lt_succ_self _)
  elsewhere {l j} h := by
    cases l with
    | enum =>
      have hj : j ≠ w.enumCount := fun hj => h ⟨rfl, hj⟩
      refine if_congr ?_ rfl rfl
      show j < w.enumCount + 1 ↔ j < w.enumCount
      omega
    | _ => rfl
  systems := rfl
  managers := rfl

variable {w}

theorem puts_setCell {i : Nat} {old : Cell} (hi : w.cells[i]? = some old) (c : Cell) :
    w.Puts (w.setCell i c) .cell i (.cell c) where
  here := by
    have hlt : i < w.cells.length := (List.getElem?_eq_some_iff.1 hi).1
    exact congrArg (Option.map Thing.cell) (List.getElem?_set_self hlt)
  elsewhere {l j} h := by
    cases l with
    | cell => exact congrArg (Option.map Thing.cell) (List.getElem?_set_ne fun hj => h ⟨rfl, hj.symm⟩)
    | _ => rfl
  systems := rfl
  managers := rfl

theorem puts_modifyForeign {i : Nat} {r : ForeignRecord} (hi : w.foreigns[i]? = some r) (f : Fields → Fields) :
    w.Puts (w.modifyForeign i f) .foreign i (.foreign { r with attributes := f r.attributes }) where
  here := by
    show ((w.foreigns.modify i _)[i]?).map Thing.foreign = _
    rw [List.getElem?_modify, hi]
    simp
  elsewhere {l j} h := by
    cases l with
    | foreign =>
      show ((w.foreigns.modify i _)[j]?).map Thing.foreign = (w.foreigns[j]?).map Thing.foreign
      rw [List.getElem?_modify]
      have hj : i ≠ j := fun hj => h ⟨rfl, hj.symm⟩
      cases w.foreigns[j]? <;> simp [hj]
    | _ => rfl
  systems := rfl
  managers := rfl

/-- A line of the journal about a class puts the class in its place. -/
theorem puts_modifyClass {i : Nat} {c : ClassRecord} (hi : w.class? i = some c) (f : ClassRecord → ClassRecord)
    (journal : List Entry) : w.Puts { w.modifyClass i f with journal } .cls i (.cls (f c)) where
  here := by
    show ((w.modifyClass i f).class? i).map Thing.cls = _
    rw [class?_modifyClass, hi]
    simp
  elsewhere {l j} h := by
    cases l with
    | cls =>
      show ((w.modifyClass i f).class? j).map Thing.cls = (w.class? j).map Thing.cls
      rw [class?_modifyClass]
      have hj : i ≠ j := fun hj => h ⟨rfl, hj.symm⟩
      cases w.class? j <;> simp [hj]
    | _ => rfl
  systems := rfl
  managers := rfl

/-- A line of the journal about an instance puts the instance in its place. -/
theorem puts_modifyInstance {i : Nat} {r : InstanceRecord} (hi : w.instances[i]? = some r)
    (f : InstanceRecord → InstanceRecord) (journal : List Entry) :
    w.Puts { w.modifyInstance i f with journal } .inst i (.inst (f r)) where
  here := by
    show ((w.modifyInstance i f).instances[i]?).map Thing.inst = _
    rw [instances_modifyInstance, hi]
    simp
  elsewhere {l j} h := by
    cases l with
    | inst =>
      show ((w.modifyInstance i f).instances[j]?).map Thing.inst = (w.instances[j]?).map Thing.inst
      rw [instances_modifyInstance]
      have hj : i ≠ j := fun hj => h ⟨rfl, hj.symm⟩
      cases w.instances[j]? <;> simp [hj]
    | _ => rfl
  systems := rfl
  managers := rfl

theorem puts_assignClass {i : Nat} {c : ClassRecord} (hi : w.class? i = some c) (key : String) (x : Value) :
    w.Puts (w.commit (.assigned (.cls i) key x)) .cls i (.cls (c.assign key x)) :=
  puts_modifyClass hi _ _

theorem puts_eraseClass {i : Nat} {c : ClassRecord} (hi : w.class? i = some c) (key : String) :
    w.Puts (w.commit (.erased (.cls i) key)) .cls i (.cls (c.erase key)) :=
  puts_modifyClass hi _ _

theorem puts_assignInstance {i : Nat} {r : InstanceRecord} (hi : w.instances[i]? = some r) (key : String) (x : Value) :
    w.Puts (w.commit (.assigned (.inst i) key x)) .inst i (.inst (r.assign key x)) :=
  puts_modifyInstance hi _ _

theorem puts_eraseInstance {i : Nat} {r : InstanceRecord} (hi : w.instances[i]? = some r) (key : String) :
    w.Puts (w.commit (.erased (.inst i) key)) .inst i (.inst (r.erase key)) :=
  puts_modifyInstance hi _ _

end World

/-- Two more things stand for each other, if neither stood for anything. -/
theorem Matching.OneToOne.sup_pair {s : Matching} (hs : s.OneToOne) {k : Numbered} {i j : Nat} (hi : ∀ j', ¬ s k i j')
    (hj : ∀ i', ¬ s k i' j) : (s ⊔ pair k i j).OneToOne := by
  rintro l i₁ j₁ i₂ j₂ (h₁ | ⟨rfl, rfl, rfl⟩) (h₂ | ⟨hl, rfl, rfl⟩)
  · exact hs h₁ h₂
  · subst hl
    exact ⟨fun h => absurd h₁ (h ▸ hi j₁), fun h => absurd h₁ (h ▸ hj i₁)⟩
  · exact ⟨fun h => absurd h₂ (h ▸ hi j₂), fun h => absurd h₂ (h ▸ hj i₂)⟩
  · exact ⟨fun _ => rfl, fun _ => rfl⟩

/-! ## Two worlds that look alike to a client -/

/-- Two worlds that look alike to a client, along a matching of what it can reach. -/
structure Together (c : Client) (s : Matching) (w w' : World) : Prop where
  oneToOne : s.OneToOne
  base : Matching.base ≤ s
  thing : ∀ {k i j}, s k i j → ∃ x y, w.thing? k i = some x ∧ w'.thing? k j = some y ∧ ThingLike s x y
  system : ∃ u u', w.system? c.system = some u ∧ w'.system? c.system = some u' ∧ SystemLike c s u u'
  manager : ∃ m m', w.managers[c.manager]? = some m ∧ w'.managers[c.manager]? = some m' ∧ ManagerLike c s m m'

/-- What a client may do to both worlds: it goes on to match new things, and leaves alone what it does not match. -/
structure Onward (c : Client) (s : Matching) (w w' : World) (t : Matching) (u u' : World) : Prop where
  le : s ≤ t
  fresh : ∀ {k i j}, t k i j → s k i j ∨ w.thing? k i = none ∧ w'.thing? k j = none
  kept : ∀ {k j x}, (∀ i, ¬ t k i j) → w'.thing? k j = some x → u'.thing? k j = some x
  grown : ∀ {k i}, u.thing? k i = none → w.thing? k i = none
  grown' : ∀ {k j}, u'.thing? k j = none → w'.thing? k j = none
  functions : ∀ {i x}, w.thing? .function i = some x → u.thing? .function i = some x
  functions' : ∀ {j x}, w'.thing? .function j = some x → u'.thing? .function j = some x
  classes : ∀ {i}, w.thing? .cls i = none → u.thing? .cls i ≠ none → ∃ j, t .cls i j
  systems : ∀ {name}, name ≠ c.system → u'.system? name = w'.system? name
  managers : ∀ {m}, m ≠ c.manager → u'.managers[m]? = w'.managers[m]?

variable {c : Client} {s t t₁ : Matching} {w w' u u' v v' : World}

namespace Onward

theorem refl (c : Client) (s : Matching) (w w' : World) : Onward c s w w' s w w' where
  le _ _ _ h := h
  fresh h := .inl h
  kept _ h := h
  grown h := h
  grown' h := h
  functions h := h
  functions' h := h
  classes hi hne := absurd hi hne
  systems _ := rfl
  managers _ := rfl

theorem trans (h : Onward c s w w' t u u') (k : Onward c t u u' t₁ v v') : Onward c s w w' t₁ v v' where
  le := le_trans h.le k.le
  fresh hx := by
    rcases k.fresh hx with hx | ⟨hi, hj⟩
    · exact h.fresh hx
    · exact .inr ⟨h.grown hi, h.grown' hj⟩
  kept hx hj := k.kept hx (h.kept (fun i hi => hx i (k.le _ _ _ hi)) hj)
  grown hi := h.grown (k.grown hi)
  grown' hj := h.grown' (k.grown' hj)
  functions hi := k.functions (h.functions hi)
  functions' hj := k.functions' (h.functions' hj)
  classes {i} hi hne := by
    by_cases hu : u.thing? .cls i = none
    · exact k.classes hu hne
    · obtain ⟨j, hj⟩ := h.classes hi hu
      exact ⟨j, k.le _ _ _ hj⟩
  systems hn := (k.systems hn).trans (h.systems hn)
  managers hm := (k.managers hm).trans (h.managers hm)

/-- What is new since the beginning may be matched later. -/
theorem enlarge (h : Onward c s w w' t u u') (ht : t ≤ t₁)
    (hfresh : ∀ {k i j}, t₁ k i j → t k i j ∨ w.thing? k i = none ∧ w'.thing? k j = none) :
    Onward c s w w' t₁ u u' where
  le := h.le.trans ht
  fresh hx := (hfresh hx).elim h.fresh .inr
  kept hx hj := h.kept (fun i hi => hx i (ht _ _ _ hi)) hj
  grown := h.grown
  grown' := h.grown'
  functions := h.functions
  functions' := h.functions'
  classes hi hne := by
    obtain ⟨j, hj⟩ := h.classes hi hne
    exact ⟨j, ht _ _ _ hj⟩
  systems := h.systems
  managers := h.managers

end Onward

namespace Together

/-! ### What is looked up -/

variable {i j : Nat}

theorem cls (h : Together c s w w') (hij : s .cls i j) :
    ∃ x y, w.class? i = some x ∧ w'.class? j = some y ∧ ClassLike s x y := by
  obtain ⟨_, _, hx, hy, hxy⟩ := h.thing hij
  obtain ⟨x, hi, rfl⟩ := Option.map_eq_some_iff.1 hx
  obtain ⟨y, hj, rfl⟩ := Option.map_eq_some_iff.1 hy
  cases hxy with
  | cls hxy => exact ⟨x, y, hi, hj, hxy⟩

theorem inst (h : Together c s w w') (hij : s .inst i j) :
    ∃ x y, w.instances[i]? = some x ∧ w'.instances[j]? = some y ∧ InstanceLike s x y := by
  obtain ⟨_, _, hx, hy, hxy⟩ := h.thing hij
  obtain ⟨x, hi, rfl⟩ := Option.map_eq_some_iff.1 hx
  obtain ⟨y, hj, rfl⟩ := Option.map_eq_some_iff.1 hy
  cases hxy with
  | inst hxy => exact ⟨x, y, hi, hj, hxy⟩

theorem function (h : Together c s w w') (hij : s .function i j) :
    ∃ x y, w.behaviours[i]? = some x ∧ w'.behaviours[j]? = some y ∧ BehaviourLike s x y := by
  obtain ⟨_, _, hx, hy, hxy⟩ := h.thing hij
  obtain ⟨x, hi, rfl⟩ := Option.map_eq_some_iff.1 hx
  obtain ⟨y, hj, rfl⟩ := Option.map_eq_some_iff.1 hy
  cases hxy with
  | function hxy => exact ⟨x, y, hi, hj, hxy⟩

theorem foreign (h : Together c s w w') (hij : s .foreign i j) :
    ∃ x y, w.foreigns[i]? = some x ∧ w'.foreigns[j]? = some y ∧ ForeignLike s x y := by
  obtain ⟨_, _, hx, hy, hxy⟩ := h.thing hij
  obtain ⟨x, hi, rfl⟩ := Option.map_eq_some_iff.1 hx
  obtain ⟨y, hj, rfl⟩ := Option.map_eq_some_iff.1 hy
  cases hxy with
  | foreign hxy => exact ⟨x, y, hi, hj, hxy⟩

theorem cell (h : Together c s w w') (hij : s .cell i j) :
    ∃ x y, w.cells[i]? = some x ∧ w'.cells[j]? = some y ∧ CellLike s x y := by
  obtain ⟨_, _, hx, hy, hxy⟩ := h.thing hij
  obtain ⟨x, hi, rfl⟩ := Option.map_eq_some_iff.1 hx
  obtain ⟨y, hj, rfl⟩ := Option.map_eq_some_iff.1 hy
  cases hxy with
  | cell hxy => exact ⟨x, y, hi, hj, hxy⟩

/-- What is matched is there. -/
theorem ne_none (h : Together c s w w') {k : Numbered} {i j : Nat} (hl : s k i j) :
    w.thing? k i ≠ none ∧ w'.thing? k j ≠ none := by
  obtain ⟨x, y, hx, hy, -⟩ := h.thing hl
  rw [hx, hy]
  exact ⟨Option.some_ne_none x, Option.some_ne_none y⟩

/-- What is there and alike may be matched. -/
theorem enlarge (h : Together c s w w') (hst : s ≤ t) (ht : t.OneToOne)
    (hnew : ∀ {k i j}, t k i j → s k i j ∨ ∃ x y, w.thing? k i = some x ∧ w'.thing? k j = some y ∧ ThingLike t x y) :
    Together c t w w' where
  oneToOne := ht
  base := h.base.trans hst
  thing hl := by
    rcases hnew hl with hl | hl
    · obtain ⟨x, y, hx, hy, hxy⟩ := h.thing hl
      exact ⟨x, y, hx, hy, hxy.mono hst⟩
    · exact hl
  system := by
    obtain ⟨p, q, hp, hq, hpq⟩ := h.system
    exact ⟨p, q, hp, hq, hpq.mono hst⟩
  manager := by
    obtain ⟨p, q, hp, hq, hpq⟩ := h.manager
    exact ⟨p, q, hp, hq, hpq.mono hst⟩

/-! ### What is changed -/

/-- Both worlds with something put on record still look alike. -/
theorem keep (h : Together c s w w') (hu : w.Keeps u) (hu' : w'.Keeps u') :
    Onward c s w w' s u u' ∧ Together c s u u' where
  left := {
    le := le_rfl
    fresh := .inl
    kept := fun _ hj => (hu'.things _ _).trans hj
    grown := fun hi => (hu.things _ _).symm.trans hi
    grown' := fun hj => (hu'.things _ _).symm.trans hj
    functions := fun hi => (hu.things _ _).trans hi
    functions' := fun hj => (hu'.things _ _).trans hj
    classes := fun hi hne => absurd ((hu.things _ _).trans hi) hne
    systems := fun _ => congrArg (Fields.get? · _) hu'.systems
    managers := fun _ => congrArg (·[_]?) hu'.managers }
  right := {
    oneToOne := h.oneToOne
    base := h.base
    thing := fun hij => by
      rw [hu.things, hu'.things]
      exact h.thing hij
    system := by
      unfold World.system?
      rw [hu.systems, hu'.systems]
      exact h.system
    manager := by
      rw [hu.managers, hu'.managers]
      exact h.manager }

end Together

section Puts

variable {k : Numbered} {i j : Nat} {x y : Thing} (hu : w.Puts u k i x) (hu' : w'.Puts u' k j y)

include hu hu'

/-- A client goes on to put one thing in each world: a new one, or one that it matches. -/
theorem Onward.puts (hst : s ≤ t) (hfresh : ∀ {l i' j'}, t l i' j' → s l i' j' ∨ w.thing? l i' = none ∧ w'.thing? l j' = none)
    (hij : w.thing? k i = none ∧ w'.thing? k j = none ∨ k ≠ .function ∧ t k i j) (hcls : k = .cls → t k i j) :
    Onward c s w w' t u u' where
  le := hst
  fresh := hfresh
  kept {l j' z} hfree hz := by
    refine (hu'.elsewhere ?_).trans hz
    rintro ⟨rfl, rfl⟩
    rcases hij with hij | hij
    · rw [hij.2] at hz
      cases hz
    · exact hfree i hij.2
  grown {l i'} hi' := by
    refine (hu.elsewhere ?_).symm.trans hi'
    rintro ⟨rfl, rfl⟩
    rw [hu.here] at hi'
    cases hi'
  grown' {l j'} hj' := by
    refine (hu'.elsewhere ?_).symm.trans hj'
    rintro ⟨rfl, rfl⟩
    rw [hu'.here] at hj'
    cases hj'
  functions {i' z} hz := by
    refine (hu.elsewhere ?_).trans hz
    rintro ⟨rfl, rfl⟩
    rcases hij with hij | hij
    · rw [hij.1] at hz
      cases hz
    · exact hij.1 rfl
  functions' {j' z} hz := by
    refine (hu'.elsewhere ?_).trans hz
    rintro ⟨rfl, rfl⟩
    rcases hij with hij | hij
    · rw [hij.2] at hz
      cases hz
    · exact hij.1 rfl
  classes {i'} hi' hne := by
    by_cases hk : .cls = k ∧ i' = i
    · obtain ⟨rfl, rfl⟩ := hk
      exact ⟨j, hcls rfl⟩
    · exact absurd ((hu.elsewhere hk).trans hi') hne
  systems _ := congrArg (Fields.get? · _) hu'.systems
  managers _ := congrArg (·[_]?) hu'.managers

/-- Two worlds look alike after one thing has been put in each, if the things are alike and stand for each other. -/
theorem Together.puts (h : Together c s w w') (hst : s ≤ t) (ht : t.OneToOne)
    (hlink : ∀ {i' j'}, t k i' j' → (i' = i ↔ j' = j)) (hnew : ∀ {l i' j'}, t l i' j' → s l i' j' ∨ l = k ∧ i' = i ∧ j' = j)
    (hxy : t k i j → ThingLike t x y) : Together c t u u' where
  oneToOne := ht
  base := le_trans h.base hst
  thing {l i' j'} hl := by
    by_cases hi : l = k ∧ i' = i
    · obtain ⟨rfl, rfl⟩ := hi
      obtain rfl := (hlink hl).1 rfl
      exact ⟨x, y, hu.here, hu'.here, hxy hl⟩
    · have hj : ¬ (l = k ∧ j' = j) := by
        rintro ⟨rfl, rfl⟩
        exact hi ⟨rfl, (hlink hl).2 rfl⟩
      rw [hu.elsewhere hi, hu'.elsewhere hj]
      rcases hnew hl with hl | hl
      · obtain ⟨x, y, hx, hy, hxy⟩ := h.thing hl
        exact ⟨x, y, hx, hy, hxy.mono hst⟩
      · exact absurd ⟨hl.1, hl.2.1⟩ hi
  system := by
    obtain ⟨p, q, hp, hq, hpq⟩ := h.system
    refine ⟨p, q, ?_, ?_, hpq.mono hst⟩
    · rw [World.system?, hu.systems]
      exact hp
    · rw [World.system?, hu'.systems]
      exact hq
  manager := by
    obtain ⟨p, q, hp, hq, hpq⟩ := h.manager
    refine ⟨p, q, ?_, ?_, hpq.mono hst⟩
    · rw [hu.managers]
      exact hp
    · rw [hu'.managers]
      exact hq

namespace Together

/-- Changing matched things alike keeps two worlds alike. -/
theorem put (h : Together c s w w') (hk : k ≠ .function) (hij : s k i j) (hxy : ThingLike s x y) :
    Onward c s w w' s u u' ∧ Together c s u u' :=
  ⟨.puts hu hu' le_rfl .inl (.inr ⟨hk, hij⟩) fun _ => hij,
    h.puts hu hu' le_rfl h.oneToOne (fun hl => h.oneToOne hl hij) .inl fun _ => hxy⟩

end Together

end Puts

namespace Together

section Puts

variable {k : Numbered} {i j : Nat} {x y : Thing} (hu : w.Puts u k i x) (hu' : w'.Puts u' k j y)
  (hi : w.thing? k i = none) (hj : w'.thing? k j = none)

include hu hu' hi hj

/-- A new thing in each world may go without being matched. -/
theorem unseen (h : Together c s w w') : Together c s u u' :=
  h.puts hu hu' le_rfl h.oneToOne (fun hl => ⟨fun heq => absurd (heq ▸ hi) (h.ne_none hl).1,
    fun heq => absurd (heq ▸ hj) (h.ne_none hl).2⟩) .inl fun hl => absurd hi (h.ne_none hl).1

/-- One new thing in each world, which stand for each other from now on. -/
theorem add (h : Together c s w w') (hxy : ThingLike (s ⊔ Matching.pair k i j) x y) :
    Onward c s w w' (s ⊔ Matching.pair k i j) u u' ∧ Together c (s ⊔ Matching.pair k i j) u u' := by
  have hpair : (s ⊔ Matching.pair k i j) k i j := .inr ⟨rfl, rfl, rfl⟩
  have ht : (s ⊔ Matching.pair k i j).OneToOne := h.oneToOne.sup_pair (fun j' hl => (h.ne_none hl).1 hi)
    fun i' hl => (h.ne_none hl).2 hj
  refine ⟨.puts hu hu' le_sup_left ?_ (.inl ⟨hi, hj⟩) fun _ => hpair,
    h.puts hu hu' le_sup_left ht (fun hl => ht hl hpair) id fun _ => hxy⟩
  rintro l i' j' (hl | ⟨rfl, rfl, rfl⟩)
  · exact .inl hl
  · exact .inr ⟨hi, hj⟩

end Puts

/-- Matched cells get alike contents. -/
theorem setCell (h : Together c s w w') {i j : Nat} (hij : s .cell i j) {d d' : Cell} (hd : CellLike s d d') :
    Onward c s w w' s (w.setCell i d) (w'.setCell j d') ∧ Together c s (w.setCell i d) (w'.setCell j d') := by
  obtain ⟨_, _, hi, hj, -⟩ := h.cell hij
  exact h.put (World.puts_setCell hi d) (World.puts_setCell hj d') (by decide) hij (.cell hd)

/-- New cells with alike contents stand for each other. -/
theorem addCell (h : Together c s w w') {d d' : Cell} (hd : CellLike s d d') :
    Onward c s w w' (s ⊔ .pair .cell w.cells.length w'.cells.length) (w.addCell d).1 (w'.addCell d').1 ∧
      Together c (s ⊔ .pair .cell w.cells.length w'.cells.length) (w.addCell d).1 (w'.addCell d').1 :=
  h.add (w.puts_addCell d) (w'.puts_addCell d') (w.thing?_count .cell) (w'.thing?_count .cell) (.cell (hd.mono le_sup_left))

/-- Changing the system of a client alike keeps two worlds alike. -/
theorem changeSystem (h : Together c s w w') (f f' : System → System)
    (hf : ∀ {p q}, SystemLike c s p q → SystemLike c s (f p) (f' q)) :
    Onward c s w w' s (w.modifySystem c.system f) (w'.modifySystem c.system f') ∧
      Together c s (w.modifySystem c.system f) (w'.modifySystem c.system f') where
  left := {
    le := le_rfl
    fresh := .inl
    kept := fun _ hj => hj
    grown := id
    grown' := id
    functions := id
    functions' := id
    classes := fun hi hne => absurd hi hne
    systems := fun hne => by
      rw [World.system?_modifySystem]
      cases w'.system? _ with
      | none => rfl
      | some _ => exact congrArg some (if_neg hne)
    managers := fun _ => rfl }
  right := {
    oneToOne := h.oneToOne
    base := h.base
    thing := h.thing
    system := by
      obtain ⟨p, q, hp, hq, hpq⟩ := h.system
      refine ⟨f p, f' q, ?_, ?_, hf hpq⟩
      · rw [World.system?_modifySystem, hp, Option.map_some, if_pos rfl]
      · rw [World.system?_modifySystem, hq, Option.map_some, if_pos rfl]
    manager := h.manager }

end Together

end Lineage
