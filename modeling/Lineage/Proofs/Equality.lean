import Mathlib
import Lineage.Proofs.Data
import Lineage.Value.Equality

/-!
# Equality — equality of data is symmetric and transitive

Data is equal by content. For leaves this is equality of one thing that they stand for: a number, a text, octets; a boolean
stands for a number. For containers it is equality of their parts, in order for sequences, and in any order for sets and
dictionaries, where one side is searched for each part of the other.

`Matches` says this one level deep, and `equalInside_iff` that it is what is computed. Symmetry needs an argument for what has
no order: parts that are distinct among themselves find distinct partners, so as many partners as there are leave none over
(`covered_of_distinct`). Distinctness is used through transitivity, so both laws are proved at once, by induction on the data
(`IsBuiltIn.regular`).

What is no number equals nothing here, not even itself, so the laws hold of it as well, and nothing is said by that.
-/

set_option autoImplicit false

namespace Lineage.Value

/-- **Built-in data:** constants, numbers, texts, bytes, and containers of such data. The items of a set and the keys of a
dictionary are distinct. -/
inductive IsBuiltIn : Value → Prop where
  | nil : IsBuiltIn nil
  | bool (b : Bool) : IsBuiltIn (bool b)
  | number (n : Number) : IsBuiltIn (number n)
  | text (t : Text) : IsBuiltIn (text t)
  | bytes (form : ByteForm) (octets : List Nat) : IsBuiltIn (bytes form octets)
  | tuple {xs : List Value} (h : ∀ x ∈ xs, IsBuiltIn x) : IsBuiltIn (tuple xs)
  | list {xs : List Value} (h : ∀ x ∈ xs, IsBuiltIn x) : IsBuiltIn (list xs)
  | set (frozen : Bool) {xs : List Value} (h : ∀ x ∈ xs, IsBuiltIn x)
      (hdistinct : xs.Pairwise fun x y => ¬x.equalInside y = true) : IsBuiltIn (set frozen xs)
  | dict {es : List (Value × Value)} (hkeys : ∀ e ∈ es, IsBuiltIn e.1) (hvalues : ∀ e ∈ es, IsBuiltIn e.2)
      (hdistinct : es.Pairwise fun e f => ¬e.1.equalInside f.1 = true) : IsBuiltIn (dict es)

variable {a b c : Value} {xs ys : List Value} {es fs : List (Value × Value)}

/-! ## The parts of containers -/

/-- Two values are equal as parts. -/
def Same (a b : Value) : Prop := a.equalInside b = true

/-- Two entries are equal in their keys and in their values. -/
def SameEntry (e f : Value × Value) : Prop := Same e.1 f.1 ∧ Same e.2 f.2

theorem equalAll_iff : equalAll xs ys = true ↔ List.Forall₂ Same xs ys := by
  induction xs generalizing ys with
  | nil => cases ys <;> simp [equalAll]
  | cons x xs ih =>
    cases ys with
    | nil => simp [equalAll]
    | cons y ys =>
      rw [equalAll, Bool.and_eq_true, ih, List.forall₂_cons]
      exact Iff.rfl

theorem subset_iff : subset xs ys = true ↔ ∀ x ∈ xs, ∃ y ∈ ys, Same x y := by
  induction xs with
  | nil => simp [subset]
  | cons x xs ih =>
    rw [subset, Bool.and_eq_true, ih, List.any_eq_true, List.forall_mem_cons]
    exact Iff.rfl

theorem entriesIn_iff : entriesIn es fs = true ↔ ∀ e ∈ es, ∃ f ∈ fs, SameEntry e f := by
  induction es with
  | nil => simp [entriesIn]
  | cons e es ih =>
    rw [entriesIn, Bool.and_eq_true, ih, List.any_eq_true, List.forall_mem_cons]
    simp only [Bool.and_eq_true]
    exact Iff.rfl

/-! ## One level of equality -/

/-- **Equality of data, one level deep.** -/
inductive Matches : Value → Value → Prop where
  | nil : Matches nil nil
  | number {a b : Value} {x y : Number} (ha : a.number? = some x) (hb : b.number? = some y) (h : x.equal y = true) :
      Matches a b
  | text (t : Text) : Matches (text t) (text t)
  | bytes (form form' : ByteForm) (octets : List Nat) : Matches (bytes form octets) (bytes form' octets)
  | tuple {xs ys : List Value} (h : List.Forall₂ Same xs ys) : Matches (tuple xs) (tuple ys)
  | list {xs ys : List Value} (h : List.Forall₂ Same xs ys) : Matches (list xs) (list ys)
  | set (frozen frozen' : Bool) {xs ys : List Value} (hlength : xs.length = ys.length)
      (h : ∀ x ∈ xs, ∃ y ∈ ys, Same x y) : Matches (set frozen xs) (set frozen' ys)
  | dict {es fs : List (Value × Value)} (hlength : es.length = fs.length) (h : ∀ e ∈ es, ∃ f ∈ fs, SameEntry e f) :
      Matches (dict es) (dict fs)

theorem matches_of_equalInside (ha : IsBuiltIn a) (hb : IsBuiltIn b) (h : a.equalInside b = true) : Matches a b := by
  cases ha with
  | nil =>
    cases hb with
    | nil => exact .nil
    | _ => cases h
  | bool | number =>
    cases hb with
    | bool | number => exact .number rfl rfl h
    | _ => cases h
  | text t =>
    cases hb with
    | text t' =>
      obtain rfl : t = t' := of_decide_eq_true h
      exact .text t
    | _ => cases h
  | bytes form octets =>
    cases hb with
    | bytes form' octets' =>
      obtain rfl : octets = octets' := of_decide_eq_true h
      exact .bytes form form' octets
    | _ => cases h
  | tuple =>
    cases hb with
    | tuple => exact .tuple (equalAll_iff.1 h)
    | _ => cases h
  | list =>
    cases hb with
    | list => exact .list (equalAll_iff.1 h)
    | _ => cases h
  | set frozen =>
    cases hb with
    | set frozen' =>
      obtain ⟨hlength, hsubset⟩ := Bool.and_eq_true_iff.1 h
      exact .set frozen frozen' (eq_of_beq hlength) (subset_iff.1 hsubset)
    | _ => cases h
  | dict =>
    cases hb with
    | dict =>
      obtain ⟨hlength, hentries⟩ := Bool.and_eq_true_iff.1 h
      exact .dict (eq_of_beq hlength) (entriesIn_iff.1 hentries)
    | _ => cases h

theorem equalInside_of_matches (ha : IsBuiltIn a) (hb : IsBuiltIn b) (h : Matches a b) : a.equalInside b = true := by
  cases h with
  | nil => rfl
  | number ha' hb' h =>
    cases ha with
    | bool | number =>
      cases hb with
      | bool | number =>
        cases ha'
        cases hb'
        exact h
      | _ => cases hb'
    | _ => cases ha'
  | text => exact decide_eq_true rfl
  | bytes => exact decide_eq_true rfl
  | tuple h | list h => exact equalAll_iff.2 h
  | set _ _ hlength h => exact Bool.and_eq_true_iff.2 ⟨beq_iff_eq.2 hlength, subset_iff.2 h⟩
  | dict hlength h => exact Bool.and_eq_true_iff.2 ⟨beq_iff_eq.2 hlength, entriesIn_iff.2 h⟩

/-- What is computed of built-in data is that. -/
theorem equalInside_iff (ha : IsBuiltIn a) (hb : IsBuiltIn b) : a.equalInside b = true ↔ Matches a b :=
  ⟨matches_of_equalInside ha hb, equalInside_of_matches ha hb⟩

/-- No outside object is involved, so this is equality itself. -/
theorem equal_eq_equalInside (ha : IsBuiltIn a) (hb : IsBuiltIn b) : a.equal b = a.equalInside b := by
  cases ha <;> cases hb <;> rfl

/-! ## Induction on parts -/

/-- The parts of a value: items, or keys and values. -/
def parts : Value → List Value
  | tuple xs | list xs | set _ xs => xs
  | dict es => es.map (·.1) ++ es.map (·.2)
  | _ => []

theorem IsBuiltIn.of_mem_parts (ha : IsBuiltIn a) {x : Value} (hx : x ∈ a.parts) : IsBuiltIn x := by
  cases ha with
  | tuple h | list h | set _ h => exact h x hx
  | dict hkeys hvalues =>
    rcases List.mem_append.1 hx with hx | hx
    · obtain ⟨e, he, rfl⟩ := List.mem_map.1 hx
      exact hkeys e he
    · obtain ⟨e, he, rfl⟩ := List.mem_map.1 hx
      exact hvalues e he
  | _ => cases hx

/-- What holds of data if it holds of its parts holds of all data. -/
theorem IsBuiltIn.induction_on_parts {motive : Value → Prop} (ha : IsBuiltIn a)
    (step : ∀ {a : Value}, IsBuiltIn a → (∀ x ∈ a.parts, motive x) → motive a) : motive a := by
  induction ha with
  | nil => exact step .nil nofun
  | bool b => exact step (.bool b) nofun
  | number n => exact step (.number n) nofun
  | text t => exact step (.text t) nofun
  | bytes form octets => exact step (.bytes form octets) nofun
  | tuple h ih => exact step (.tuple h) ih
  | list h ih => exact step (.list h) ih
  | set frozen h hdistinct ih => exact step (.set frozen h hdistinct) ih
  | dict hkeys hvalues hdistinct ihkeys ihvalues =>
    refine step (.dict hkeys hvalues hdistinct) fun x hx => ?_
    rcases List.mem_append.1 hx with hx | hx
    · obtain ⟨e, he, rfl⟩ := List.mem_map.1 hx
      exact ihkeys e he
    · obtain ⟨e, he, rfl⟩ := List.mem_map.1 hx
      exact ihvalues e he

/-! ## Symmetry and transitivity -/

/-- **As many partners leave none over:** if all of one list have partners in another that is as long, and no two share
one, then all of the other are partners. -/
theorem covered_of_distinct {α β : Type} {R : α → β → Prop} {xs : List α} {ys : List β}
    (hlength : xs.length = ys.length) (hcover : ∀ x ∈ xs, ∃ y ∈ ys, R x y)
    (hdistinct : xs.Pairwise fun x x' => ∀ y, R x y → ¬R x' y) : ∀ y ∈ ys, ∃ x ∈ xs, R x y := by
  induction xs generalizing ys with
  | nil =>
    rw [List.length_eq_zero_iff.1 hlength.symm]
    exact nofun
  | cons x xs ih =>
    obtain ⟨hx, hdistinct⟩ := List.pairwise_cons.1 hdistinct
    obtain ⟨y, hy, hxy⟩ := hcover x List.mem_cons_self
    obtain ⟨before, after, rfl⟩ := List.append_of_mem hy
    have hrest : ∀ y' ∈ before ++ after, ∃ x' ∈ xs, R x' y' := by
      have hleft : xs.length = (before ++ after).length := by
        simp only [List.length_append, List.length_cons] at hlength ⊢
        omega
      refine ih hleft (fun x' hx' => ?_) hdistinct
      -- the partner of another one is another one, so it is among those that are left
      obtain ⟨y', hy', hxy'⟩ := hcover x' (List.mem_cons_of_mem x hx')
      refine ⟨y', ?_, hxy'⟩
      rcases List.mem_append.1 hy' with h | h
      · exact List.mem_append_left after h
      · rcases List.mem_cons.1 h with rfl | h
        · exact absurd hxy' (hx x' hx' y' hxy)
        · exact List.mem_append_right before h
    intro y' hy'
    rcases List.mem_append.1 hy' with h | h
    · obtain ⟨x', hx', hxy'⟩ := hrest y' (List.mem_append_left after h)
      exact ⟨x', List.mem_cons_of_mem x hx', hxy'⟩
    · rcases List.mem_cons.1 h with rfl | h
      · exact ⟨x, List.mem_cons_self, hxy⟩
      · obtain ⟨x', hx', hxy'⟩ := hrest y' (List.mem_append_right before h)
        exact ⟨x', List.mem_cons_of_mem x hx', hxy'⟩

/-- **Equality with a value is symmetric and transitive.** -/
structure Regular (a : Value) : Prop where
  symm : ∀ {b : Value}, IsBuiltIn b → Same a b → Same b a
  trans : ∀ {b c : Value}, IsBuiltIn b → IsBuiltIn c → Same a b → Same b c → Same a c

/-- Of two distinct parts of data, no third one is equal to both. -/
theorem Regular.not_same {x x' y : Value} (hx : Regular x) (hx' : Regular x') (hbuilt : IsBuiltIn x') (hy : IsBuiltIn y)
    (hne : ¬Same x x') (h : Same x y) : ¬Same x' y :=
  fun h' => hne (hx.trans hy hbuilt h (hx'.symm hy h'))

/-- Item by item, equality is symmetric if it is with each item of the first. -/
theorem forall₂_symm (ih : ∀ x ∈ xs, Regular x) (hys : ∀ y ∈ ys, IsBuiltIn y) (h : List.Forall₂ Same xs ys) :
    List.Forall₂ Same ys xs := by
  obtain ⟨hlength, h⟩ := List.forall₂_iff_get.1 h
  refine List.forall₂_iff_get.2 ⟨hlength.symm, fun i hy hx => ?_⟩
  exact (ih _ (List.get_mem _ _)).symm (hys _ (List.get_mem _ _)) (h i hx hy)

/-- Item by item, equality is transitive if it is with each item of the first. -/
theorem forall₂_trans {zs : List Value} (ih : ∀ x ∈ xs, Regular x) (hys : ∀ y ∈ ys, IsBuiltIn y)
    (hzs : ∀ z ∈ zs, IsBuiltIn z) (h : List.Forall₂ Same xs ys) (h' : List.Forall₂ Same ys zs) :
    List.Forall₂ Same xs zs := by
  obtain ⟨hlength, h⟩ := List.forall₂_iff_get.1 h
  obtain ⟨hlength', h'⟩ := List.forall₂_iff_get.1 h'
  refine List.forall₂_iff_get.2 ⟨hlength.trans hlength', fun i hx hz => ?_⟩
  have hy : i < ys.length := hlength ▸ hx
  exact (ih _ (List.get_mem _ _)).trans (hys _ (List.get_mem _ _)) (hzs _ (List.get_mem _ _)) (h i hx hy) (h' i hy hz)

theorem Matches.symm (ha : IsBuiltIn a) (hb : IsBuiltIn b) (ih : ∀ x ∈ a.parts, Regular x) (h : Matches a b) :
    Matches b a := by
  cases h with
  | nil => exact .nil
  | number ha hb h => exact .number hb ha ((Number.equal_comm _ _).trans h)
  | text t => exact .text t
  | bytes form form' octets => exact .bytes form' form octets
  | tuple h => exact .tuple (forall₂_symm ih (fun _ hy => hb.of_mem_parts hy) h)
  | list h => exact .list (forall₂_symm ih (fun _ hy => hb.of_mem_parts hy) h)
  | @set frozen frozen' xs ys hlength h =>
    cases ha with
    | set _ hxs hdistinct =>
      have hcovered := covered_of_distinct (R := fun x y => IsBuiltIn y ∧ Same x y) hlength
        (fun x hx => by
          obtain ⟨y, hy, hxy⟩ := h x hx
          exact ⟨y, hy, hb.of_mem_parts hy, hxy⟩)
        (hdistinct.imp_of_mem fun hx hx' hne y hxy hxy' =>
          (ih _ hx).not_same (ih _ hx') (hxs _ hx') hxy.1 hne hxy.2 hxy'.2)
      refine .set frozen' frozen hlength.symm fun y hy => ?_
      obtain ⟨x, hx, hy, hxy⟩ := hcovered y hy
      exact ⟨x, hx, (ih x hx).symm hy hxy⟩
  | @dict es fs hlength h =>
    cases ha with
    | dict hkeys hvalues hdistinct =>
      have ihkey {e : Value × Value} (he : e ∈ es) : Regular e.1 :=
        ih _ (List.mem_append_left _ (List.mem_map_of_mem he))
      have ihvalue {e : Value × Value} (he : e ∈ es) : Regular e.2 :=
        ih _ (List.mem_append_right _ (List.mem_map_of_mem he))
      cases hb with
      | dict hkeys' hvalues' _ =>
        have hcovered := covered_of_distinct (R := fun e f => f ∈ fs ∧ SameEntry e f) hlength
          (fun e he => by
            obtain ⟨f, hf, hef⟩ := h e he
            exact ⟨f, hf, hf, hef⟩)
          (hdistinct.imp_of_mem fun he he' hne f hef hef' =>
            (ihkey he).not_same (ihkey he') (hkeys _ he') (hkeys' f hef.1) hne hef.2.1 hef'.2.1)
        refine .dict hlength.symm fun f hf => ?_
        obtain ⟨e, he, hf, hkey, hvalue⟩ := hcovered f hf
        exact ⟨e, he, (ihkey he).symm (hkeys' f hf) hkey, (ihvalue he).symm (hvalues' f hf) hvalue⟩

theorem Matches.trans (hb : IsBuiltIn b) (hc : IsBuiltIn c) (ih : ∀ x ∈ a.parts, Regular x) (h : Matches a b)
    (h' : Matches b c) : Matches a c := by
  cases h with
  | nil => exact h'
  | text t => exact h'
  | number ha hb h =>
    cases h' with
    | number hb' hc h' =>
      cases hb.symm.trans hb'
      exact .number ha hc (Number.equal_trans h h')
    | _ => cases hb
  | bytes form form' octets =>
    cases h' with
    | bytes _ form'' _ => exact .bytes form form'' octets
    | number hb' => cases hb'
  | tuple h =>
    cases h' with
    | tuple h' => exact .tuple (forall₂_trans ih (fun _ hy => hb.of_mem_parts hy) (fun _ hz => hc.of_mem_parts hz) h h')
    | number hb' => cases hb'
  | list h =>
    cases h' with
    | list h' => exact .list (forall₂_trans ih (fun _ hy => hb.of_mem_parts hy) (fun _ hz => hc.of_mem_parts hz) h h')
    | number hb' => cases hb'
  | set frozen frozen' hlength h =>
    cases h' with
    | set _ frozen'' hlength' h' =>
      refine .set frozen frozen'' (hlength.trans hlength') fun x hx => ?_
      obtain ⟨y, hy, hxy⟩ := h x hx
      obtain ⟨z, hz, hyz⟩ := h' y hy
      exact ⟨z, hz, (ih x hx).trans (hb.of_mem_parts hy) (hc.of_mem_parts hz) hxy hyz⟩
    | number hb' => cases hb'
  | dict hlength h =>
    cases h' with
    | dict hlength' h' =>
      cases hb with
      | dict hkeys hvalues _ =>
        cases hc with
        | dict hkeys' hvalues' _ =>
          refine .dict (hlength.trans hlength') fun e he => ?_
          obtain ⟨f, hf, hkey, hvalue⟩ := h e he
          obtain ⟨g, hg, hkey', hvalue'⟩ := h' f hf
          refine ⟨g, hg, ?_, ?_⟩
          · exact (ih _ (List.mem_append_left _ (List.mem_map_of_mem he))).trans (hkeys f hf) (hkeys' g hg) hkey hkey'
          · exact (ih _ (List.mem_append_right _ (List.mem_map_of_mem he))).trans (hvalues f hf) (hvalues' g hg) hvalue hvalue'
    | number hb' => cases hb'

/-- **Equality of built-in data is symmetric and transitive.** -/
theorem IsBuiltIn.regular (ha : IsBuiltIn a) : Regular a := by
  refine ha.induction_on_parts fun ha ih => ⟨fun hb h => ?_, fun hb hc h h' => ?_⟩
  · exact (equalInside_iff hb ha).2 (((equalInside_iff ha hb).1 h).symm ha hb ih)
  · exact (equalInside_iff ha hc).2 (((equalInside_iff ha hb).1 h).trans hb hc ih ((equalInside_iff hb hc).1 h'))

/-- **Equal data is equal to the same data.** -/
theorem equal_congr (hc : IsBuiltIn c) (ha : IsBuiltIn a) (hb : IsBuiltIn b) (h : a.equal b = true) :
    c.equal a = c.equal b := by
  rw [equal_eq_equalInside ha hb] at h
  rw [equal_eq_equalInside hc ha, equal_eq_equalInside hc hb, Bool.eq_iff_iff]
  exact ⟨fun hca => hc.regular.trans ha hb hca h, fun hcb => hc.regular.trans hb ha hcb (ha.regular.symm hb h)⟩

end Lineage.Value
