import Mathlib
import Lineage.Access

/-!
# Likeness — values that differ in their numbers only

The same script gives its classes, instances and functions other numbers when something else runs beside it. A
`Matching` says which number of one world stands for which number of another, and two values are alike (`Like`)
when they are built in the same way over matched numbers. As long as distinct things stand for distinct things
(`Matching.OneToOne`), no question that is asked of values alone tells them apart: they have the same category, the same
truth, the same literal form (`Like.literal`), and are equal to alike values at the same time (`Like.equal`).
-/

set_option autoImplicit false

namespace Lineage

/-- The sorts of things that a world numbers. -/
inductive Numbered where
  | cls
  | inst
  | function
  | foreign
  | cell
  | enum
deriving DecidableEq

/-- Which number of one world stands for which of another. -/
abbrev Matching := Numbered → Nat → Nat → Prop

namespace Matching

/-- Distinct things stand for distinct things. -/
def OneToOne (s : Matching) : Prop := ∀ ⦃k i j i' j'⦄, s k i j → s k i' j' → (i = i' ↔ j = j')

/-- One thing that stands for one thing. -/
def pair (k : Numbered) (i j : Nat) : Matching := fun k' i' j' => k' = k ∧ i' = i ∧ j' = j

/-- How many methods the base class has: they are the first functions of every world. -/
def baseMethods : Nat := 5

/-- The base class and its methods, which stand for themselves. -/
def base : Matching := fun k i j => i = j ∧ (k = .cls ∧ i = baseIndex ∨ k = .function ∧ i < baseMethods)

end Matching

/-- Related options are both empty, or hold related things. -/
theorem rel_cases {α β : Type} {R : α → β → Prop} {a : Option α} {b : Option β} (h : Option.Rel R a b) :
    a = none ∧ b = none ∨ ∃ x y, a = some x ∧ b = some y ∧ R x y := by
  cases h with
  | none => exact .inl ⟨rfl, rfl⟩
  | some h => exact .inr ⟨_, _, rfl, rfl, h⟩

theorem rel_isSome {α β : Type} {R : α → β → Prop} {a : Option α} {b : Option β} (h : Option.Rel R a b) :
    a.isSome = b.isSome := by
  cases h <;> rfl

theorem rel_getD {α β : Type} {R : α → β → Prop} {a : Option α} {b : Option β} (h : Option.Rel R a b) {x : α} {y : β}
    (hxy : R x y) : R (a.getD x) (b.getD y) := by
  cases h with
  | none => exact hxy
  | some h => exact h

/-! ## Alike values -/

mutual

/-- Two values that are built in the same way over matched things. -/
inductive Like (s : Matching) : Value → Value → Prop where
  | nil : Like s .nil .nil
  | bool (b : Bool) : Like s (.bool b) (.bool b)
  | number (n : Number) : Like s (.number n) (.number n)
  | text (t : Text) : Like s (.text t) (.text t)
  | bytes (form : ByteForm) (octets : List Nat) : Like s (.bytes form octets) (.bytes form octets)
  | range (first stop step : Int) : Like s (.range first stop step) (.range first stop step)
  | specimen (x : Specimen) : Like s (.specimen x) (.specimen x)
  | tuple {xs ys : List Value} (h : LikeAll s xs ys) : Like s (.tuple xs) (.tuple ys)
  | list {xs ys : List Value} (h : LikeAll s xs ys) : Like s (.list xs) (.list ys)
  | set (frozen : Bool) {xs ys : List Value} (h : LikeAll s xs ys) : Like s (.set frozen xs) (.set frozen ys)
  | view (className : String) {xs ys : List Value} (h : LikeAll s xs ys) :
    Like s (.view className xs) (.view className ys)
  | dict {es fs : List (Value × Value)} (h : LikeEntries s es fs) : Like s (.dict es) (.dict fs)
  | enum (name : String) {i j : Nat} {es fs : List (Value × Value)} (hi : s .enum i j) (h : LikeEntries s es fs) :
    Like s (.enum i name es) (.enum j name fs)
  | shared (kind : CellKind) {i j : Nat} (h : s .cell i j) : Like s (.shared kind i) (.shared kind j)
  | function {i j : Nat} (h : s .function i j) : Like s (.function i) (.function j)
  | property {i j : Nat} (h : s .function i j) : Like s (.property i) (.property j)
  | method {r r' : Value} {i j : Nat} (hr : Like s r r') (h : s .function i j) :
    Like s (.method r (.inl i)) (.method r' (.inl j))
  | builtIn {r r' : Value} (name : String) (hr : Like s r r') :
    Like s (.method r (.inr name)) (.method r' (.inr name))
  | cls {i j : Nat} (h : s .cls i j) : Like s (.cls i) (.cls j)
  | inst {i j : Nat} (h : s .inst i j) : Like s (.inst i) (.inst j)
  | foreign {i j : Nat} (base : ForeignBase) (equalTo : Option Bool) (h : s .foreign i j) :
    Like s (.foreign i base equalTo) (.foreign j base equalTo)

/-- Sequences that are alike item by item. -/
inductive LikeAll (s : Matching) : List Value → List Value → Prop where
  | nil : LikeAll s [] []
  | cons {x y : Value} {xs ys : List Value} (h : Like s x y) (r : LikeAll s xs ys) : LikeAll s (x :: xs) (y :: ys)

/-- Entries that are alike one by one. -/
inductive LikeEntries (s : Matching) : List (Value × Value) → List (Value × Value) → Prop where
  | nil : LikeEntries s [] []
  | cons {k k' v v' : Value} {es fs : List (Value × Value)} (hk : Like s k k') (hv : Like s v v')
    (r : LikeEntries s es fs) : LikeEntries s ((k, v) :: es) ((k', v') :: fs)

end

variable {s t : Matching}

mutual

/-- Alike values stay alike when more things are matched. -/
theorem Like.mono (hst : s ≤ t) {v v' : Value} (h : Like s v v') : Like t v v' := by
  cases h with
  | nil => exact .nil
  | bool b => exact .bool b
  | number n => exact .number n
  | text x => exact .text x
  | bytes f os => exact .bytes f os
  | range a b c => exact .range a b c
  | specimen x => exact .specimen x
  | tuple h => exact .tuple (h.mono hst)
  | list h => exact .list (h.mono hst)
  | set f h => exact .set f (h.mono hst)
  | view c h => exact .view c (h.mono hst)
  | dict h => exact .dict (h.mono hst)
  | enum n hi h => exact .enum n (hst _ _ _ hi) (h.mono hst)
  | shared k h => exact .shared k (hst _ _ _ h)
  | function h => exact .function (hst _ _ _ h)
  | property h => exact .property (hst _ _ _ h)
  | method hr h => exact .method (hr.mono hst) (hst _ _ _ h)
  | builtIn m hr => exact .builtIn m (hr.mono hst)
  | cls h => exact .cls (hst _ _ _ h)
  | inst h => exact .inst (hst _ _ _ h)
  | foreign b e h => exact .foreign b e (hst _ _ _ h)

theorem LikeAll.mono (hst : s ≤ t) {xs ys : List Value} (h : LikeAll s xs ys) : LikeAll t xs ys := by
  cases h with
  | nil => exact .nil
  | cons h r => exact .cons (h.mono hst) (r.mono hst)

theorem LikeEntries.mono (hst : s ≤ t) {es fs : List (Value × Value)} (h : LikeEntries s es fs) :
    LikeEntries t es fs := by
  cases h with
  | nil => exact .nil
  | cons hk hv r => exact .cons (hk.mono hst) (hv.mono hst) (r.mono hst)

end

theorem Like.ofString (x : String) : Like s (.ofString x) (.ofString x) := .text _

theorem Like.ofInt (n : Int) : Like s (.ofInt n) (.ofInt n) := .number _

theorem likeAll_iff {xs ys : List Value} : LikeAll s xs ys ↔ List.Forall₂ (Like s) xs ys := by
  constructor
  · intro h
    induction xs generalizing ys with
    | nil => cases h; exact .nil
    | cons x xs ih =>
      cases h with
      | cons h r => exact .cons h (ih r)
  · intro h
    induction h with
    | nil => exact .nil
    | cons h _ ih => exact .cons h ih

theorem likeEntries_iff {es fs : List (Value × Value)} :
    LikeEntries s es fs ↔ List.Forall₂ (fun e f => Like s e.1 f.1 ∧ Like s e.2 f.2) es fs := by
  constructor
  · intro h
    induction es generalizing fs with
    | nil => cases h; exact .nil
    | cons e es ih =>
      cases h with
      | cons hk hv r => exact .cons ⟨hk, hv⟩ (ih r)
  · intro h
    induction h with
    | nil => exact .nil
    | cons h _ ih => exact .cons h.1 h.2 ih

theorem LikeAll.map {f g : Value → Value} (hfg : ∀ {x y}, Like s x y → Like t (f x) (g y)) {xs ys : List Value}
    (h : LikeAll s xs ys) : LikeAll t (xs.map f) (ys.map g) := by
  induction xs generalizing ys with
  | nil => cases h; exact .nil
  | cons x xs ih =>
    cases h with
    | cons h r => exact .cons (hfg h) (ih r)

theorem LikeEntries.map {f g : Value × Value → Value × Value} (hfg : ∀ {x y}, Like s x.1 y.1 → Like s x.2 y.2 →
    Like t (f x).1 (g y).1 ∧ Like t (f x).2 (g y).2) {es fs : List (Value × Value)} (h : LikeEntries s es fs) :
    LikeEntries t (es.map f) (fs.map g) := by
  induction es generalizing fs with
  | nil => cases h; exact .nil
  | cons e es ih =>
    cases h with
    | cons hk hv r =>
      obtain ⟨hk', hv'⟩ := hfg (x := (_, _)) (y := (_, _)) hk hv
      exact .cons hk' hv' (ih r)

theorem LikeAll.length_eq {xs ys : List Value} (h : LikeAll s xs ys) : xs.length = ys.length :=
  (likeAll_iff.1 h).length_eq

theorem LikeEntries.length_eq {es fs : List (Value × Value)} (h : LikeEntries s es fs) : es.length = fs.length :=
  (likeEntries_iff.1 h).length_eq

theorem LikeAll.getLast? {xs ys : List Value} (h : LikeAll s xs ys) : Option.Rel (Like s) xs.getLast? ys.getLast? := by
  induction xs generalizing ys with
  | nil => cases h; exact .none
  | cons x xs ih =>
    cases h with
    | cons h r =>
      rw [List.getLast?_cons, List.getLast?_cons]
      obtain ⟨hx, hy⟩ | ⟨x, y, hx, hy, hxy⟩ := rel_cases (ih r) <;> rw [hx, hy]
      · exact .some h
      · exact .some hxy

theorem LikeAll.isEmpty_eq {xs ys : List Value} (h : LikeAll s xs ys) : xs.isEmpty = ys.isEmpty := by
  cases h <;> rfl

theorem LikeEntries.isEmpty_eq {es fs : List (Value × Value)} (h : LikeEntries s es fs) :
    es.isEmpty = fs.isEmpty := by
  cases h <;> rfl

/-! ## Lists of values -/

theorem LikeAll.append {us vs xs ys : List Value} (h : LikeAll s us vs) (h' : LikeAll s xs ys) :
    LikeAll s (us ++ xs) (vs ++ ys) :=
  likeAll_iff.2 (List.rel_append (likeAll_iff.1 h) (likeAll_iff.1 h'))

theorem LikeAll.take {us vs : List Value} (h : LikeAll s us vs) (n : Nat) : LikeAll s (us.take n) (vs.take n) :=
  likeAll_iff.2 (List.forall₂_take n (likeAll_iff.1 h))

theorem LikeAll.drop {us vs : List Value} (h : LikeAll s us vs) (n : Nat) : LikeAll s (us.drop n) (vs.drop n) :=
  likeAll_iff.2 (List.forall₂_drop n (likeAll_iff.1 h))

theorem LikeAll.dropLast {us vs : List Value} (h : LikeAll s us vs) : LikeAll s us.dropLast vs.dropLast := by
  rw [List.dropLast_eq_take, List.dropLast_eq_take, h.length_eq]
  exact h.take _

theorem LikeAll.reverse {us vs : List Value} (h : LikeAll s us vs) : LikeAll s us.reverse vs.reverse :=
  likeAll_iff.2 (List.rel_reverse (likeAll_iff.1 h))

/-! ## Lists of entries -/

/-- A question that alike items answer alike is answered alike by some item of alike sequences. -/
theorem LikeAll.any_eq {xs ys : List Value} (h : LikeAll s xs ys) {p q : Value → Bool}
    (hpq : ∀ {x y}, Like s x y → p x = q y) : xs.any p = ys.any q := by
  induction xs generalizing ys with
  | nil => cases h; rfl
  | cons x xs ih =>
    cases h with
    | cons h r => rw [List.any_cons, List.any_cons, hpq h, ih r]

theorem LikeEntries.any_eq {es fs : List (Value × Value)} (h : LikeEntries s es fs) {p q : Value × Value → Bool}
    (hpq : ∀ {e f : Value × Value}, Like s e.1 f.1 → Like s e.2 f.2 → p e = q f) : es.any p = fs.any q := by
  induction es generalizing fs with
  | nil => cases h; rfl
  | cons e es ih =>
    cases h with
    | cons hk hv r => rw [List.any_cons, List.any_cons, ih r, hpq (e := (_, _)) (f := (_, _)) hk hv]

/-- Entries that are alike are found alike. -/
theorem LikeEntries.find? {es fs : List (Value × Value)} (hes : LikeEntries s es fs) {p q : Value × Value → Bool}
    (hpq : ∀ {e f : Value × Value}, Like s e.1 f.1 → Like s e.2 f.2 → p e = q f) :
    Option.Rel (fun e f => Like s e.1 f.1 ∧ Like s e.2 f.2) (es.find? p) (fs.find? q) := by
  induction es generalizing fs with
  | nil => cases hes; exact .none
  | cons e es ih =>
    cases hes with
    | cons hk hv r =>
      rw [List.find?_cons, List.find?_cons, hpq (e := (_, _)) (f := (_, _)) hk hv]
      split
      · exact .some ⟨hk, hv⟩
      · exact ih r

theorem LikeEntries.keys {es fs : List (Value × Value)} (h : LikeEntries s es fs) :
    LikeAll s (es.map (·.1)) (fs.map (·.1)) := by
  induction es generalizing fs with
  | nil => cases h; exact .nil
  | cons e es ih =>
    cases h with
    | cons hk _ r => exact .cons hk (ih r)

theorem LikeEntries.values {es fs : List (Value × Value)} (h : LikeEntries s es fs) :
    LikeAll s (es.map (·.2)) (fs.map (·.2)) := by
  induction es generalizing fs with
  | nil => cases h; exact .nil
  | cons e es ih =>
    cases h with
    | cons _ hv r => exact .cons hv (ih r)

theorem LikeEntries.items {es fs : List (Value × Value)} (h : LikeEntries s es fs) :
    LikeAll s (es.map fun e => .tuple [e.1, e.2]) (fs.map fun e => .tuple [e.1, e.2]) := by
  induction es generalizing fs with
  | nil => cases h; exact .nil
  | cons e es ih =>
    cases h with
    | cons hk hv r => exact .cons (.tuple (.cons hk (.cons hv .nil))) (ih r)

theorem LikeEntries.filter {es fs : List (Value × Value)} (h : LikeEntries s es fs) {p q : Value × Value → Bool}
    (hpq : ∀ {e f : Value × Value}, Like s e.1 f.1 → Like s e.2 f.2 → p e = q f) : LikeEntries s (es.filter p) (fs.filter q) := by
  induction es generalizing fs with
  | nil => cases h; exact .nil
  | cons e es ih =>
    cases h with
    | cons hk hv r =>
      rw [List.filter_cons, List.filter_cons, hpq (e := (_, _)) (f := (_, _)) hk hv]
      split
      · exact .cons hk hv (ih r)
      · exact ih r

theorem LikeEntries.append {es fs es' fs' : List (Value × Value)} (h : LikeEntries s es fs)
    (h' : LikeEntries s es' fs') : LikeEntries s (es ++ es') (fs ++ fs') :=
  likeEntries_iff.2 (List.rel_append (likeEntries_iff.1 h) (likeEntries_iff.1 h'))

/-- Tables in which the entries that are told apart alike get alike values, or alike entries are added. -/
theorem LikeEntries.put {es fs : List (Value × Value)} (h : LikeEntries s es fs) {p q : Value × Value → Bool}
    (hpq : ∀ {e f : Value × Value}, Like s e.1 f.1 → Like s e.2 f.2 → p e = q f) {e f : Value × Value} (hk : Like s e.1 f.1)
    (hv : Like s e.2 f.2) :
    LikeEntries s (if es.any p then es.map fun x => if p x then (x.1, e.2) else x else es ++ [e])
      (if fs.any q then fs.map fun x => if q x then (x.1, f.2) else x else fs ++ [f]) := by
  rw [h.any_eq hpq]
  split
  · refine h.map fun {e f} he hf => ?_
    rw [hpq he hf]
    split
    · exact ⟨he, hv⟩
    · exact ⟨he, hf⟩
  · exact h.append (.cons hk hv .nil)

theorem LikeEntries.foldl {us vs : List (Value × Value)} (h : LikeEntries s us vs) {es fs : List (Value × Value)}
    (hes : LikeEntries s es fs) {f g : List (Value × Value) → Value × Value → List (Value × Value)}
    (hfg : ∀ {es fs u v}, LikeEntries s es fs → Like s u.1 v.1 → Like s u.2 v.2 → LikeEntries s (f es u) (g fs v)) :
    LikeEntries s (us.foldl f es) (vs.foldl g fs) := by
  induction us generalizing vs es fs with
  | nil => cases h; exact hes
  | cons u us ih =>
    cases h with
    | cons hk hv r => exact ih r (hfg hes hk hv)

namespace Like

variable {v v' u u' : Value}

/-! ## What values alone tell -/

theorem category (h : Like s v v') : v.category = v'.category := by
  cases h <;> rfl

theorem isComposite (h : Like s v v') : v.isComposite = v'.isComposite := congrArg Category.isComposite h.category

theorem string? (h : Like s v v') : v.string? = v'.string? := by
  cases h with
  | foreign b _ _ => cases b <;> rfl
  | _ => rfl

theorem text? (h : Like s v v') : v.text? = v'.text? := by
  cases h with
  | foreign b _ _ => cases b <;> rfl
  | _ => rfl

theorem verdict? (h : Like s v v') : v.verdict? = v'.verdict? := by
  cases h <;> rfl

theorem isMapping (h : Like s v v') : v.isMapping = v'.isMapping := by
  cases h with
  | shared k _ => cases k <;> rfl
  | foreign b _ _ => cases b <;> rfl
  | _ => rfl

theorem leafText (h : Like s v v') : v.leafText = v'.leafText := by
  cases h with
  | shared k _ => cases k <;> rfl
  | foreign b _ _ => cases b <;> rfl
  | _ => rfl

theorem isTooLong (h : Like s v v') : Access.isTooLong v = Access.isTooLong v' := by
  cases h <;> rfl

theorem isTruthy (h : Like s v v') : v.isTruthy = v'.isTruthy := by
  cases h with
  | tuple h | list h | set _ h | view _ h => exact congrArg (!·) h.isEmpty_eq
  | dict h | enum _ _ h => exact congrArg (!·) h.isEmpty_eq
  | foreign b _ _ => cases b <;> rfl
  | _ => rfl

/-- The entries of alike mappings are alike. -/
theorem entries? (h : Like s v v') : Option.Rel (LikeEntries s) v.entries? v'.entries? := by
  cases h with
  | dict h | enum _ _ h => exact .some h
  | specimen x =>
    show Option.Rel _ (if x.isMapping then some [] else none) (if x.isMapping then some [] else none)
    split
    · exact .some .nil
    · exact .none
  | foreign b _ _ => cases b <;> first | exact .none | exact .some .nil
  | _ => exact .none

/-- The items of alike lists are alike. -/
theorem listItems? (h : Like s v v') : Option.Rel (LikeAll s) v.listItems? v'.listItems? := by
  cases h with
  | list h => exact .some h
  | foreign b _ _ => cases b <;> first | exact .none | exact .some .nil
  | _ => exact .none

theorem length? (h : Like s v v') : Access.length? v = Access.length? v' := by
  cases h with
  | tuple h | list h | set _ h | view _ h => exact congrArg some h.length_eq
  | dict h | enum _ _ h => exact congrArg some h.length_eq
  | foreign b _ _ => cases b <;> rfl
  | _ => rfl

end Like

mutual

/-- Alike values can be keys at the same time. -/
theorem Like.unhashable? {v v' : Value} (h : Like s v v') : v.unhashable? = v'.unhashable? := by
  cases h with
  | tuple h => exact h.unhashableIn
  | set frozen _ => cases frozen <;> rfl
  | shared k _ => cases k <;> rfl
  | foreign b e _ => cases b <;> cases e <;> rfl
  | _ => rfl

theorem LikeAll.unhashableIn {xs ys : List Value} (h : LikeAll s xs ys) :
    Value.unhashable?.unhashableIn xs = Value.unhashable?.unhashableIn ys := by
  cases h with
  | nil => rfl
  | cons h r =>
    unfold Value.unhashable?.unhashableIn
    rw [h.unhashable?, r.unhashableIn]

end

/-! ## Equality -/

namespace Like

variable {v v' u u' : Value}

theorem isSameForeign (hs : s.OneToOne) (h : Like s v v') (hu : Like s u u') :
    v.isSameForeign u = v'.isSameForeign u' := by
  cases h with
  | foreign _ _ h =>
    cases hu with
    | foreign _ _ hu => exact decide_eq_decide.2 (hs h hu)
    | _ => rfl
  | _ => rfl

theorem judged (h : Like s v v') (hu : Like s u u') (content : Bool) :
    Value.judged v u content = Value.judged v' u' content := by
  unfold Value.judged
  rw [h.verdict?, hu.verdict?]

theorem judgedInside (hs : s.OneToOne) (h : Like s v v') (hu : Like s u u') (content : Bool) :
    Value.judgedInside v u content = Value.judgedInside v' u' content := by
  unfold Value.judgedInside
  rw [h.isSameForeign hs hu, h.judged hu]

theorem isEmptyMapping (h : Like s v v') : v.isEmptyMapping = v'.isEmptyMapping := by
  unfold Value.isEmptyMapping
  obtain ⟨hv, hv'⟩ | ⟨es, fs, hv, hv', h⟩ := rel_cases h.entries?
  · rw [hv, hv']
  · rw [hv, hv']
    cases h <;> rfl

theorem isEmptyList (h : Like s v v') : v.isEmptyList = v'.isEmptyList := by
  unfold Value.isEmptyList
  obtain ⟨hv, hv'⟩ | ⟨xs, ys, hv, hv', h⟩ := rel_cases h.listItems?
  · rw [hv, hv']
  · rw [hv, hv']
    cases h <;> rfl

theorem equalLeaf (hs : s.OneToOne) (h : Like s v v') (hu : Like s u u') : v.equalLeaf u = v'.equalLeaf u' := by
  have same {k : Numbered} {i j x y : Nat} (hi : s k i j) (hx : s k x y) : decide (i = x) = decide (j = y) :=
    decide_eq_decide.2 (hs hi hx)
  -- Numbers are compared with numbers of the same sort only; an outside object may also stand for data.
  cases h with
  | function h =>
    cases hu with
    | function hu => exact same h hu
    | _ => rfl
  | property h =>
    cases hu with
    | property hu => exact same h hu
    | _ => rfl
  | cls h =>
    cases hu with
    | cls hu => exact same h hu
    | _ => rfl
  | inst h =>
    cases hu with
    | inst hu => exact same h hu
    | _ => rfl
  | shared k h =>
    cases hu with
    | shared l hu => exact congrArg (decide (k = l) && ·) (same h hu)
    | _ => rfl
  | foreign b _ h =>
    cases hu with
    | foreign _ _ hu => exact same h hu
    | _ => cases b <;> rfl
  | bool _ | number _ | text _ =>
    cases hu with
    | foreign b _ _ => cases b <;> rfl
    | _ => rfl
  | _ => cases hu <;> rfl

theorem equalEmpty (hs : s.OneToOne) (h : Like s v v') (hu : Like s u u') : v.equalEmpty u = v'.equalEmpty u' := by
  unfold Value.equalEmpty
  rw [h.isEmptyMapping, h.isEmptyList, hu.isEmptyMapping, hu.isEmptyList, h.equalLeaf hs hu]

end Like

mutual

/-- Alike values are equal by content to alike values at the same time. -/
theorem Like.equalContent (hs : s.OneToOne) {v v' u u' : Value} (h : Like s v v') (hu : Like s u u') :
    v.equalContent u = v'.equalContent u' := by
  have empty := h.equalEmpty hs hu
  cases h with
  | tuple h =>
    cases hu with
    | tuple hu => exact h.equalAll hs hu
    | _ => rfl
  | list h =>
    unfold Value.equalContent
    obtain ⟨hl, hl'⟩ | ⟨xs, ys, hl, hl', hi⟩ := rel_cases hu.listItems?
    · rw [hl, hl']
    · rw [hl, hl']
      exact h.equalAll hs hi
  | set _ h =>
    cases hu with
    | set _ hu =>
      unfold Value.equalContent
      dsimp only
      rw [h.length_eq, hu.length_eq, h.subset hs hu]
    | _ => rfl
  | dict h | enum _ _ h =>
    unfold Value.equalContent
    obtain ⟨hl, hl'⟩ | ⟨es, fs, hl, hl', he⟩ := rel_cases hu.entries?
    · rw [hl, hl']
    · rw [hl, hl']
      dsimp only
      rw [h.length_eq, he.length_eq, h.entriesIn hs he]
  | _ => exact empty

theorem LikeAll.equalAll (hs : s.OneToOne) {xs xs' ys ys' : List Value} (h : LikeAll s xs xs') (hy : LikeAll s ys ys') :
    Value.equalAll xs ys = Value.equalAll xs' ys' := by
  cases h with
  | nil => cases hy <;> rfl
  | cons h r =>
    cases hy with
    | nil => rfl
    | cons hy hr =>
      unfold Value.equalAll
      rw [h.equalContent hs hy, h.judgedInside hs hy, r.equalAll hs hr]

theorem LikeAll.subset (hs : s.OneToOne) {xs xs' ys ys' : List Value} (h : LikeAll s xs xs') (hy : LikeAll s ys ys') :
    Value.subset xs ys = Value.subset xs' ys' := by
  cases h with
  | nil => rfl
  | cons h r =>
    unfold Value.subset
    rw [r.subset hs hy, hy.any_eq]
    intro y y' hy
    rw [h.equalContent hs hy, h.judgedInside hs hy]

theorem LikeEntries.entriesIn (hs : s.OneToOne) {es es' fs fs' : List (Value × Value)} (h : LikeEntries s es es')
    (hf : LikeEntries s fs fs') : Value.entriesIn es fs = Value.entriesIn es' fs' := by
  cases h with
  | nil => rfl
  | cons hk hv r =>
    unfold Value.entriesIn
    rw [r.entriesIn hs hf, hf.any_eq]
    intro e f he hf
    rw [hk.equalContent hs he, hk.judgedInside hs he, hv.equalContent hs hf, hv.judgedInside hs hf]

end

namespace Like

variable {v v' u u' : Value}

/-- **Alike values are equal to alike values at the same time.** -/
theorem equal (hs : s.OneToOne) (h : Like s v v') (hu : Like s u u') : v.equal u = v'.equal u' := by
  unfold Value.equal
  rw [h.equalContent hs hu, h.judged hu]

theorem equalInside (hs : s.OneToOne) (h : Like s v v') (hu : Like s u u') : v.equalInside u = v'.equalInside u' := by
  unfold Value.equalInside
  rw [h.equalContent hs hu, h.judgedInside hs hu]

end Like

/-! ## Cells and literal forms -/

section Shared

variable {f f' : CellKind → Nat → Value}

mutual

/-- Alike values whose shared parts are replaced by alike values are alike. -/
theorem Like.mapShared (hf : ∀ {k i j}, s .cell i j → Like s (f k i) (f' k j)) {v v' : Value} (h : Like s v v') :
    Like s (v.mapShared f) (v'.mapShared f') := by
  cases h with
  | shared k h => exact hf h
  | tuple h => exact .tuple (h.mapSharedAll hf)
  | list h => exact .list (h.mapSharedAll hf)
  | set x h => exact .set x (h.mapSharedAll hf)
  | view c h => exact .view c (h.mapSharedAll hf)
  | dict h => exact .dict (h.mapSharedEntries hf)
  | enum n hi h => exact .enum n hi (h.mapSharedEntries hf)
  | _ => constructor <;> assumption

theorem LikeAll.mapSharedAll (hf : ∀ {k i j}, s .cell i j → Like s (f k i) (f' k j)) {xs ys : List Value}
    (h : LikeAll s xs ys) : LikeAll s (Value.mapSharedAll f xs) (Value.mapSharedAll f' ys) := by
  cases h with
  | nil => exact .nil
  | cons h r => exact .cons (h.mapShared hf) (r.mapSharedAll hf)

theorem LikeEntries.mapSharedEntries (hf : ∀ {k i j}, s .cell i j → Like s (f k i) (f' k j))
    {es fs : List (Value × Value)} (h : LikeEntries s es fs) :
    LikeEntries s (Value.mapSharedEntries f es) (Value.mapSharedEntries f' fs) := by
  cases h with
  | nil => exact .nil
  | cons hk hv r => exact .cons (hk.mapShared hf) (hv.mapShared hf) (r.mapSharedEntries hf)

end

end Shared

mutual

/-- The literal form of alike values, with the form of what is no container alike. -/
theorem Like.literal {v v' : Value} (h : Like s v v') : v.literal = v'.literal := by
  have leaf := h.leafText
  cases h with
  | tuple h => exact congrArg Value.tupleText h.literals
  | list h => exact congrArg (fun ts => "[" ++ Value.commaSeparated ts ++ "]") h.literals
  | set f h => exact congrArg (Value.setText f) h.literals
  | dict h => exact congrArg Value.dictText h.literals
  | enum n _ h => exact congrArg (Value.enumText n) h.literals
  | _ => exact leaf

theorem LikeAll.literals {xs ys : List Value} (h : LikeAll s xs ys) :
    Id.run (Value.renderAll (fun v => pure v.leafText) xs) = Id.run (Value.renderAll (fun v => pure v.leafText) ys) := by
  cases h with
  | nil => rfl
  | cons h r => exact congrArg₂ List.cons h.literal r.literals

theorem LikeEntries.literals {es fs : List (Value × Value)} (h : LikeEntries s es fs) :
    Id.run (Value.renderEntries (fun v => pure v.leafText) es) =
      Id.run (Value.renderEntries (fun v => pure v.leafText) fs) := by
  cases h with
  | nil => rfl
  | cons hk hv r =>
    exact congrArg₂ List.cons (congrArg₂ (fun k v => k ++ ": " ++ v) hk.literal hv.literal) r.literals

end

end Lineage
