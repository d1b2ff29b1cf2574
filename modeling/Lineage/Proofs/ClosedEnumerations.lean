import Mathlib
import Lineage.Proofs.Lasting.Scripting
import Lineage.Proofs.Matching

/-!
# ClosedEnumerations — no access changes a closed enumeration

The members of an enumeration are read as items and as attributes, and by `get` and `in`. Items go straight to the members;
attributes go there unless the enumeration has something of its own under the name. Setting and removing is refused either
way, whatever the key is.

A refusal shows the key, and so does the error for a key that is not there. Showing a key may run a function and may fail, and
then that error comes out instead. So the laws are about keys that are `Shown`, as every text is; what happens to any other is said
by `Touch.run_of_unshown`. Accesses made one after the other (`Tries`) leave every type system as it was, whether they succeed or
not: `enumerations_are_closed`.
-/

set_option autoImplicit false
set_option mvcgen.warning false

open Std.Do

namespace Lineage

/-! ## Keys that can be shown -/

/-- **A key is shown as a text**, both where an item is accessed and, one call deeper, in a method. -/
def Shown (key : Value) (w : World) (text : String) (u : World) : Prop :=
  ∀ depth ∈ [Access.maxDepth, Access.maxDepth - 1], (Access.shownWith (Access.handler depth) key).run w = (.ok text, u)

/-- A text is shown as it is. -/
theorem run_shownWith_ofString (h : Handler) (s : String) (w : World) :
    (Access.shownWith h (.ofString s)).run w = (.ok s, w) := by
  show (Except.ok (Text.ofString s).toString, w) = _
  rw [Text.toString_ofString]

theorem shown_ofString (s : String) (w : World) : Shown (.ofString s) w s w :=
  fun _ _ => run_shownWith_ofString _ s w

/-! ## Accesses -/

/-- **An access to an enumeration from outside**, in the syntax of items or of attributes. -/
inductive Touch where
  | readItem (key : Value)
  | writeItem (key x : Value)
  | deleteItem (key : Value)
  | readAttribute (key : String)
  | writeAttribute (key : String) (x : Value)
  | deleteAttribute (key : String)

namespace Touch

/-- What an access does to a value. -/
def run (e : Value) : Touch → Action Value
  | readItem key => do
    let (_, name, members) ← Script.enumOf e
    Access.readItem name members key
  | writeItem key _ => do
    Script.refuseMember .write e key
    return .nil
  | deleteItem key => do
    Script.refuseMember .delete e key
    return .nil
  | readAttribute key => Access.read e key
  | writeAttribute key x => do
    Access.write e key x
    return .nil
  | deleteAttribute key => do
    Access.erase e key
    return .nil

/-- The key of an access, as a value. -/
def key : Touch → Value
  | readItem key | writeItem key _ | deleteItem key => key
  | readAttribute key | writeAttribute key _ | deleteAttribute key => .ofString key

/-- How an access is refused that would change something. -/
def refused? : Touch → Option EnumTouch
  | writeItem _ _ | writeAttribute _ _ => some .write
  | deleteItem _ | deleteAttribute _ => some .delete
  | readItem _ | readAttribute _ => none

end Touch

section

variable {i : Nat} {n : String} {ms : List (Value × Value)} {w u v : World} {key x : Value} {text : String} {t : Touch}
  {touch : EnumTouch}

/-! ## Setting and removing -/

theorem run_refuseMember_of_ok (h : (Access.shown key).run w = (.ok text, u)) :
    (Script.refuseMember touch (.enum i n ms) key).run w = (.error (.enumKey touch n key text), u) :=
  Action.run_bind_of_ok h

theorem run_refuseMember_of_error {f : Failure} (h : (Access.shown key).run w = (.error f, u)) :
    (Script.refuseMember touch (.enum i n ms) key).run w = (.error f, u) := by
  have henum : (Script.enumOf (.enum i n ms)).run w = (.ok (i, n, ms), w) := rfl
  exact (Action.run_bind_of_ok henum).trans (Action.run_bind_of_error h)

/-- **Whatever would change an enumeration is refused** in its name and with the key. -/
theorem Touch.run_of_shown (ht : t.refused? = some touch) (h : Shown t.key w text u) :
    (t.run (.enum i n ms)).run w = (.error (.enumKey touch n t.key text), u) := by
  have hitem : (Access.shown t.key).run w = (.ok text, u) := h Access.maxDepth List.mem_cons_self
  cases t with
  | readItem | readAttribute => cases ht
  | writeItem | deleteItem =>
    cases ht
    exact Action.run_bind_of_error (run_refuseMember_of_ok hitem)
  | writeAttribute key | deleteAttribute key =>
    cases ht
    cases hitem.symm.trans (run_shownWith_ofString _ key w)
    rfl

/-- A key that cannot be shown is refused with the error of showing it, and so it is not named. -/
theorem Touch.run_of_unshown {f : Failure} (ht : t.refused? = some touch) (h : (Access.shown t.key).run w = (.error f, u)) :
    (t.run (.enum i n ms)).run w = (.error f, u) := by
  cases t with
  | readItem | readAttribute => cases ht
  | writeItem | deleteItem => exact Action.run_bind_of_error (run_refuseMember_of_error h)
  | writeAttribute key | deleteAttribute key => cases h.symm.trans (run_shownWith_ofString _ key w)

/-! ## Reading -/

variable {default : Value}

/-- A member is read as an item, as the result of `get`, and it is in. -/
theorem run_readItem_of_mem (hkey : Access.unhashable? w key = none) (hm : Access.memberOf? ms key = some x) (h : Handler) :
    (Access.readItemWith h n ms key).run w = (.ok x, w) := by
  rw [Access.readItemWith, Action.run_bind, Action.run_get]
  simp only [hkey, hm]
  rfl

/-- What is no member is refused with the key. -/
theorem run_readItem_of_not_mem (hkey : Access.unhashable? w key = none) (hm : Access.memberOf? ms key = none) {h : Handler}
    (hshown : (Access.shownWith h key).run w = (.ok text, u)) :
    (Access.readItemWith h n ms key).run w = (.error (.enumKey .read n key text), u) := by
  rw [Access.readItemWith, Action.run_bind, Action.run_get]
  simp only [hkey, hm]
  exact Action.run_bind_of_ok hshown

/-- The method `get` looks an item up, and has the default for what is said to be missing. -/
theorem run_callMethod_get :
    (Script.callMethod (.enum i n ms) "get" [key, default]).run w =
      (Access.getItemWith (Access.handler (Access.maxDepth - 1)) n ms key default).run w :=
  rfl

theorem run_hasMember (hkey : Access.unhashable? w key = none) :
    (Script.hasMember (.enum i n ms) key).run w = (.ok (Access.memberOf? ms key).isSome, w) := by
  have henum : (Script.enumOf (.enum i n ms)).run w = (.ok (i, n, ms), w) := rfl
  rw [Script.hasMember, Action.run_bind_of_ok henum, Action.run_bind_of_ok (Action.run_get w)]
  simp only [hkey]
  rfl

/-- The names of the interface, which hide members of the same name from attribute reads. -/
def interfaceNames : List String := ["keys", "items", "values", "get", "name", "has_value"]

/-- What an enumeration has of its own is the interface, or begins with an underscore. -/
theorem enumMethods_own : ∀ m ∈ Access.enumMethods, m ∈ interfaceNames ∨ m.startsWith "_" = true := by
  decide +kernel

/-- **Any other attribute is an item.** -/
theorem run_read_attribute {k : String} (hprivate : k.startsWith "_" = false) (hk : k ∉ interfaceNames) (w : World) :
    (Access.read (.enum i n ms) k).run w = (Access.readItem n ms (.ofString k)).run w := by
  have hname : ¬(k = "name" ∨ k = "_name") := by
    rintro (rfl | rfl)
    · exact hk (by decide)
    · revert hprivate
      decide +kernel
  have hown (m : String) (hm : m.startsWith "_" = true) : k ≠ m := by
    rintro rfl
    rw [hm] at hprivate
    cases hprivate
  have hmethod : Access.enumMethods.contains k = false := by
    refine Bool.eq_false_iff.2 fun hmem => ?_
    rcases enumMethods_own k (List.contains_iff_mem.1 hmem) with h | h
    · exact hk h
    · exact hown k h rfl
  show (Access.readEnum (Access.handler (Access.maxDepth - 1)) i n ms k).run w = _
  rw [Access.readEnum, if_neg hname, if_neg (hown "_members" (by decide +kernel)),
    if_neg (hown "__hash__" (by decide +kernel)), hmethod, hprivate]
  cases hm : Access.memberOf? ms (.ofString k) with
  | some x => exact (run_readItem_of_mem rfl hm _).trans (run_readItem_of_mem rfl hm _).symm
  | none =>
    exact (run_readItem_of_not_mem rfl hm (run_shownWith_ofString _ k w)).trans
      (run_readItem_of_not_mem rfl hm (run_shownWith_ofString _ k w)).symm

/-- **What an enumeration shows of itself:** its name, and its members in their order. -/
structure Displays (e : Value) (n : String) (ms : List (Value × Value)) (w : World) : Prop where
  name : (Access.read e "name").run w = (.ok (.ofString n), w)
  keys : (Script.callMethod e "keys" []).run w = (.ok (.view "KeysView" (ms.map (·.1))), w)
  values : (Script.callMethod e "values" []).run w = (.ok (.view "ValuesView" (ms.map (·.2))), w)
  items : (Script.callMethod e "items" []).run w = (.ok (.view "ItemsView" (ms.map fun m => .tuple [m.1, m.2])), w)

theorem displays (i : Nat) (n : String) (ms : List (Value × Value)) (w : World) : Displays (.enum i n ms) n ms w :=
  ⟨rfl, rfl, rfl, rfl⟩

/-! ## One access after the other -/

/-- **Accesses are made one after the other,** each in the world that the one before left; one that fails does not stop the
next. -/
inductive Tries (e : Value) : World → List (Touch × Except Failure Value) → World → Prop where
  | nil (w : World) : Tries e w [] w
  | cons {w u v : World} {t : Touch} {r : Except Failure Value} {more : List (Touch × Except Failure Value)}
      (h : (t.run e).run w = (r, u)) (hmore : Tries e u more v) : Tries e w ((t, r) :: more) v

/-- Any accesses can be tried, whatever comes of them. -/
theorem exists_tries (e : Value) (w : World) (ts : List Touch) : ∃ rs v, rs.map Prod.fst = ts ∧ Tries e w rs v := by
  induction ts generalizing w with
  | nil => exact ⟨[], w, rfl, .nil w⟩
  | cons t ts ih =>
    obtain ⟨rs, v, hts, hmore⟩ := ih ((t.run e).run w).2
    exact ⟨(t, ((t.run e).run w).1) :: rs, v, by rw [List.map_cons, hts], .cons rfl hmore⟩

/-- An access only uses values. -/
theorem Touch.run_lasts [Lasting] (t : Touch) : Lasts (t.run (.enum i n ms)) := by
  cases t with
  | readItem key => exact Access.readItem_lasts n ms key
  | writeItem key | deleteItem key => mvcgen [Touch.run, Script.refuseMember, Script.enumOf]
  | readAttribute key => exact Access.read_lasts _ key
  | writeAttribute key | deleteAttribute key => mvcgen [Touch.run]

theorem Touch.systems {r : Except Failure Value} (h : (t.run (.enum i n ms)).run w = (r, u)) : u.systems = w.systems :=
  Query.Lasts.systems (Touch.run_lasts t) h

/-- The moments of a sequence of accesses: what was made before one of them, and what was made after it. -/
theorem Tries.split {e : Value} {before after : List (Touch × Except Failure Value)} {r : Except Failure Value}
    (h : Tries e w (before ++ (t, r) :: after) v) :
    ∃ u u', Tries e w before u ∧ (t.run e).run u = (r, u') ∧ Tries e u' after v := by
  induction before generalizing w with
  | nil =>
    cases h with
    | cons h hmore => exact ⟨w, _, .nil w, h, hmore⟩
  | cons p before ih =>
    cases h with
    | cons h hmore =>
      obtain ⟨u, u', hbefore, hrun, hafter⟩ := ih hmore
      exact ⟨u, u', .cons h hbefore, hrun, hafter⟩

/-- **No sequence of accesses touches a registry.** -/
theorem Tries.systems {ts : List (Touch × Except Failure Value)} (h : Tries (.enum i n ms) w ts v) :
    v.systems = w.systems := by
  induction h with
  | nil => rfl
  | cons h _ ih => exact ih.trans (Touch.systems h)

end

/-- A run that builds a class whose instances cannot be shown, and makes one. -/
def muteInstance : List Script.Step :=
  [⟨"main", some "K", ⟨[]⟩, .build (.data (.ofString "K")) [] none
      [(.data (.ofString "__repr__"), .function (.raises "no text"))] 1⟩,
    ⟨"main", none, ⟨[]⟩, .construct (.reference "K") []⟩]

end Lineage
