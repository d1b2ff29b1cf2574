import Mathlib
import Lineage.Proofs.Action
import Lineage.Proofs.Lasting

/-!
# Matching — which alternative a value satisfies, and whom it takes to know

An expression is searched from left to right. `Judged` says how one alternative is decided: by the native category, else by
the value's own `type_of` if it has one that can be called, else by the registry; and which call that takes. The
judgements are made one after the other, each in the world that the one before it left, so `Tried` threads worlds and
collects calls. `match_is_leftmost` says that the search answers with the leftmost alternative that is judged positively,
asks about no later one, and passes on an error as it comes.
-/

set_option autoImplicit false

namespace Lineage.Query

/-! ## The capability of a value -/

/-- A value has a capability: it is composite, and what it has under the key can be called. -/
def Offers (v : Value) (key : String) (w : World) (f : Value) (u : World) : Prop :=
  v.isComposite = true ∧ (Access.read v key).run w = (.ok f, u) ∧ Access.isCallable u f = true

/-- A value lacks a capability: it is not composite, or what it has under the key cannot be called, or nothing is there. -/
def Lacks (v : Value) (key : String) (w u : World) : Prop :=
  v.isComposite = false ∧ u = w ∨
    v.isComposite = true ∧ ((∃ f, (Access.read v key).run w = (.ok f, u) ∧ Access.isCallable u f = false) ∨
      ∃ e, (Access.read v key).run w = (.error e, u) ∧ e.kind.isA .member = true)

/-- Reading the capability raises something else than that it is not there. -/
def Withholds (v : Value) (key : String) (w : World) (e : Failure) (u : World) : Prop :=
  v.isComposite = true ∧ (Access.read v key).run w = (.error e, u) ∧ e.kind.isA .member = false

variable {v : Value} {key : String} {w u : World}

theorem run_read?_of_ok {f : Value} (h : (Access.read v key).run w = (.ok f, u)) :
    (Access.read? v key).run w = (.ok (some f), u) := by
  rw [Access.read?, Action.run_tryCatch, Action.run_map, h]
  rfl

/-- Not being there is the one failure that reading an attribute that may be missing takes in. -/
theorem run_read?_of_error {e : Failure} (h : (Access.read v key).run w = (.error e, u)) :
    (Access.read? v key).run w = (if e.kind.isA .member then .ok none else .error e, u) := by
  rw [Access.read?, Action.run_tryCatch, Action.run_map, h]
  simp only [Except.map]
  cases e.kind.isA .member <;> rfl

/-- A composite value has the capability that is read from it, if that can be called. -/
theorem run_capability? (hcomp : v.isComposite = true) {r : Except Failure (Option Value)}
    (h : (Access.read? v key).run w = (r, u)) :
    (capability? v key).run w = (r.map (Option.filter (Access.isCallable u)), u) := by
  simp only [capability?, hcomp, Bool.not_true, Bool.false_eq_true, if_false]
  rcases r with e | (_ | f)
  · exact Action.run_bind_of_error h
  · exact Action.run_bind_of_ok h
  · rw [Action.run_bind_of_ok h, Action.run_bind, Action.run_get]
    simp only [Except.map, Option.filter_some]
    rfl

theorem Offers.run {f : Value} (h : Offers v key w f u) : (capability? v key).run w = (.ok (some f), u) := by
  obtain ⟨hcomp, hread, hcall⟩ := h
  rw [run_capability? hcomp (run_read?_of_ok hread), Except.map, Option.filter_some, if_pos hcall]

theorem Lacks.run (h : Lacks v key w u) : (capability? v key).run w = (.ok none, u) := by
  rcases h with ⟨hcomp, rfl⟩ | ⟨hcomp, ⟨f, hread, hcall⟩ | ⟨e, hread, hmember⟩⟩
  · simp only [capability?, hcomp, Bool.not_false, if_true]
    rfl
  · rw [run_capability? hcomp (run_read?_of_ok hread), Except.map, Option.filter_some, hcall]
    rfl
  · rw [run_capability? hcomp (run_read?_of_error hread), if_pos hmember]
    rfl

theorem Withholds.run {e : Failure} (h : Withholds v key w e u) : (capability? v key).run w = (.error e, u) := by
  obtain ⟨hcomp, hread, hmember⟩ := h
  rw [run_capability? hcomp (run_read?_of_error hread), hmember]
  rfl

/-- A value offers a capability, lacks it, or withholds it. -/
theorem offers_or_lacks_or_withholds (v : Value) (key : String) (w : World) :
    (∃ f u, Offers v key w f u) ∨ (∃ u, Lacks v key w u) ∨ ∃ e u, Withholds v key w e u := by
  cases hcomp : v.isComposite with
  | false => exact .inr (.inl ⟨w, .inl ⟨hcomp, rfl⟩⟩)
  | true =>
    cases hread : (Access.read v key).run w with
    | mk r u =>
      cases r with
      | ok f =>
        cases hcall : Access.isCallable u f with
        | true => exact .inl ⟨f, u, hcomp, hread, hcall⟩
        | false => exact .inr (.inl ⟨u, .inr ⟨hcomp, .inl ⟨f, hread, hcall⟩⟩⟩)
      | error e =>
        cases hmember : e.kind.isA .member with
        | true => exact .inr (.inl ⟨u, .inr ⟨hcomp, .inr ⟨e, hread, hmember⟩⟩⟩)
        | false => exact .inr (.inr ⟨e, u, hcomp, hread, hmember⟩)

/-! ## Type systems are left alone -/

/-- No use of a value changes what the type systems are. -/
abbrev keepsSystems (systems : List (String × System)) : Lasting where
  holds := fun w => w.systems = systems
  use := fun h hw => by
    cases h with
    | made | assigned | erased => exact (World.commit_systems _ _).trans hw
    | foreignAttributes | cells | asked => exact hw

theorem Lasts.systems {α : Type} {a : Action α} (ha : ∀ [Lasting], Lasts a) {w u : World} {r : Except Failure α}
    (h : a.run w = (r, u)) : u.systems = w.systems :=
  let _ := keepsSystems w.systems
  ha.run_eq h rfl

theorem Offers.systems {f : Value} (h : Offers v key w f u) : u.systems = w.systems :=
  Lasts.systems (capability?_lasts v key) h.run

theorem Lacks.systems (h : Lacks v key w u) : u.systems = w.systems := Lasts.systems (capability?_lasts v key) h.run

theorem Withholds.systems {e : Failure} (h : Withholds v key w e u) : u.systems = w.systems :=
  Lasts.systems (capability?_lasts v key) h.run

/-! ## One alternative -/

/-- An enumeration is registered under the name, and has a member of the native category of the value that equals it. -/
def Registered (enums : List (String × Value)) (w : World) (name : String) (v : Value) : Prop :=
  ∃ i n ms, Fields.get? enums name = some (.enum i n ms) ∧
    ∃ m ∈ ms, m.2.category = v.category ∧ (w.read m.2).equal (w.read v) = true

theorem registryHas_iff {enums : List (String × Value)} {w : World} {name : String} {v : Value} :
    registryHas w enums name v = true ↔ Registered enums w name v := by
  unfold registryHas Registered
  cases Fields.get? enums name with
  | none =>
    refine ⟨fun h => (nomatch h), ?_⟩
    rintro ⟨_, _, _, h, _⟩
    cases h
  | some e =>
    cases e with
    | enum i n ms =>
      rw [Option.elim_some, hasValue, List.any_eq_true]
      constructor
      · rintro ⟨m, hm, hv⟩
        obtain ⟨hcategory, hequal⟩ := Bool.and_eq_true_iff.1 hv
        exact ⟨i, n, ms, rfl, m, hm, of_decide_eq_true hcategory, hequal⟩
      · rintro ⟨_, _, _, heq, m, hm, hcategory, hequal⟩
        cases heq
        exact ⟨m, hm, Bool.and_eq_true_iff.2 ⟨decide_eq_true hcategory, hequal⟩⟩
    | _ =>
      refine ⟨fun h => absurd h Bool.false_ne_true, ?_⟩
      rintro ⟨_, _, _, h, _⟩
      cases h

/-- **How one alternative is judged,** with the names that the value's own `type_of` is called with for it. -/
inductive Judged (enums : List (String × Value)) (v : Value) (w : World) (a : String) :
    List String → Except Failure Bool → World → Prop where
  /-- The native category decides first. -/
  | category (h : v.category.name = a) : Judged enums v w a [] (.ok true) w
  /-- The value's own answer is final: it is asked once, and the registry is not looked at. -/
  | asked {f : Value} {u u' : World} {r : Except Failure Value} (hne : v.category.name ≠ a)
      (h : Offers v "type_of" w f u) (hcall : (Access.call f [.ofString a]).run u = (r, u')) :
      Judged enums v w a [a] (r.map fun x => (u'.read x).isTruthy) u'
  /-- The registry decides for values that cannot be asked. -/
  | registered {u : World} {b : Bool} (hne : v.category.name ≠ a) (h : Lacks v "type_of" w u)
      (hb : b = true ↔ Registered enums u a v) : Judged enums v w a [] (.ok b) u
  /-- An error met in reading the capability passes on. -/
  | withheld {e : Failure} {u : World} (hne : v.category.name ≠ a) (h : Withholds v "type_of" w e u) :
      Judged enums v w a [] (.error e) u

variable {enums : List (String × Value)}

/-- Testing one alternative is judging it. -/
theorem satisfies_judged {sys : String} {s : System} {w : World} (hs : w.system? sys = some s) (v : Value) (a : String) :
    ∃ calls r u, Judged s.enums v w a calls r u ∧ (satisfies sys v a).run w = (r, u) := by
  unfold satisfies
  by_cases ha : v.category.name = a
  · rw [if_pos ha]
    exact ⟨[], _, w, .category ha, rfl⟩
  · rw [if_neg ha]
    rcases offers_or_lacks_or_withholds v "type_of" w with ⟨f, u, h⟩ | ⟨u, h⟩ | ⟨e, u, h⟩
    · cases hcall : (Access.call f [.ofString a]).run u with
      | mk r u' =>
        refine ⟨[a], _, u', .asked ha h hcall, ?_⟩
        rw [Action.run_bind_of_ok h.run]
        cases r with
        | ok x => exact Action.run_bind_of_ok hcall
        | error e => exact Action.run_bind_of_error hcall
    · have hs' : u.system? sys = some s := by rw [World.system?, h.systems]; exact hs
      refine ⟨[], .ok (registryHas u s.enums a v), u, .registered ha h registryHas_iff, ?_⟩
      rw [Action.run_bind_of_ok h.run]
      exact Action.run_bind_of_ok (run_system hs')
    · exact ⟨[], _, u, .withheld ha h, Action.run_bind_of_error h.run⟩

/-- A judgement has one outcome. -/
theorem Judged.unique {a : String} {calls calls' : List String} {r r' : Except Failure Bool} {u' : World}
    (h : Judged enums v w a calls r u) (h' : Judged enums v w a calls' r' u') : calls = calls' ∧ r = r' ∧ u = u' := by
  cases h with
  | category h =>
    cases h' with
    | category => exact ⟨rfl, rfl, rfl⟩
    | asked hne | registered hne | withheld hne => exact absurd h hne
  | asked hne h hcall =>
    cases h' with
    | category h => exact absurd h hne
    | asked _ h' hcall' =>
      cases h.run.symm.trans h'.run
      cases hcall.symm.trans hcall'
      exact ⟨rfl, rfl, rfl⟩
    | registered _ h' => cases h.run.symm.trans h'.run
    | withheld _ h' => cases h.run.symm.trans h'.run
  | registered hne h hb =>
    cases h' with
    | category h => exact absurd h hne
    | asked _ h' => cases h.run.symm.trans h'.run
    | registered _ h' hb' =>
      cases h.run.symm.trans h'.run
      exact ⟨rfl, congrArg _ (Bool.eq_iff_iff.2 (hb.trans hb'.symm)), rfl⟩
    | withheld _ h' => cases h.run.symm.trans h'.run
  | withheld hne h =>
    cases h' with
    | category h => exact absurd h hne
    | asked _ h' => cases h.run.symm.trans h'.run
    | registered _ h' => cases h.run.symm.trans h'.run
    | withheld _ h' =>
      cases h.run.symm.trans h'.run
      exact ⟨rfl, rfl, rfl⟩

/-! ## One alternative after the other -/

/-- **Alternatives are tried in turn,** each in the world that the one before it left, and judged negatively; the names that
the value is asked about are collected. -/
inductive Tried (enums : List (String × Value)) (v : Value) : World → List String → List String → World → Prop where
  | nil (w : World) : Tried enums v w [] [] w
  | cons {w u u' : World} {a : String} {as calls more : List String} (h : Judged enums v w a calls (.ok false) u)
      (hr : Tried enums v u as more u') : Tried enums v w (a :: as) (calls ++ more) u'

theorem Judged.systems {a : String} {calls : List String} {r : Except Failure Bool}
    (h : Judged enums v w a calls r u) : u.systems = w.systems := by
  cases h with
  | category => rfl
  | asked _ h hcall => exact (Lasts.systems (Access.call_lasts _ _) hcall).trans h.systems
  | registered _ h => exact h.systems
  | withheld _ h => exact h.systems

/-- **How a search goes:** after the alternatives that are judged negatively there is no other, or the next one is judged
positively, or judging the next one fails; it looks at these alternatives only. -/
inductive Searched (enums : List (String × Value)) (v : Value) (w : World) (as : List String) :
    List String → List String → Except Failure (Option String) → World → Prop where
  | nowhere {calls : List String} {u : World} (h : Tried enums v w as calls u) :
      Searched enums v w as as calls (.ok none) u
  | found {before after calls last : List String} {a : String} {u u' : World} (has : as = before ++ a :: after)
      (h : Tried enums v w before calls u) (hlast : Judged enums v u a last (.ok true) u') :
      Searched enums v w as (before ++ [a]) (calls ++ last) (.ok (some a)) u'
  | failed {before after calls last : List String} {a : String} {e : Failure} {u u' : World}
      (has : as = before ++ a :: after) (h : Tried enums v w before calls u)
      (hlast : Judged enums v u a last (.error e) u') :
      Searched enums v w as (before ++ [a]) (calls ++ last) (.error e) u'

/-! ## Searching is trying -/

variable {sys : String} {s : System}

theorem Judged.run (hs : w.system? sys = some s) {a : String} {calls : List String} {r : Except Failure Bool}
    (h : Judged s.enums v w a calls r u) : (satisfies sys v a).run w = (r, u) := by
  obtain ⟨calls', r', u', h', hrun⟩ := satisfies_judged hs v a
  obtain ⟨-, rfl, rfl⟩ := h.unique h'
  exact hrun

/-- Alternatives that are judged negatively are passed over. -/
theorem Tried.run {before calls : List String} (h : Tried s.enums v w before calls u) (hs : w.system? sys = some s)
    (rest : List String) :
    (firstSatisfied sys v (before ++ rest)).run w = (firstSatisfied sys v rest).run u ∧ u.system? sys = some s := by
  induction h with
  | nil => exact ⟨rfl, hs⟩
  | cons hjudged _ ih =>
    have hs' := hs
    rw [World.system?, ← hjudged.systems] at hs'
    obtain ⟨hrest, hlast⟩ := ih hs'
    exact ⟨(Action.run_bind_of_ok (hjudged.run hs)).trans hrest, hlast⟩

theorem Searched.run (hs : w.system? sys = some s) {as looked calls : List String}
    {r : Except Failure (Option String)} (h : Searched s.enums v w as looked calls r u) :
    (firstSatisfied sys v as).run w = (r, u) := by
  cases h with
  | nowhere h =>
    have hrun := (h.run hs []).1
    rw [List.append_nil] at hrun
    exact hrun
  | @found _ after _ _ _ _ _ has h hlast =>
    obtain ⟨hrun, hs'⟩ := h.run hs (_ :: after)
    rw [has, hrun]
    exact Action.run_bind_of_ok (hlast.run hs')
  | @failed _ after _ _ _ _ _ _ has h hlast =>
    obtain ⟨hrun, hs'⟩ := h.run hs (_ :: after)
    rw [has, hrun]
    exact Action.run_bind_of_error (hlast.run hs')

theorem firstSatisfied_searched (v : Value) (as : List String) {w : World} (hs : w.system? sys = some s) :
    ∃ looked calls r u, Searched s.enums v w as looked calls r u := by
  induction as generalizing w with
  | nil => exact ⟨[], [], .ok none, w, .nowhere (.nil w)⟩
  | cons a as ih =>
    obtain ⟨calls, r, u, hjudged, hrun⟩ := satisfies_judged hs v a
    rcases r with e | (_ | _)
    · exact ⟨_, _, _, u, .failed (List.nil_append _).symm (.nil w) hjudged⟩
    · have hs' : u.system? sys = some s := by rw [World.system?, hjudged.systems]; exact hs
      obtain ⟨looked, more, r, u', hsearched⟩ := ih hs'
      cases hsearched with
      | nowhere h => exact ⟨_, _, _, u', .nowhere (.cons hjudged h)⟩
      | found has h hlast => exact ⟨_, _, _, u', .found (congrArg (a :: ·) has) (.cons hjudged h) hlast⟩
      | failed has h hlast => exact ⟨_, _, _, u', .failed (congrArg (a :: ·) has) (.cons hjudged h) hlast⟩
    · exact ⟨_, _, _, u, .found (List.nil_append _).symm (.nil w) hjudged⟩

/-! ## Calls -/

/-- A judgement takes at most one call, and none for the native category. -/
theorem Judged.calls_sublist {a : String} {calls : List String} {r : Except Failure Bool}
    (h : Judged enums v w a calls r u) : calls.Sublist ([a].filter (· ≠ v.category.name)) := by
  cases h with
  | asked hne =>
    rw [List.filter_singleton, decide_eq_true (Ne.symm hne)]
    exact List.Sublist.refl _
  | _ => exact List.nil_sublist _

/-- A value that can be asked is asked once, unless its native category decides. -/
theorem Judged.calls_eq {a : String} {calls : List String} {r : Except Failure Bool}
    (h : Judged enums v w a calls r u) (hoffers : ∃ f u', Offers v "type_of" w f u') :
    calls = [a].filter (· ≠ v.category.name) := by
  obtain ⟨f, u', ho⟩ := hoffers
  cases h with
  | category h =>
    rw [List.filter_singleton, decide_eq_false (fun hne => hne h.symm)]
    rfl
  | asked hne =>
    rw [List.filter_singleton, decide_eq_true (Ne.symm hne)]
    rfl
  | registered _ h => cases ho.run.symm.trans h.run
  | withheld _ h => cases ho.run.symm.trans h.run

theorem Tried.calls_sublist {before calls : List String} (h : Tried enums v w before calls u) :
    calls.Sublist (before.filter (· ≠ v.category.name)) := by
  induction h with
  | nil => exact List.Sublist.refl _
  | @cons _ _ _ a as _ _ hjudged _ ih =>
    rw [← List.singleton_append, List.filter_append]
    exact hjudged.calls_sublist.append ih

theorem Tried.calls_eq {before calls : List String} (h : Tried enums v w before calls u)
    (hoffers : ∀ before calls u, Tried enums v w before calls u → ∃ f u', Offers v "type_of" u f u') :
    calls = before.filter (· ≠ v.category.name) := by
  induction h with
  | nil => rfl
  | @cons w _ _ a as _ _ hjudged _ ih =>
    rw [← List.singleton_append (l := as), List.filter_append, hjudged.calls_eq (hoffers [] [] w (.nil w)),
      ih fun before calls u h => hoffers _ _ u (.cons hjudged h)]

theorem Searched.looked_prefix {as looked calls : List String} {r : Except Failure (Option String)}
    (h : Searched enums v w as looked calls r u) : looked <+: as := by
  cases h with
  | nowhere => exact List.prefix_refl _
  | found has | failed has =>
    rw [has]
    exact ⟨_, List.append_assoc _ _ _⟩

theorem Searched.calls_sublist {as looked calls : List String} {r : Except Failure (Option String)}
    (h : Searched enums v w as looked calls r u) : calls.Sublist (looked.filter (· ≠ v.category.name)) := by
  cases h with
  | nowhere h => exact h.calls_sublist
  | found _ h hlast | failed _ h hlast =>
    rw [List.filter_append]
    exact h.calls_sublist.append hlast.calls_sublist

theorem Searched.calls_eq {as looked calls : List String} {r : Except Failure (Option String)}
    (h : Searched enums v w as looked calls r u)
    (hoffers : ∀ before calls u, Tried enums v w before calls u → ∃ f u', Offers v "type_of" u f u') :
    calls = looked.filter (· ≠ v.category.name) := by
  cases h with
  | nowhere h => exact h.calls_eq hoffers
  | found _ h hlast | failed _ h hlast =>
    rw [List.filter_append, h.calls_eq hoffers, hlast.calls_eq (hoffers _ _ _ h)]

/-! ## Outside objects that keep a record -/

/-- An outside object whose own `type_of` says yes to certain names. -/
def KnowsNames (w : World) (i : Nat) (accepted : List Value) : Prop :=
  ∃ r, w.foreigns[i]? = some r ∧ r.typeOf = .names accepted ∧ Fields.get? r.attributes "type_of" = none

/-- The world after an outside object has been asked about names. -/
def afterAsking (w : World) (i : Nat) (names : List String) : World :=
  { w with asked := w.asked ++ names.map fun a => (i, .ofString a) }

theorem afterAsking_nil (w : World) (i : Nat) : afterAsking w i [] = w := by
  rw [afterAsking, List.map_nil, List.append_nil]

theorem afterAsking_append (w : World) (i : Nat) (names more : List String) :
    afterAsking (afterAsking w i names) i more = afterAsking w i (names ++ more) := by
  simp only [afterAsking, List.map_append, List.append_assoc]

section Outside

variable {i : Nat} {base : ForeignBase} {verdict : Option Bool} {accepted : List Value}

theorem KnowsNames.offers (h : KnowsNames w i accepted) (hcomp : (Value.foreign i base verdict).isComposite = true) :
    Offers (.foreign i base verdict) "type_of" w (.method (.foreign i base verdict) (.inr "type_of")) w := by
  obtain ⟨r, hr, htype, hown⟩ := h
  refine ⟨hcomp, ?_, rfl⟩
  show (Access.readForeign (.foreign i base verdict) i "type_of").run w = _
  simp only [Access.readForeign, Action.run_bind, Action.run_get, hr, hown, htype]
  rfl

/-- Asked about a name, it says whether it knows it. -/
theorem KnowsNames.call (h : KnowsNames w i accepted) (base : ForeignBase) (verdict : Option Bool) (a : String) :
    (Access.call (.method (.foreign i base verdict) (.inr "type_of")) [.ofString a]).run w =
      (.ok (.bool (accepted.any fun n => (w.read n).equalInside (w.read (.ofString a)))), afterAsking w i [a]) := by
  obtain ⟨r, hr, htype, -⟩ := h
  have hcall : (Access.call (.method (.foreign i base verdict) (.inr "type_of")) [.ofString a]).run w =
      (Access.callForeign i "type_of" [.ofString a]).run w := rfl
  rw [hcall]
  simp only [Access.callForeign, Action.run_bind, Action.run_get, hr, htype]
  rfl

theorem Judged.afterAsking (h : KnowsNames w i accepted) (hcomp : (Value.foreign i base verdict).isComposite = true)
    {a : String} {calls : List String} {r : Except Failure Bool}
    (hj : Judged enums (.foreign i base verdict) w a calls r u) : u = afterAsking w i calls := by
  cases hj with
  | category => exact (afterAsking_nil w i).symm
  | asked _ ho hcall =>
    cases ho.run.symm.trans (h.offers hcomp).run
    exact (Prod.mk.inj (hcall.symm.trans (h.call base verdict a))).2
  | registered _ hl => cases hl.run.symm.trans (h.offers hcomp).run
  | withheld _ hw => cases hw.run.symm.trans (h.offers hcomp).run

theorem Tried.afterAsking {before calls : List String} (ht : Tried enums (.foreign i base verdict) w before calls u)
    (h : KnowsNames w i accepted) (hcomp : (Value.foreign i base verdict).isComposite = true) :
    u = afterAsking w i calls := by
  induction ht with
  | nil => exact (afterAsking_nil _ i).symm
  | cons hj _ ih =>
    have hu := hj.afterAsking h hcomp
    rw [ih (by rw [hu]; exact h), hu, afterAsking_append]

/-- **The record of an outside object shows the search:** one question for each alternative that was looked at, in their
order, the native category left out. -/
theorem Searched.afterAsking {as looked calls : List String} {r : Except Failure (Option String)}
    (hs : Searched enums (.foreign i base verdict) w as looked calls r u) (h : KnowsNames w i accepted)
    (hcomp : (Value.foreign i base verdict).isComposite = true) :
    u = afterAsking w i (looked.filter (· ≠ (Value.foreign i base verdict).category.name)) := by
  have hknows {before calls : List String} {u : World} (ht : Tried enums (.foreign i base verdict) w before calls u) :
      KnowsNames u i accepted := by
    rw [ht.afterAsking h hcomp]
    exact h
  rw [← hs.calls_eq fun before calls u ht => ⟨_, _, (hknows ht).offers hcomp⟩]
  cases hs with
  | nowhere ht => exact ht.afterAsking h hcomp
  | found _ ht hlast | failed _ ht hlast =>
    rw [hlast.afterAsking (hknows ht) hcomp, ht.afterAsking h hcomp, afterAsking_append]

end Outside

/-! ## Expressions -/

theorem run_findMatch (hs : w.system? sys = some s) {expression : Value} {e : String}
    (he : expression.string? = some e) (v : Value) :
    (findMatch sys v expression).run w = (firstSatisfied sys v (Union.alternatives s.delimiter e)).run w := by
  simp only [findMatch, he]
  exact Action.run_bind_of_ok (run_system hs)

/-! ## Answers that touch nothing -/

/-- Alternatives that can be judged without touching the world are searched without touching it. -/
theorem run_firstSatisfied {p : String → Bool} (h : ∀ a, (satisfies sys v a).run w = (.ok (p a), w)) (as : List String) :
    (firstSatisfied sys v as).run w = (.ok (as.find? p), w) := by
  induction as with
  | nil => rfl
  | cons a as ih =>
    rw [firstSatisfied, Action.run_bind_of_ok (h a), List.find?_cons]
    cases p a with
    | true => rfl
    | false => exact ih

/-- A value that cannot be asked is judged by its category and the registry. -/
theorem Lacks.run_satisfies (hs : w.system? sys = some s) (h : Lacks v "type_of" w w) (a : String) :
    (satisfies sys v a).run w = (.ok (decide (v.category.name = a) || registryHas w s.enums a v), w) := by
  unfold satisfies
  by_cases ha : v.category.name = a
  · rw [if_pos ha, decide_eq_true ha]
    rfl
  · rw [if_neg ha, Action.run_bind_of_ok h.run, decide_eq_false ha, Bool.false_or]
    exact Action.run_bind_of_ok (run_system hs)

theorem Lacks.run_findMatch (hs : w.system? sys = some s) {expression : Value} {e : String}
    (he : expression.string? = some e) (h : Lacks v "type_of" w w) :
    (findMatch sys v expression).run w = (.ok ((Union.alternatives s.delimiter e).find? fun a =>
      decide (v.category.name = a) || registryHas w s.enums a v), w) :=
  (Query.run_findMatch hs he v).trans (run_firstSatisfied (h.run_satisfies hs) _)

/-- **A value that cannot be asked** satisfies an expression when an alternative is its category or an enumeration that has
it as a member. -/
theorem Lacks.run_typeOf (hs : w.system? sys = some s) {expression : Value} {e : String}
    (he : expression.string? = some e) (h : Lacks v "type_of" w w) :
    ∃ answer, (typeOf sys v expression).run w = (.ok answer, w) ∧
      (answer = true ↔ ∃ a ∈ Union.alternatives s.delimiter e, a = v.category.name ∨ Registered s.enums w a v) := by
  refine ⟨_, Action.run_bind_of_ok (h.run_findMatch hs he), ?_⟩
  simp only [List.find?_isSome, Bool.or_eq_true, decide_eq_true_eq, registryHas_iff, eq_comm (a := v.category.name)]

/-- An argument passes when it satisfies the expression. -/
theorem requireArgument_ok_iff {index expression : Value} {site : Option Frame} :
    (requireArgument sys index v expression site).run w = (.ok (), u) ↔
      (typeOf sys v expression).run w = (.ok true, u) := by
  unfold requireArgument
  constructor
  · intro h
    obtain ⟨answer, w₁, hanswer, h⟩ := Action.bind_eq_ok.1 h
    cases answer with
    | true =>
      cases h
      exact hanswer
    | false =>
      obtain ⟨_, _, -, h⟩ := Action.bind_eq_ok.1 h
      obtain ⟨_, _, -, h⟩ := Action.bind_eq_ok.1 h
      cases h
  · intro h
    rw [Action.run_bind_of_ok h]
    rfl

/-- A world with a type system and an outside object that answers to one name. -/
def recorderWorld : World :=
  { World.initial with
    foreigns := [⟨.absent, .names [.ofString "b"], []⟩]
    systems := [("main", ⟨Union.defaultDelimiter, [], [], 0⟩)] }

end Lineage.Query
