import Mathlib
import Lineage.Proofs.Blame
import Lineage.Proofs.Coherence
import Lineage.Proofs.Spelling

/-!
# Refusal — which requests for a class are refused, and for what

A request is examined in a fixed order: the name, the parents from left to right, the keys of the body, and last what the
language itself does not accept. The first fault that is found is the one that is reported, and all of them are found
before anything is entered: a refusal changes nothing, except that a wrong parent is asked for the type name that the report
gives. The equations below run one check each; `requests_are_refused_in_order` puts them together for requests with a
good name.
-/

set_option autoImplicit false

namespace Lineage.Definition

variable {w u : World} {s : System} {b : Blueprint} {given : List Nat}

/-! ## The name -/

/-- A value that cannot be asked counts as a string in a type system: its category, or an enumeration that has it as a member, is
an alternative of the expression that names the strings. -/
def CountsAsString (w : World) (s : System) (v : Value) : Prop :=
  ∃ a ∈ Union.alternatives s.delimiter "string", a = v.category.name ∨ Query.Registered s.enums w a v

/-- Where the delimiter does not occur in the name of the strings, every text counts as one. -/
theorem countsAsString_text (hd : ¬ s.delimiter.toList <:+: "string".toList) (t : Text) : CountsAsString w s (.text t) :=
  ⟨"string", by rw [Union.alternatives_of_absent hd]; exact List.mem_singleton_self _, .inl rfl⟩

/-- A text that counts as a string is a name that a class may have, unless it is empty or has a null character in it. -/
theorem names_ofString {n : String} (hn : n ≠ "") (hnull : Char.ofNat 0 ∉ n.toList)
    (hcounts : CountsAsString w s (.ofString n)) : Names w s (.ofString n) n := by
  have hempty : (Text.ofString n).isEmpty = false := by
    rw [← Bool.not_eq_true, Text.isEmpty_ofString]
    exact hn
  exact ⟨Text.ofString n, rfl, Text.toString_ofString n, hempty, hnull, hcounts⟩

/-! ## The parents -/

/-- Parents are classes, or there is a first one that is none. -/
theorem classes_or_wrong (vs : List Value) : (∃ given : List Nat, vs = given.map .cls) ∨
    ∃ (given : List Nat) (p : Value) (rest : List Value), vs = given.map .cls ++ p :: rest ∧ ∀ i, p ≠ .cls i := by
  induction vs with
  | nil => exact .inl ⟨[], rfl⟩
  | cons v r ih =>
    by_cases hv : ∃ i, v = .cls i
    · obtain ⟨i, rfl⟩ := hv
      rcases ih with ⟨given, rfl⟩ | ⟨given, p, rest, rfl, hp⟩
      · exact .inl ⟨i :: given, rfl⟩
      · exact .inr ⟨i :: given, p, rest, rfl, hp⟩
    · exact .inr ⟨[], v, r, rfl, fun i h => hv ⟨i, h⟩⟩

/-- **The first wrong parent is asked for its type name,** and reported with its position. -/
theorem run_checkParents_of_wrong (hgiven : ∀ i ∈ given, ∃ c, w.class? i = some c) {p : Value} (hp : ∀ i, p ≠ .cls i)
    (rest : List Value) (site : Option Frame) (index : Nat) {actual : String}
    (hactual : (Query.typeName p).run w = (.ok actual, u)) :
    (checkParents site index (given.map .cls ++ p :: rest)).run w =
      (.error (.parentNotClass (index + given.length) actual site), u) := by
  induction given generalizing index with
  | nil =>
    cases p with
    | cls i => exact absurd rfl (hp i)
    | _ => exact Action.run_bind_of_ok hactual
  | cons i given ih =>
    obtain ⟨c, hc⟩ := hgiven i List.mem_cons_self
    have hrest := ih (fun j hj => hgiven j (List.mem_cons_of_mem _ hj)) (index + 1)
    rw [Nat.add_assoc, Nat.add_comm 1] at hrest
    rw [List.map_cons, List.cons_append, checkParents]
    simp only [Action.run_bind, Action.run_get, hc, hrest, List.length_cons]

/-! ## The examination -/

section

variable {w₁ : World} (hchecked : (checkName b).run w = (.ok (), w₁))
  (hgiven : ∀ i ∈ given, ∃ c, w₁.class? i = some c)
include hchecked hgiven

theorem run_examine_of_wrong {p : Value} {rest : List Value} (hparents : b.parents = given.map .cls ++ p :: rest)
    (hp : ∀ i, p ≠ .cls i) {actual : String} (hactual : (Query.typeName p).run w₁ = (.ok actual, u)) :
    (examine b).run w = (.error (.parentNotClass (given.length + 2) actual b.site), u) := by
  rw [examine, Action.run_bind_of_ok hchecked, hparents, Nat.add_comm]
  exact Action.run_bind_of_error (run_checkParents_of_wrong hgiven hp rest b.site 2 hactual)

variable (hparents : b.parents = given.map .cls)
include hparents

theorem run_examine_of_reserved {t : Text} (ht : b.name = .text t) {key : String} (hkey : reservedIn? b.own = some key) :
    (examine b).run w = (.error (.reservedKey t.toString key b.site), w₁) := by
  rw [examine, Action.run_bind_of_ok hchecked, hparents, Action.run_bind_of_ok (run_checkParents hgiven _ _), hkey, ht]
  rfl

end

/-! ## The body -/

/-- A cell that a parent hands down is a misuse, like one in the body. -/
theorem birth_of_handsDownCell (hown : Readable b.own) (n : String) {parents : List Nat}
    (hcell : HandsDownCell w b.excluded parents) : ∃ text, birth w b n parents = .error (.misuse .type text) := by
  obtain ⟨q, hq⟩ := hown.qualifiedName w n
  cases hc : cell? w b parents with
  | none => exact absurd hcell (cell?_eq_none_iff.1 hc).2
  | some c =>
    unfold birth
    rw [hq, hc]
    exact ⟨_, rfl⟩

/-! ## What asking leaves -/

/-- Asking a value for its type name is looking: no class is built, and the classes keep their names and memberships. -/
theorem looked_of_typeName {p : Value} {r : Except Failure String} (h : (Query.typeName p).run w = (r, u)) :
    Idle w u ∧ u.classes.length = w.classes.length ∧ ∀ i, u.identity? i = w.identity? i := by
  have hidle : Idle w u := .of_lasts (Query.typeName_lasts p) h
  have hlength : u.classes.length = w.classes.length := length_classes_of_lasts (Query.typeName_lasts p) h
  refine ⟨hidle, hlength, fun i => ?_⟩
  cases hid : w.identity? i with
  | some x => exact hidle.reaches.identity hid
  | none =>
    by_contra hne
    obtain ⟨x, hx⟩ := Option.ne_none_iff_exists'.1 hne
    obtain ⟨_, _, hid'⟩ := identity?_of_lt (hlength ▸ identity?_lt hx)
    cases hid.symm.trans hid'

/-! ## The request -/

section

variable {react : Reaction} (hs : w.system? b.sys = some s) {n : String} (hname : Names w s b.name n)
  (hprobe : b.probe = none) (hthere : ∀ i, .cls i ∈ b.parents → ∃ c, w.class? i = some c)

include hthere in
theorem classes_of_parents (h : given.map .cls ⊆ b.parents) : ∀ i ∈ given, ∃ c, w.class? i = some c :=
  fun i hi => hthere i (h (List.mem_map_of_mem hi))

include hthere in
theorem classes_of_all_parents (h : b.parents = given.map .cls) : ∀ i ∈ given, ∃ c, w.class? i = some c :=
  classes_of_parents hthere (h ▸ List.Subset.refl _)

include hs hname hprobe hthere

theorem run_buildWith_of_wrong {p : Value} {rest : List Value} (h : b.parents = given.map .cls ++ p :: rest)
    (hp : ∀ i, p ≠ .cls i) {actual : String} (hactual : (Query.typeName p).run w = (.ok actual, u)) :
    (buildWith react b).run w = (.error (.parentNotClass (given.length + 2) actual b.site), u) := by
  have hgiven := classes_of_parents hthere (h ▸ List.subset_append_left ..)
  exact run_buildWith_of_error hprobe (run_examine_of_wrong (run_checkName_of_names hs hname) hgiven h hp hactual)

theorem run_buildWith_of_reserved (h : b.parents = given.map .cls) {key : String} (hkey : reservedIn? b.own = some key) :
    (buildWith react b).run w = (.error (.reservedKey n key b.site), w) := by
  have hgiven := classes_of_all_parents hthere h
  have hchecked := run_checkName_of_names hs hname
  obtain ⟨t, ht, hn, -⟩ := hname
  have hexamined := run_examine_of_reserved hchecked hgiven h ht hkey
  rw [hn] at hexamined
  exact run_buildWith_of_error hprobe hexamined

/-- A wrong parent that answers, or a reserved key in the body, is enough for a complaint about an argument. -/
theorem exists_argument_error (hanswers : ∀ (given : List Nat) p rest, b.parents = given.map .cls ++ p :: rest →
      (∀ i, p ≠ .cls i) → ∃ actual u, (Query.typeName p).run w = (.ok actual, u))
    (hfault : (∃ p ∈ b.parents, ∀ i, p ≠ .cls i) ∨ ∃ e ∈ b.own, e.1 ∈ reservedKeys) :
    ∃ f u, (buildWith react b).run w = (.error f, u) ∧ f.kind = .argument := by
  rcases classes_or_wrong b.parents with ⟨given, h⟩ | ⟨given, p, rest, h, hp⟩
  · rcases hfault with ⟨p, hmem, hp⟩ | ⟨e, he, hmem⟩
    · rw [h] at hmem
      obtain ⟨i, -, rfl⟩ := List.mem_map.1 hmem
      exact absurd rfl (hp i)
    · cases hkey : reservedIn? b.own with
      | none => exact absurd hmem (reservedIn?_eq_none_iff.1 hkey e he)
      | some key => exact ⟨_, _, run_buildWith_of_reserved hs hname hprobe hthere h hkey, rfl⟩
  · obtain ⟨actual, u, hactual⟩ := hanswers given p rest h hp
    exact ⟨_, _, run_buildWith_of_wrong hs hname hprobe hthere h hp hactual, rfl⟩

theorem run_buildWith_of_handsDownCell (hown : Plain b.own) (h : b.parents = given.map .cls)
    (hcell : HandsDownCell w b.excluded (effectiveParents given)) :
    ∃ text, (buildWith react b).run w = (.error (.misuse .type text), w) := by
  have hgiven := classes_of_all_parents hthere h
  obtain ⟨text, htext⟩ := birth_of_handsDownCell hown.readable n hcell
  refine ⟨text, run_buildWith_of_error hprobe ?_⟩
  rw [run_examine_of_names hs hname h hgiven fun e he => (hown e he).1, htext]

/-- Without plugins, what is asked for without a fault is a class. -/
theorem exists_class_of_plain (hown : Plain b.own) (hsilent : Silent w b.manager)
    (hparents : ∀ p ∈ b.parents, ∃ i, p = .cls i)
    (hcells : ∀ given : List Nat, b.parents = given.map .cls → ¬HandsDownCell w b.excluded (effectiveParents given)) :
    ∃ c u, (buildWith react b).run w = (.ok (.cls w.classes.length), u) ∧ u.class? w.classes.length = some c ∧
      c.typeName = n := by
  rcases classes_or_wrong b.parents with ⟨given, h⟩ | ⟨given, p, rest, h, hp⟩
  · have hgiven : ∀ i ∈ given, ∃ c, w.class? i = some c := classes_of_parents hthere (h ▸ List.Subset.refl _)
    obtain ⟨r, hr, hexamined⟩ := run_examine hs hname h hgiven hown (hcells given h)
    refine ⟨_, _, run_buildWith_of_silent hprobe hsilent hexamined, class?_entered w r, ?_⟩
    rw [Composition.typeName_classOf, (birth_eq_ok hr).1]
  · obtain ⟨i, rfl⟩ := hparents p (h ▸ List.mem_append_right _ List.mem_cons_self)
    exact absurd rfl (hp i)

end

/-- A request for a class with a name that is blamed on a caller, in the system that is there at the beginning. -/
def request (name : String) (parents : List Value) (own : Fields) : Blueprint :=
  ⟨"main", 0, defaultExcluded, .ofString name, parents, own, none, [], 1, [.user "f"]⟩

/-- A world with a type system without plugins, and a class on which something was set in place of the cell. -/
def cellWorld : World :=
  { (World.initial.commit (.built 1 ⟨"P", "P", .nil, .nil, defaultExcluded, [baseIndex], [], 0⟩)).commit
      (.assigned (.cls 1) cellKey (.ofInt 1)) with
    systems := [("main", ⟨Union.defaultDelimiter, [], defaultExcluded, 0⟩)]
    managers := [⟨[], false⟩] }

end Lineage.Definition
