import Mathlib
import Lineage.Proofs.Composition
import Lineage.Proofs.Examination
import Lineage.Proofs.Journal
import Lineage.Proofs.Lasting.Scripting

/-!
# Ancestry — membership is the set of the ancestors' names, for ever

The builds in the journal say which class descends from which (`Descends`). A class gets its membership once, as its own
name and the memberships of its parents at that moment. `Pedigree` is what this keeps true of a world: names and
memberships fit the builds, parents come before children. No change destroys it, since nothing may set the two reserved
keys of a class, and from it the membership of a class is found to be the names of all classes it descends from.
-/

set_option autoImplicit false

namespace Lineage

open Script

/-- **A class descends from another** by the builds in the journal. -/
inductive Descends (w : World) : Nat → Nat → Prop where
  | refl (i : Nat) : Descends w i i
  | step {i p j : Nat} {b : Birth} (hb : .built i b ∈ w.journal) (hp : p ∈ b.parents) (h : Descends w p j) :
      Descends w i j

theorem Descends.trans {w : World} {i j k : Nat} (h : Descends w i j) (h' : Descends w j k) : Descends w i k := by
  induction h with
  | refl => exact h'
  | step hb hp _ ih => exact .step hb hp (ih h')

/-- The type name and the membership of the class with a number. -/
def World.identity? (w : World) (i : Nat) : Option (String × List String) :=
  (w.class? i).map fun c => (c.typeName, c.membership)

/-- **Names and memberships fit the builds.** -/
structure Pedigree (w : World) : Prop where
  /-- The base class is a member of itself only. -/
  base : w.identity? baseIndex = some (baseTypeName, [baseTypeName])
  /-- Every other class was built. -/
  built : ∀ i < w.classes.length, i ≠ baseIndex → ∃ b, .built i b ∈ w.journal
  /-- No class was built twice. -/
  unique : ∀ {i : Nat} {b b' : Birth}, .built i b ∈ w.journal → .built i b' ∈ w.journal → b = b'
  /-- A class has parents, and they were there before it. -/
  ordered : ∀ {i : Nat} {b : Birth}, .built i b ∈ w.journal →
    i < w.classes.length ∧ b.parents ≠ [] ∧ ∀ p ∈ b.parents, p < i
  /-- A class has the name it was born with, and is a member of that and of what its parents are members of. -/
  heritage : ∀ {i : Nat} {b : Birth}, .built i b ∈ w.journal → ∃ ns, w.identity? i = some (b.name, ns) ∧
    ∀ n, n ∈ ns ↔ n = b.name ∨ ∃ p ∈ b.parents, ∃ m ms, w.identity? p = some (m, ms) ∧ n ∈ ms

/-! ## One change -/

theorem identity?_of_class? {w : World} {i : Nat} {c : ClassRecord} (hc : w.class? i = some c) :
    w.identity? i = some (c.typeName, c.membership) := by
  rw [World.identity?, hc, Option.map_some]

theorem class?_of_identity? {w : World} {i : Nat} {n : String} {ns : List String} (h : w.identity? i = some (n, ns)) :
    ∃ c, w.class? i = some c ∧ c.typeName = n ∧ c.membership = ns := by
  obtain ⟨c, hc, heq⟩ := Option.map_eq_some_iff.1 h
  cases heq
  exact ⟨c, hc, rfl, rfl⟩

theorem identity?_lt {w : World} {i : Nat} {x : String × List String} (h : w.identity? i = some x) :
    i < w.classes.length := by
  obtain ⟨c, hc, -⟩ := class?_of_identity? h
  exact (List.getElem?_eq_some_iff.1 hc).1

theorem identity?_of_lt {w : World} {i : Nat} (h : i < w.classes.length) : ∃ m ms, w.identity? i = some (m, ms) :=
  ⟨_, _, identity?_of_class? (List.getElem?_eq_getElem h)⟩

theorem identity?_modifyClass {w : World} {j : Nat} {f : ClassRecord → ClassRecord}
    (hf : ∀ c, (f c).typeName = c.typeName ∧ (f c).membership = c.membership) (i : Nat) :
    (w.modifyClass j f).identity? i = w.identity? i := by
  rw [World.identity?, World.identity?, World.class?_modifyClass, Option.map_map]
  congr 1
  funext c
  by_cases hj : j = i
  · simp only [Function.comp_apply, if_pos hj, hf c]
  · simp only [Function.comp_apply, if_neg hj]

/-- **No line of the journal changes who a class is.** -/
theorem identity?_commit {w : World} {e : Entry} (he : e.Fits w) {i : Nat} (hi : i < w.classes.length) :
    (w.commit e).identity? i = w.identity? i := by
  cases e with
  | built j b =>
    show ((w.classes ++ [_])[i]?).map _ = (w.classes[i]?).map _
    rw [List.getElem?_append_left hi]
  | made j k => rfl
  | assigned h key x =>
    cases h with
    | inst j => rfl
    | cls j =>
      obtain ⟨c, -, hn⟩ := he
      have hkey : key ∉ reservedKeys := classSetRefusal?_eq_none hn
      exact identity?_modifyClass (fun c => ⟨c.typeName_assign x hkey, c.membership_assign x hkey⟩) i
  | erased h key =>
    cases h with
    | inst j => rfl
    | cls j =>
      obtain ⟨c, -, hn⟩ := he
      have hkey : key ∉ reservedKeys := classEraseRefusal?_eq_none hn
      exact identity?_modifyClass (fun c => ⟨c.typeName_erase hkey, c.membership_erase hkey⟩) i

theorem Pedigree.congr {w w' : World} (hw : Pedigree w) (hlength : w'.classes.length = w.classes.length)
    (hsame : ∀ i, w'.identity? i = w.identity? i)
    (hbuilt : ∀ i b, Entry.built i b ∈ w'.journal ↔ Entry.built i b ∈ w.journal) : Pedigree w' where
  base := (hsame _).trans hw.base
  built i hi hne := by
    obtain ⟨b, hb⟩ := hw.built i (hlength ▸ hi) hne
    exact ⟨b, (hbuilt i b).2 hb⟩
  unique hb hb' := hw.unique ((hbuilt _ _).1 hb) ((hbuilt _ _).1 hb')
  ordered hb := hlength ▸ hw.ordered ((hbuilt _ _).1 hb)
  heritage hb := by
    simp only [hsame]
    exact hw.heritage ((hbuilt _ _).1 hb)

theorem parents_of_fits {w : World} {i : Nat} {b : Birth} (h : (Entry.built i b).Fits w) (hbase : 0 < w.classes.length) :
    b.parents ≠ [] ∧ ∀ p ∈ b.parents, p < w.classes.length := by
  obtain ⟨-, request, u, hexamined⟩ := h
  obtain ⟨-, -, -, -, -, given, -, hparents, hlt⟩ := Definition.examine_eq_ok hexamined
  rw [hparents]
  refine ⟨Definition.effectiveParents_ne_nil given, fun p hp => ?_⟩
  rcases Definition.mem_effectiveParents hp with rfl | hp
  · exact hbase
  · exact hlt p hp

theorem identity?_built {w : World} (i : Nat) (b : Birth) :
    (w.commit (.built i b)).identity? w.classes.length =
      some (b.name, Composition.membership b.name ((b.parents.filterMap w.class?).map (·.membership))) := by
  show ((w.classes ++ [_])[w.classes.length]?).map _ = _
  rw [List.getElem?_concat_length, Option.map_some, Composition.typeName_classOf, Composition.membership_classOf]

theorem built_mem_commit {w : World} {i j : Nat} {b b' : Birth}
    (h : .built j b' ∈ (w.commit (.built i b)).journal) : .built j b' ∈ w.journal ∨ j = i ∧ b' = b := by
  rcases List.mem_append.1 h with h | h
  · exact .inl h
  · cases List.mem_singleton.1 h
    exact .inr ⟨rfl, rfl⟩

/-- A new class is a member of its own name and of what its parents, who stay as they are, are members of. -/
theorem heritage_new {w : World} {b : Birth} (hfits : (Entry.built w.classes.length b).Fits w)
    (hparents : ∀ p ∈ b.parents, p < w.classes.length) :
    ∃ ns, (w.commit (.built w.classes.length b)).identity? w.classes.length = some (b.name, ns) ∧
      ∀ n, n ∈ ns ↔ n = b.name ∨ ∃ p ∈ b.parents, ∃ m ms,
        (w.commit (.built w.classes.length b)).identity? p = some (m, ms) ∧ n ∈ ms := by
  refine ⟨_, identity?_built _ _, fun n => Composition.mem_membership.trans (or_congr_right ?_)⟩
  constructor
  · rintro ⟨ms, hms, hn⟩
    obtain ⟨c, hc, rfl⟩ := List.mem_map.1 hms
    obtain ⟨p, hp, hpc⟩ := List.mem_filterMap.1 hc
    refine ⟨p, hp, c.typeName, c.membership, ?_, hn⟩
    rw [identity?_commit hfits (hparents p hp), identity?_of_class? hpc]
  · rintro ⟨p, hp, m, ms, hid, hn⟩
    rw [identity?_commit hfits (hparents p hp)] at hid
    obtain ⟨c, hpc, -, rfl⟩ := class?_of_identity? hid
    exact ⟨_, List.mem_map.2 ⟨c, List.mem_filterMap.2 ⟨p, hp, hpc⟩, rfl⟩, hn⟩

/-- The classes that are there keep their heritage. -/
theorem Pedigree.heritage_commit {w : World} (hw : Pedigree w) {e : Entry} (he : e.Fits w) {i : Nat} {b : Birth}
    (hb : .built i b ∈ w.journal) :
    ∃ ns, (w.commit e).identity? i = some (b.name, ns) ∧
      ∀ n, n ∈ ns ↔ n = b.name ∨ ∃ p ∈ b.parents, ∃ m ms, (w.commit e).identity? p = some (m, ms) ∧ n ∈ ms := by
  obtain ⟨ns, hns, hiff⟩ := hw.heritage hb
  obtain ⟨hi, -, hlt⟩ := hw.ordered hb
  refine ⟨ns, (identity?_commit he hi).trans hns, fun n => (hiff n).trans (or_congr_right ?_)⟩
  refine exists_congr fun p => and_congr_right fun hp => ?_
  rw [identity?_commit he ((hlt p hp).trans hi)]

/-- A new class takes its place in the pedigree. -/
theorem Pedigree.build {w : World} (hw : Pedigree w) {i : Nat} {b : Birth} (hfits : (Entry.built i b).Fits w) :
    Pedigree (w.commit (.built i b)) := by
  have hbase : 0 < w.classes.length := identity?_lt hw.base
  obtain ⟨hne, hparents⟩ := parents_of_fits hfits hbase
  obtain rfl : i = w.classes.length := hfits.1
  have hlength : (w.commit (.built w.classes.length b)).classes.length = w.classes.length + 1 := List.length_append
  constructor
  · exact (identity?_commit hfits hbase).trans hw.base
  · intro j hj hjne
    rw [hlength] at hj
    rcases Nat.lt_succ_iff_lt_or_eq.1 hj with hj | rfl
    · obtain ⟨b', hb'⟩ := hw.built j hj hjne
      exact ⟨b', List.mem_append_left _ hb'⟩
    · exact ⟨b, List.mem_append_right _ List.mem_cons_self⟩
  · intro j b₁ b₂ h₁ h₂
    rcases built_mem_commit h₁ with old₁ | ⟨hj₁, rfl⟩ <;> rcases built_mem_commit h₂ with old₂ | ⟨hj₂, rfl⟩
    · exact hw.unique old₁ old₂
    · exact absurd (hw.ordered old₁).1 (hj₂ ▸ Nat.lt_irrefl _)
    · exact absurd (hw.ordered old₂).1 (hj₁ ▸ Nat.lt_irrefl _)
    · rfl
  · intro j b' h
    rw [hlength]
    rcases built_mem_commit h with h | ⟨rfl, rfl⟩
    · obtain ⟨hj, hrest⟩ := hw.ordered h
      exact ⟨Nat.lt_succ_of_lt hj, hrest⟩
    · exact ⟨Nat.lt_succ_self _, hne, hparents⟩
  · intro j b' h
    rcases built_mem_commit h with h | ⟨rfl, rfl⟩
    · exact hw.heritage_commit hfits h
    · exact heritage_new hfits hparents

/-- A line that builds nothing leaves the pedigree. -/
theorem Pedigree.line {w : World} (hw : Pedigree w) {e : Entry} (he : e.Fits w) (hother : ∀ i b, e ≠ .built i b) :
    Pedigree (w.commit e) := by
  have hlength := w.length_classes_commit hother
  refine hw.congr hlength (fun i => ?_) (fun i b => ?_)
  · by_cases hi : i < w.classes.length
    · exact identity?_commit he hi
    · have hout (v : World) (hv : v.classes.length = w.classes.length) : v.identity? i = none := by
        rw [World.identity?, World.class?, List.getElem?_eq_none (by omega), Option.map_none]
      rw [hout _ hlength, hout w rfl]
  · constructor
    · intro h
      rcases List.mem_append.1 h with h | h
      · exact h
      · exact absurd (List.mem_singleton.1 h).symm (hother i b)
    · exact fun h => List.mem_append_left _ h

/-- **No change destroys the pedigree.** -/
theorem Pedigree.change {w w' : World} (h : Change w w') (hw : Pedigree w) : Pedigree w' := by
  rcases h.line_or_rest with ⟨e, he, rfl⟩ | ⟨hclasses, -, hjournal⟩
  · cases e with
    | built i b => exact hw.build he
    | made | assigned | erased => exact hw.line he fun _ _ => nofun
  · refine hw.congr (by rw [hclasses]) (fun i => ?_) (fun i b => by rw [hjournal])
    rw [World.identity?, World.class?, hclasses]
    rfl

theorem pedigree_initial : Pedigree World.initial where
  base := rfl
  built _ hi hne := absurd (Nat.lt_one_iff.1 hi) hne
  unique h := nomatch h
  ordered h := nomatch h
  heritage h := nomatch h

theorem Reaches.pedigree {w w' : World} (h : Reaches w w') (hw : Pedigree w) : Pedigree w' := by
  induction h with
  | refl => exact hw
  | tail _ hstep ih => exact ih.change hstep

/-- **Who a class is stays for ever.** -/
theorem Reaches.identity {w w' : World} (h : Reaches w w') {i : Nat} {x : String × List String}
    (hid : w.identity? i = some x) : w'.identity? i = some x := by
  induction h with
  | refl => exact hid
  | tail _ hstep ih =>
    rcases hstep.line_or_rest with ⟨e, he, rfl⟩ | ⟨hclasses, -, -⟩
    · rw [identity?_commit he (identity?_lt ih)]
      exact ih
    · rw [World.identity?, World.class?, hclasses]
      exact ih

/-! ## Descent -/

namespace Pedigree

variable {w : World} (hw : Pedigree w)
include hw

theorem parents_ne_base {i : Nat} {b : Birth} (hb : .built i b ∈ w.journal) : i ≠ baseIndex := by
  obtain ⟨-, hne, hlt⟩ := hw.ordered hb
  obtain ⟨p, hp⟩ := List.exists_mem_of_ne_nil _ hne
  exact Nat.ne_of_gt (Nat.lt_of_le_of_lt (Nat.zero_le p) (hlt p hp))

/-- Every class descends from the base class. -/
theorem descends_base {i : Nat} (hi : i < w.classes.length) : Descends w i baseIndex := by
  induction i using Nat.strong_induction_on with
  | h i ih =>
    by_cases hbase : i = baseIndex
    · rw [hbase]
      exact .refl _
    · obtain ⟨b, hb⟩ := hw.built i hi hbase
      obtain ⟨-, hne, hlt⟩ := hw.ordered hb
      obtain ⟨p, hp⟩ := List.exists_mem_of_ne_nil _ hne
      exact .step hb hp (ih p (hlt p hp) ((hlt p hp).trans hi))

/-- **The membership of a class** is made of the names of the classes that it descends from. The induction is on the number
of the class: its parents have smaller numbers. -/
theorem mem_iff {i : Nat} {name : String} {ns : List String} (hid : w.identity? i = some (name, ns)) (n : String) :
    n ∈ ns ↔ ∃ j ms, Descends w i j ∧ w.identity? j = some (n, ms) := by
  induction i using Nat.strong_induction_on generalizing name ns with
  | h i ih =>
    by_cases hbase : i = baseIndex
    · subst hbase
      obtain ⟨rfl, rfl⟩ : name = baseTypeName ∧ ns = [baseTypeName] := by
        have h := hid.symm.trans hw.base
        cases h
        exact ⟨rfl, rfl⟩
      constructor
      · intro hn
        rw [List.mem_singleton.1 hn]
        exact ⟨baseIndex, _, .refl _, hw.base⟩
      · rintro ⟨j, ms, hdesc, hj⟩
        cases hdesc with
        | refl =>
          cases hj.symm.trans hw.base
          exact List.mem_singleton_self _
        | step hb => exact absurd rfl (hw.parents_ne_base hb)
    · obtain ⟨b, hb⟩ := hw.built i (identity?_lt hid) hbase
      obtain ⟨ns', hns', hiff⟩ := hw.heritage hb
      cases hid.symm.trans hns'
      obtain ⟨-, -, hlt⟩ := hw.ordered hb
      rw [hiff]
      constructor
      · rintro (rfl | ⟨p, hp, m, ms, hpid, hn⟩)
        · exact ⟨i, _, .refl _, hid⟩
        · obtain ⟨j, ms', hdesc, hj⟩ := (ih p (hlt p hp) hpid).1 hn
          exact ⟨j, ms', .step hb hp hdesc, hj⟩
      · rintro ⟨j, ms, hdesc, hj⟩
        cases hdesc with
        | refl =>
          cases hj.symm.trans hid
          exact .inl rfl
        | @step _ p _ b' hb' hp h =>
          obtain rfl := hw.unique hb' hb
          obtain ⟨m, ms', hpid⟩ := identity?_of_lt ((hlt p hp).trans (identity?_lt hid))
          exact .inr ⟨p, hp, m, ms', hpid, (ih p (hlt p hp) hpid).2 ⟨j, ms, h, hj⟩⟩

/-- A descendant is a member of all that its ancestor is a member of. -/
theorem membership_mono {i j : Nat} {c d : ClassRecord} (hdesc : Descends w i j) (hc : w.class? i = some c)
    (hd : w.class? j = some d) : d.membership ⊆ c.membership := by
  intro n hn
  obtain ⟨k, ms, hjk, hk⟩ := (hw.mem_iff (identity?_of_class? hd) n).1 hn
  exact (hw.mem_iff (identity?_of_class? hc) n).2 ⟨k, ms, hdesc.trans hjk, hk⟩

end Pedigree

/-! ## Runs -/

theorem read_typeName {w : World} {i : Nat} {c : ClassRecord} (hc : w.class? i = some c) :
    (Access.read (.cls i) "type_name").run w = (.ok (.ofString c.typeName), w) := by
  show (Access.readClass i "type_name").run w = _
  rw [Access.readClass, Action.run_bind, Action.run_get]
  simp only [hc]
  rfl

theorem read_membership {w : World} {i : Nat} {c : ClassRecord} (hc : w.class? i = some c) :
    (Access.read (.cls i) "type_membership").run w = (.ok (.set true (c.membership.map .ofString)), w) := by
  show (Access.readClass i "type_membership").run w = _
  rw [Access.readClass, Action.run_bind, Action.run_get]
  simp only [hc]
  rfl

theorem write_reserved {w : World} {i : Nat} {c : ClassRecord} (hc : w.class? i = some c) {key : String}
    (hkey : key ∈ reservedKeys) (x : Value) :
    (Access.write (.cls i) key x).run w = (.error (.fixedAtCreation key c.typeName), w) := by
  rw [Access.write, Action.run_bind, Action.run_get]
  simp only [hc, Access.classSetRefusal?, if_pos (List.contains_iff_mem.2 hkey)]
  rfl

theorem erase_reserved {w : World} {i : Nat} {c : ClassRecord} (hc : w.class? i = some c) {key : String}
    (hkey : key ∈ reservedKeys) :
    (Access.erase (.cls i) key).run w = (.error (.fixedAtCreation key c.typeName), w) := by
  rw [Access.erase, Action.run_bind, Action.run_get]
  simp only [hc, Access.classEraseRefusal?, if_pos (List.contains_iff_mem.2 hkey)]
  rfl

/-- A birth comes from a request: it has the name that was asked for, and the parents that were given, or the base class
if none were. -/
def Birth.Requested (b : Birth) (request : Definition.Blueprint) : Prop :=
  request.name.string? = some b.name ∧
    ∃ given, request.parents = given.map Value.cls ∧ b.parents = if given.isEmpty then [baseIndex] else given

/-- Every build in the journal of a run was requested. -/
theorem Reaches.requested {w : World} (h : Reaches World.initial w) {i : Nat} {b : Birth} (hb : .built i b ∈ w.journal) :
    ∃ request, b.Requested request := by
  obtain ⟨es, hes, hlines⟩ := h.lines
  rw [hes, World.initial, List.nil_append] at hb
  obtain ⟨before, after, rfl⟩ := List.append_of_mem hb
  obtain ⟨v, -, -, ⟨-, request, u, hexamined⟩, -⟩ := hlines before _ after rfl
  obtain ⟨hname, -, -, -, -, given, hgiven, hparents, -⟩ := Definition.examine_eq_ok hexamined
  exact ⟨request, hname, given, hgiven, hparents⟩

theorem addProbe_eq_ok {request probed : Definition.Blueprint} {w w' : World}
    (h : (Definition.addProbe request).run w = (.ok probed, w')) :
    probed.name = request.name ∧ probed.parents = request.parents ∧ probed.manager = request.manager := by
  unfold Definition.addProbe at h
  split at h
  · cases h
    exact ⟨rfl, rfl, rfl⟩
  · cases h
    exact ⟨rfl, rfl, rfl⟩

/-- Adding the function that tests its place changes neither the classes nor what plugins were told. -/
theorem Definition.addProbe_same {b b' : Definition.Blueprint} {w u : World} (h : (Definition.addProbe b).run w = (.ok b', u)) :
    u.classes = w.classes ∧ u.events = w.events ∧ (b.probe = none → b' = b ∧ u = w) := by
  unfold Definition.addProbe at h
  split at h
  · cases h
    exact ⟨rfl, rfl, fun _ => ⟨rfl, rfl⟩⟩
  next m hm =>
    cases h
    exact ⟨rfl, rfl, fun hnone => nomatch hm.symm.trans hnone⟩

/-- A build that succeeds returns the class that was requested. -/
theorem build_eq_ok {request : Definition.Blueprint} {w w' : World} {v : Value}
    (h : (Definition.build request).run w = (.ok v, w')) :
    ∃ i b, v = .cls i ∧ .built i b ∈ w'.journal ∧ b.Requested request := by
  obtain ⟨probed, w₁, b, w₂, hprobed, hexamined, htold, rfl⟩ := Definition.stages_of_buildWith h
  refine ⟨w₂.classes.length, b, rfl, ?_, ?_⟩
  · let _ := Enduring.reached (Definition.enterClass w₂ b).1
    have hreached := (Definition.react_announce_lasts _ _).run_eq htold .refl
    exact Reaches.mem_journal hreached (List.mem_append_right _ List.mem_cons_self)
  · obtain ⟨hname, hparents, -⟩ := addProbe_eq_ok hprobed
    obtain ⟨hbname, -, -, -, -, given, hgiven, hbparents, -⟩ := Definition.examine_eq_ok hexamined
    exact ⟨hname ▸ hbname, given, hparents ▸ hgiven, hbparents⟩

/-- A run that builds a class, and a class from it. -/
def twoBuilds : List Step :=
  [⟨"main", some "A", ⟨[]⟩, .build (.data (.ofString "A")) [] none [] 1⟩,
    ⟨"main", some "B", ⟨[]⟩, .build (.data (.ofString "B")) [.reference "A"] none [] 1⟩]

end Lineage
