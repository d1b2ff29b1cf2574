import Mathlib
import Lineage.Proofs.Conduct

/-!
# Registry — an enumeration is registered once and stays as it is

A definition checks its arguments in a fixed order (`Refused`); what it does not refuse it puts at the end of the registry
before any plugin is told. So a registry only grows at its end, under names that are free: every name stands there once
(`WriteOnce`), and what is found under a name is found there ever after (`Grows`). This holds at every moment of a
run, among plugins that define in turn, and does not depend on how the definitions end.
-/

set_option autoImplicit false

namespace Lineage.Definition

open Script (registered?)

variable {enums : List (String × Value)} {sys : String} {w u : World}

/-! ## A registry that is written once -/

/-- **Written once:** no name stands in the registry twice, and under a name there is an enumeration of that name. -/
structure WriteOnce (enums : List (String × Value)) : Prop where
  nodup : (enums.map Prod.fst).Nodup
  named : ∀ e ∈ enums, ∃ i ms, e.2 = .enum i e.1 ms

theorem WriteOnce.append (h : WriteOnce enums) {n : String} (hn : Fields.has enums n = false) (i : Nat)
    (ms : List (Value × Value)) : WriteOnce (enums ++ [(n, .enum i n ms)]) where
  nodup := by
    rw [List.map_append, List.map_singleton, List.nodup_append]
    refine ⟨h.nodup, List.nodup_singleton n, fun m hm m' hm' heq => ?_⟩
    cases List.mem_singleton.1 hm'
    rw [heq, ← Fields.has_iff, hn] at hm
    cases hm
  named e he := by
    rcases List.mem_append.1 he with he | he
    · exact h.named e he
    · cases List.mem_singleton.1 he
      exact ⟨i, ms, rfl⟩

theorem get?_of_prefix {more : List (String × Value)} (h : enums <+: more) {n : String} {e : Value}
    (he : Fields.get? enums n = some e) : Fields.get? more n = some e := by
  obtain ⟨rest, rfl⟩ := h
  obtain ⟨x, hx, rfl⟩ := Option.map_eq_some_iff.1 he
  rw [Fields.get?, List.find?_append, hx]
  rfl

theorem get?_append_self {n : String} (hn : Fields.has enums n = false) (e : Value) :
    Fields.get? (enums ++ [(n, e)]) n = some e := by
  have hnone : enums.find? (·.1 = n) = none := by
    rw [List.find?_eq_none]
    exact List.any_eq_false.1 hn
  rw [Fields.get?, List.find?_append, hnone]
  simp

/-! ## What a run does to a registry -/

/-- What is not a definition in the registry leaves it as it is. -/
def Spares (sys : String) (w u : World) : Prop :=
  ∀ s, w.system? sys = some s → ∃ s', u.system? sys = some s' ∧ s'.enums = s.enums

/-- **A registry grows at its end,** and remains written once. -/
def Grows (sys : String) (w u : World) : Prop :=
  ∀ s, w.system? sys = some s → ∃ s', u.system? sys = some s' ∧ s.enums <+: s'.enums ∧
    (WriteOnce s.enums → WriteOnce s'.enums)

theorem Spares.of_systems (h : u.systems = w.systems) : Spares sys w u := fun s hs =>
  ⟨s, by rw [World.system?, h]; exact hs, rfl⟩

theorem Spares.grows (h : Spares sys w u) : Grows sys w u := fun s hs => by
  obtain ⟨s', hs', heq⟩ := h s hs
  exact ⟨s', hs', heq ▸ List.prefix_refl _, heq ▸ id⟩

/-- A definition puts its enumeration at the end of the registry, and touches no other system. -/
theorem system?_enterEnum (w : World) (sys other n : String) (es : List (Value × Value)) :
    (enterEnum w sys n es).1.system? other = (w.system? other).map fun s =>
      if other = sys then { s with enums := s.enums ++ [(n, .enum w.enumCount n es)] } else s :=
  World.system?_modifySystem { w with enumCount := w.enumCount + 1 } sys other fun s =>
    { s with enums := s.enums ++ [(n, .enum w.enumCount n es)] }

/-- **What one thing does to a registry.** -/
theorem Happens.grows (h : Happens (Spares sys) w u) : Grows sys w u := by
  cases h with
  | aside h => exact h.grows
  | looked h => exact (Spares.of_systems h.systems).grows
  | told p news => exact (Spares.of_systems rfl).grows
  | entered h =>
    cases h with
    | cls ho hb hm hfits => exact (Spares.of_systems (World.commit_systems w _)).grows
    | @enum other n name members s' es hs' hc =>
      intro s hs
      rw [system?_enterEnum, hs]
      by_cases hother : sys = other
      · subst hother
        cases hs.symm.trans hs'
        refine ⟨_, by rw [Option.map_some, if_pos rfl], List.prefix_append _ _, fun h => ?_⟩
        exact h.append (checkEnum_eq_ok hc) _ _
      · exact ⟨s, by rw [Option.map_some, if_neg hother], List.prefix_refl _, id⟩

/-- **What a run does to a registry.** -/
theorem Unfolds.grows (h : Unfolds (Spares sys) w u) : Grows sys w u := by
  induction h with
  | refl => exact fun s hs => ⟨s, hs, List.prefix_refl _, id⟩
  | tail _ hstep ih =>
    intro s hs
    obtain ⟨s₁, hs₁, hprefix₁, honce₁⟩ := ih s hs
    obtain ⟨s₂, hs₂, hprefix₂, honce₂⟩ := Happens.grows hstep s₁ hs₁
    exact ⟨s₂, hs₂, hprefix₁.trans hprefix₂, fun h => honce₂ (honce₁ h)⟩

/-- **No change of any sort writes a registry twice:** a new type system has an empty one, and a name that is registered was
free. -/
theorem writeOnce_change (h : Change w u) (hw : ∀ sys s, w.system? sys = some s → WriteOnce s.enums) :
    ∀ sys s, u.system? sys = some s → WriteOnce s.enums := by
  have hsame (hsystems : u.systems = w.systems) : ∀ sys s, u.system? sys = some s → WriteOnce s.enums := fun sys s hs =>
    hw sys s (by rw [World.system?, ← hsystems]; exact hs)
  cases h with
  | use h => exact hsame (Idle.of_use h).systems
  | built => exact hsame (World.commit_systems w _)
  | @enum name n s members hs hn =>
    intro other s' hs'
    rw [show (registerEnum w name n members).1.system? other = _ from system?_enterEnum w name other n members] at hs'
    obtain ⟨s₀, hs₀, rfl⟩ := Option.map_eq_some_iff.1 hs'
    by_cases hother : other = name
    · subst hother
      cases hs.symm.trans hs₀
      rw [if_pos rfl]
      exact (hw _ _ hs).append hn _ _
    · rw [if_neg hother]
      exact hw _ _ hs₀
  | excluded name f =>
    intro other s' hs'
    rw [World.changeExcluded, World.system?_modifySystem] at hs'
    obtain ⟨s₀, hs₀, rfl⟩ := Option.map_eq_some_iff.1 hs'
    have honce : WriteOnce s₀.enums := hw _ _ hs₀
    split <;> exact honce
  | system name delimiter excluded manager =>
    intro other s' hs'
    by_cases hother : other = name
    · subst hother
      cases (Fields.get?_set_self _ _ _).symm.trans hs'
      exact ⟨List.nodup_nil, fun _ he => absurd he List.not_mem_nil⟩
    · exact hw _ _ ((Fields.get?_set_of_ne _ _ hother).symm.trans hs')
  | _ => exact hsame rfl

/-- Every registry that a run comes to is written once. -/
theorem writeOnce_of_reaches (h : Reaches World.initial w) : ∀ sys s, w.system? sys = some s → WriteOnce s.enums := by
  induction h with
  | refl => exact fun _ _ hs => nomatch hs
  | tail _ hstep ih => exact writeOnce_change hstep ih

/-! ## What a definition refuses -/

/-- **Why a definition is refused,** in the order of the checks: the name is no text, the members are no mapping, the name
cannot be looked up, the name is taken. -/
inductive Refused (w : World) (enums : List (String × Value)) (name members : Value) : Failure → Prop where
  | nameNotText (h : name.string? = none) : Refused w enums name members (.enumNameNotText (Access.className w name))
  | membersNotMapping {n : String} (hn : name.string? = some n) (h : members.isMapping = false) :
      Refused w enums name members (.enumMembersNotMapping n (Access.className w members))
  | unhashable {n c : String} (hn : name.string? = some n) (hm : members.isMapping = true)
      (h : name.unhashable? = some c) : Refused w enums name members (.unhashable c)
  | taken {n : String} (hn : name.string? = some n) (hm : members.isMapping = true) (hu : name.unhashable? = none)
      (h : n ∈ enums.map Prod.fst) : Refused w enums name members (.duplicateEnum n)

theorem Refused.checkEnum {name members : Value} {f : Failure} (h : Refused w enums name members f) :
    checkEnum w enums name members = .error f := by
  unfold Definition.checkEnum
  cases h with
  | nameNotText h => rw [h]
  | membersNotMapping hn h => simp only [hn, h, Bool.not_false, if_true]
  | unhashable hn hm h => simp only [hn, hm, h, Bool.not_true, Bool.false_eq_true, if_false]
  | taken hn hm hu h => simp only [hn, hm, hu, Fields.has_iff.2 h, Bool.not_true, Bool.false_eq_true, if_false, if_true]

/-- There is one reason to refuse a definition. -/
theorem Refused.unique {name members : Value} {f f' : Failure} (h : Refused w enums name members f)
    (h' : Refused w enums name members f') : f = f' :=
  Except.error.inj (h.checkEnum.symm.trans h'.checkEnum)

/-- A definition is refused for a reason, or let through under a name that is free. -/
theorem refused_or_free (w : World) (enums : List (String × Value)) (name members : Value) :
    (∃ f, Refused w enums name members f) ∨
      ∃ n, name.string? = some n ∧ members.isMapping = true ∧ name.unhashable? = none ∧ n ∉ enums.map Prod.fst := by
  cases hn : name.string? with
  | none => exact .inl ⟨_, .nameNotText hn⟩
  | some n =>
    cases hm : members.isMapping with
    | false => exact .inl ⟨_, .membersNotMapping hn hm⟩
    | true =>
      cases hu : name.unhashable? with
      | some c => exact .inl ⟨_, .unhashable hn hm hu⟩
      | none =>
        by_cases hmem : n ∈ enums.map Prod.fst
        · exact .inl ⟨_, .taken hn hm hu hmem⟩
        · exact .inr ⟨n, rfl, rfl, rfl, hmem⟩

theorem checkEnum_of_free {name members : Value} {n : String} (hn : name.string? = some n)
    (hm : members.isMapping = true) (hu : name.unhashable? = none) (hfree : n ∉ enums.map Prod.fst) :
    checkEnum w enums name members = .ok (n, entriesOf w members) := by
  have hhas : Fields.has enums n = false := Bool.eq_false_iff.2 fun h => hfree (Fields.has_iff.1 h)
  unfold Definition.checkEnum
  simp only [hn, hm, hu, hhas, Bool.not_true, Bool.false_eq_true, if_false]

/-! ## What a definition enters -/

theorem run_registered? {s : System} (hs : w.system? sys = some s) {name : Value} (hu : name.unhashable? = none) :
    (registered? sys name).run w = (.ok (name.string?.bind (Fields.get? s.enums)), w) := by
  simp only [registered?, hu]
  exact Action.run_bind_of_ok (Query.run_system hs)

/-- Only what can be looked up is found. -/
theorem registered?_eq_some {s : System} (hs : w.system? sys = some s) {name e : Value} {v : World}
    (h : (registered? sys name).run w = (.ok (some e), v)) :
    name.unhashable? = none ∧ ∃ n, name.string? = some n ∧ Fields.get? s.enums n = some e := by
  cases hu : name.unhashable? with
  | some c =>
    simp only [registered?, hu, Action.run_bind, Action.run_throw] at h
    cases h
  | none =>
    rw [run_registered? hs hu] at h
    exact ⟨rfl, Option.bind_eq_some_iff.1 (Except.ok.inj (Prod.mk.inj h).1)⟩

/-- An error that says which argument is wrong. -/
def Blames (f : Failure) (index : Int) : Prop := f.kind = .argument ∧ ("index", .ofInt index) ∈ f.details

/-- **Which error refuses a definition** tells what was wrong with it. -/
theorem Refused.cause {name members : Value} {f : Failure} (h : Refused w enums name members f) :
    (Blames f 1 ↔ name.string? = none) ∧
    (Blames f 2 ↔ name.string?.isSome = true ∧ members.isMapping = false) ∧
    (f.kind = .duplicateDefinition ↔ name.string?.isSome = true ∧ members.isMapping = true ∧
      name.unhashable? = none ∧ ∃ n ∈ enums.map Prod.fst, name.string? = some n) := by
  cases h with
  | nameNotText h => simp [Blames, Failure.kind, Failure.details, Failure.argumentDetails, h, Value.ofInt]
  | membersNotMapping hn h => simp [Blames, Failure.kind, Failure.details, Failure.argumentDetails, hn, h, Value.ofInt]
  | unhashable hn hm h => simp [Blames, Failure.kind, hn, hm, h]
  | taken hn hm hu h => simpa [Blames, Failure.kind, hn, hm, hu] using h

/-- **A definition that is not refused** is entered, told, and ends as the telling ends. What it entered is found from then
on, and cannot be defined again. -/
theorem define_once {s : System} (hs : w.system? sys = some s) {react : Reaction}
    {scope : Order → Prop} (hreact : react.Conducts (Spares sys) scope) {name members : Value} {n : String}
    (hn : name.string? = some n) (hm : members.isMapping = true) (hu : name.unhashable? = none)
    (hfree : n ∉ s.enums.map Prod.fst) :
    ∃ e w₁ told u, e = .enum w.enumCount n (entriesOf w members) ∧
      w₁.system? sys = some { s with enums := s.enums ++ [(n, e)] } ∧ w₁.events = w.events ∧
      (registered? sys name).run w₁ = (.ok (some e), w₁) ∧
      (announce react s.manager (.enum n e)).run w₁ = (told, u) ∧
      (defineEnumWith react sys name members).run w = (told.map fun _ => e, u) ∧
      (registered? sys name).run u = (.ok (some e), u) ∧
      (∃ s', u.system? sys = some s' ∧ s.enums ++ [(n, e)] <+: s'.enums) ∧
      ∀ react', (defineEnumWith react' sys name members).run u = (.error (.duplicateEnum n), u) := by
  have hc : checkEnum w s.enums name members = .ok (n, entriesOf w members) := checkEnum_of_free hn hm hu hfree
  have hhas : Fields.has s.enums n = false := checkEnum_eq_ok hc
  have hentered := system?_enterEnum w sys sys n (entriesOf w members)
  rw [hs, Option.map_some, if_pos rfl] at hentered
  cases htold : (announce react s.manager (.enum n (.enum w.enumCount n (entriesOf w members)))).run
      (enterEnum w sys n (entriesOf w members)).1 with
  | mk told u =>
    have hlater : Unfolds (Spares sys) (enterEnum w sys n (entriesOf w members)).1 u :=
      announce_unfolds (fun p w r w' h => (hreact p _ w r w' h).unfolds) htold
    obtain ⟨s', hs', hprefix, -⟩ := Unfolds.grows hlater _ hentered
    have hget : Fields.get? s'.enums n = some (.enum w.enumCount n (entriesOf w members)) :=
      get?_of_prefix hprefix (get?_append_self hhas _)
    refine ⟨_, _, told, u, rfl, hentered, rfl, ?_, htold, run_defineEnumWith_of_ok hs hc htold, ?_, ⟨s', hs', hprefix⟩,
      fun react' => ?_⟩
    · rw [run_registered? hentered hu, hn, Option.bind_some, get?_append_self hhas]
    · rw [run_registered? hs' hu, hn, Option.bind_some, hget]
    · have hmem : n ∈ s'.enums.map Prod.fst :=
        List.mem_map.2 ⟨_, hprefix.subset (List.mem_append_right _ List.mem_cons_self), rfl⟩
      exact run_defineEnumWith_of_error hs' (Refused.taken hn hm hu hmem).checkEnum

/-- What stands under the name that is looked up is found, and it is an enumeration of that name. -/
theorem WriteOnce.found (h : WriteOnce enums) {n : String} {e : Value} (he : Fields.get? enums n = some e) :
    ∃ i ms, e = .enum i n ms := by
  obtain ⟨x, hx, rfl⟩ := Option.map_eq_some_iff.1 he
  obtain ⟨i, ms, heq⟩ := h.named x (List.mem_of_find?_eq_some hx)
  have hname : x.1 = n := by simpa using List.find?_some hx
  exact ⟨i, ms, hname ▸ heq⟩

theorem spares_changeExcluded (w : World) (other : String) (f : List String → List String) :
    Spares sys w (w.changeExcluded other f) := fun s hs => by
  unfold World.changeExcluded
  rw [World.system?_modifySystem, hs]
  by_cases hother : sys = other
  · exact ⟨{ s with excluded := f s.excluded }, by rw [Option.map_some, if_pos hother], rfl⟩
  · exact ⟨s, by rw [Option.map_some, if_neg hother], rfl⟩

theorem spares_ensureSystem (w : World) (other : String) : Spares sys w (w.ensureSystem other) := fun s hs => by
  rcases w.ensureSystem_cases other with heq | ⟨hnone, s', heq⟩
  · exact ⟨s, heq.symm ▸ hs, rfl⟩
  · have hne : sys ≠ other := fun h => nomatch (h ▸ hs).symm.trans hnone
    rw [heq]
    exact ⟨s, (Fields.get?_set_of_ne _ _ hne).trans hs, rfl⟩

theorem react_spares : Definition.react.Conducts (Spares sys) fun _ => True :=
  react_conducts (fun h => .of_systems h.systems) (fun w => spares_ensureSystem w _) (fun w _ => spares_changeExcluded w _ _)
    (fun _ _ => trivial) (fun _ _ _ _ _ _ => trivial)

/-- A world with an outside object, and a type system whose plugins define in turn: a class for every enumeration, an
enumeration for every class. -/
def echoWorld : World :=
  { World.initial with
    foreigns := [⟨.absent, .absent, []⟩]
    systems := [("main", ⟨Union.defaultDelimiter, [], defaultExcluded, 0⟩)]
    managers := [⟨[("a", ⟨"a", 0, "A", false, [.classCreated], .defineEnum⟩),
      ("b", ⟨"b", 1, "B", false, [.enumDefined], .defineClass⟩)], false⟩] }

end Lineage.Definition
