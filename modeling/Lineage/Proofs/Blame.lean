import Mathlib
import Lineage.Proofs.Conduct

/-!
# Blame — the place of an error is the same frame, however the library is entered

Each way into the library puts its own functions between the caller and the function that looks the place up, and each function
that raises an error stands at another depth. The depths that are passed along make up for that: an assertion of a type is blamed
on the caller that its depth counts out, an assertion of an argument on the caller of the function that checks it, and a class
definition that is refused on the caller that its depth counts out, whatever it is refused for
(`entry_points_blame_the_same_frame`).

The callers are any list of frames, the innermost first. Where the list is too short, the place is none.
-/

set_option autoImplicit false

namespace Lineage

/-- The errors of uses blame nobody. -/
theorem Uses.blames {α : Type} {a : Action α} (ha : ∀ [Lasting], Uses a) {w u : World} {f : Failure}
    (h : a.run w = (.error f, u)) : f.blames = false :=
  let _ : Lasting := ⟨fun _ => True, fun _ h => h⟩
  (ha.run_eq h trivial).2

/-! ## Blaming one place -/

/-- **An action blames one place only:** all its errors that blame somebody name that place. -/
def BlamesOnly {α : Type} (site : Option Frame) (a : Action α) : Prop :=
  ∀ w f u, a.run w = (.error f, u) → f.blames = true → f.place? = some site

namespace BlamesOnly

variable {α β : Type} {site : Option Frame} {a : Action α} {g : α → Action β}

theorem of_uses (ha : ∀ [Lasting], Uses a) : BlamesOnly site a := by
  intro w f u h hblames
  rw [Uses.blames ha h] at hblames
  cases hblames

theorem of_ok (ha : ∀ w, ∃ x u, a.run w = (.ok x, u)) : BlamesOnly site a := by
  intro w f u h
  obtain ⟨x, u', hx⟩ := ha w
  cases hx.symm.trans h

theorem throw {f : Failure} (h : f.blames = true → f.place? = some site) :
    BlamesOnly site (MonadExcept.throw f : Action α) := by
  intro w f' u hrun
  cases hrun
  exact h

/-- Nothing comes after an error. -/
theorem throw_bind {f : Failure} (h : f.blames = true → f.place? = some site) :
    BlamesOnly site (MonadExcept.throw f >>= g) := by
  intro w f' u hrun
  cases hrun
  exact h

theorem lift {x : Except Failure α} (h : ∀ f, x = .error f → f.blames = false) :
    BlamesOnly site (liftM x : Action α) := by
  intro w f u hrun hblames
  cases x with
  | ok y => cases hrun
  | error f' =>
    cases hrun
    rw [h f rfl] at hblames
    cases hblames

theorem bind (ha : BlamesOnly site a) (hg : ∀ x, BlamesOnly site (g x)) : BlamesOnly site (a >>= g) := by
  intro w f u h
  rcases Action.bind_eq_error.1 h with h | ⟨x, w₁, -, h⟩
  · exact ha w f u h
  · exact hg x w₁ f u h

theorem pure (x : α) : BlamesOnly site (Pure.pure x : Action α) := of_ok fun w => ⟨x, w, rfl⟩

theorem get_bind {g : World → Action β} (hg : ∀ w, BlamesOnly site (g w)) :
    BlamesOnly site ((get : Action World) >>= g) :=
  bind (of_ok fun w => ⟨w, w, rfl⟩) hg

end BlamesOnly

namespace Query

variable {sys : String} {v expression label : Value} {e : String} {site : Option Frame}

/-! ## Assertions -/

theorem require_blamesOnly (he : expression.string? = some e) :
    BlamesOnly site (require sys v expression label site) := by
  refine .bind (.of_uses (typeOf_uses he sys v)) fun answer => ?_
  cases answer with
  | true => exact .pure ()
  | false =>
    refine .bind (.of_uses (typeName_uses v)) fun actual => .get_bind fun w => ?_
    by_cases hlabel : (w.read label).isTruthy = true
    · rw [if_pos hlabel]
      exact .bind (.of_uses (Access.shown_uses label)) fun _ => .throw fun _ => rfl
    · rw [if_neg hlabel]
      exact .bind (.pure "") fun _ => .throw fun _ => rfl

theorem requireArgument_blamesOnly (he : expression.string? = some e) (index : Value) :
    BlamesOnly site (requireArgument sys index v expression site) := by
  refine .bind (.of_uses (typeOf_uses he sys v)) fun answer => ?_
  cases answer with
  | true => exact .pure ()
  | false =>
    refine .bind (.of_uses (typeName_uses v)) fun actual => ?_
    exact .bind (.of_uses (Access.shown_uses index)) fun _ => .throw fun _ => rfl

end Query

namespace Definition

/-! ## Examinations -/

variable {b : Blueprint} {site : Option Frame}

theorem checkName_blamesOnly (hsite : b.site = site)
    (hname : CallStack.locate b.callers (Query.assertionFrame "assert_argument" :: buildFrame :: b.inner) (b.depth + 1) =
      site) : BlamesOnly site (checkName b) := by
  unfold checkName
  rw [hname, hsite]
  refine .bind (Query.requireArgument_blamesOnly (Value.string?_ofString "string") _) fun _ => .get_bind fun w => ?_
  by_cases htruthy : (!(w.read b.name).isTruthy) = true
  · rw [if_pos htruthy]
    exact .throw fun _ => rfl
  · rw [if_neg htruthy]
    exact .pure ()

theorem checkParents_blamesOnly (site : Option Frame) (index : Nat) (vs : List Value) :
    BlamesOnly site (checkParents site index vs) := by
  induction vs generalizing index with
  | nil => exact .pure []
  | cons v vs ih =>
    cases v with
    | cls i =>
      refine .get_bind fun w => ?_
      cases w.class? i with
      | none => exact .throw nofun
      | some c => exact .bind (ih (index + 1)) fun _ => .pure _
    | _ => exact .bind (.of_uses (Query.typeName_uses _)) fun _ => .throw fun _ => rfl

theorem blames_of_classText {w : World} {name : Value} {f : Failure} (h : classText w name = .error f) :
    f.blames = false := by
  unfold classText at h
  split at h
  · cases h
    rfl
  · split at h
    · cases h
      rfl
    · split_ifs at h
      cases h
      rfl

theorem blames_of_birth {w : World} {name : String} {parents : List Nat} {f : Failure}
    (h : birth w b name parents = .error f) : f.blames = false := by
  unfold birth at h
  cases hq : qualifiedName w name b.own with
  | error g =>
    rw [hq] at h
    cases h
    unfold qualifiedName at hq
    split at hq
    · cases hq
    · split at hq
      · cases hq
      · cases hq
        rfl
  | ok q =>
    rw [hq] at h
    cases hc : cell? w b parents with
    | some c =>
      rw [hc] at h
      cases h
      rfl
    | none =>
      rw [hc] at h
      cases h

/-- **An examination blames one place,** whatever it finds fault with. -/
theorem examine_blamesOnly (hsite : b.site = site)
    (hname : CallStack.locate b.callers (Query.assertionFrame "assert_argument" :: buildFrame :: b.inner) (b.depth + 1) =
      site) : BlamesOnly site (examine b) := by
  refine .bind (checkName_blamesOnly hsite hname) fun _ => ?_
  rw [hsite]
  refine .bind (checkParents_blamesOnly site 2 b.parents) fun given => ?_
  cases reservedIn? b.own with
  | some key =>
    exact .bind (.of_uses (Access.shown_uses b.name)) fun _ => .throw_bind fun _ => rfl
  | none =>
    refine .get_bind fun w => ?_
    exact .bind (.lift fun _ => blames_of_classText) fun name => .lift fun _ => blames_of_birth

/-! ## Refusals -/

/-- **A definition is refused at one place:** an error of its own that blames somebody, and leaves no class behind, names that
place. Once there is a class, an error is one of the plugins that are told of it. -/
def RefusesAt (site : Option Frame) (a : Action Value) : Prop :=
  ∀ w f u, a.run w = (.error f, u) → f.blames = true → u.classes.length = w.classes.length → f.place? = some site

/-- **A definition is made in the module of one frame:** it is refused, or there is that frame, and its module, if it has a
name, is what the new class is built with. -/
def DefinesIn (frame : Option Frame) (a : Action Value) : Prop :=
  ∀ w r u, a.run w = (r, u) → (∃ f, r = .error f ∧ u.classes.length = w.classes.length) ∨
    ∃ F, frame = some F ∧ (CallStack.moduleOf F ≠ "" → ∃ i c, .built i c ∈ u.journal ∧
      c.module = .ofString (CallStack.moduleOf F) ∧ ∀ x, r = .ok x → x = .cls i)

theorem addProbe_located {b probed : Blueprint} {w u : World} (h : (addProbe b).run w = (.ok probed, u)) :
    probed.inner = b.inner ∧ probed.depth = b.depth ∧ probed.callers = b.callers := by
  unfold addProbe at h
  split at h <;> cases h <;> exact ⟨rfl, rfl, rfl⟩

/-- A blueprint that is blamed on a caller. -/
structure Blueprint.BlamedOn (b : Blueprint) (k : Nat) : Prop where
  pos : 0 < k
  depth : b.depth = b.inner.length + k

theorem Blueprint.BlamedOn.examine {b : Blueprint} {k : Nat} (h : b.BlamedOn k) :
    BlamesOnly b.callers[k - 1]? (Definition.examine b) := by
  have hdepth := h.depth
  refine examine_blamesOnly (CallStack.locate_caller h.pos ?_) (CallStack.locate_caller h.pos ?_)
  · rw [List.length_cons]
    omega
  · rw [List.length_cons, List.length_cons]
    omega

/-- **How a build goes:** the examination fails and nothing else is done, or its class is entered and the plugins are told. -/
theorem run_build {b : Blueprint} {w u : World} {r : Except Failure Value} (h : (build b).run w = (r, u)) :
    ∃ probed w₁, (addProbe b).run w = (.ok probed, w₁) ∧
      ((∃ f, r = .error f ∧ (examine probed).run w₁ = (.error f, u)) ∨
        ∃ c v, (examine probed).run w₁ = (.ok c, v) ∧ Reaches w v ∧ Reaches (enterClass v c).1 u ∧
          ∀ x, r = .ok x → x = .cls v.classes.length) := by
  obtain ⟨probed, w₁, hprobed, hidle⟩ := run_addProbe b w
  refine ⟨probed, w₁, hprobed, ?_⟩
  rw [build, buildWith, Action.run_bind_of_ok hprobed] at h
  cases hexamined : (examine probed).run w₁ with
  | mk rc v =>
    have hv : Idle w v := hidle.trans (.of_lasts (examine_lasts probed) hexamined)
    cases rc with
    | error f =>
      rw [Action.run_bind_of_error hexamined] at h
      cases h
      exact .inl ⟨f, rfl, rfl⟩
    | ok c =>
      rw [Action.run_bind_of_ok hexamined, Action.run_bind_of_ok (Action.run_get v)] at h
      let _ := Enduring.reached (enterClass v c).1
      cases (Action.run_bind_pure (announce react c.manager (.cls v.classes.length c.parents)) _ _).symm.trans h
      exact .inr ⟨c, v, rfl, hv.reaches, Lasts.run (react_announce_lasts _ _) .refl, fun x => Action.eq_of_map_const⟩

/-- **A refused class is blamed on one caller:** an error that leaves no class behind and blames somebody names the place that the
depth counts out to. -/
theorem build_refusal_located {b : Blueprint} {k : Nat} (hb : b.BlamedOn k) : RefusesAt b.callers[k - 1]? (build b) := by
  intro w f u h hblames hnone
  obtain ⟨probed, w₁, hprobed, ⟨_, hf, hexamined⟩ | ⟨c, v, -, hv, hu, -⟩⟩ := run_build h
  · cases hf
    obtain ⟨hinner, hdepth, hcallers⟩ := addProbe_located hprobed
    have hprobedOn : probed.BlamedOn k := ⟨hb.pos, by rw [hinner, hdepth, hb.depth]⟩
    rw [← hcallers]
    exact hprobedOn.examine _ _ _ hexamined hblames
  · -- the class would be there, and stay
    have hgrown : v.classes.length + 1 ≤ u.classes.length :=
      (List.length_append ▸ le_rfl : v.classes.length + 1 ≤ (v.classes ++ [_]).length).trans hu.length_classes_le
    have hless := hv.length_classes_le
    omega

/-- A class that is entered has the module that its body names. -/
theorem build_module {b : Blueprint} {m : Value} (hprobe : b.probe = none) (hown : b.own = [("__module__", m)])
    {w u : World} {r : Except Failure Value} (h : (build b).run w = (r, u)) :
    (∃ f, r = .error f ∧ u.classes.length = w.classes.length) ∨
      ∃ i c, .built i c ∈ u.journal ∧ c.module = m ∧ ∀ x, r = .ok x → x = .cls i := by
  obtain ⟨probed, w₁, hprobed, hrest⟩ := run_build h
  rw [addProbe, hprobe] at hprobed
  cases hprobed
  rcases hrest with ⟨f, rfl, hexamined⟩ | ⟨c, v, hexamined, -, hu, hr⟩
  · exact .inl ⟨f, rfl, length_classes_of_lasts (examine_lasts b) hexamined⟩
  · obtain ⟨_, _, _, -, -, -, -, hbirth⟩ := examine_ok_iff.1 hexamined
    have hmodule := module_of_birth hbirth
    rw [hown] at hmodule
    exact .inr ⟨v.classes.length, c, Reaches.mem_journal hu (List.mem_append_right _ List.mem_cons_self), hmodule, hr⟩

/-! ## Through a type system -/

/-- A blueprint that is made through a type system is blamed on the caller that is counted out to from there. -/
theorem blamedOn_of_system {inner : List Frame} {k : Nat} (hk : 0 < k) {sys : String} {s : System} {name : Value}
    {parents : List Value} {own : Fields} {callers : List Frame} {depth : Int} (hdepth : depth = inner.length + k) :
    Blueprint.BlamedOn ⟨sys, s.manager, s.excluded, name, parents, own, none, Query.systemFrame "define_class" :: inner,
      depth + 1, callers⟩ k where
  pos := hk
  depth := by
    dsimp only
    rw [List.length_cons]
    omega

/-- The frame that a class is defined on behalf of is the caller that errors are blamed on. -/
theorem getElem?_caller {inner callers : List Frame} {k : Nat} (hk : 0 < k) {depth : Int}
    (hdepth : depth = inner.length + k) :
    (Query.systemFrame "define_class" :: inner ++ callers)[depth.toNat]? = callers[k - 1]? := by
  have hn : depth.toNat = inner.length + (k - 1) + 1 := by omega
  rw [hn, List.cons_append, List.getElem?_cons_succ, List.getElem?_append_right (by omega), Nat.add_sub_cancel_left]

variable {callers inner : List Frame} {sys : String} {name : Value} {parents : List Value} {depth : Int} {k : Nat}
  {w u : World}

/-- A definition through a type system is a build of a class of a given module; without one, and without a caller to take it
from, it is refused before anything is done. -/
theorem run_defineClassFor (hk : 0 < k) (hdepth : depth = inner.length + k) {module : Option Value}
    {r : Except Failure Value} (h : (defineClassFor callers react sys name parents module inner depth).run w = (r, u)) :
    (∃ f, r = .error f ∧ u = w ∧ f.blames = false) ∨
      ∃ m b, (module = none → ∃ F, callers[k - 1]? = some F ∧ m = .ofString (CallStack.moduleOf F)) ∧
        (∀ x, module = some x → m = x) ∧ b.BlamedOn k ∧ b.callers = callers ∧ b.probe = none ∧
        b.own = (if (w.read m).isTruthy then [("__module__", m)] else []) ∧ (build b).run w = (r, u) := by
  cases hs : w.system? sys with
  | none =>
    rw [defineClassFor, Action.run_bind_of_error (Query.run_system_of_none hs)] at h
    cases h
    exact .inl ⟨_, rfl, rfl, rfl⟩
  | some s =>
    rw [defineClassFor, Action.run_bind_of_ok (Query.run_system hs)] at h
    cases module with
    | some m =>
      rw [Action.run_bind_of_ok (Action.run_pure m w), Action.run_bind_of_ok (Action.run_get w)] at h
      exact .inr ⟨m, _, fun hm => absurd hm (Option.some_ne_none m), fun x hx => Option.some.inj hx,
        blamedOn_of_system hk hdepth, rfl, rfl, rfl, h⟩
    | none =>
      dsimp only at h
      rw [getElem?_caller hk hdepth] at h
      cases hF : callers[k - 1]? with
      | none =>
        rw [hF] at h
        cases h
        exact .inl ⟨_, rfl, rfl, rfl⟩
      | some F =>
        rw [hF] at h
        rw [Action.run_bind_of_ok (Action.run_pure _ w), Action.run_bind_of_ok (Action.run_get w)] at h
        exact .inr ⟨_, _, fun _ => ⟨F, rfl, rfl⟩, fun x hx => absurd hx.symm (Option.some_ne_none x),
          blamedOn_of_system hk hdepth, rfl, rfl, rfl, h⟩

/-- A class that a type system refuses is blamed on the caller that its depth counts out to. -/
theorem defineClass_refusal_located (hk : 0 < k) (hdepth : depth = inner.length + k) (module : Option Value) :
    RefusesAt callers[k - 1]? (defineClassFor callers react sys name parents module inner depth) := by
  intro w f u h hblames hnone
  rcases run_defineClassFor hk hdepth h with ⟨_, hf, -, hsilent⟩ | ⟨m, b, -, -, hb, rfl, -, -, hbuild⟩
  · cases hf
    rw [hsilent] at hblames
    cases hblames
  · exact build_refusal_located hb w f u hbuild hblames hnone

/-- A class that is defined without a module gets that of the caller that its depth counts out to. -/
theorem defineClass_module (hk : 0 < k) (hdepth : depth = inner.length + k) :
    DefinesIn callers[k - 1]? (defineClassFor callers react sys name parents none inner depth) := by
  intro w r u h
  rcases run_defineClassFor hk hdepth h with ⟨f, hf, rfl, -⟩ | ⟨m, b, hmodule, -, -, -, hprobe, hown, hbuild⟩
  · exact .inl ⟨f, hf, rfl⟩
  · obtain ⟨F, hF, rfl⟩ := hmodule rfl
    by_cases hempty : CallStack.moduleOf F = ""
    · exact .inr ⟨F, hF, fun hne => absurd hempty hne⟩
    · have htruthy : (w.read (.ofString (CallStack.moduleOf F))).isTruthy = true := Value.isTruthy_ofString hempty
      rw [if_pos htruthy] at hown
      rcases build_module hprobe hown hbuild with hrefused | hbuilt
      · exact .inl hrefused
      · exact .inr ⟨F, hF, fun _ => hbuilt⟩

/-! ## All entry points -/

/-- **All entry points blame the same frame.** Take the frames that lead to a call of the library, the innermost first, as many
as there are. An assertion of a type with a positive depth is blamed on the frame that is counted out, directly, through a type
system and through the package alike; an assertion of an argument on the second. A definition that is refused, for its name,
its parents or its body, is blamed on the frame that its depth counts out, by the builder and through a type system; by
a class statement and through the package on the first. Without a module, a class gets that of the same frame. -/
theorem entry_points_blame_the_same_frame (callers : List Frame) :
    -- assertions
    (∀ entry sys v expression e label (k : Nat), expression.string? = some e → 0 < k →
      BlamesOnly callers[k - 1]? (Query.assertTypeFor callers entry sys v expression label k)) ∧
    (∀ entry sys index v expression e, expression.string? = some e →
      BlamesOnly callers[1]? (Query.assertArgumentFor callers entry sys index v expression none)) ∧
    -- the builder and the class statement
    (∀ sys manager excluded name parents own probe (k : Nat), 0 < k →
      RefusesAt callers[k - 1]? (build ⟨sys, manager, excluded, name, parents, own, probe, [], k, callers⟩)) ∧
    (∀ sys s name bases body probe stack,
      RefusesAt callers[0]? (build { Script.statementBlueprint sys s name bases body probe stack with callers })) ∧
    -- through a type system, and through the package
    (∀ sys name parents (k : Nat), 0 < k →
      (∀ module, RefusesAt callers[k - 1]? (defineClassFor callers react sys name parents module [] k)) ∧
        DefinesIn callers[k - 1]? (defineClassFor callers react sys name parents none [] k)) ∧
    ∀ sys name parents,
      (∀ module, RefusesAt callers[0]?
        (defineClassFor callers react sys name parents module [Query.packageFrame "define_class"] 2)) ∧
        DefinesIn callers[0]?
          (defineClassFor callers react sys name parents none [Query.packageFrame "define_class"] 2) := by
  refine ⟨?_, ?_, ?_, ?_, ?_, ?_⟩
  · intro entry sys v expression e label k he hk
    have hplace : CallStack.locate callers (entry.frames "assert_type") (entry.typeDepth k) = callers[k - 1]? := by
      refine CallStack.locate_caller hk ?_
      cases entry <;> simp [Query.Entry.frames, Query.Entry.typeDepth] <;> omega
    rw [← hplace]
    exact Query.require_blamesOnly he
  · intro entry sys index v expression e he
    have hplace : CallStack.locate callers (entry.frames "assert_argument") (entry.argumentDepth none) = callers[1]? := by
      cases entry <;> exact CallStack.locate_caller (k := 2) Nat.two_pos rfl
    rw [← hplace]
    exact Query.requireArgument_blamesOnly he index
  · intro sys manager excluded name parents own probe k hk
    exact build_refusal_located ⟨hk, (zero_add _).symm⟩
  · intro sys s name bases body probe stack
    exact build_refusal_located (k := 1) ⟨Nat.one_pos, rfl⟩
  · intro sys name parents k hk
    have hdepth : (k : Int) = ([] : List Frame).length + k := (zero_add _).symm
    exact ⟨defineClass_refusal_located hk hdepth, defineClass_module hk hdepth⟩
  · intro sys name parents
    have hdepth : (2 : Int) = [Query.packageFrame "define_class"].length + (1 : Nat) := rfl
    exact ⟨defineClass_refusal_located Nat.one_pos hdepth, defineClass_module Nat.one_pos hdepth⟩

/-- Whether a run ended in an error that blames somebody, and left as many classes as there were. -/
def refused {α : Type} (w : World) (result : Except Failure α × World) : Bool :=
  match result with
  | (.error f, u) => f.blames && u.classes.length == w.classes.length
  | (.ok _, _) => false

theorem refused_iff {α : Type} {w : World} {result : Except Failure α × World} :
    refused w result = true ↔
      ∃ f u, result = (.error f, u) ∧ f.blames = true ∧ u.classes.length = w.classes.length := by
  obtain ⟨r, u⟩ := result
  cases r with
  | error f => simp [refused]
  | ok x => simp [refused]

/-- Asserting through the package that a number is a text, and defining a class without a name, two steps out of `f`, both are
blamed on `g`, which called it. -/
theorem g_is_blamed :
    (Value.ofString "string").string? = some "string" ∧ 0 < 2 ∧
      (∃ f u, (Query.assertTypeFor [.user "f", .user "g"] .package "main" (.ofInt 1) (.ofString "string") .nil 2).run
        (World.initial.ensureSystem "main") = (.error f, u) ∧ f.place? = some (some (.user "g"))) ∧
      ∃ f u, (defineClassFor [.user "f", .user "g"] react "main" (.ofString "") [] none [] 2).run
        (World.initial.ensureSystem "main") = (.error f, u) ∧ f.place? = some (some (.user "g")) := by
  have hstring := Value.string?_ofString "string"
  obtain ⟨htype, -, -, -, hclass, -⟩ := entry_points_blame_the_same_frame [.user "f", .user "g"]
  have hasserted : refused (World.initial.ensureSystem "main") ((Query.assertTypeFor [.user "f", .user "g"] .package "main"
      (.ofInt 1) (.ofString "string") .nil 2).run (World.initial.ensureSystem "main")) = true := by decide +kernel
  have hdefined : refused (World.initial.ensureSystem "main") ((defineClassFor [.user "f", .user "g"] react "main"
      (.ofString "") [] none [] 2).run (World.initial.ensureSystem "main")) = true := by decide +kernel
  obtain ⟨f₁, u₁, hrun₁, hblames₁, -⟩ := refused_iff.1 hasserted
  obtain ⟨f₂, u₂, hrun₂, hblames₂, hnone₂⟩ := refused_iff.1 hdefined
  have hplace₁ := htype .package "main" (.ofInt 1) (.ofString "string") "string" .nil 2 hstring Nat.two_pos _ _ _ hrun₁ hblames₁
  have hplace₂ := (hclass "main" (.ofString "") [] 2 Nat.two_pos).1 none _ _ _ hrun₂ hblames₂ hnone₂
  exact ⟨hstring, Nat.two_pos, ⟨f₁, u₁, hrun₁, hplace₁⟩, f₂, u₂, hrun₂, hplace₂⟩

end Definition

end Lineage
