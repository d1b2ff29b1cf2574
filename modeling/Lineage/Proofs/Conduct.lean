import Mathlib
import Lineage.Proofs.Ancestry

/-!
# Conduct — definitions among plugins that do what they like

A definition that is not refused enters one thing and then tells the plugins of it. What plugins do is not known here: a
`Reaction` may raise an error, change members, or order definitions in turn, with plugins that react in any such way again.
`Conducts` is a run of that kind: orders are carried out one after the other, what plugins do in an order is again such a run,
and what else may happen in between is left to the law that is proved (`aside`).

`run_carryOut` says how one order goes: it is refused, and then nothing was done but looking (`Idle`), or one thing is
entered (`Enters`) and announced, and its outcome is that of the announcement. `Conducts.unfolds` takes a whole run apart
into such pieces, so that a law holds at every moment of it, those inside a definition included.
-/

set_option autoImplicit false

namespace Lineage

/-! ## What is looked at -/

/-- The class that a line of the journal builds for the plugins of a manager, with what it is built from. -/
def Entry.build? (m : Nat) : Entry → Option (Nat × Birth)
  | .built i b => if b.manager = m then some (i, b) else none
  | _ => none

namespace World

/-- The classes that were built for the plugins of a manager, with what they were built from, in their order. -/
def builds (w : World) (m : Nat) : List (Nat × Birth) := w.journal.filterMap (Entry.build? m)

theorem builds_commit (w : World) (e : Entry) (m : Nat) : (w.commit e).builds m = w.builds m ++ (e.build? m).toList := by
  rw [builds, commit_journal, List.filterMap_append]
  cases h : e.build? m <;> simp [h, builds]

/-- A type system that is there is left as it is; one that is not is made, with a manager of its own. -/
theorem ensureSystem_cases (w : World) (name : String) :
    w.ensureSystem name = w ∨ w.system? name = none ∧ ∃ s, w.ensureSystem name =
      { w with systems := Fields.set w.systems name s, managers := w.managers ++ [⟨[], false⟩] } := by
  unfold ensureSystem
  cases hs : w.system? name with
  | some s => exact .inl rfl
  | none => exact .inr ⟨rfl, _, rfl⟩

end World

namespace Definition

/-! ## Orders -/

/-- What can be ordered: an enumeration or a class of a type system, or a class from a blueprint. -/
inductive Order where
  | enum (sys : String) (name members : Value)
  | cls (sys : String) (name : Value) (parents : List Value) (module : Option Value) (inner : List Frame) (depth : Int)
      (stack : CallStack)
  | build (request : Blueprint)

/-- Orders are carried out by the program's own definitions, among plugins that react in a given way. -/
def Order.carryOut (react : Reaction) : Order → Action Value
  | .enum sys name members => defineEnumWith react sys name members
  | .cls sys name parents module inner depth stack => defineClassWith react sys name parents module inner depth stack
  | .build request => buildWith react request

/-- **A run of definitions.** Orders of a certain scope are carried out, one after the other, and other things happen aside.
What plugins do in an order is a run of the same kind, and may end well or in an error. -/
inductive Conducts (aside : World → World → Prop) (scope : Order → Prop) : World → World → Prop where
  | rest (w : World) : Conducts aside scope w w
  | aside {w u v : World} (h : aside w u) (hrest : Conducts aside scope u v) : Conducts aside scope w v
  | order {w u v : World} {react : Reaction} {o : Order} {r : Except Failure Value} (hscope : scope o)
      (hreact : ∀ p news w r w', (react p news).run w = (r, w') → Conducts aside scope w w')
      (h : (o.carryOut react).run w = (r, u)) (hrest : Conducts aside scope u v) : Conducts aside scope w v

variable {aside : World → World → Prop} {scope : Order → Prop} {react : Reaction}

/-- Plugins that do nothing but conduct themselves so. -/
abbrev Reaction.Conducts (aside : World → World → Prop) (scope : Order → Prop) (react : Reaction) : Prop :=
  ∀ p news w r w', (react p news).run w = (r, w') → Definition.Conducts aside scope w w'

theorem Conducts.trans {u v w : World} (h : Conducts aside scope u v) (h' : Conducts aside scope v w) :
    Conducts aside scope u w := by
  induction h with
  | rest => exact h'
  | aside h _ ih => exact .aside h (ih h')
  | order hscope hreact h _ _ ih => exact .order hscope hreact h (ih h')

/-! ## Looking -/

/-- **Nothing but looking.** Values may have been used, functions called and attributes set by them; the type systems, the
plugins and their log are as they were, and no class was built. -/
structure Idle (w u : World) : Prop where
  reaches : Reaches w u
  systems : u.systems = w.systems
  managers : u.managers = w.managers
  events : u.events = w.events
  builds : ∀ m, u.builds m = w.builds m

theorem Idle.refl (w : World) : Idle w w := ⟨.refl, .refl _, .refl _, .refl _, fun _ => .refl _⟩

theorem Idle.trans {u v w : World} (h : Idle u v) (h' : Idle v w) : Idle u w where
  reaches := Relation.ReflTransGen.trans h.reaches h'.reaches
  systems := h'.systems.trans h.systems
  managers := h'.managers.trans h.managers
  events := h'.events.trans h.events
  builds m := (h'.builds m).trans (h.builds m)

theorem idle_commit {w : World} {e : Entry} (he : ∀ m, e.build? m = none) (h : Use w (w.commit e)) :
    Idle w (w.commit e) := by
  have hbuilds (m : Nat) : (w.commit e).builds m = w.builds m := by
    rw [w.builds_commit, he, Option.toList_none, List.append_nil]
  have hreaches : Reaches w (w.commit e) := .single (.use h)
  obtain ⟨_, _, heq⟩ := w.commit_eq e
  rw [heq] at hbuilds hreaches ⊢
  exact ⟨hreaches, .refl _, .refl _, .refl _, hbuilds⟩

/-- Using values is idle. -/
theorem Idle.of_use {w u : World} (h : Use w u) : Idle w u := by
  cases h with
  | made h => exact idle_commit (fun _ => rfl) (.made h)
  | assigned on key x h => exact idle_commit (fun _ => rfl) (.assigned on key x h)
  | erased on key h => exact idle_commit (fun _ => rfl) (.erased on key h)
  | foreignAttributes i f => exact ⟨.single (.use (.foreignAttributes i f)), .refl _, .refl _, .refl _, fun _ => .refl _⟩
  | cells cs => exact ⟨.single (.use (.cells cs)), .refl _, .refl _, .refl _, fun _ => .refl _⟩
  | asked log => exact ⟨.single (.use (.asked log)), .refl _, .refl _, .refl _, fun _ => .refl _⟩

/-- What was idle is so still after a use. -/
abbrev idling (w : World) : Lasting where
  holds := Idle w
  use := fun h hw => hw.trans (.of_use h)

theorem Idle.of_lasts {α : Type} {a : Action α} (ha : ∀ [Lasting], Lasts a) {w u : World} {r : Except Failure α}
    (h : a.run w = (r, u)) : Idle w u :=
  let _ := idling w
  ha.run_eq h (.refl w)

theorem run_addProbe (b : Blueprint) (w : World) :
    ∃ probed u, (addProbe b).run w = (.ok probed, u) ∧ Idle w u := by
  unfold addProbe
  split
  · exact ⟨_, _, rfl, .refl w⟩
  · exact ⟨_, _, rfl, .single (.behaviour _), .refl _, .refl _, .refl _, fun _ => .refl _⟩

/-! ## What an order enters -/

/-- The blueprint that an order for a class amounts to. Through a system, a class gets no members but its module. -/
inductive Order.Requests (w : World) : Order → Blueprint → Prop where
  | cls {sys : String} {s : System} {name : Value} {parents : List Value} {module : Option Value} {inner : List Frame}
      {depth : Int} {stack : CallStack} (hs : w.system? sys = some s) {own : Fields}
      (hown : ∀ e ∈ own, e.1 = "__module__") :
      Requests w (.cls sys name parents module inner depth stack) ⟨sys, s.manager, s.excluded, name, parents, own, none,
        Query.systemFrame "define_class" :: inner, depth + 1, stack.callers⟩
  | build (request : Blueprint) : Requests w (.build request) request

theorem Order.Requests.idle {o : Order} {request : Blueprint} {w u : World} (h : o.Requests w request) (hu : Idle w u) :
    o.Requests u request := by
  cases h with
  | cls hs hown => exact .cls (by rw [World.system?, hu.systems]; exact hs) hown
  | build => exact .build request

/-- **What an order enters** into a world when it is not refused, with the manager whose plugins are told, what they are
told, and what the order gives: an enumeration under a name that is free, or a class that passed its examination. -/
inductive Enters (w : World) : Order → World → Nat → News → Value → Prop where
  | enum {sys n : String} {name members : Value} {s : System} {es : List (Value × Value)} (hs : w.system? sys = some s)
      (hc : checkEnum w s.enums name members = .ok (n, es)) :
      Enters w (.enum sys name members) (enterEnum w sys n es).1 s.manager (.enum n (enterEnum w sys n es).2)
        (enterEnum w sys n es).2
  | cls {o : Order} {request : Blueprint} {b : Birth} (ho : o.Requests w request) (hb : b.Requested request)
      (hm : b.manager = request.manager) (hfits : (Entry.built w.classes.length b).Fits w) :
      Enters w o (enterClass w b).1 b.manager (.cls w.classes.length b.parents) (.cls w.classes.length)

/-- What is entered is a change; the plugins and their log are as before. -/
theorem Enters.reaches {o : Order} {w u : World} {m : Nat} {news : News} {x : Value} (h : Enters w o u m news x) :
    Reaches w u ∧ u.managers = w.managers ∧ u.events = w.events := by
  let _ := Enduring.reached w
  cases h with
  | enum hs hc => exact ⟨holds_enterEnum hs hc .refl, rfl, rfl⟩
  | cls _ _ _ hfits => exact ⟨holds_enterClass hfits .refl, rfl, rfl⟩

section

variable {sys : String} {s : System} {w : World} (hs : w.system? sys = some s) {name members : Value}
include hs

/-- A definition that its checks refuse changes nothing. -/
theorem run_defineEnumWith_of_error {f : Failure} (hc : checkEnum w s.enums name members = .error f) :
    (defineEnumWith react sys name members).run w = (.error f, w) := by
  rw [defineEnumWith, Action.run_bind_of_ok (Query.run_system hs), Action.run_bind_of_ok (Action.run_get w), hc]
  rfl

/-- Any other enters its enumeration, and ends as the announcement ends. -/
theorem run_defineEnumWith_of_ok {n : String} {es : List (Value × Value)}
    (hc : checkEnum w s.enums name members = .ok (n, es)) {told : Except Failure Unit} {u : World}
    (htold : (announce react s.manager (.enum n (enterEnum w sys n es).2)).run (enterEnum w sys n es).1 = (told, u)) :
    (defineEnumWith react sys name members).run w = (told.map fun _ => (enterEnum w sys n es).2, u) := by
  have hlast := Action.run_bind_pure (announce react s.manager (.enum n (enterEnum w sys n es).2))
    (fun _ => (enterEnum w sys n es).2) (enterEnum w sys n es).1
  rw [htold] at hlast
  rw [defineEnumWith, Action.run_bind_of_ok (Query.run_system hs), Action.run_bind_of_ok (Action.run_get w), hc]
  exact hlast

end

/-- A class is refused after looking only, or it is entered and announced. -/
theorem run_buildWith {request : Blueprint} {w u : World} {r : Except Failure Value}
    (h : (buildWith react request).run w = (r, u)) :
    (∃ f, r = .error f ∧ Idle w u) ∨
      ∃ v b told, Idle w v ∧ b.Requested request ∧ b.manager = request.manager ∧
        (Entry.built v.classes.length b).Fits v ∧
        (announce react b.manager (.cls v.classes.length b.parents)).run (enterClass v b).1 = (told, u) ∧
        r = told.map fun _ => .cls v.classes.length := by
  obtain ⟨probed, w₁, hprobed, hidle⟩ := run_addProbe request w
  rw [buildWith, Action.run_bind_of_ok hprobed] at h
  cases hexamined : (examine probed).run w₁ with
  | mk rb v =>
    have hv : Idle w v := hidle.trans (.of_lasts (examine_lasts probed) hexamined)
    cases rb with
    | error f =>
      rw [Action.run_bind_of_error hexamined] at h
      cases h
      exact .inl ⟨f, rfl, hv⟩
    | ok b =>
      obtain ⟨hname, hparents, hmanager⟩ := addProbe_eq_ok hprobed
      obtain ⟨hbname, -, hbmanager, -, -, given, hgiven, hbparents, -⟩ := examine_eq_ok hexamined
      rw [Action.run_bind_of_ok hexamined, Action.run_bind_of_ok (Action.run_get v)] at h
      cases (Action.run_bind_pure _ _ _).symm.trans h
      exact .inr ⟨v, b, _, hv, ⟨hname ▸ hbname, given, hparents ▸ hgiven, hbparents⟩, hbmanager.trans hmanager,
        ⟨rfl, probed, w₁, hexamined⟩, rfl, rfl⟩

/-- A class that is ordered through a system is built for it, unless the order ends before that. -/
theorem run_defineClassWith {sys : String} {name : Value} {parents : List Value} {module : Option Value}
    {inner : List Frame} {depth : Int} {stack : CallStack} {w u : World} {r : Except Failure Value}
    (h : (defineClassWith react sys name parents module inner depth stack).run w = (r, u)) :
    (∃ f, r = .error f ∧ u = w ∧ (w.system? sys = none ∨
        module = none ∧ (Query.systemFrame "define_class" :: inner ++ stack.callers)[depth.toNat]? = none)) ∨
      ∃ request, Order.Requests w (.cls sys name parents module inner depth stack) request ∧
        (buildWith react request).run w = (r, u) := by
  have hown (b : Bool) (m : Value) : ∀ e ∈ (if b then [("__module__", m)] else [] : Fields), e.1 = "__module__" := by
    intro e he
    cases b with
    | false => cases he
    | true => rw [List.mem_singleton.1 he]
  cases hs : w.system? sys with
  | none =>
    rw [defineClassWith, defineClassFor, Action.run_bind_of_error (Query.run_system_of_none hs)] at h
    cases h
    exact .inl ⟨_, rfl, rfl, .inl rfl⟩
  | some s =>
    rw [defineClassWith, defineClassFor, Action.run_bind_of_ok (Query.run_system hs)] at h
    cases module with
    | some m =>
      rw [Action.run_bind_of_ok (Action.run_pure m w), Action.run_bind_of_ok (Action.run_get w)] at h
      exact .inr ⟨_, .cls hs (hown _ _), h⟩
    | none =>
      dsimp only at h
      cases hf : (Query.systemFrame "define_class" :: inner ++ stack.callers)[depth.toNat]? with
      | none =>
        rw [hf] at h
        rw [Action.run_bind_of_error (Action.run_throw _ w)] at h
        cases h
        exact .inl ⟨_, rfl, rfl, .inr ⟨rfl, rfl⟩⟩
      | some f =>
        rw [hf] at h
        rw [Action.run_bind_of_ok (Action.run_pure _ w), Action.run_bind_of_ok (Action.run_get w)] at h
        exact .inr ⟨_, .cls hs (hown _ _), h⟩

/-- **How one order goes.** It is refused, and nothing was done but looking; or one thing is entered and announced, and the
outcome is that of the announcement. -/
theorem run_carryOut {o : Order} {w u : World} {r : Except Failure Value} (h : (o.carryOut react).run w = (r, u)) :
    (∃ f, r = .error f ∧ Idle w u) ∨
      ∃ v v' m news x told, Idle w v ∧ Enters v o v' m news x ∧ (announce react m news).run v' = (told, u) ∧
        r = told.map fun _ => x := by
  cases o with
  | enum sys name members =>
    cases hs : w.system? sys with
    | none =>
      rw [Order.carryOut, defineEnumWith, Action.run_bind_of_error (Query.run_system_of_none hs)] at h
      cases h
      exact .inl ⟨_, rfl, .refl w⟩
    | some s =>
      cases hc : checkEnum w s.enums name members with
      | error f =>
        cases (run_defineEnumWith_of_error hs hc).symm.trans h
        exact .inl ⟨f, rfl, .refl w⟩
      | ok c =>
        cases (run_defineEnumWith_of_ok hs hc rfl).symm.trans h
        exact .inr ⟨w, _, _, _, _, _, .refl w, .enum hs hc, rfl, rfl⟩
  | cls sys name parents module inner depth stack =>
    rcases run_defineClassWith h with ⟨f, hf, rfl, -⟩ | ⟨request, hrequest, hbuild⟩
    · exact .inl ⟨f, hf, .refl u⟩
    · rcases run_buildWith hbuild with hrefused | ⟨v, b, told, hv, hb, hm, hfits, ha, hr⟩
      · exact .inl hrefused
      · exact .inr ⟨v, _, _, _, _, told, hv, .cls (hrequest.idle hv) hb hm hfits, ha, hr⟩
  | build request =>
    rcases run_buildWith h with hrefused | ⟨v, b, told, hv, hb, hm, hfits, ha, hr⟩
    · exact .inl hrefused
    · exact .inr ⟨v, _, _, _, _, told, hv, .cls (.build request) hb hm hfits, ha, hr⟩

/-! ## Telling plugins -/

/-- What relates worlds step by step relates the beginning of the telling to its end. -/
theorem tellAll_related {R : World → World → Prop} (hrefl : ∀ w, R w w) (htrans : ∀ {u v w}, R u v → R v w → R u w)
    {news : News} {ps : List Plugin} (hnote : ∀ p ∈ ps, ∀ w, R w (note w p news))
    (hreact : ∀ p w r w', (react p news).run w = (r, w') → R w w') {w u : World} {r : Except Failure Unit}
    (h : (tellAll react news ps).run w = (r, u)) : R w u := by
  induction ps generalizing w with
  | nil =>
    cases h
    exact hrefl u
  | cons p ps ih =>
    have hone {w₁ : World} {r₁ : Except Failure Unit} (h₁ : (tellOne react p news).run w = (r₁, w₁)) : R w w₁ := by
      rw [tellOne, Action.run_bind, Action.run_modify] at h₁
      have hnoted : R w (note w p news) := hnote p List.mem_cons_self w
      dsimp only at h₁
      split at h₁
      · cases h₁
        exact hnoted
      · exact htrans hnoted (hreact _ _ _ _ h₁)
    rw [tellAll] at h
    cases h₁ : (tellOne react p news).run w with
    | mk r₁ w₁ =>
      cases r₁ with
      | error f =>
        rw [Action.run_bind_of_error h₁] at h
        cases h
        exact hone h₁
      | ok _ =>
        rw [Action.run_bind_of_ok h₁] at h
        exact htrans (hone h₁) (ih (fun q hq => hnote q (List.mem_cons_of_mem _ hq)) h)

/-- An announcement fails only with the error of a plugin that reacts, and ends there. -/
theorem tellAll_error {news : News} {ps : List Plugin} {w u : World} {f : Failure}
    (h : (tellAll react news ps).run w = (.error f, u)) :
    ∃ p ∈ ps, p.kind ≠ .plain ∧ ∃ v, (react p news).run v = (.error f, u) := by
  induction ps generalizing w with
  | nil => cases h
  | cons p ps ih =>
    rw [tellAll] at h
    cases h₁ : (tellOne react p news).run w with
    | mk r₁ w₁ =>
      cases r₁ with
      | ok _ =>
        rw [Action.run_bind_of_ok h₁] at h
        obtain ⟨q, hq, hrest⟩ := ih h
        exact ⟨q, List.mem_cons_of_mem _ hq, hrest⟩
      | error f' =>
        rw [Action.run_bind_of_error h₁] at h
        cases h
        rw [tellOne, Action.run_bind, Action.run_modify] at h₁
        dsimp only at h₁
        split at h₁
        · cases h₁
        · next hkind => exact ⟨p, List.mem_cons_self, fun hplain => hkind hplain, note w p news, h₁⟩

/-- The plugins that are told of an event, in the order in which they are told. -/
def listenersOf (w : World) (m : Nat) (news : News) : List Plugin :=
  ((w.managers[m]?).map (·.listeners news.hook)).getD []

theorem run_announce (m : Nat) (news : News) (w : World) :
    (announce react m news).run w = (tellAll react news (listenersOf w m news)).run w :=
  Action.run_bind_of_ok (Action.run_get w)

/-! ## Moments -/

/-- One thing that happens in a run of definitions. -/
inductive Happens (aside : World → World → Prop) (w : World) : World → Prop where
  | aside {u : World} (h : aside w u) : Happens aside w u
  | looked {u : World} (h : Idle w u) : Happens aside w u
  | entered {o : Order} {u : World} {m : Nat} {news : News} {x : Value} (h : Enters w o u m news x) : Happens aside w u
  | told (p : Plugin) (news : News) : Happens aside w (note w p news)

/-- **From one moment of a run to a later one,** by things that happen in between. Both moments may lie inside a
definition. -/
abbrev Unfolds (aside : World → World → Prop) : World → World → Prop := Relation.ReflTransGen (Happens aside)

/-- An announcement is made of such things if what the plugins do is. -/
theorem announce_unfolds {m : Nat} {news : News}
    (hreact : ∀ p w r w', (react p news).run w = (r, w') → Unfolds aside w w') {w u : World} {r : Except Failure Unit}
    (h : (announce react m news).run w = (r, u)) : Unfolds aside w u := by
  rw [run_announce] at h
  exact tellAll_related (fun _ => .refl) .trans (fun p _ w => .single (.told p news)) hreact h

/-- Every run of definitions is made of such things. -/
theorem Conducts.unfolds {w u : World} (h : Conducts aside scope w u) : Unfolds aside w u := by
  induction h with
  | rest w => exact .refl
  | aside h _ ih => exact .head (.aside h) ih
  | order hscope _ h _ ihreact ih =>
    refine .trans ?_ ih
    rcases run_carryOut h with ⟨f, -, hidle⟩ | ⟨v, v', m, news, x, told, hidle, henters, ha, -⟩
    · exact .single (.looked hidle)
    · exact .head (.looked hidle) (.head (.entered henters) (announce_unfolds (fun p => ihreact p news) ha))

/-! ## The plugins of this library -/

section Library

variable (hidle : ∀ {w u}, Idle w u → aside w u) (hensure : ∀ w, aside w (w.ensureSystem mainSystem))
  (hexclude : ∀ w f, aside w (w.changeExcluded mainSystem f))
  (henum : ∀ name members, scope (.enum mainSystem name members))
  (hcls : ∀ name parents module inner depth stack, scope (.cls mainSystem name parents module inner depth stack))
include hidle hensure hexclude

theorem reactWith_conducts {define : Definer}
    (hdefine : ∀ d w r u, (define d).run w = (r, u) → Conducts aside scope w u) :
    (reactWith define).Conducts aside scope := by
  intro p news w r u h
  have hthen {α : Type} {d : Nested} {f : Value → α} {r : Except Failure α} {v : World}
      (hrun : (do let x ← define d; pure (f x) : Action α).run v = (r, u)) : Conducts aside scope v u := by
    cases (Action.run_bind_pure _ _ _).symm.trans hrun
    exact hdefine d v _ _ rfl
  unfold reactWith at h
  split at h
  · split at h <;> (cases h; exact .rest w)
  · exact .aside (hidle (.of_lasts (Access.write_lasts _ _ _) h)) (.rest u)
  · cases h
    exact .aside (hensure w) (.aside (hexclude _ _) (.rest _))
  · exact hthen h
  · exact hthen h
  · cases h
    exact .rest w

include henum hcls

theorem defineNested_conducts (depth : Nat) (d : Nested) (w : World) (r : Except Failure Value) (u : World)
    (h : (defineNested depth d).run w = (r, u)) : Conducts aside scope w u := by
  induction depth generalizing d w r u with
  | zero =>
    cases h
    exact .rest w
  | succ depth ih =>
    have hreact := reactWith_conducts hidle hensure hexclude ih
    cases d with
    | enum name members =>
      have hrun := (Action.run_bind_of_ok (Action.run_modify _ w)).symm.trans h
      exact .aside (hensure w) (.order (henum _ _) hreact hrun (.rest u))
    | cls name =>
      have hrun := (Action.run_bind_of_ok (Action.run_modify _ w)).symm.trans h
      exact .aside (hensure w) (.order (hcls (.ofString name) [] none [] 1 ⟨[]⟩) hreact hrun (.rest u))

/-- **What the plugins of this library do is a run of definitions.** -/
theorem react_conducts : Definition.react.Conducts aside scope :=
  reactWith_conducts hidle hensure hexclude
    (defineNested_conducts hidle hensure hexclude henum hcls maxNesting)

end Library

end Definition

end Lineage
