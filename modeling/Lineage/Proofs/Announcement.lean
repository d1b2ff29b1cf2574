import Mathlib
import Lineage.Proofs.Conduct
import Lineage.Proofs.Isolation
import Lineage.Proofs.Registry

/-!
# Announcement — every definition is told once

A plugin that only keeps a record and was registered last is the first to be told of a definition, before anything that the
other plugins do about it. So its record runs in step with what is entered: `Account` says that between two moments of a
run the record grew by one line for every class that was built and every enumeration that was registered, in their
order, and by no other line. One order keeps the account (`account_order`), and so does a run, whatever other plugins
do in it (`Conducts.accounted`).
-/

set_option autoImplicit false

namespace Lineage

namespace Event

/-- The class that a line tells of, with its parents. -/
def class? (e : Event) : Option (Nat × List Nat) :=
  match e.news with
  | .cls i ps => some (i, ps)
  | .enum _ _ => none

/-- The enumeration that a line tells of, under its name. -/
def enum? (e : Event) : Option (String × Value) :=
  match e.news with
  | .cls _ _ => none
  | .enum n x => some (n, x)

end Event

namespace Definition

open Script (registered?)

/-! ## The record of a plugin -/

/-- The lines of the log that a plugin left. -/
def told (p : Plugin) (w : World) : List Event := w.events.filter fun e => e.plugin.serial = p.serial

theorem told_note (p q : Plugin) (w : World) (news : News) :
    told p (note w q news) = told p w ++ if q.serial = p.serial then [⟨q, news, w.classes⟩] else [] := by
  rw [told, note, List.filter_append, List.filter_singleton, Bool.cond_decide, told]

/-- **A recorder:** a plugin that listens to both events and does nothing about them, registered last with a manager. -/
structure Recorder (p : Plugin) (m : Nat) (w : World) : Prop where
  plain : p.kind = .plain
  listens : ∀ h, h ∈ p.hooks
  last : ∃ before name after, Manager.register? before name p = some after ∧ w.managers[m]? = some after

theorem listeners_register {before after : Manager} {name : String} {p : Plugin}
    (h : before.register? name p = some after) {hook : HookName} (hlistens : hook ∈ p.hooks) :
    after.listeners hook = p :: before.listeners hook ∧ ∀ q ∈ before.listeners hook, q.serial ≠ p.serial := by
  unfold Manager.register? at h
  split at h
  · cases h
  · next hfree =>
    cases h
    refine ⟨?_, fun q hq => ?_⟩
    · simp only [Manager.listeners, List.reverse_append, List.reverse_singleton, List.singleton_append, List.map_cons,
        List.filter_cons, List.contains_iff_mem.2 hlistens, if_true]
    · -- a plugin that is registered already would have been refused
      obtain ⟨hmem, -⟩ := List.mem_filter.1 hq
      obtain ⟨e, he, rfl⟩ := List.mem_map.1 hmem
      rw [Bool.or_eq_true, not_or] at hfree
      intro heq
      exact hfree.2 (List.any_eq_true.2 ⟨e, List.mem_reverse.1 he, decide_eq_true heq⟩)

/-- The recorder is told first, and once. -/
theorem Recorder.listenersOf {p : Plugin} {m : Nat} {w : World} (h : Recorder p m w) (news : News) :
    ∃ rest, Definition.listenersOf w m news = p :: rest ∧ ∀ q ∈ rest, q.serial ≠ p.serial := by
  obtain ⟨before, name, after, hregister, hm⟩ := h.last
  obtain ⟨hlisteners, hother⟩ := listeners_register hregister (h.listens news.hook)
  refine ⟨before.listeners news.hook, ?_, hother⟩
  rw [Definition.listenersOf, hm, Option.map_some, Option.getD_some, hlisteners]

/-- The recorder only writes down what it is told. -/
theorem Recorder.run_tellAll {p : Plugin} {m : Nat} {w : World} (h : Recorder p m w) (react : Reaction) (news : News)
    (rest : List Plugin) (v : World) :
    (tellAll react news (p :: rest)).run v = (tellAll react news rest).run (note v p news) := by
  have hone : (tellOne react p news).run v = (.ok (), note v p news) := by
    rw [tellOne, Action.run_bind_of_ok (Action.run_modify _ v), h.plain]
    rfl
  rw [tellAll, Action.run_bind_of_ok hone]

/-! ## The account of a run -/

variable {p : Plugin} {m : Nat} {sys : String} {u v w : World}

/-- **A recording is going on:** the type system has the manager with which the recorder is registered last, and classes
descend as they should. -/
structure Recording (p : Plugin) (m : Nat) (sys : String) (w : World) : Prop where
  pedigree : Pedigree w
  recorder : Recorder p m w
  manager : ∃ s, w.system? sys = some s ∧ s.manager = m

/-- What does not concern the type system: its registry and its manager, the plugins of that manager, the record of the
recorder and the classes built for that manager stay as they are. -/
structure Apart (p : Plugin) (m : Nat) (sys : String) (w u : World) : Prop where
  reaches : Reaches w u
  system : ∀ s, w.system? sys = some s → ∃ s', u.system? sys = some s' ∧ s'.manager = s.manager ∧ s'.enums = s.enums
  plugins : ∀ mg, w.managers[m]? = some mg → u.managers[m]? = some mg
  told : told p u = told p w
  builds : u.builds m = w.builds m

/-- **What a line tells is so at its moment:** the class is there as it is composed from its parents, by a birth on the
journal; the enumeration is found in the registry. -/
def Tells (sys : String) (e : Event) (v : World) : Prop :=
  e.classes = v.classes ∧
    match e.news with
    | .cls i ps => ∃ b, .built i b ∈ v.journal ∧ b.parents = ps ∧
        v.class? i = some (Composition.classOf b (ps.filterMap v.class?))
    | .enum n x => ∃ s, v.system? sys = some s ∧ Fields.get? s.enums n = some x

/-- **The account of what happened** between two moments: the record grew by certain lines, which are the classes that were
built and the enumerations that were registered, each kind in its order; and each line is of a moment in between. -/
structure Account (p : Plugin) (m : Nat) (sys : String) (w u : World) (es : List Event) : Prop where
  reaches : Reaches w u
  plugins : ∀ mg, w.managers[m]? = some mg → u.managers[m]? = some mg
  told : told p u = told p w ++ es
  builds : ∃ bs, u.builds m = w.builds m ++ bs ∧ es.filterMap Event.class? = bs.map fun e => (e.1, e.2.parents)
  system : ∀ s, w.system? sys = some s →
    ∃ s', u.system? sys = some s' ∧ s'.manager = s.manager ∧ s'.enums = s.enums ++ es.filterMap Event.enum?
  moment : ∀ e ∈ es, ∃ v, Reaches w v ∧ Reaches v u ∧ Tells sys e v

theorem Apart.account (h : Apart p m sys w u) : Account p m sys w u [] where
  reaches := h.reaches
  plugins := h.plugins
  told := h.told.trans (List.append_nil _).symm
  builds := ⟨[], h.builds.trans (List.append_nil _).symm, rfl⟩
  system s hs := by
    obtain ⟨s', hs', hmanager, henums⟩ := h.system s hs
    exact ⟨s', hs', hmanager, henums.trans (List.append_nil _).symm⟩
  moment e he := nomatch he

theorem Account.trans {es fs : List Event} (h : Account p m sys u v es) (h' : Account p m sys v w fs) :
    Account p m sys u w (es ++ fs) where
  reaches := Relation.ReflTransGen.trans h.reaches h'.reaches
  plugins mg hmg := h'.plugins mg (h.plugins mg hmg)
  told := by rw [h'.told, h.told, List.append_assoc]
  builds := by
    obtain ⟨bs, hbs, hes⟩ := h.builds
    obtain ⟨cs, hcs, hfs⟩ := h'.builds
    exact ⟨bs ++ cs, by rw [hcs, hbs, List.append_assoc], by rw [List.filterMap_append, hes, hfs, List.map_append]⟩
  system s hs := by
    obtain ⟨s₁, hs₁, hmanager₁, henums₁⟩ := h.system s hs
    obtain ⟨s₂, hs₂, hmanager₂, henums₂⟩ := h'.system s₁ hs₁
    refine ⟨s₂, hs₂, hmanager₂.trans hmanager₁, ?_⟩
    rw [henums₂, henums₁, List.filterMap_append, List.append_assoc]
  moment e he := by
    rcases List.mem_append.1 he with he | he
    · obtain ⟨x, hux, hxv, htells⟩ := h.moment e he
      exact ⟨x, hux, Relation.ReflTransGen.trans hxv h'.reaches, htells⟩
    · obtain ⟨x, hvx, hxw, htells⟩ := h'.moment e he
      exact ⟨x, Relation.ReflTransGen.trans h.reaches hvx, hxw, htells⟩

/-- A recording goes on as long as the type system has its manager, and the manager its plugins. -/
theorem Recording.later (h : Recording p m sys w) (hreaches : Reaches w u)
    (hplugins : ∀ mg, w.managers[m]? = some mg → u.managers[m]? = some mg)
    (hsystem : ∀ s, w.system? sys = some s → ∃ s', u.system? sys = some s' ∧ s'.manager = s.manager) :
    Recording p m sys u where
  pedigree := hreaches.pedigree h.pedigree
  recorder := by
    obtain ⟨hplain, hlistens, before, name, after, hregister, hm⟩ := h.recorder
    exact ⟨hplain, hlistens, before, name, after, hregister, hplugins after hm⟩
  manager := by
    obtain ⟨s, hs, hmanager⟩ := h.manager
    obtain ⟨s', hs', hmanager'⟩ := hsystem s hs
    exact ⟨s', hs', hmanager'.trans hmanager⟩

theorem Recording.account (h : Recording p m sys w) {es : List Event} (ha : Account p m sys w u es) :
    Recording p m sys u :=
  h.later ha.reaches ha.plugins fun s hs => by
    obtain ⟨s', hs', hmanager, -⟩ := ha.system s hs
    exact ⟨s', hs', hmanager⟩

theorem Idle.apart (h : Idle w u) : Apart p m sys w u where
  reaches := h.reaches
  system s hs := ⟨s, by rw [World.system?, h.systems]; exact hs, rfl, rfl⟩
  plugins mg hmg := h.managers ▸ hmg
  told := by rw [Definition.told, h.events, Definition.told]
  builds := h.builds m

/-- That another plugin is told does not concern the recorder. -/
theorem apart_note {q : Plugin} (hq : q.serial ≠ p.serial) (w : World) (news : News) :
    Apart p m sys w (note w q news) where
  reaches := .single (.events _)
  system s hs := ⟨s, hs, rfl, rfl⟩
  plugins mg hmg := hmg
  told := by rw [told_note, if_neg hq, List.append_nil]
  builds := rfl

/-! ## One order -/

theorem builds_enterClass (w : World) (b : Birth) :
    (enterClass w b).1.builds b.manager = w.builds b.manager ++ [(w.classes.length, b)] := by
  have hcommit := w.builds_commit (.built w.classes.length b) b.manager
  rwa [Entry.build?, if_pos rfl] at hcommit

/-- The parents of a new class are there before it. -/
theorem class?_enterClass (hw : Pedigree w) {b : Birth} (hfits : (Entry.built w.classes.length b).Fits w) :
    (enterClass w b).1.class? w.classes.length =
      some (Composition.classOf b (b.parents.filterMap (enterClass w b).1.class?)) := by
  obtain ⟨-, hlt⟩ := parents_of_fits hfits (identity?_lt hw.base)
  have hparents : b.parents.filterMap (enterClass w b).1.class? = b.parents.filterMap w.class? :=
    List.filterMap_congr fun q hq => List.getElem?_append_left (hlt q hq)
  rw [hparents]
  exact List.getElem?_concat_length

/-- An order on a type system or, for a blueprint, on its manager. -/
def Order.On (sys : String) (m : Nat) : Order → Prop
  | .enum other _ _ => other = sys
  | .cls other _ _ _ _ _ _ => other = sys
  | .build request => request.manager = m

/-- What is ordered on a type system is told to the plugins of its manager. -/
theorem Enters.manager_eq (hw : Recording p m sys w) {o : Order} (ho : o.On sys m) {k : Nat} {news : News} {x : Value}
    (h : Enters w o v k news x) : k = m := by
  obtain ⟨s, hs, hmanager⟩ := hw.manager
  cases h with
  | enum hs' =>
    cases ho
    cases hs.symm.trans hs'
    exact hmanager
  | cls hrequest hb hm =>
    cases hrequest with
    | cls hs' =>
      cases ho
      cases hs.symm.trans hs'
      exact hm.trans hmanager
    | build => exact hm.trans ho

/-- **What is entered is told to the recorder at once.** -/
theorem account_entered (hw : Recording p m sys w) {o : Order} (ho : o.On sys m) {news : News} {x : Value}
    (h : Enters w o v m news x) : Account p m sys w (note v p news) [⟨p, news, v.classes⟩] := by
  obtain ⟨hreaches, hmanagers, hevents⟩ := h.reaches
  have hnoted : Reaches w (note v p news) := hreaches.tail (.events _)
  have hplugins : ∀ mg, w.managers[m]? = some mg → v.managers[m]? = some mg := fun mg hmg => hmanagers ▸ hmg
  have htold : told p (note v p news) = told p w ++ [⟨p, news, v.classes⟩] := by
    rw [told_note, if_pos rfl, told, hevents, told]
  have hmoment (htells : Tells sys ⟨p, news, v.classes⟩ v) :
      ∀ e ∈ [(⟨p, news, v.classes⟩ : Event)], ∃ u, Reaches w u ∧ Reaches u (note v p news) ∧ Tells sys e u := by
    intro e he
    cases List.mem_singleton.1 he
    exact ⟨v, hreaches, .single (.events _), htells⟩
  cases h with
  | @enum other n name members s es hs hc =>
    cases ho
    have hentered := system?_enterEnum w sys sys n es
    rw [hs, Option.map_some, if_pos rfl] at hentered
    refine ⟨hnoted, hplugins, htold, ⟨[], (List.append_nil _).symm, rfl⟩, fun s' hs' => ?_,
      hmoment ⟨rfl, _, hentered, get?_append_self (checkEnum_eq_ok hc) _⟩⟩
    cases hs.symm.trans hs'
    exact ⟨_, hentered, rfl, rfl⟩
  | @cls _ request b hrequest hb hm hfits =>
    have hbuilt : Entry.built w.classes.length b ∈ (enterClass w b).1.journal :=
      List.mem_append_right _ List.mem_cons_self
    exact ⟨hnoted, hplugins, htold, ⟨[(w.classes.length, b)], builds_enterClass w b, rfl⟩,
      fun s hs => ⟨s, hs, rfl, (List.append_nil _).symm⟩,
      hmoment ⟨rfl, b, hbuilt, rfl, class?_enterClass hw.pedigree hfits⟩⟩

/-- A law of the account is kept by what comes one after the other. -/
def Accounted (p : Plugin) (m : Nat) (sys : String) (w u : World) : Prop :=
  Recording p m sys w → ∃ es, Account p m sys w u es

theorem Accounted.trans (h : Accounted p m sys u v) (h' : Accounted p m sys v w) : Accounted p m sys u w := fun hu => by
  obtain ⟨es, hes⟩ := h hu
  obtain ⟨fs, hfs⟩ := h' (hu.account hes)
  exact ⟨es ++ fs, hes.trans hfs⟩

theorem Apart.accounted (h : Apart p m sys w u) : Accounted p m sys w u := fun _ => ⟨[], h.account⟩

/-- **How one order is told.** It is refused, and then nothing is entered or told; or the first line that the recorder
gets is of what was entered, and an error is one that another plugin raised. -/
theorem account_order {react : Reaction} (hw : Recording p m sys w) {o : Order} (ho : o.On sys m)
    (hreact : ∀ q news w r u, (react q news).run w = (r, u) → Accounted p m sys w u) {r : Except Failure Value}
    (h : (o.carryOut react).run w = (r, u)) :
    (∃ f, r = .error f ∧ Idle w u) ∨
      ∃ v v' e es x, Idle w v ∧ Enters v o v' m e.news x ∧ Account p m sys w u (e :: es) ∧
        (r = .ok x ∨ ∃ f q v, r = .error f ∧ q.kind ≠ .plain ∧ (react q e.news).run v = (.error f, u)) := by
  rcases run_carryOut h with hrefused | ⟨v, v', k, news, x, outcome, hidle, henters, ha, hr⟩
  · exact .inl hrefused
  · have hv : Recording p m sys v := hw.account hidle.apart.account
    obtain rfl : k = m := henters.manager_eq hv ho
    have hentered := account_entered hv ho henters
    have hnoted := hv.account hentered
    obtain ⟨rest, hlisteners, hother⟩ := hnoted.recorder.listenersOf news
    have htold : (tellAll react news rest).run (note v' p news) = (outcome, u) := by
      have hfirst : listenersOf v' k news = p :: rest := hlisteners
      rwa [run_announce, hfirst, hnoted.recorder.run_tellAll] at ha
    have hothers : Accounted p k sys (note v' p news) u :=
      tellAll_related (fun w => (Idle.refl w).apart.accounted) Accounted.trans
        (fun q hq w => (apart_note (hother q hq) w news).accounted) (fun q => hreact q news) htold
    obtain ⟨es, hes⟩ := hothers hnoted
    have haccount := hidle.apart.account.trans (hentered.trans hes)
    refine .inr ⟨v, v', ⟨p, news, v'.classes⟩, es, x, hidle, henters, haccount, ?_⟩
    cases outcome with
    | ok _ => exact .inl hr
    | error f =>
      obtain ⟨q, -, hkind, v₁, hq⟩ := tellAll_error htold
      exact .inr ⟨f, q, v₁, hr, hkind, hq⟩

/-! ## A whole run -/

/-- **A run keeps the account,** whatever plugins do in it. -/
theorem Conducts.accounted (h : Conducts (Apart p m sys) (Order.On sys m) w u) : Accounted p m sys w u := by
  induction h with
  | rest w => exact (Idle.refl w).apart.accounted
  | aside h _ ih => exact h.accounted.trans ih
  | order ho _ h _ ihreact ih =>
    refine Accounted.trans (fun hw => ?_) ih
    rcases account_order hw ho ihreact h with ⟨-, -, hidle⟩ | ⟨-, -, e, es, -, -, -, haccount, -⟩
    · exact ⟨[], hidle.apart.account⟩
    · exact ⟨e :: es, haccount⟩

/-- A recording goes on at every moment of a run, also inside a definition. -/
theorem Recording.unfolds (hw : Recording p m sys w) (h : Unfolds (Apart p m sys) w u) : Recording p m sys u := by
  induction h with
  | refl => exact hw
  | tail _ hstep ih =>
    cases hstep with
    | aside h => exact ih.account h.account
    | looked h => exact ih.account h.apart.account
    | told q news => exact ih.later (.single (.events _)) (fun _ hmg => hmg) fun s hs => ⟨s, hs, rfl⟩
    | entered h =>
      obtain ⟨hreaches, hmanagers, -⟩ := h.reaches
      refine ih.later hreaches (fun mg hmg => hmanagers ▸ hmg) fun s hs => ?_
      cases h with
      | cls => exact ⟨s, hs, rfl⟩
      | enum =>
        rw [system?_enterEnum, hs, Option.map_some]
        refine ⟨_, rfl, ?_⟩
        split <;> rfl

/-! ## What is counted -/

theorem mem_builds {w : World} {i : Nat} {b : Birth} (h : (i, b) ∈ w.builds m) : .built i b ∈ w.journal := by
  obtain ⟨e, he, hb⟩ := List.mem_filterMap.1 h
  cases e with
  | built j b' =>
    obtain ⟨-, heq⟩ := Option.ite_none_right_eq_some.1 hb
    cases heq
    exact he
  | _ => cases hb

/-- **No class is built twice:** later builds give later classes. -/
theorem builds_ascend (h : Reaches World.initial w) : ((w.builds m).map Prod.fst).Pairwise (· < ·) := by
  induction h with
  | refl => exact List.Pairwise.nil
  | @tail u v hu hstep ih =>
    rcases hstep.line_or_rest with ⟨e, he, rfl⟩ | ⟨-, -, hj⟩
    · rw [u.builds_commit, List.map_append]
      cases hbuild : e.build? m with
      | none => exact (List.append_nil _).symm ▸ ih
      | some x =>
        have hnew : x.1 = u.classes.length := by
          cases e with
          | built i b =>
            obtain ⟨-, heq⟩ := Option.ite_none_right_eq_some.1 hbuild
            cases heq
            exact he.1
          | _ => cases hbuild
        refine List.pairwise_append.2 ⟨ih, List.pairwise_singleton _ _, fun i hi j hj => ?_⟩
        obtain ⟨⟨i, b⟩, hib, rfl⟩ := List.mem_map.1 hi
        obtain rfl : j = x.1 := List.mem_singleton.1 hj
        rw [hnew]
        exact ((Reaches.pedigree hu pedigree_initial).ordered (mem_builds hib)).1
    · rw [World.builds, hj]
      exact ih

/-! ## What a line tells -/

/-- **A line tells what is final.** At its moment the class has the type name, the membership and the members that it was
composed with from its parents, as a request asked for; name and membership are those it has later, and its members later
are those of that moment with the edits in between. An enumeration is found in the registry at its moment. -/
def Final (sys : String) (e : Event) (v u : World) : Prop :=
  e.classes = v.classes ∧
    match e.news with
    | .cls i ps => ∃ b c c' edits, (∃ request, b.Requested request) ∧ b.parents = ps ∧
        v.class? i = some c ∧ c = Composition.classOf b (ps.filterMap v.class?) ∧ c.typeName = b.name ∧
        c.membership = Composition.membership b.name ((ps.filterMap v.class?).map (·.membership)) ∧
        u.class? i = some c' ∧ c'.typeName = c.typeName ∧ c'.membership = c.membership ∧
        u.journal = v.journal ++ edits ∧ c'.fields = edits.foldl (edit i) c.fields
    | .enum n x => (registered? sys (.ofString n)).run v = (.ok (some x), v)

theorem Tells.final {e : Event} (h : Tells sys e v) (hv : Reaches World.initial v) (hu : Reaches v u) :
    Final sys e v u := by
  obtain ⟨hclasses, htells⟩ := h
  refine ⟨hclasses, ?_⟩
  cases hnews : e.news with
  | cls i ps =>
    rw [hnews] at htells
    obtain ⟨b, hbuilt, hparents, hc⟩ := htells
    obtain ⟨edits, c', hedits, hc', hfields⟩ := hu.fields hc
    obtain ⟨c₁, hc₁, hname, hmembership⟩ := class?_of_identity? (hu.identity (identity?_of_class? hc))
    cases hc'.symm.trans hc₁
    exact ⟨b, _, c', edits, hv.requested hbuilt, hparents, hc, rfl, Composition.typeName_classOf _ _,
      Composition.membership_classOf _ _, hc', hname, hmembership, hedits, hfields⟩
  | enum n x =>
    rw [hnews] at htells
    obtain ⟨s, hs, hget⟩ := htells
    show (registered? sys (.ofString n)).run v = _
    rw [run_registered? hs rfl, Value.string?_ofString, Option.bind_some, hget]

theorem apart_ensureSystem (w : World) (other : String) : Apart p m sys w (w.ensureSystem other) := by
  let _ := Enduring.reached w
  have hreaches : Reaches w (w.ensureSystem other) := holds_ensureSystem other .refl
  rcases w.ensureSystem_cases other with heq | ⟨hnone, s', heq⟩
  · rw [heq]
    exact (Idle.refl w).apart
  · rw [heq] at hreaches ⊢
    refine ⟨hreaches, fun s hs => ?_, fun mg hmg => ?_, rfl, rfl⟩
    · have hne : sys ≠ other := fun h => nomatch (h ▸ hs).symm.trans hnone
      exact ⟨s, (Fields.get?_set_of_ne _ _ hne).trans hs, rfl, rfl⟩
    · exact (List.getElem?_append_left (List.getElem?_eq_some_iff.1 hmg).1).trans hmg

theorem apart_changeExcluded (w : World) (other : String) (f : List String → List String) :
    Apart p m sys w (w.changeExcluded other f) := by
  refine ⟨.single (.excluded other f), fun s hs => ?_, fun mg hmg => hmg, rfl, rfl⟩
  rw [World.changeExcluded, World.system?_modifySystem, hs, Option.map_some]
  refine ⟨_, rfl, ?_⟩
  split <;> exact ⟨rfl, rfl⟩

theorem react_apart : Definition.react.Conducts (Apart p m mainSystem) (Order.On mainSystem m) :=
  react_conducts (fun h => h.apart) (fun w => apart_ensureSystem w _) (fun w _ => apart_changeExcluded w _ _)
    (fun _ _ => rfl) (fun _ _ _ _ _ _ => rfl)

/-- A plugin that only keeps a record. -/
def recorder : Plugin := ⟨"r", 1, "Recorder", false, [.classCreated, .enumDefined], .plain⟩

/-- A world with a type system and two plugins: one that defines a class for every enumeration, and a recorder. -/
def recordedWorld : World :=
  { World.initial with
    systems := [("main", ⟨Union.defaultDelimiter, [], defaultExcluded, 0⟩)]
    managers := [⟨[("b", ⟨"b", 0, "B", false, [.enumDefined], .defineClass⟩), ("r", recorder)], false⟩] }

theorem recordedWorld_reached : Reaches World.initial recordedWorld :=
  Relation.ReflTransGen.tail (.tail (.single .manager) (.plugins 0 fun _ =>
    ⟨[("b", ⟨"b", 0, "B", false, [.enumDefined], .defineClass⟩), ("r", recorder)], false⟩))
    (.system "main" Union.defaultDelimiter defaultExcluded 0)

theorem recorder_recordedWorld : Recorder recorder 0 recordedWorld where
  plain := rfl
  listens h := by cases h <;> decide
  last := ⟨⟨[("b", ⟨"b", 0, "B", false, [.enumDefined], .defineClass⟩)], false⟩, "r", _, rfl, rfl⟩

end Definition

end Lineage
