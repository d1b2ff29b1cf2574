import Lineage.Proofs.Conduct

/-!
# EntryPoints — what is left of advertised plugins when some of them are broken

Entry points with names and plugins of their own are loaded in their order, up to the first that is broken: those in front of
it are registered behind the plugins that were there, and none that stands behind it (`Manager.loadEntries_eq`). A failure is
put on record and goes no further. So a broken entry point is skipped, and nothing else, exactly when all that stands behind
it is broken too (`registrations_sound_iff`).

Every later definition tells the plugins that were registered before it tells those that were there already.
-/

set_option autoImplicit false

namespace Lineage

namespace EntryPoint

/-- The plugin of an entry point, unless that is broken. -/
def plugin? (e : EntryPoint) : Option Plugin := e.plugin.toOption

/-- The error of a broken entry point. -/
def fault? (e : EntryPoint) : Option String :=
  match e.plugin with
  | .ok _ => none
  | .error t => some t

/-- What is registered when an entry point is loaded: its plugin under its name. -/
def registration? (e : EntryPoint) : Option (String × Plugin) := e.plugin?.map (e.name, ·)

/-- What is registered when all that is not broken is loaded. -/
def registrations (es : List EntryPoint) : List (String × Plugin) := es.filterMap registration?

/-- The entry points in front of the first that is broken. -/
def sound (es : List EntryPoint) : List EntryPoint := es.takeWhile (·.plugin?.isSome)

/-- What the program writes down when it has loaded entry points. -/
def account (es : List EntryPoint) : Record :=
  match es.findSome? fault? with
  | some t => ⟨pluginLogger, .warning, "Failed to load " ++ entryPointGroup ++ " entry points", [], some (.brokenEntryPoint t)⟩
  | none => ⟨pluginLogger, .debug, "Loaded " ++ toString es.length ++ " plugins from " ++ entryPointGroup, [], none⟩

/-- Nothing that can be loaded is left out exactly when the broken entry points all stand at the end. -/
theorem registrations_sound_iff (es : List EntryPoint) :
    registrations (sound es) = registrations es ↔
      ∃ front back, es = front ++ back ∧ (∀ e ∈ front, e.plugin?.isSome) ∧ ∀ e ∈ back, e.plugin? = none := by
  have hsplit : registrations es = registrations (sound es) ++ registrations (es.dropWhile (·.plugin?.isSome)) := by
    rw [registrations, registrations, registrations, ← List.filterMap_append, sound, List.takeWhile_append_dropWhile]
  have hnone (rest : List EntryPoint) : registrations rest = [] ↔ ∀ e ∈ rest, e.plugin? = none := by
    simp [registrations, registration?, List.filterMap_eq_nil_iff]
  constructor
  · intro heq
    refine ⟨sound es, es.dropWhile (·.plugin?.isSome), List.takeWhile_append_dropWhile.symm, fun e he => ?_, (hnone _).1 ?_⟩
    · exact List.mem_takeWhile_imp (p := fun e : EntryPoint => e.plugin?.isSome) he
    · exact List.self_eq_append_right.1 (heq.trans hsplit)
  · rintro ⟨front, back, rfl, hfront, hback⟩
    have hsound : sound (front ++ back) = front ++ sound back := List.takeWhile_append_of_pos hfront
    have hempty : registrations (sound back) = [] := (hnone _).2 fun e he => hback e ((List.takeWhile_sublist _).mem he)
    rw [hsound, registrations, registrations, List.filterMap_append, List.filterMap_append]
    exact congrArg (_ ++ ·) (hempty.trans ((hnone back).2 hback).symm)

end EntryPoint

namespace Manager

open EntryPoint

/-- Entry points of the right group with names that are free and plugins that are not registered, all of them different. -/
structure Advertised (m : Manager) (es : List EntryPoint) : Prop where
  group : ∀ e ∈ es, e.group = entryPointGroup
  free : ∀ e ∈ es, e.name ∉ m.names
  names : (es.map (·.name)).Nodup
  fresh : ∀ p ∈ es.filterMap plugin?, m.holds p.serial = false
  plugins : ((es.filterMap plugin?).map (·.serial)).Nodup

variable {m : Manager} {e : EntryPoint} {es : List EntryPoint}

theorem Advertised.tail (h : m.Advertised (e :: es)) : m.Advertised es where
  group e' he' := h.group e' (List.mem_cons_of_mem e he')
  free e' he' := h.free e' (List.mem_cons_of_mem e he')
  names := (List.nodup_cons.1 h.names).2
  fresh p hp := h.fresh p (List.mem_filterMap.2 ((List.mem_filterMap.1 hp).imp fun _ => And.imp_left (List.mem_cons_of_mem e)))
  plugins := h.plugins.sublist (((List.sublist_cons_self e es).filterMap plugin?).map _)

/-- One entry point that is not broken is registered, and the others are advertised to the manager as before. -/
theorem Advertised.register {p : Plugin} (h : m.Advertised (e :: es)) (hp : e.plugin = .ok p) :
    m.register? e.name p = some { m with plugins := m.plugins ++ [(e.name, p)] } ∧
      ({ m with plugins := m.plugins ++ [(e.name, p)] } : Manager).Advertised es := by
  have hplugin : e.plugin? = some p := congrArg Except.toOption hp
  have hlist : (e :: es).filterMap plugin? = p :: es.filterMap plugin? := List.filterMap_cons_some hplugin
  have hname : m.names.contains e.name = false := by simpa using h.free e List.mem_cons_self
  have hheld : m.holds p.serial = false := h.fresh p (hlist ▸ List.mem_cons_self)
  have hplugins := h.plugins
  rw [hlist, List.map_cons, List.nodup_cons] at hplugins
  refine ⟨by rw [register?, hname, hheld]; rfl, h.tail.group, fun e' he' hmem => ?_, h.tail.names, fun q hq => ?_, hplugins.2⟩
  · rw [Manager.names, List.map_append, List.mem_append] at hmem
    rcases hmem with hmem | hmem
    · exact h.tail.free e' he' hmem
    · exact (List.nodup_cons.1 h.names).1 (List.mem_singleton.1 hmem ▸ List.mem_map_of_mem he')
  · have hne : p.serial ≠ q.serial := fun heq => hplugins.1 (heq ▸ List.mem_map_of_mem hq)
    have hother : m.holds q.serial = false := h.tail.fresh q hq
    rw [holds] at hother
    simp [holds, List.any_append, hother, hne]

/-- **Loading stops at the first broken entry point** and keeps what stands in front of it. -/
theorem loadEntries_eq (h : m.Advertised es) (n : Nat) :
    m.loadEntries n es = ({ m with plugins := m.plugins ++ registrations (sound es) },
      match es.findSome? fault? with
      | some t => .error (.brokenEntryPoint t)
      | none => .ok (n + es.length)) := by
  induction es generalizing m n with
  | nil => simp [loadEntries, registrations, sound]
  | cons e es ih =>
    have hname : ¬ (e.group ≠ entryPointGroup ∨ m.names.contains e.name = true) := by
      simpa [h.group e List.mem_cons_self] using h.free e List.mem_cons_self
    rw [loadEntries, if_neg hname]
    cases hp : e.plugin with
    | error t =>
      have hstop : sound (e :: es) = [] := List.takeWhile_cons_of_neg (by simp [plugin?, hp, Except.toOption])
      have hfault : fault? e = some t := by rw [fault?, hp]
      simp [hstop, hfault, registrations]
    | ok p =>
      obtain ⟨hregister, hrest⟩ := h.register hp
      have hplugin : e.plugin? = some p := congrArg Except.toOption hp
      have hsound : sound (e :: es) = e :: sound es := List.takeWhile_cons_of_pos (by simp [hplugin])
      have hfault : fault? e = none := by rw [fault?, hp]
      have hregistered : registrations (e :: sound es) = (e.name, p) :: registrations (sound es) :=
        List.filterMap_cons_some (by simp [registration?, hplugin])
      simp only [hregister, ih hrest, hsound, hregistered, List.findSome?_cons, hfault, List.append_assoc, List.singleton_append,
        List.length_cons]
      rw [Nat.add_right_comm, Nat.add_assoc]

end Manager

namespace World

open EntryPoint Definition

variable {w : World} {i : Nat} {m : Manager} {es : List EntryPoint}

/-- What loading entry points changes: the manager, which counts as loaded, and the record of it. -/
theorem discover_eq (hm : w.managers[i]? = some m) (h : m.Advertised es) :
    w.discover i es = { w with
      managers := w.managers.set i ⟨m.plugins ++ registrations (sound es), true⟩
      records := w.records ++ [account es] } := by
  have hset (m' : Manager) : w.managers.modify i (fun _ => m') = w.managers.set i m' := by
    rw [List.modify_eq_set_getElem?, hm]
    rfl
  rw [discover, hm]
  dsimp only
  rw [Manager.loadEntries_eq h 0, account]
  cases es.findSome? fault? with
  | some t => simp only [log, modifyManager, hset]
  | none => simp only [log, modifyManager, hset, Nat.zero_add]

/-- The plugins that listen to what a manager tells, after more of them were registered: the last registered first. -/
theorem listenersOf_discover (hm : w.managers[i]? = some m) (h : m.Advertised es) (j : Nat) (news : News) :
    listenersOf (w.discover i es) j news =
      (if j = i then (((registrations (sound es)).map (·.2)).filter (·.hooks.contains news.hook)).reverse else []) ++
        listenersOf w j news := by
  rw [discover_eq hm h, listenersOf, listenersOf]
  dsimp only
  split_ifs with hj
  · subst hj
    rw [List.getElem?_set_self (List.getElem?_eq_some_iff.1 hm).1, hm]
    simp [Manager.listeners, List.filter_reverse]
  · rw [List.getElem?_set_ne (Ne.symm hj), List.nil_append]

/-- **Loading stops at the first broken entry point.** Let a manager be offered entry points with names and plugins of their own.

* Loading them ends well. The manager counts as loaded, what stands in front of the first broken entry point is registered
  behind what was, the outcome is put on record, and all else is as it was.
* All that is not broken is registered exactly when nothing of it stands behind a broken one.
* Any later definition is refused, or it tells its news: if it is one for this manager, to the plugins that were loaded and
  listen, the last registered first, and then to those that it would have told before. -/
theorem loading_stops_at_the_first_broken (hm : w.managers[i]? = some m) (h : m.Advertised es) :
    w.discover i es = { w with
      managers := w.managers.set i ⟨m.plugins ++ registrations (sound es), true⟩
      records := w.records ++ [account es] } ∧
    (registrations (sound es) = registrations es ↔
      ∃ front back, es = front ++ back ∧ (∀ e ∈ front, e.plugin?.isSome) ∧ ∀ e ∈ back, e.plugin? = none) ∧
    ∀ (react : Reaction) (o : Order) (r : Except Failure Value) (u : World), (o.carryOut react).run (w.discover i es) = (r, u) →
      (∃ f, r = .error f ∧ Idle (w.discover i es) u) ∨
        ∃ v v' j news x told, Idle (w.discover i es) v ∧ Enters v o v' j news x ∧ r = told.map (fun _ => x) ∧
          (tellAll react news ((if j = i then (((registrations (sound es)).map (·.2)).filter
            (·.hooks.contains news.hook)).reverse else []) ++ listenersOf w j news)).run v' = (told, u) := by
  refine ⟨discover_eq hm h, registrations_sound_iff es, fun react o r u hrun => ?_⟩
  rcases run_carryOut hrun with hrefused | ⟨v, v', j, news, x, told, hidle, henters, hannounce, hr⟩
  · exact .inl hrefused
  · have hmanagers : v'.managers = (w.discover i es).managers := henters.reaches.2.1.trans hidle.managers
    have hlisteners : listenersOf v' j news = listenersOf (w.discover i es) j news := by
      rw [listenersOf, hmanagers]
      rfl
    rw [run_announce, hlisteners, listenersOf_discover hm h] at hannounce
    exact .inr ⟨v, v', j, news, x, told, hidle, henters, hr, hannounce⟩

/-- Two plugins that can be loaded, and a broken one between them. -/
def interrupted : List EntryPoint :=
  [⟨"audit", entryPointGroup, .ok ⟨"a", 0, "Audit", false, [.enumDefined], .plain⟩⟩, ⟨"bad", entryPointGroup, .error "broken"⟩,
    ⟨"trace", entryPointGroup, .ok ⟨"t", 1, "Trace", false, [.enumDefined], .plain⟩⟩]

/-- What stands behind the broken entry point is not registered, although it could be loaded. -/
theorem entry_behind_a_broken_one_is_left_out :
    (World.initial.addManager.1.managers[0]? = some ⟨[], false⟩ ∧ (⟨[], false⟩ : Manager).Advertised interrupted) ∧
      ((World.initial.addManager.1.discover 0 interrupted).managers.map fun m => (m.names, m.loaded)) = [(["audit"], true)] ∧
      registrations (sound interrupted) ≠ registrations interrupted := by
  have hadvertised : (⟨[], false⟩ : Manager).Advertised interrupted := by
    refine ⟨by decide, by decide, by decide, fun p _ => rfl, by decide⟩
  obtain ⟨heq, -⟩ := loading_stops_at_the_first_broken (w := World.initial.addManager.1) (i := 0) rfl hadvertised
  refine ⟨⟨rfl, hadvertised⟩, ?_, fun hall => absurd (congrArg List.length hall) (by decide)⟩
  rw [heq]
  rfl

end World

end Lineage
