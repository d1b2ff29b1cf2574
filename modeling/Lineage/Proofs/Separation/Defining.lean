import Lineage.Proofs.Ancestry
import Lineage.Proofs.Separation.Asking

/-!
# Defining — new enumerations and classes in two worlds

Defining an enumeration and building a class run abreast in two worlds that look alike to a client, with everything that
its plugins do when they are told (`react_abreast`). New things stand for each other from the moment they are entered. There
is one exception: a function that tests its place names a class that is not there yet, so it may not be matched while the
request is examined (`Pending`). The examination does not use it, and it is matched together with the class.
-/

set_option autoImplicit false

namespace Lineage

variable {c : Client} {s t : Matching} {w w' u u' : World}

/-- The same news of matched classes, or of alike enumerations. -/
inductive NewsLike (s : Matching) : News → News → Prop where
  | cls {i j : Nat} {ps qs : List Nat} (hij : s .cls i j) (hps : List.Forall₂ (s .cls) ps qs) :
    NewsLike s (.cls i ps) (.cls j qs)
  | enum (name : String) {e e' : Value} (he : Like s e e') : NewsLike s (.enum name e) (.enum name e')

theorem NewsLike.mono (hst : s ≤ t) {news news' : News} (h : NewsLike s news news') : NewsLike t news news' := by
  cases h with
  | cls hij hps => exact .cls (hst _ _ _ hij) (hps.imp fun _ _ => hst _ _ _)
  | enum n he => exact .enum n (he.mono hst)

theorem NewsLike.hook_eq {news news' : News} (h : NewsLike s news news') : news.hook = news'.hook := by
  cases h <;> rfl

theorem ManagerLike.listeners {m m' : Manager} (h : ManagerLike c s m m') (hook : HookName) :
    List.Forall₂ (PluginLike c s) (m.listeners hook) (m'.listeners hook) := by
  have hplugins : List.Forall₂ (PluginLike c s) (m.plugins.reverse.map (·.2)) (m'.plugins.reverse.map (·.2)) :=
    List.rel_map (fun _ _ h => h.2) (List.rel_reverse h.plugins)
  refine List.rel_filter (fun p p' h => ?_) hplugins
  show p.hooks.contains hook = true ↔ p'.hooks.contains hook = true
  rw [h.hooks]

theorem Together.ensureSystem (hw : Together c s w w') :
    w.ensureSystem c.system = w ∧ w'.ensureSystem c.system = w' := by
  obtain ⟨p, q, hp, hq, -⟩ := hw.system
  unfold World.ensureSystem
  rw [hp, hq]
  exact ⟨rfl, rfl⟩

namespace Definition

/-- What plugins do runs abreast, if the plugins are alike. -/
def Reaction.RunsAbreast (c : Client) (react : Reaction) : Prop :=
  ∀ {s : Matching} {w w' : World} {p p' : Plugin} {news news' : News}, Together c s w w' → PluginLike c s p p' →
    NewsLike s news news' → Abreast c s w w' Same (react p news) (react p' news')

section

variable (hw : Together c s w w')
include hw

theorem keep_log (logger event logger' event' : String) (level level' : Level) (error error' : Option Failure) :
    Onward c s w w' s (w.log logger level event error) (w'.log logger' level' event' error') ∧
      Together c s (w.log logger level event error) (w'.log logger' level' event' error') :=
  hw.keep ⟨fun k _ => by cases k <;> rfl, rfl, rfl⟩ ⟨fun k _ => by cases k <;> rfl, rfl, rfl⟩

theorem keep_note (p p' : Plugin) (news news' : News) : Onward c s w w' s (note w p news) (note w' p' news') ∧
    Together c s (note w p news) (note w' p' news') :=
  hw.keep ⟨fun k _ => by cases k <;> rfl, rfl, rfl⟩ ⟨fun k _ => by cases k <;> rfl, rfl, rfl⟩

/-! ## Telling the plugins -/

variable {react : Reaction} (hreact : Reaction.RunsAbreast c react)
include hreact

theorem tellOne_abreast {p p' : Plugin} (hp : PluginLike c s p p') {news news' : News} (hnews : NewsLike s news news') :
    Abreast c s w w' Same (tellOne react p news) (tellOne react p' news') := by
  refine (Abreast.modify (keep_note hw p p' news news')).bind fun ho hu _ => ?_
  have hreacts := hreact hu (hp.mono ho.le) (hnews.mono ho.le)
  have hkind := hp.kind
  revert hreacts hkind
  generalize p.kind = k
  generalize p'.kind = k'
  intro hreacts hkind
  cases hkind with
  | plain => exact .pure hu rfl
  | _ => exact hreacts

theorem tellAll_abreast {ps ps' : List Plugin} (hps : List.Forall₂ (PluginLike c s) ps ps') {news news' : News}
    (hnews : NewsLike s news news') : Abreast c s w w' Same (tellAll react news ps) (tellAll react news' ps') := by
  induction ps generalizing ps' s w w' with
  | nil => cases hps; exact .pure hw rfl
  | cons p ps ih =>
    cases hps with
    | cons hp hr =>
      exact (tellOne_abreast hw hreact hp hnews).bind fun ho hu _ =>
        ih hu (hr.imp fun _ _ h => h.mono ho.le) (hnews.mono ho.le)

/-- **Announcing** runs abreast. -/
theorem announce_abreast {news news' : News} (hnews : NewsLike s news news') :
    Abreast c s w w' Same (announce react c.manager news) (announce react c.manager news') := by
  obtain ⟨m, m', hm, hm', hmm⟩ := hw.manager
  refine .get_bind ?_
  rw [hm, hm', hnews.hook_eq]
  exact tellAll_abreast hw hreact (hmm.listeners _) hnews

end

/-! ## Enumerations -/

section

variable (hw : Together c s w w')
include hw

theorem entriesOf_like {v v' : Value} (hv : Like s v v') : LikeEntries s (entriesOf w v) (entriesOf w' v') := by
  have hplain : LikeEntries s (v.entries?.getD []) (v'.entries?.getD []) := rel_getD hv.entries? .nil
  cases hv with
  | shared k hij =>
    obtain ⟨d, d', hd, hd', hdd⟩ := hw.cell hij
    unfold entriesOf
    simp only [hd, hd']
    cases hdd with
    | list _ => exact .nil
    | dict hes => exact hes
  | _ => exact hplain

/-- The same name, and alike entries. -/
def EntriesLike (s : Matching) (p q : String × List (Value × Value)) : Prop := p.1 = q.1 ∧ LikeEntries s p.2 q.2

theorem checkEnum_like {es fs : List (String × Value)} (hes : FieldsLike s es fs) {n n' m m' : Value} (hn : Like s n n')
    (hm : Like s m m') : ResultLike EntriesLike s (checkEnum w es n m) (checkEnum w' fs n' m') := by
  unfold checkEnum
  rw [hn.string?, hw.named.className_eq hn, hw.named.className_eq hm, hm.isMapping, hn.unhashable?]
  split
  · exact .error (.plain _ rfl)
  · rw [hes.has_eq]
    split
    · exact .error (.plain _ rfl)
    split
    · exact .error (.plain _ rfl)
    split
    · exact .error (.plain _ rfl)
    · exact .ok ⟨rfl, entriesOf_like hw hm⟩

/-- A new enumeration is entered on both sides. -/
theorem enterEnum_together (name : String) {es fs : List (Value × Value)} (hes : LikeEntries s es fs) :
    ∃ t, Onward c s w w' t (enterEnum w c.system name es).1 (enterEnum w' c.system name fs).1 ∧
      Together c t (enterEnum w c.system name es).1 (enterEnum w' c.system name fs).1 ∧
      Like t (enterEnum w c.system name es).2 (enterEnum w' c.system name fs).2 := by
  obtain ⟨ho, hu⟩ := hw.add w.puts_enum w'.puts_enum (w.thing?_count .enum) (w'.thing?_count .enum) .enum
  have he : Like (s ⊔ .pair .enum w.enumCount w'.enumCount) (.enum w.enumCount name es) (.enum w'.enumCount name fs) :=
    .enum name (.inr ⟨rfl, rfl, rfl⟩) (hes.mono le_sup_left)
  obtain ⟨ho', hu'⟩ := hu.changeSystem (fun p => { p with enums := p.enums ++ [(name, .enum w.enumCount name es)] })
    (fun p => { p with enums := p.enums ++ [(name, .enum w'.enumCount name fs)] })
    fun hp => ⟨hp.delimiter, hp.enums.append (.cons ⟨rfl, he⟩ .nil), hp.excluded, hp.manager, hp.manager'⟩
  obtain ⟨ho'', hu''⟩ := keep_log hu' enumLogger ("Defined enum " ++ name ++ " with " ++ toString es.length ++ " members")
    enumLogger ("Defined enum " ++ name ++ " with " ++ toString fs.length ++ " members") .debug .debug none none
  exact ⟨_, ho.trans (ho'.trans ho''), hu'', he⟩

/-- **Defining an enumeration** runs abreast. -/
theorem defineEnumWith_abreast {react : Reaction} (hreact : Reaction.RunsAbreast c react) {n n' m m' : Value} (hn : Like s n n')
    (hm : Like s m m') :
    Abreast c s w w' Like (defineEnumWith react c.system n m) (defineEnumWith react c.system n' m') := by
  refine (Query.system_abreast hw).bind fun {t u u' p q} ho hu hp => .get_bind ?_
  refine (Abreast.liftExcept hu (checkEnum_like hu hp.enums (hn.mono ho.le) (hm.mono ho.le))).bind
    fun {t₁ v v' x x'} ho₁ hv hx => ?_
  obtain ⟨name, es⟩ := x
  obtain ⟨name', fs⟩ := x'
  obtain ⟨rfl, hes⟩ := hx
  refine .get_bind ?_
  obtain ⟨t₂, ho₂, hz, he⟩ := enterEnum_together hv name hes
  dsimp only
  refine .set_bind ⟨ho₂, hz⟩ ?_
  rw [hp.manager, hp.manager']
  exact (announce_abreast hz hreact (.enum name he)).bind fun ho₃ hz' _ => .pure hz' (he.mono ho₃.le)

end

/-! ## Requests for classes -/

/-- Alike requests of a client but for the bodies; they are blamed on the same places. -/
structure RequestLike (c : Client) (s : Matching) (b b' : Blueprint) : Prop where
  sys : b.sys = c.system
  sys' : b'.sys = c.system
  manager : b.manager = c.manager
  manager' : b'.manager = c.manager
  excluded : b.excluded = b'.excluded
  name : Like s b.name b'.name
  parents : LikeAll s b.parents b'.parents
  inner : b.inner = b'.inner
  depth : b.depth = b'.depth
  callers : b.callers = b'.callers

/-- Alike requests of a client, with alike bodies. -/
structure BlueprintLike (c : Client) (s : Matching) (b b' : Blueprint) : Prop extends RequestLike c s b b' where
  own : FieldsLike s b.own b'.own
  probe : b.probe = b'.probe

section

variable (hw : Together c s w w')
include hw

theorem checkParents_abreast (site : Option Frame) (index : Nat) {xs ys : List Value} (hxs : LikeAll s xs ys) :
    Abreast c s w w' (fun t => List.Forall₂ (t .cls)) (checkParents site index xs) (checkParents site index ys) := by
  induction xs generalizing ys s w w' index with
  | nil => cases hxs; exact .pure hw .nil
  | cons x xs ih =>
    obtain _ | ⟨hx, hr⟩ := hxs
    have hwrong : Abreast c s w w' (fun t => List.Forall₂ (t .cls))
        (do throw (.parentNotClass index (← Query.typeName x) site))
        (do throw (.parentNotClass index (← Query.typeName _) site)) :=
      (Query.typeName_abreast hw hx).bind fun _ hu hn => hn ▸ .fail hu _ rfl
    cases hx with
    | cls hij =>
      obtain ⟨k, k', hk, hk', -⟩ := hw.cls hij
      refine .get_bind ?_
      simp only [hk, hk']
      exact (ih hw (index + 1) hr).bind fun ho hu hps => .pure hu (.cons (ho.le _ _ _ hij) hps)
    | _ => exact hwrong

theorem classText_like {n n' : Value} (hn : Like s n n') : ResultLike Same s (classText w n) (classText w' n') := by
  unfold classText
  rw [hn.unhashable?, hn.string?, hw.named.className_eq hn]
  refine .same _ fun e he => ?_
  revert he
  repeat' split
  all_goals
    rintro ⟨⟩
  all_goals rfl

end

theorem reservedIn?_eq {own own' : Fields} (h : FieldsLike s own own') : reservedIn? own = reservedIn? own' := by
  unfold reservedIn?
  rw [funext h.has_eq]

theorem qualifiedName_like (hn : Named s w w') (name : String) {own own' : Fields} (h : FieldsLike s own own') (t : Matching) :
    ResultLike Same t (qualifiedName w name own) (qualifiedName w' name own') := by
  unfold qualifiedName
  obtain ⟨hq, hq'⟩ | ⟨q, q', hq, hq', hqq⟩ := rel_cases (h.get? "__qualname__") <;> rw [hq, hq']
  · exact .ok rfl
  · dsimp only
    rw [hqq.string?, hn.className_eq hqq]
    split
    · exact .ok rfl
    · exact .error (.plain _ rfl)

/-- **What a class is built from** is alike when its parents and its body are; the failures carry nothing, so they are alike
along any matching. -/
theorem birth_like (hn : Named s w w') {b b' : Blueprint} (hown : FieldsLike s b.own b'.own)
    (hexcluded : b.excluded = b'.excluded) (hmanager : b.manager = b'.manager) (name : String) {is js : List Nat}
    (hij : List.Forall₂ (s .cls) is js)
    (hparents : List.Forall₂ (ClassLike s) (is.filterMap w.class?) (js.filterMap w'.class?)) (t : Matching) :
    ResultLike (fun _ r r' => BirthLike s r r' ∧ (r.parents = is ∧ r'.parents = js) ∧ r.manager = b.manager ∧
      r'.manager = b'.manager) t (birth w b name is) (birth w' b' name js) := by
  have hbodies : List.Forall₂ (FieldsLike s) ((is.filterMap w.class?).map (·.body)) ((js.filterMap w'.class?).map (·.body)) :=
    List.rel_map (fun _ _ h => h.body) hparents
  have hcell : Option.Rel (Like s) (cell? w b is) (cell? w' b' js) := by
    unfold cell?
    rw [hexcluded]
    exact (FieldsLike.compose hbodies b'.excluded hown).get? cellKey
  have hmodule : Like s ((Fields.get? b.own "__module__").getD (.ofString "offspring.domain.classes"))
      ((Fields.get? b'.own "__module__").getD (.ofString "offspring.domain.classes")) :=
    rel_getD (hown.get? "__module__") (.ofString _)
  have hdoc : Like s ((Fields.get? b.own "__doc__").getD .nil) ((Fields.get? b'.own "__doc__").getD .nil) :=
    rel_getD (hown.get? "__doc__") .nil
  have hqualified := qualifiedName_like hn name hown t
  unfold birth
  revert hqualified
  generalize qualifiedName w name b.own = q
  generalize qualifiedName w' name b'.own = q'
  rintro (rfl | he)
  · simp only [bind, Except.bind]
    obtain ⟨hx, hx'⟩ | ⟨x, x', hx, hx', hxx⟩ := rel_cases hcell <;> simp only [hx, hx']
    · exact .ok ⟨⟨rfl, rfl, hmodule, hdoc, hexcluded, hij, hown.filter fun k => !descriptionKeys.contains k, hmanager⟩,
        ⟨rfl, rfl⟩, rfl, rfl⟩
    · rw [hn.classRepr_eq hxx]
      exact .error (.plain _ rfl)
  · exact .error he

/-! ## The examination of a request -/

/-- Alike parents are found. -/
theorem parents_like (hw : Together c s w w') {is js : List Nat} (hij : List.Forall₂ (s .cls) is js) :
    List.Forall₂ (ClassLike s) (is.filterMap w.class?) (js.filterMap w'.class?) := by
  induction hij with
  | nil => exact .nil
  | cons h _ ih =>
    obtain ⟨k, k', hk, hk', hkk⟩ := hw.cls h
    rw [List.filterMap_cons_some hk, List.filterMap_cons_some hk']
    exact .cons hkk ih

theorem effectiveParents_like (hw : Together c s w w') {is js : List Nat} (hij : List.Forall₂ (s .cls) is js) :
    List.Forall₂ (s .cls) (effectiveParents is) (effectiveParents js) := by
  cases hij with
  | nil => exact .cons (hw.base _ _ _ ⟨rfl, .inl ⟨rfl, rfl⟩⟩) .nil
  | cons h hr => exact .cons h hr

/-- An examination that both worlds pass: what the class is built from is alike along a matching that may be larger, its
parents are matched. -/
structure ExaminedLike (c : Client) (extend : Matching → Matching) (t : Matching) (r r' : Birth) : Prop where
  birth : BirthLike (extend t) r r'
  parents : List.Forall₂ (t .cls) r.parents r'.parents
  manager : r.manager = c.manager
  manager' : r'.manager = c.manager

/-- **Examining a request** runs abreast. Its body may hold something that is not matched yet, as long as this does not change how
things are called: the examination does not use it. -/
theorem examine_abreast (hw : Together c s w w') {b b' : Blueprint} (hb : RequestLike c s b b')
    {extend : Matching → Matching} (hextend : ∀ t, t ≤ extend t)
    (hown : ∀ {t : Matching} {u u' : World}, Onward c s w w' t u u' → Together c t u u' →
      FieldsLike (extend t) b.own b'.own ∧ Named (extend t) u u') :
    Abreast c s w w' (ExaminedLike c extend) (examine b) (examine b') := by
  have hsite : b.site = b'.site := by
    unfold Blueprint.site
    rw [hb.callers, hb.inner, hb.depth]
  have hname : Abreast c s w w' Same (checkName b) (checkName b') := by
    unfold checkName
    rw [hb.sys, hb.sys', hb.callers, hb.inner, hb.depth, hsite]
    refine (Query.requireArgument_abreast hw hb.name (.ofString "string") (.ofInt 1) _).bind fun ho hu _ => .get_bind ?_
    rw [(hu.read (hb.name.mono ho.le)).isTruthy]
    split
    · exact .fail hu _ rfl
    · exact .pure hu rfl
  refine hname.bind fun ho hu _ => ?_
  rw [hsite]
  refine (checkParents_abreast hu b'.site 2 (hb.parents.mono ho.le)).bind fun {t v v' is js} ho₁ hv hij => ?_
  have hreserved := reservedIn?_eq (hown (ho.trans ho₁) hv).1
  rw [hreserved]
  have hn := hb.name.mono (ho.le.trans ho₁.le)
  split
  · exact (Access.shown_abreast hv hn).bind fun _ hz ht => ht ▸ .throw_bind hz (.plain _ rfl)
  refine .get_bind (.liftExcept_bind hv (classText_like hv hn) fun {n n'} _ _ hnn => ?_)
  cases hnn
  have hparents := effectiveParents_like hv hij
  obtain ⟨hfields, hnamed⟩ := hown (ho.trans ho₁) hv
  have hbirth := birth_like hnamed hfields hb.excluded (hb.manager.trans hb.manager'.symm) n
    (hparents.imp fun _ _ => hextend t _ _ _) ((parents_like hv hparents).imp fun _ _ h => h.mono (hextend t)) t
  refine .liftExcept hv (hbirth.imp le_rfl fun {r r'} h => ⟨h.1, ?_, h.2.2.1.trans hb.manager, h.2.2.2.trans hb.manager'⟩)
  rw [h.2.1.1, h.2.1.2]
  exact hparents


/-! ## Building -/

/-- What a body holds that is not matched yet, between two moments: it may be matched as soon as the next class is. -/
structure Pending (c : Client) (s : Matching) (w w' w₁ w₁' : World) (extend : Matching → Matching) (own own' : Fields) :
    Prop where
  le : ∀ t, t ≤ extend t
  own : ∀ {t : Matching} {u u' : World}, Onward c s w₁ w₁' t u u' → Together c t u u' →
    FieldsLike (extend t) own own' ∧ Named (extend t) u u' ∧ (extend t).OneToOne
  new : ∀ {t : Matching} {u u' : World}, Onward c s w₁ w₁' t u u' → ∀ {k : Numbered} {i j : Nat}, extend t k i j →
    t k i j ∨ k = .function ∧ w.thing? k i = none ∧ w'.thing? k j = none ∧
      ∃ x y, u.thing? k i = some x ∧ u'.thing? k j = some y ∧
        ∀ {T : Matching}, T .cls w.classes.length w'.classes.length → ThingLike T x y

/-- The function that tests its place is added to both bodies. It is not matched before its class is. -/
theorem addProbe_pending (hw : Together c s w w') {b b' : Blueprint} (hb : BlueprintLike c s b b') :
    ∃ p p' w₁ w₁' extend, (addProbe b).run w = (.ok p, w₁) ∧ (addProbe b').run w' = (.ok p', w₁') ∧
      Onward c s w w' s w₁ w₁' ∧ Together c s w₁ w₁' ∧ RequestLike c s p p' ∧ Pending c s w w' w₁ w₁' extend p.own p'.own := by
  have hprobe := hb.probe
  unfold addProbe
  cases hm : b'.probe with
  | none =>
    rw [hm] at hprobe
    rw [hprobe]
    refine ⟨b, b', w, w', id, rfl, rfl, .refl c s w w', hw, hb.toRequestLike, fun _ => le_rfl, fun ho hu => ?_, fun _ => .inl⟩
    exact ⟨hb.own.mono ho.le, hu.named, hu.oneToOne⟩
  | some m =>
    rw [hm] at hprobe
    rw [hprobe]
    have hput := w.puts_addBehaviour (.probes w.classes.length)
    have hput' := w'.puts_addBehaviour (.probes w'.classes.length)
    have hnone := w.thing?_count .function
    have hnone' := w'.thing?_count .function
    refine ⟨_, _, _, _, fun t => t ⊔ .pair .function w.behaviours.length w'.behaviours.length, rfl, rfl,
      .puts hput hput' le_rfl .inl (.inl ⟨hnone, hnone'⟩) nofun, hw.unseen hput hput' hnone hnone', ?_, fun _ => le_sup_left,
      fun {t u u'} ho hu => ⟨?_, ⟨?_, ?_⟩, ?_⟩, fun {t u u'} ho {k i j} hij => ?_⟩
    · exact { hb.toRequestLike with excluded := congrArg (cellKey :: ·) hb.excluded }
    · exact ((hb.own.mono (ho.le.trans le_sup_left)).erase cellKey).set m (.function (.inr ⟨rfl, rfl, rfl⟩))
    · rintro i j (hij | ⟨hk, -⟩)
      · obtain ⟨hx, hy⟩ | ⟨x, y, hx, hy, hxy⟩ := rel_cases (hu.named.inst hij) <;> rw [hx, hy]
        · exact .none
        · exact .some (hxy.mono le_sup_left)
      · cases hk
    · rintro i j (hij | ⟨-, rfl, rfl⟩)
      · exact hu.named.function hij
      · obtain ⟨x, hx, hx'⟩ := Option.map_eq_some_iff.1 (ho.functions hput.here)
        obtain ⟨y, hy, hy'⟩ := Option.map_eq_some_iff.1 (ho.functions' hput'.here)
        cases hx'
        cases hy'
        rw [hx, hy]
        rfl
    · refine hu.oneToOne.sup_pair (fun j hj => ?_) fun i hi => ?_
      · rcases ho.fresh hj with hj | ⟨hj, -⟩
        · exact (hw.ne_none hj).1 hnone
        · exact Option.some_ne_none _ (hput.here.symm.trans hj)
      · rcases ho.fresh hi with hi | ⟨-, hi⟩
        · exact (hw.ne_none hi).2 hnone'
        · exact Option.some_ne_none _ (hput'.here.symm.trans hi)
    · rcases hij with hij | ⟨rfl, rfl, rfl⟩
      · exact .inl hij
      · exact .inr ⟨rfl, hnone, hnone', _, _, ho.functions hput.here, ho.functions' hput'.here,
          fun hT => .function (.probes hT)⟩

theorem puts_enterClass (u : World) (r : Birth) :
    u.Puts (enterClass u r).1 .cls u.classes.length (.cls (Composition.classOf r (r.parents.filterMap u.class?))) :=
  (u.puts_addClass r).keeps ⟨fun k _ => by cases k <;> rfl, rfl, rfl⟩

/-- A class that was examined on both sides is entered on both sides, and what was pending is matched with it. -/
theorem enterClass_together {w₁ w₁' : World} {extend : Matching → Matching} {own own' : Fields}
    (hpending : Pending c s w w' w₁ w₁' extend own own') (ho : Onward c s w w' s w₁ w₁') (ho₁ : Onward c s w₁ w₁' t u u')
    (hu : Together c t u u') {r r' : Birth} (hr : ExaminedLike c extend t r r')
    (hlength : u.classes.length = w.classes.length) (hlength' : u'.classes.length = w'.classes.length) :
    ∃ T, t ≤ T ∧ T .cls u.classes.length u'.classes.length ∧ Onward c s w w' T (enterClass u r).1 (enterClass u' r').1 ∧
      Together c T (enterClass u r).1 (enterClass u' r').1 := by
  have hput := puts_enterClass u r
  have hput' := puts_enterClass u' r'
  have hnone := u.thing?_count .cls
  have hnone' := u'.thing?_count .cls
  obtain ⟨-, -, hone⟩ := hpending.own ho₁ hu
  have hle : extend t ≤ extend t ⊔ .pair .cls u.classes.length u'.classes.length := le_sup_left
  have hpair : (extend t ⊔ .pair .cls u.classes.length u'.classes.length) .cls u.classes.length u'.classes.length :=
    .inr ⟨rfl, rfl, rfl⟩
  have hT : (extend t ⊔ .pair .cls u.classes.length u'.classes.length).OneToOne := by
    refine hone.sup_pair (fun j hj => ?_) fun i hi => ?_
    · rcases hpending.new ho₁ hj with hj | ⟨hk, -⟩
      · exact (hu.ne_none hj).1 hnone
      · cases hk
    · rcases hpending.new ho₁ hi with hi | ⟨hk, -⟩
      · exact (hu.ne_none hi).2 hnone'
      · cases hk
  have hall := ho.trans ho₁
  refine ⟨extend t ⊔ .pair .cls u.classes.length u'.classes.length, (hpending.le t).trans hle, hpair,
    (hall.enlarge ((hpending.le t).trans hle) ?_).trans (.puts hput hput' le_rfl .inl (.inl ⟨hnone, hnone'⟩) fun _ => hpair),
    (hu.unseen hput hput' hnone hnone').enlarge ((hpending.le t).trans hle) hT ?_⟩
  · rintro k i j (hij | ⟨rfl, rfl, rfl⟩)
    · rcases hpending.new ho₁ hij with hij | ⟨-, hi, hj, -⟩
      · exact .inl hij
      · exact .inr ⟨hi, hj⟩
    · exact .inr ⟨hall.grown hnone, hall.grown' hnone'⟩
  · rintro k i j (hij | ⟨rfl, rfl, rfl⟩)
    · rcases hpending.new ho₁ hij with hij | ⟨rfl, -, -, x, y, hx, hy, hxy⟩
      · exact .inl hij
      · have hne {i j : Nat} : ¬ ((Numbered.function = Numbered.cls) ∧ i = j) := fun h => nomatch h.1
        refine .inr ⟨x, y, (hput.elsewhere hne).trans hx, (hput'.elsewhere hne).trans hy, hxy ?_⟩
        rw [← hlength, ← hlength']
        exact hpair
    · exact .inr ⟨_, _, hput.here, hput'.here, .cls ((hr.birth.mono hle).classOf
        ((parents_like hu hr.parents).imp fun _ _ h => h.mono ((hpending.le t).trans hle)))⟩

/-- **Building a class** runs abreast. -/
theorem buildWith_abreast (hw : Together c s w w') {react : Reaction} (hreact : Reaction.RunsAbreast c react) {b b' : Blueprint}
    (hb : BlueprintLike c s b b') : Abreast c s w w' Like (buildWith react b) (buildWith react b') := by
  obtain ⟨p, p', w₁, w₁', extend, hp, hp', ho, hw₁, hpp, hpending⟩ := addProbe_pending hw hb
  obtain ⟨t, ho₁, hu, hr⟩ := examine_abreast hw₁ hpp hpending.le fun ho hu => ⟨(hpending.own ho hu).1, (hpending.own ho hu).2.1⟩
  have hlength : ((examine p).run w₁).2.classes.length = w.classes.length :=
    (length_classes_of_lasts (examine_lasts p) rfl).trans (congrArg List.length (addProbe_same hp).1)
  have hlength' : ((examine p').run w₁').2.classes.length = w'.classes.length :=
    (length_classes_of_lasts (examine_lasts p') rfl).trans (congrArg List.length (addProbe_same hp').1)
  unfold Abreast buildWith
  rw [Action.run_bind_of_ok hp, Action.run_bind_of_ok hp', Action.run_bind, Action.run_bind]
  revert ho₁ hu hr hlength hlength'
  rcases (examine p).run w₁ with ⟨r, u⟩
  rcases (examine p').run w₁' with ⟨r', u'⟩
  intro ho₁ hu hr hlength hlength'
  cases hr with
  | error he => exact ⟨t, ho.trans ho₁, hu, .error he⟩
  | @ok r r' hr =>
    obtain ⟨T, hle, hij, hO, hv⟩ := enterClass_together hpending ho ho₁ hu hr hlength hlength'
    have hnews : NewsLike T (.cls u.classes.length r.parents) (.cls u'.classes.length r'.parents) :=
      .cls hij (hr.parents.imp fun _ _ => hle _ _ _)
    have htold : Abreast c T (enterClass u r).1 (enterClass u' r').1 Like
        (do announce react r.manager (.cls u.classes.length r.parents); return .cls u.classes.length)
        (do announce react r'.manager (.cls u'.classes.length r'.parents); return .cls u'.classes.length) := by
      rw [hr.manager, hr.manager']
      exact (announce_abreast hv hreact hnews).bind fun ho hz _ => .pure hz (.cls (ho.le _ _ _ hij))
    obtain ⟨T', ho', hz, hx⟩ := htold
    exact ⟨T', hO.trans ho', hz, hx⟩

/-- **Defining a class** through a system runs abreast. -/
theorem defineClassFor_abreast (hw : Together c s w w') {react : Reaction} (hreact : Reaction.RunsAbreast c react) {n n' : Value}
    (hn : Like s n n') {ps ps' : List Value} (hps : LikeAll s ps ps') {m m' : Option Value} (hm : Option.Rel (Like s) m m')
    (callers inner : List Frame) (depth : Int) :
    Abreast c s w w' Like (defineClassFor callers react c.system n ps m inner depth)
      (defineClassFor callers react c.system n' ps' m' inner depth) := by
  refine (Query.system_abreast hw).bind fun {t u u' p q} ho hu hp => ?_
  have hbuild {x x' : Value} (hx : Like t x x') :
      Abreast c t u u' Like
        (do
          let own := if ((← get).read x).isTruthy then [("__module__", x)] else []
          buildWith react ⟨c.system, p.manager, p.excluded, n, ps, own, none, Query.systemFrame "define_class" :: inner,
            depth + 1, callers⟩)
        (do
          let own := if ((← get).read x').isTruthy then [("__module__", x')] else []
          buildWith react ⟨c.system, q.manager, q.excluded, n', ps', own, none, Query.systemFrame "define_class" :: inner,
            depth + 1, callers⟩) := by
    have hown : FieldsLike t (if (u.read x).isTruthy then [("__module__", x)] else [])
        (if (u'.read x').isTruthy then [("__module__", x')] else []) := by
      rw [(hu.read hx).isTruthy]
      split
      · exact .cons ⟨rfl, hx⟩ .nil
      · exact .nil
    refine .get_bind (buildWith_abreast hu hreact ?_)
    exact { sys := rfl, sys' := rfl, manager := hp.manager, manager' := hp.manager', excluded := hp.excluded,
            name := hn.mono ho.le, parents := hps.mono ho.le, inner := rfl, depth := rfl, callers := rfl, own := hown,
            probe := rfl }
  cases hm with
  | some hm => exact .pure_bind (hbuild (hm.mono ho.le))
  | none =>
    dsimp only
    generalize (Query.systemFrame "define_class" :: inner ++ callers)[depth.toNat]? = frame?
    cases frame? with
    | some f => exact .pure_bind (hbuild (.ofString _))
    | none => exact .throw_bind hu (.plain _ rfl)

/-! ## What plugins do -/

/-- A way to define what plugins ask for runs abreast, if the plugins may ask for it. -/
def Definer.RunsAbreast (c : Client) (define : Definer) : Prop :=
  ∀ {s : Matching} {w w' : World}, Together c s w w' → c.system = mainSystem →
    (∀ name {es es' : List (Value × Value)}, LikeEntries s es es' →
      Abreast c s w w' Like (define (.enum name es)) (define (.enum name es'))) ∧
    ∀ name, Abreast c s w w' Like (define (.cls name)) (define (.cls name))

/-- **What plugins do** runs abreast if the way they define things does. -/
theorem reactWith_abreast {define : Definer} (hdefine : Definer.RunsAbreast c define) :
    Reaction.RunsAbreast c (reactWith define) := by
  intro s w w' p p' news news' hw hp hnews
  have hnothing : Abreast c s w w' Same (pure ()) (pure ()) := .pure hw rfl
  have hkind := hp.kind
  unfold reactWith
  revert hkind
  generalize p.kind = k
  generalize p'.kind = k'
  intro hkind
  cases hkind with
  | plain => exact hnothing
  | failOn hook text =>
    simp only [hnews.hook_eq]
    split
    · exact .fail hw _ rfl
    · exact hnothing
  | inject field hv =>
    cases hnews with
    | cls hij _ => exact Access.write_abreast hw (.cls hij) field hv
    | enum => exact hnothing
  | exclude field hmain =>
    cases hnews with
    | enum => exact hnothing
    | cls hij _ =>
      refine .modify (t := s) ?_
      rw [← hmain, hw.ensureSystem.1, hw.ensureSystem.2]
      exact hw.changeSystem _ _ fun hp =>
        ⟨hp.delimiter, hp.enums, congrArg (fun keys => if keys.contains field then keys else keys ++ [field]) hp.excluded,
          hp.manager, hp.manager'⟩
  | defineEnum hmain =>
    cases hnews with
    | enum => exact hnothing
    | cls hij _ =>
      obtain ⟨x, y, hx, hy, hxy⟩ := hw.cls hij
      refine .get_bind ?_
      simp only [hx, hy, Option.map_some, Option.getD_some, hxy.typeName_eq]
      exact ((hdefine hw hmain).1 _ (.cons (.ofString _) (.ofString _) .nil)).bind fun _ hu _ => .pure hu rfl
  | defineClass hmain =>
    cases hnews with
    | cls => exact hnothing
    | enum name _ => exact ((hdefine hw hmain).2 name).bind fun _ hu _ => .pure hu rfl

/-- Definitions that are nested run abreast, however deep they may nest. -/
theorem defineNested_abreast (c : Client) (depth : Nat) : Definer.RunsAbreast c (defineNested depth) := by
  induction depth with
  | zero =>
    intro s w w' hw _
    exact ⟨fun _ _ _ _ => .fail hw _ rfl, fun _ => .fail hw _ rfl⟩
  | succ depth ih =>
    intro s w w' hw hmain
    have hensure : Abreast c s w w' Same (modify (·.ensureSystem mainSystem)) (modify (·.ensureSystem mainSystem)) := by
      refine .modify (t := s) ?_
      rw [← hmain, hw.ensureSystem.1, hw.ensureSystem.2]
      exact ⟨.refl c s w w', hw⟩
    refine ⟨fun name es es' hes => ?_, fun name => ?_⟩
    · refine hensure.bind fun ho hu _ => ?_
      dsimp only
      rw [← hmain]
      exact defineEnumWith_abreast hu (reactWith_abreast ih) (.ofString name) (.dict (hes.mono ho.le))
    · refine hensure.bind fun ho hu _ => ?_
      dsimp only [defineClassWith]
      rw [← hmain]
      exact defineClassFor_abreast hu (reactWith_abreast ih) (.ofString name) .nil .none _ [] 1

/-- **What plugins do runs abreast.** -/
theorem react_abreast (c : Client) : Reaction.RunsAbreast c react := reactWith_abreast (defineNested_abreast c maxNesting)

section

variable (hw : Together c s w w') {n n' : Value} (hn : Like s n n')
include hw

theorem build_abreast {b b' : Blueprint} (hb : BlueprintLike c s b b') : Abreast c s w w' Like (build b) (build b') :=
  buildWith_abreast hw (react_abreast c) hb

include hn

theorem defineEnum_abreast {m m' : Value} (hm : Like s m m') :
    Abreast c s w w' Like (defineEnum c.system n m) (defineEnum c.system n' m') :=
  defineEnumWith_abreast hw (react_abreast c) hn hm

theorem defineClass_abreast (throughPackage : Bool) {ps ps' : List Value} (hps : LikeAll s ps ps') {m m' : Option Value}
    (hm : Option.Rel (Like s) m m') (depth : Int) (stack : CallStack) :
    Abreast c s w w' Like (defineClass c.system throughPackage n ps m depth stack)
      (defineClass c.system throughPackage n' ps' m' depth stack) :=
  defineClassFor_abreast hw (react_abreast c) hn hps hm _ _ depth

end

end Definition

end Lineage
