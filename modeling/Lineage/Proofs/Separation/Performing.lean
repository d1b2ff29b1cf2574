import Lineage.Proofs.Separation.Terms

/-!
# Performing — the steps of a script in two worlds

A client runs its steps in two sessions: alone in the one, beside somebody else in the other. A step is its own (`DeedOwn`)
if it works on values that the client's terms give. Own steps run abreast: from sessions that look alike they lead
to sessions that look alike, with alike answers (`step_abreast`).
-/

set_option autoImplicit false

namespace Lineage.Script

variable {c : Client} {s t : Matching} {mine : String → Prop} {S S' : Session}

/-! ## Answers -/

mutual

/-- Alike answers: the same documents, with alike values in them. -/
inductive AnswerLike (s : Matching) : Answer → Answer → Prop where
  | value {v v' : Value} (h : Like s v v') : AnswerLike s (.value v) (.value v')
  | document (d : Document) : AnswerLike s (.document d) (.document d)
  | list {as bs : List Answer} (h : AnswersLike s as bs) : AnswerLike s (.list as) (.list bs)
  | record {es fs : List (String × Answer)} (h : AnswerEntriesLike s es fs) : AnswerLike s (.record es) (.record fs)

/-- Sequences of answers that are alike one by one. -/
inductive AnswersLike (s : Matching) : List Answer → List Answer → Prop where
  | nil : AnswersLike s [] []
  | cons {a b : Answer} {as bs : List Answer} (h : AnswerLike s a b) (r : AnswersLike s as bs) :
    AnswersLike s (a :: as) (b :: bs)

/-- Records with the same keys and alike answers. -/
inductive AnswerEntriesLike (s : Matching) : List (String × Answer) → List (String × Answer) → Prop where
  | nil : AnswerEntriesLike s [] []
  | cons (key : String) {a b : Answer} {es fs : List (String × Answer)} (h : AnswerLike s a b)
    (r : AnswerEntriesLike s es fs) : AnswerEntriesLike s ((key, a) :: es) ((key, b) :: fs)

end

mutual

theorem AnswerLike.mono (hst : s ≤ t) {a b : Answer} (h : AnswerLike s a b) : AnswerLike t a b := by
  cases h with
  | value h => exact .value (h.mono hst)
  | document d => exact .document d
  | list h => exact .list (h.mono hst)
  | record h => exact .record (h.mono hst)

theorem AnswersLike.mono (hst : s ≤ t) {as bs : List Answer} (h : AnswersLike s as bs) : AnswersLike t as bs := by
  cases h with
  | nil => exact .nil
  | cons h r => exact .cons (h.mono hst) (r.mono hst)

theorem AnswerEntriesLike.mono (hst : s ≤ t) {es fs : List (String × Answer)} (h : AnswerEntriesLike s es fs) :
    AnswerEntriesLike t es fs := by
  cases h with
  | nil => exact .nil
  | cons key h r => exact .cons key (h.mono hst) (r.mono hst)

end

/-- The values that alike answers are, are alike. -/
theorem AnswerLike.toValue {a b : Answer} (h : AnswerLike s a b) : Like s a.toValue b.toValue := by
  cases h with
  | value h => exact h
  | document d =>
    cases d with
    | bool b => exact .bool b
    | text x => exact .ofString x
    | _ => exact .nil
  | list _ => exact .nil
  | record _ => exact .nil

/-! ## Computations in sessions -/

/-- **Two computations in sessions run abreast:** the same as for worlds, and nothing else in the sessions changes. -/
def RunsAbreast (c : Client) (s : Matching) (S S' : Session) {α : Type} (R : Matching → α → α → Prop) (r r' : Run α) : Prop :=
  ∃ t u u', Onward c s S.world S'.world t u u' ∧ Together c t u u' ∧ (r.run S).2 = { S with world := u } ∧
    (r'.run S').2 = { S' with world := u' } ∧ ResultLike R t (r.run S).1 (r'.run S').1

namespace RunsAbreast

variable {α β : Type} {R : Matching → α → α → Prop} {Q : Matching → β → β → Prop} {r r' : Run α} {f f' : α → Run β}

theorem pure (h : Together c s S.world S'.world) {x x' : α} (hx : R s x x') : RunsAbreast c s S S' R (pure x) (pure x') :=
  ⟨s, S.world, S'.world, .refl c s _ _, h, rfl, rfl, .ok hx⟩

theorem throw (h : Together c s S.world S'.world) {e e' : Failure} (he : FailureLike s e e') :
    RunsAbreast c s S S' R (throw e : Run α) (throw e') :=
  ⟨s, S.world, S'.world, .refl c s _ _, h, rfl, rfl, .error he⟩

theorem lift {a a' : Action α} (h : Abreast c s S.world S'.world R a a') :
    RunsAbreast c s S S' R (Script.lift a) (Script.lift a') := by
  obtain ⟨t, ho, hu, hr⟩ := h
  have hrun (T : Session) (b : Action α) :
      (Script.lift b).run T = ((b.run T.world).1, { T with world := (b.run T.world).2 }) := by
    unfold Script.lift
    rw [Action.run_bind_of_ok (Action.run_get T)]
    rcases b.run T.world with ⟨r, v⟩
    cases r <;> rfl
  rw [RunsAbreast, hrun, hrun]
  exact ⟨t, _, _, ho, hu, rfl, rfl, hr⟩

/-- **Sequences** run abreast when their parts do. -/
theorem bind (h : RunsAbreast c s S S' R r r') (hf : ∀ {t u u' x x'}, Onward c s S.world S'.world t u u' → Together c t u u' →
    R t x x' → RunsAbreast c t { S with world := u } { S' with world := u' } Q (f x) (f' x')) :
    RunsAbreast c s S S' Q (r >>= f) (r' >>= f') := by
  obtain ⟨t, u, u', ho, hu, hS, hS', hr⟩ := h
  unfold RunsAbreast
  rw [Action.run_bind, Action.run_bind]
  revert hS hS' hr
  rcases r.run S with ⟨x, T⟩
  rcases r'.run S' with ⟨x', T'⟩
  rintro rfl rfl hr
  cases hr with
  | ok hx =>
    obtain ⟨t', v, v', ho', hv, hT, hT', hr'⟩ := hf ho hu hx
    exact ⟨t', v, v', ho.trans ho', hv, hT, hT', hr'⟩
  | error he => exact ⟨t, u, u', ho, hu, rfl, rfl, .error he⟩

theorem get_bind {f f' : Session → Run β} (hf : RunsAbreast c s S S' Q (f S) (f' S')) :
    RunsAbreast c s S S' Q (get >>= f) (get >>= f') := hf

end RunsAbreast

/-- Two sessions that look alike to a client: their worlds do, and its names stand for alike values. -/
structure Alongside (c : Client) (s : Matching) (mine : String → Prop) (S S' : Session) : Prop where
  world : Together c s S.world S'.world
  names : NamesLike mine s S.names S'.names

namespace Alongside

variable (h : Alongside c s mine S S') {α β : Type} {R : Matching → α → α → Prop} {Q : Matching → β → β → Prop}
include h

theorem next (hst : s ≤ t) {u u' : World} (hu : Together c t u u') :
    Alongside c t mine { S with world := u } { S' with world := u' } :=
  ⟨hu, h.names.mono hst⟩

theorem lift_bind {a a' : Action α} (ha : Abreast c s S.world S'.world R a a') {f f' : α → Run β}
    (hf : ∀ {t u u' x x'}, s ≤ t → Alongside c t mine { S with world := u } { S' with world := u' } → R t x x' →
      RunsAbreast c t { S with world := u } { S' with world := u' } Q (f x) (f' x')) :
    RunsAbreast c s S S' Q (lift a >>= f) (lift a' >>= f') :=
  (RunsAbreast.lift ha).bind fun ho hu hx => hf ho.le (h.next ho.le hu) hx

theorem evalTerm_bind {x : Term} (hx : TermOwn mine x) {f f' : Value → Run β}
    (hf : ∀ {t u u' v v'}, s ≤ t → Alongside c t mine { S with world := u } { S' with world := u' } → Like t v v' →
      RunsAbreast c t { S with world := u } { S' with world := u' } Q (f v) (f' v')) :
    RunsAbreast c s S S' Q (eval x >>= f) (eval x >>= f') :=
  (RunsAbreast.get_bind (.lift (eval_abreast h.world h.names hx))).bind fun ho hu hv => hf ho.le (h.next ho.le hu) hv

theorem evalList_bind {xs : List Term} (hxs : TermsOwn mine xs) {f f' : List Value → Run β}
    (hf : ∀ {t u u' vs vs'}, s ≤ t → Alongside c t mine { S with world := u } { S' with world := u' } → LikeAll t vs vs' →
      RunsAbreast c t { S with world := u } { S' with world := u' } Q (f vs) (f' vs')) :
    RunsAbreast c s S S' Q (evalList xs >>= f) (evalList xs >>= f') :=
  (RunsAbreast.get_bind (.lift (evalAll_abreast h.world h.names hxs))).bind fun ho hu hv => hf ho.le (h.next ho.le hu) hv

theorem evalBody_bind {es : List (Term × Term)} (hes : TermEntriesOwn mine es) {f f' : Fields → Run β}
    (hf : ∀ {t u u' fs gs}, s ≤ t → Alongside c t mine { S with world := u } { S' with world := u' } → FieldsLike t fs gs →
      RunsAbreast c t { S with world := u } { S' with world := u' } Q (f fs) (f' gs)) :
    RunsAbreast c s S S' Q (evalBody es >>= f) (evalBody es >>= f') := by
  have hmembers {t : Matching} {us vs : List (Value × Value)} (huv : LikeEntries t us vs) :
      FieldsLike t (us.filterMap fun e => e.1.string?.map (·, e.2)) (vs.filterMap fun e => e.1.string?.map (·, e.2)) := by
    induction us generalizing vs with
    | nil => cases huv; exact .nil
    | cons e us ih =>
      cases huv with
      | @cons _ k' _ _ _ _ hk hv r =>
        rw [List.filterMap_cons, List.filterMap_cons, hk.string?]
        dsimp only
        cases k'.string? with
        | none => exact ih r
        | some n => exact .cons ⟨rfl, hv⟩ (ih r)
  have hbody : RunsAbreast c s S S' FieldsLike (evalBody es) (evalBody es) :=
    .get_bind ((RunsAbreast.lift (evalEntries_abreast h.world h.names hes)).bind fun _ hu huv =>
      .pure hu (Tabled.update .nil (hmembers huv)))
  exact hbody.bind fun ho hu hfs => hf ho.le (h.next ho.le hu) hfs

theorem evalKey_bind {x : Term} (hx : TermOwn mine x) {f f' : String → Run β}
    (hf : ∀ {t u u'} key, s ≤ t → Alongside c t mine { S with world := u } { S' with world := u' } →
      RunsAbreast c t { S with world := u } { S' with world := u' } Q (f key) (f' key)) :
    RunsAbreast c s S S' Q (evalKey x >>= f) (evalKey x >>= f') := by
  have hkey : RunsAbreast c s S S' Same (evalKey x) (evalKey x) := by
    refine h.evalTerm_bind hx fun {t u u' v v'} _ hu hv => ?_
    rw [hv.string?]
    split
    · exact .pure hu.world rfl
    · refine .get_bind ?_
      dsimp only
      rw [hu.world.named.className_eq hv]
      exact .throw hu.world (.plain _ rfl)
  refine hkey.bind fun ho hu hk => ?_
  cases hk
  exact hf _ ho.le (h.next ho.le hu)

end Alongside

/-! ## Deeds -/

/-- What a client does by itself: it defines enumerations and classes, uses and changes what its terms give, changes the
keys that its system does not hand down, asks type questions, and looks at what it has. -/
inductive DeedOwn (mine : String → Prop) : Deed → Prop where
  | say {x : Term} (h : TermOwn mine x) : DeedOwn mine (.say x)
  | defineEnum {name members : Term} (hname : TermOwn mine name) (hmembers : TermOwn mine members) :
    DeedOwn mine (.defineEnum name members)
  | defineClass {name : Term} {parents : List Term} {module : Option Term} (depth : Int) (hname : TermOwn mine name)
    (hparents : TermsOwn mine parents) (hmodule : ∀ x, module = some x → TermOwn mine x) :
    DeedOwn mine (.defineClass name parents module depth)
  | statement {name : Term} {bases : List Term} {body : List (Term × Term)} (probe : Option String) (hname : TermOwn mine name)
    (hbases : TermsOwn mine bases) (hbody : TermEntriesOwn mine body) : DeedOwn mine (.statement name bases body probe)
  | write {on key value : Term} (hon : TermOwn mine on) (hkey : TermOwn mine key) (hvalue : TermOwn mine value) :
    DeedOwn mine (.write on key value)
  | erase {on key : Term} (hon : TermOwn mine on) (hkey : TermOwn mine key) : DeedOwn mine (.erase on key)
  | exclude (add discard : List String) : DeedOwn mine (.exclude add discard)
  | typeName {x : Term} (h : TermOwn mine x) : DeedOwn mine (.typeName x)
  | typeOf {x e : Term} (hx : TermOwn mine x) (he : TermOwn mine e) : DeedOwn mine (.typeOf x e)
  | findMatch {x e : Term} (hx : TermOwn mine x) (he : TermOwn mine e) : DeedOwn mine (.findMatch x e)
  | assertType {x e label : Term} (depth : Int) (direct : Bool) (hx : TermOwn mine x) (he : TermOwn mine e)
    (hlabel : TermOwn mine label) : DeedOwn mine (.assertType x e label depth direct)
  | assertArgument {index x e : Term} (depth : Option Int) (direct : Bool) (hindex : TermOwn mine index) (hx : TermOwn mine x)
    (he : TermOwn mine e) : DeedOwn mine (.assertArgument index x e depth direct)
  | construct {cls : Term} {args : List Term} (hcls : TermOwn mine cls) (hargs : TermsOwn mine args) :
    DeedOwn mine (.construct cls args)
  | call {on method : Term} {args : List Term} (hon : TermOwn mine on) (hmethod : TermOwn mine method)
    (hargs : TermsOwn mine args) : DeedOwn mine (.call on method args)
  | read {on key : Term} {absent : Option Term} (hon : TermOwn mine on) (hkey : TermOwn mine key)
    (habsent : ∀ x, absent = some x → TermOwn mine x) : DeedOwn mine (.read on key absent)
  | repr {x : Term} (h : TermOwn mine x) : DeedOwn mine (.repr x)
  | classInfo {cls : Term} (h : TermOwn mine cls) : DeedOwn mine (.classInfo cls)
  | fields {cls : Term} (h : TermOwn mine cls) : DeedOwn mine (.fields cls)
  | enumInfo {on : Term} (h : TermOwn mine on) : DeedOwn mine (.enumInfo on)
  | registry : DeedOwn mine .registry
  | registryGet {name : Term} (h : TermOwn mine name) : DeedOwn mine (.registryGet name)

section

variable {w w' : World} (hw : Together c s w w')
include hw

theorem fieldsOf_abreast {v v' : Value} (hv : Like s v v') : Abreast c s w w' Like (fieldsOf v) (fieldsOf v') := by
  have hname := hw.named.className_eq hv
  unfold fieldsOf
  refine .get_bind ?_
  cases hv with
  | cls hij =>
    obtain ⟨x, y, hx, hy, hxy⟩ := hw.cls hij
    dsimp only
    rw [hx, hy]
    exact .pure hw hxy.fields.dictOf
  | _ => exact .fail_eq hw (by rw [hname]) rfl

theorem classAnswer_abreast {v v' : Value} (hv : Like s v v') :
    Abreast c s w w' AnswerLike (classAnswer v) (classAnswer v') := by
  have hname := hw.named.className_eq hv
  unfold classAnswer
  refine .get_bind ?_
  cases hv with
  | cls hij =>
    obtain ⟨x, y, hx, hy, hxy⟩ := hw.cls hij
    dsimp only
    rw [hx, hy]
    refine (Access.repr_abreast hw (.cls hij)).bind fun {t u u' r r'} ho hu hr => .pure hu ?_
    cases hr
    rw [hxy.typeName_eq, hxy.membership_eq, hxy.label, hxy.qualifiedName]
    exact .record (.cons _ (.document _) (.cons _ (.document _) (.cons _ (.document _) (.cons _ (.value (hxy.module.mono ho.le))
      (.cons _ (.document _) (.cons _ (.document _) (.cons _ (.document _) (.cons _ (.value (hxy.doc.mono ho.le)) .nil))))))))
  | _ => exact .fail_eq hw (by rw [hname]) rfl

omit hw in
theorem valueList_like {xs ys : List Value} (h : LikeAll s xs ys) : AnswerLike s (valueList xs) (valueList ys) := by
  refine .list ?_
  induction xs generalizing ys with
  | nil => cases h; exact .nil
  | cons x xs ih =>
    cases h with
    | cons h r => exact .cons (.value h) (ih r)

theorem enumAnswer_abreast {v v' : Value} (hv : Like s v v') :
    Abreast c s w w' AnswerLike (enumAnswer v) (enumAnswer v') := by
  have hname := hw.named.className_eq hv
  have hrepr := Access.repr_abreast hw hv
  unfold enumAnswer
  cases hv with
  | @enum name i j es fs _ hes =>
    refine hrepr.bind fun {t u u' r r'} ho hu hr => .pure hu ?_
    cases hr
    have hes' := hes.mono ho.le
    rw [hes.length_eq]
    refine .record (.cons _ (.document _) (.cons _ (.document _) (.cons _ (valueList_like hes'.keys) (.cons _ (.list ?_)
      (.cons _ (.document _) .nil)))))
    clear hes hrepr hname
    induction es generalizing fs with
    | nil => cases hes'; exact .nil
    | cons e es ih =>
      cases hes' with
      | cons hk hv r => exact .cons (valueList_like (.cons hk (.cons hv .nil))) (ih r)
  | _ => exact .get_bind (.fail_eq hw (by rw [hname]) rfl)

theorem registered?_abreast {v v' : Value} (hv : Like s v v') :
    Abreast c s w w' Access.LikeOption (registered? c.system v) (registered? c.system v') := by
  have hfind : Abreast c s w w' Access.LikeOption
      (do
        let p ← Query.system c.system
        return v.string?.bind (Fields.get? p.enums))
      (do
        let p ← Query.system c.system
        return v'.string?.bind (Fields.get? p.enums)) := by
    refine (Query.system_abreast hw).bind fun _ hu hp => .pure hu ?_
    rw [hv.string?]
    cases v'.string? with
    | none => exact .none
    | some n => exact hp.enums.get? n
  unfold registered?
  rw [hv.unhashable?]
  split
  · exact .throw_bind hw (.plain _ rfl)
  · exact .pure_bind hfind

theorem callMethod_abreast {v v' : Value} (hv : Like s v v') (method : String) {xs ys : List Value} (hxs : LikeAll s xs ys) :
    Abreast c s w w' Like (callMethod v method xs) (callMethod v' method ys) :=
  (Access.read_abreast hw hv method).bind fun ho hu hf => Access.call_abreast hu hf (hxs.mono ho.le)

theorem exclude_abreast (add discard : List String) :
    Abreast c s w w' AnswerLike (exclude c.system add discard) (exclude c.system add discard) := by
  have hchange := hw.changeSystem
    (fun p => { p with excluded := (Composition.distinct (p.excluded ++ add)).filter (!discard.contains ·) })
    (fun p => { p with excluded := (Composition.distinct (p.excluded ++ add)).filter (!discard.contains ·) })
    fun hp => ⟨hp.delimiter, hp.enums, by rw [hp.excluded], hp.manager, hp.manager'⟩
  refine (Abreast.modify hchange).bind fun _ hu _ => (Query.system_abreast hu).bind fun _ hv hp => .pure hv ?_
  rw [hp.excluded]
  exact .document _

end

/-- Class statements of alike parts are alike requests. -/
theorem statementBlueprint_like {p q : System} (hp : SystemLike c s p q) {n n' : Value} (hn : Like s n n') {ps ps' : List Value}
    (hps : LikeAll s ps ps') {own own' : Fields} (hown : FieldsLike s own own') (probe : Option String) (stack : CallStack) :
    Definition.BlueprintLike c s (statementBlueprint c.system p n ps own probe stack)
      (statementBlueprint c.system q n' ps' own' probe stack) where
  sys := rfl
  sys' := rfl
  manager := hp.manager
  manager' := hp.manager'
  excluded := hp.excluded
  name := hn
  parents := hps
  inner := rfl
  depth := rfl
  callers := rfl
  probe := rfl
  own := by
    cases probe with
    | none => exact Tabled.update .nil hown
    | some _ =>
      unfold statementBlueprint
      rw [hn.string?]
      exact Tabled.update (.cons ⟨rfl, .ofString _⟩ (.cons ⟨rfl, .ofString _⟩ .nil)) hown

/-- A class is defined through the package where the client has the system of the process, and else on its own. -/
theorem defineOn_abreast (h : Alongside c s mine S S') {n n' : Value} (hn : Like s n n') {ps ps' : List Value}
    (hps : LikeAll s ps ps') {m m' : Option Value} (hm : Option.Rel (Like s) m m') (depth : Int) (stack : CallStack) :
    RunsAbreast c s S S' AnswerLike
      (if c.system = processSystem then
        do return .value (← lift (Definition.defineClass c.system true n ps none 2 stack))
      else do return .value (← lift (Definition.defineClass c.system false n ps m depth stack)))
      (if c.system = processSystem then
        do return .value (← lift (Definition.defineClass c.system true n' ps' none 2 stack))
      else do return .value (← lift (Definition.defineClass c.system false n' ps' m' depth stack))) := by
  split
  · refine h.lift_bind (Definition.defineClass_abreast h.world hn true hps .none 2 stack) fun _ h hx => ?_
    exact .pure h.world (.value hx)
  · refine h.lift_bind (Definition.defineClass_abreast h.world hn false hps hm depth stack) fun _ h hx => ?_
    exact .pure h.world (.value hx)

/-- **Own deeds** run abreast. -/
theorem perform_abreast (h : Alongside c s mine S S') {d : Deed} (hd : DeedOwn mine d) (stack : CallStack) :
    RunsAbreast c s S S' AnswerLike (perform c.system stack d) (perform c.system stack d) := by
  cases hd with
  | say hx => exact h.evalTerm_bind hx fun _ h hx => .pure h.world (.value hx)
  | defineEnum hname hmembers =>
    refine h.evalTerm_bind hname fun _ h hn => ?_
    refine h.evalTerm_bind hmembers fun ho h hm => ?_
    refine h.lift_bind (Definition.defineEnum_abreast h.world (hn.mono ho) hm) fun _ h he => ?_
    exact .pure h.world (.value he)
  | @defineClass name parents module depth hname hparents hmodule =>
    refine h.evalTerm_bind hname fun _ h hn => ?_
    refine h.evalList_bind hparents fun ho h hps => ?_
    cases module with
    | none => exact defineOn_abreast h (hn.mono ho) hps .none depth stack
    | some m => exact h.evalTerm_bind (hmodule m rfl) fun ho' h hx =>
        defineOn_abreast h (hn.mono (ho.trans ho')) (hps.mono ho') (.some hx) depth stack
  | statement probe hname hbases hbody =>
    refine h.evalTerm_bind hname fun _ h hn => ?_
    refine h.evalList_bind hbases fun ho h hps => ?_
    refine h.evalBody_bind hbody fun ho' h hown => ?_
    refine h.lift_bind (Query.system_abreast h.world) fun ho'' h hp => ?_
    have hrequest := statementBlueprint_like hp (hn.mono (ho.trans (ho'.trans ho''))) (hps.mono (ho'.trans ho''))
      (hown.mono ho'') probe stack
    exact h.lift_bind (Definition.build_abreast h.world hrequest) fun _ h hx => .pure h.world (.value hx)
  | write hon hkey hvalue =>
    refine h.evalTerm_bind hon fun _ h hx => ?_
    refine h.evalKey_bind hkey fun key ho h => ?_
    refine h.evalTerm_bind hvalue fun ho' h hy => ?_
    refine h.lift_bind (Access.write_abreast h.world (hx.mono (ho.trans ho')) key hy) fun _ h _ => ?_
    exact .pure h.world (.document _)
  | erase hon hkey =>
    refine h.evalTerm_bind hon fun _ h hx => ?_
    refine h.evalKey_bind hkey fun key ho h => ?_
    refine h.lift_bind (Access.erase_abreast h.world (hx.mono ho) key) fun _ h _ => ?_
    exact .pure h.world (.document _)
  | exclude add discard =>
    rw [perform]
    exact .lift (exclude_abreast h.world add discard)
  | typeName hx =>
    refine h.evalTerm_bind hx fun _ h hx => ?_
    refine h.lift_bind (Query.typeName_abreast h.world hx) fun _ h hn => ?_
    cases hn
    exact .pure h.world (.document _)
  | typeOf hx he =>
    refine h.evalTerm_bind hx fun _ h hx => ?_
    refine h.evalTerm_bind he fun ho h he => ?_
    refine h.lift_bind (Query.typeOf_abreast h.world (hx.mono ho) he) fun _ h hb => ?_
    cases hb
    exact .pure h.world (.document _)
  | findMatch hx he =>
    refine h.evalTerm_bind hx fun _ h hx => ?_
    refine h.evalTerm_bind he fun ho h he => ?_
    refine h.lift_bind (Query.findMatch_abreast h.world (hx.mono ho) he) fun _ h hb => ?_
    cases hb
    exact .pure h.world (.document _)
  | assertType depth direct hx he hlabel =>
    refine h.evalTerm_bind hx fun _ h hx => ?_
    refine h.evalTerm_bind he fun ho h he => ?_
    refine h.evalTerm_bind hlabel fun ho' h hl => ?_
    refine h.lift_bind (Query.typed_abreast h.world _ (hx.mono (ho.trans ho')) (he.mono ho') hl depth stack) fun _ h _ => ?_
    exact .pure h.world (.document _)
  | assertArgument depth direct hindex hx he =>
    refine h.evalTerm_bind hindex fun _ h hi => ?_
    refine h.evalTerm_bind hx fun ho h hx => ?_
    refine h.evalTerm_bind he fun ho' h he => ?_
    refine h.lift_bind (Query.typedArgument_abreast h.world _ (hx.mono ho') he (hi.mono (ho.trans ho')) depth stack)
      fun _ h _ => ?_
    exact .pure h.world (.document _)
  | construct hcls hargs =>
    refine h.evalTerm_bind hcls fun _ h hk => ?_
    refine h.evalList_bind hargs fun ho h hxs => ?_
    refine h.lift_bind (Access.call_abreast h.world (hk.mono ho) hxs) fun _ h hx => ?_
    exact .pure h.world (.value hx)
  | call hon hmethod hargs =>
    refine h.evalTerm_bind hon fun _ h hx => ?_
    refine h.evalKey_bind hmethod fun method ho h => ?_
    refine h.evalList_bind hargs fun ho' h hxs => ?_
    refine h.lift_bind (callMethod_abreast h.world (hx.mono (ho.trans ho')) method hxs) fun _ h hy => ?_
    exact .pure h.world (.value hy)
  | @read on key absent hon hkey habsent =>
    refine h.evalTerm_bind hon fun _ h hx => ?_
    refine h.evalKey_bind hkey fun key ho h => ?_
    cases absent with
    | none => exact h.lift_bind (Access.read_abreast h.world (hx.mono ho) key) fun _ h hy => .pure h.world (.value hy)
    | some x =>
      refine h.evalTerm_bind (habsent x rfl) fun ho' h ha => ?_
      refine h.lift_bind (Access.read?_abreast h.world (hx.mono (ho.trans ho')) key) fun ho'' h hy => ?_
      exact .pure h.world (.value (rel_getD hy (ha.mono ho'')))
  | repr hx =>
    refine h.evalTerm_bind hx fun _ h hx => ?_
    refine h.lift_bind (Access.repr_abreast h.world hx) fun _ h hr => ?_
    cases hr
    exact .pure h.world (.document _)
  | classInfo hx => exact h.evalTerm_bind hx fun _ h hx => .lift (classAnswer_abreast h.world hx)
  | fields hx =>
    refine h.evalTerm_bind hx fun _ h hx => ?_
    exact h.lift_bind (fieldsOf_abreast h.world hx) fun _ h hy => .pure h.world (.value hy)
  | enumInfo hx => exact h.evalTerm_bind hx fun _ h hx => .lift (enumAnswer_abreast h.world hx)
  | registry =>
    refine h.lift_bind (Query.system_abreast h.world) fun _ h hp => .pure h.world ?_
    rw [hp.enums.keys_eq, List.Forall₂.length_eq hp.enums]
    exact .record (.cons _ (.document _) (.cons _ (.document _) .nil))
  | registryGet hx =>
    refine h.evalTerm_bind hx fun _ h hn => ?_
    exact h.lift_bind (registered?_abreast h.world hn) fun _ h he => .pure h.world (.value (rel_getD he .nil))

/-! ## Steps -/

/-- A step of a client: on its system, with a deed of its own, and what it saves it saves under a name of its own. -/
structure StepOwn (c : Client) (mine : String → Prop) (step : Step) : Prop where
  sys : step.sys = c.system
  saves : ∀ n, step.saveAs = some n → mine n
  deed : DeedOwn mine step.deed

/-- A session in which an answer has got its name, if the step gives it one. -/
def Session.saved (S : Session) (saveAs : Option String) (a : Answer) : Session :=
  saveAs.elim S fun n => { S with names := Fields.set S.names n a.toValue }

/-- A step of a client makes no system, since the client has one: it does its deed, and saves what that gives. -/
theorem StepOwn.run_eq (hS : S.world.ensureSystem c.system = S.world) {step : Step} (hstep : StepOwn c mine step) :
    step.run.run S = match (perform c.system step.stack step.deed).run S with
      | (.ok a, T) => (.ok a, T.saved step.saveAs a)
      | (.error e, T) => (.error e, T) := by
  obtain ⟨sys, saveAs, stack, deed⟩ := step
  obtain ⟨rfl, -, hdeed⟩ := hstep
  have hensure : (lift (modify (·.ensureSystem c.system))).run S = (.ok (), S) := by
    show (Except.ok (), { S with world := S.world.ensureSystem c.system }) = _
    rw [hS]
  have hrun : (Step.run ⟨c.system, saveAs, stack, deed⟩).run S = (do
      let a ← perform c.system stack deed
      modify (·.saved saveAs a)
      return a : Run Answer).run S := by
    cases hdeed <;> cases saveAs <;> exact Action.run_bind_of_ok hensure
  rw [hrun, Action.run_bind]
  rcases (perform c.system stack deed).run S with ⟨_ | a, T⟩ <;> rfl

/-- **Own steps** run abreast. No name changes its value but those of one's own. -/
theorem step_abreast (h : Alongside c s mine S S') {step : Step} (hstep : StepOwn c mine step) :
    ∃ t, Onward c s S.world S'.world t (step.run.run S).2.world (step.run.run S').2.world ∧
      Alongside c t mine (step.run.run S).2 (step.run.run S').2 ∧
      ResultLike AnswerLike t (step.run.run S).1 (step.run.run S').1 ∧
      ∀ n, ¬ mine n → Fields.get? (step.run.run S').2.names n = Fields.get? S'.names n := by
  obtain ⟨t, u, u', ho, hu, hrun, hrun', hr⟩ := perform_abreast h hstep.deed step.stack
  rw [hstep.run_eq h.world.ensureSystem.1, hstep.run_eq h.world.ensureSystem.2]
  revert hrun hrun' hr
  rcases (perform c.system step.stack step.deed).run S with ⟨r, T⟩
  rcases (perform c.system step.stack step.deed).run S' with ⟨r', T'⟩
  rintro rfl rfl hr
  cases hr with
  | error he => exact ⟨t, ho, h.next ho.le hu, .error he, fun _ _ => rfl⟩
  | @ok a a' ha =>
    have hsaves := hstep.saves
    revert hsaves
    cases step.saveAs with
    | none => exact fun _ => ⟨t, ho, h.next ho.le hu, .ok ha, fun _ _ => rfl⟩
    | some n =>
      intro hn
      refine ⟨t, ho, ⟨hu, fun m hm => ?_⟩, .ok ha, fun m hm => ?_⟩
      · by_cases hmn : m = n
        · subst hmn
          show Option.Rel _ (Fields.get? (Fields.set S.names m a.toValue) m) (Fields.get? (Fields.set S'.names m a'.toValue) m)
          rw [Fields.get?_set_self, Fields.get?_set_self]
          exact .some ha.toValue
        · show Option.Rel _ (Fields.get? (Fields.set S.names n a.toValue) m) (Fields.get? (Fields.set S'.names n a'.toValue) m)
          rw [Fields.get?_set_of_ne _ _ hmn, Fields.get?_set_of_ne _ _ hmn]
          exact h.names.mono ho.le m hm
      · exact Fields.get?_set_of_ne _ _ fun hmn => hm (hmn ▸ hn n rfl)

end Lineage.Script
