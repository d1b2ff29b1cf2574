import Lineage.Script
import Lineage.Proofs.Separation.Defining

/-!
# Terms — what a script writes, in two worlds

A script names what it made before. When its terms refer to things by names of its own only (`TermOwn`), and these names stand
for alike values, its terms run abreast in two worlds that look alike to a client: they make alike values, and every new
list, dictionary, function and outside object of the one world stands for that of the other.
-/

set_option autoImplicit false

namespace Lineage.Script

mutual

/-- A term of a script that has names of its own: it refers to things by these names only, and what it writes out is data, or has
the base class in it. -/
inductive TermOwn (mine : String → Prop) : Term → Prop where
  | data {v : Value} (h : Like Matching.base v v) : TermOwn mine (.data v)
  | specimen (name : String) : TermOwn mine (.specimen name)
  | reference {name : String} (h : mine name) : TermOwn mine (.reference name)
  | tuple {ts : List Term} (h : TermsOwn mine ts) : TermOwn mine (.tuple ts)
  | list {ts : List Term} (h : TermsOwn mine ts) : TermOwn mine (.list ts)
  | set (frozen : Bool) {ts : List Term} (h : TermsOwn mine ts) : TermOwn mine (.set frozen ts)
  | dict {es : List (Term × Term)} (h : TermEntriesOwn mine es) : TermOwn mine (.dict es)
  | function {b : Behaviour} (h : BehaviourLike Matching.base b b) : TermOwn mine (.function b)
  | returns {t : Term} (h : TermOwn mine t) : TermOwn mine (.returns t)
  | constant {t : Term} (h : TermOwn mine t) : TermOwn mine (.constant t)
  | isOneOf {ts : List Term} (h : TermsOwn mine ts) : TermOwn mine (.isOneOf ts)
  | property (lead : String) : TermOwn mine (.property lead)
  | foreign (base : ForeignBase) {type typeOf : Answering} {equalTo : Option Term} (htype : AnsweringOwn mine type)
    (htypeOf : AnsweringOwn mine typeOf) (hequal : ∀ t, equalTo = some t → TermOwn mine t) :
    TermOwn mine (.foreign base type typeOf equalTo)

/-- The same for the way an outside object answers. -/
inductive AnsweringOwn (mine : String → Prop) : Answering → Prop where
  | plain {d : Capability} (h : CapabilityLike Matching.base d d) : AnsweringOwn mine (.plain d)
  | returns {t : Term} (h : TermOwn mine t) : AnsweringOwn mine (.returns t)
  | holds {t : Term} (h : TermOwn mine t) : AnsweringOwn mine (.holds t)
  | names {ts : List Term} (h : TermsOwn mine ts) : AnsweringOwn mine (.names ts)

/-- The same for a sequence of terms. -/
inductive TermsOwn (mine : String → Prop) : List Term → Prop where
  | nil : TermsOwn mine []
  | cons {t : Term} {ts : List Term} (h : TermOwn mine t) (r : TermsOwn mine ts) : TermsOwn mine (t :: ts)

/-- The same for pairs of terms. -/
inductive TermEntriesOwn (mine : String → Prop) : List (Term × Term) → Prop where
  | nil : TermEntriesOwn mine []
  | cons {k v : Term} {es : List (Term × Term)} (hk : TermOwn mine k) (hv : TermOwn mine v) (r : TermEntriesOwn mine es) :
    TermEntriesOwn mine ((k, v) :: es)

end

/-- The names of one's own stand for alike values, or for nothing. -/
def NamesLike (mine : String → Prop) (s : Matching) (names names' : Bindings) : Prop :=
  ∀ n, mine n → Option.Rel (Like s) (Fields.get? names n) (Fields.get? names' n)

variable {c : Client} {s t : Matching} {w w' : World} {mine : String → Prop} {names names' : Bindings}

theorem NamesLike.mono (hst : s ≤ t) (h : NamesLike mine s names names') : NamesLike mine t names names' := by
  intro n hn
  obtain ⟨hx, hy⟩ | ⟨x, y, hx, hy, hxy⟩ := rel_cases (h n hn) <;> rw [hx, hy]
  · exact .none
  · exact .some (hxy.mono hst)

/-! ## What terms make -/

section

variable (hw : Together c s w w')
include hw

/-- What has a name everywhere is alike everywhere. -/
theorem specimen?_like (name : String) : Option.Rel (Like s) (specimen? name) (specimen? name) := by
  unfold specimen?
  split
  · exact .some (.cls (hw.base _ _ _ ⟨rfl, .inl ⟨rfl, rfl⟩⟩))
  split
  · exact .some (.ofString _)
  split
  · exact .some (.ofInt _)
  split
  · exact .some (.tuple (.cons (.ofInt _) (.cons (.ofInt _) .nil)))
  · cases specimens.find? _ with
    | none => exact .none
    | some x => exact .some (.specimen x)

/-- A loop that does nothing but give up or go on, and does so alike at alike items, runs abreast. -/
theorem foldlM_abreast {α β : Type} {P : α → α → Prop} {Q : Matching → β → β → Prop} {f f' : β → α → Action β}
    (hf : ∀ {y y' x x'}, Q s y y' → P x x' → (∃ e, Failure.carried? e = none ∧ f y x = throw e ∧ f' y' x' = throw e) ∨
      ∃ z z', f y x = pure z ∧ f' y' x' = pure z' ∧ Q s z z') {xs xs' : List α} (hxs : List.Forall₂ P xs xs') {y y' : β}
    (hy : Q s y y') : Abreast c s w w' Q (xs.foldlM f y) (xs'.foldlM f' y') := by
  induction hxs generalizing y y' with
  | nil => exact .pure hw hy
  | cons hx _ ih =>
    rw [List.foldlM_cons, List.foldlM_cons]
    obtain ⟨e, he, hthrow, hthrow'⟩ | ⟨z, z', hz, hz', hzz⟩ := hf hy hx
    · rw [hthrow, hthrow']
      exact .throw_bind hw (.plain e he)
    · rw [hz, hz']
      exact .pure_bind (ih hzz)

theorem makeSet_abreast {xs ys : List Value} (h : LikeAll s xs ys) : Abreast c s w w' LikeAll (makeSet xs) (makeSet ys) := by
  refine .get_bind (foldlM_abreast hw (fun {us vs x y} huv hxy => ?_) (likeAll_iff.1 h) .nil)
  rw [Access.unhashable?_eq hw hxy]
  split
  · exact .inl ⟨_, rfl, rfl, rfl⟩
  · refine .inr ⟨_, _, rfl, rfl, ?_⟩
    rw [huv.any_eq fun h => (hw.read h).equalInside hw.oneToOne (hw.read hxy)]
    split
    · exact huv
    · exact huv.append (.cons hxy .nil)

theorem makeDict_abreast {es fs : List (Value × Value)} (h : LikeEntries s es fs) :
    Abreast c s w w' LikeEntries (makeDict es) (makeDict fs) := by
  refine .get_bind (foldlM_abreast hw (fun {us vs e f} huv hef => ?_) (likeEntries_iff.1 h) .nil)
  rw [Access.unhashable?_eq hw hef.1]
  split
  · exact .inl ⟨_, rfl, rfl, rfl⟩
  · exact .inr ⟨_, _, rfl, rfl, huv.put (fun hk _ => hk.equalInside hw.oneToOne (hw.read hef.1)) (hw.read hef.1) hef.2⟩

theorem newFunction_abreast {b b' : Behaviour} (h : BehaviourLike s b b') :
    Abreast c s w w' (fun t => t .function) (newFunction b) (newFunction b') := by
  have hadd := hw.add (w.puts_addBehaviour b) (w'.puts_addBehaviour b') (w.thing?_count .function) (w'.thing?_count .function)
    (.function (h.mono le_sup_left))
  refine .get_bind (.set_bind hadd ?_)
  exact .pure hadd.2 (.inr ⟨rfl, rfl, rfl⟩)

theorem newCell_abreast (kind : CellKind) {x y : Cell} (h : CellLike s x y) :
    Abreast c s w w' Like (newCell kind x) (newCell kind y) := by
  refine .get_bind (.set_bind (hw.addCell h) ?_)
  exact .pure (hw.addCell h).2 (.shared kind (.inr ⟨rfl, rfl, rfl⟩))

end

/-! ## Terms -/

mutual

/-- **Terms run abreast.** -/
theorem eval_abreast {s : Matching} {w w' : World} (hw : Together c s w w') (hnames : NamesLike mine s names names')
    {t : Term} (ht : TermOwn mine t) : Abreast c s w w' Like (t.eval names) (t.eval names') := by
  unfold Term.eval
  cases ht with
  | data h => exact .pure hw (h.mono hw.base)
  | specimen n =>
    dsimp only
    obtain ⟨hx, -⟩ | ⟨x, y, hx, hy, hxy⟩ := rel_cases (specimen?_like hw n)
    · rw [hx]
      exact .fail hw _ rfl
    · rw [hx]
      exact .pure hw (Option.some.inj (hx.symm.trans hy) ▸ hxy)
  | @reference n h =>
    dsimp only
    obtain ⟨hx, hy⟩ | ⟨x, y, hx, hy, hxy⟩ := rel_cases (hnames n h) <;> rw [hx, hy]
    · exact .fail hw _ rfl
    · exact .pure hw hxy
  | tuple h => exact (evalAll_abreast hw hnames h).bind fun _ hu hxs => .pure hu (.tuple hxs)
  | list h => exact (evalAll_abreast hw hnames h).bind fun _ hu hxs => newCell_abreast hu .list (.list hxs)
  | set frozen h =>
    exact (evalAll_abreast hw hnames h).bind fun _ hu hxs => (makeSet_abreast hu hxs).bind fun _ hv hys =>
      .pure hv (.set frozen hys)
  | dict h =>
    exact (evalEntries_abreast hw hnames h).bind fun _ hu hes => (makeDict_abreast hu hes).bind fun _ hv hfs =>
      newCell_abreast hv .dict (.dict hfs)
  | function h => exact (newFunction_abreast hw (h.mono hw.base)).bind fun _ hu hij => .pure hu (.function hij)
  | returns h =>
    exact (eval_abreast hw hnames h).bind fun _ hu hx => (newFunction_abreast hu (.returns hx)).bind fun _ hv hij =>
      .pure hv (.function hij)
  | constant h =>
    exact (eval_abreast hw hnames h).bind fun _ hu hx => (newFunction_abreast hu (.constant hx)).bind fun _ hv hij =>
      .pure hv (.function hij)
  | isOneOf h =>
    exact (evalAll_abreast hw hnames h).bind fun _ hu hxs => (newFunction_abreast hu (.isOneOf hxs)).bind fun _ hv hij =>
      .pure hv (.function hij)
  | property lead => exact (newFunction_abreast hw (.announces lead)).bind fun _ hu hij => .pure hu (.property hij)
  | @foreign base type typeOf equalTo htype htypeOf hequal =>
    have hrest (verdict : Option Bool) {t : Matching} {u u' : World} (hst : s ≤ t) (hu : Together c t u u') :
        Abreast c t u u' Like
        (do
          let type ← type.eval names
          let typeOf ← typeOf.eval names
          let (w, i) := (← get).addForeign ⟨type, typeOf, []⟩
          set w
          return .foreign i base verdict)
        (do
          let type ← type.eval names'
          let typeOf ← typeOf.eval names'
          let (w, i) := (← get).addForeign ⟨type, typeOf, []⟩
          set w
          return .foreign i base verdict) := by
      refine (answering_abreast hu (hnames.mono hst) htype).bind fun ho hv hd => ?_
      refine (answering_abreast hv (hnames.mono (hst.trans ho.le)) htypeOf).bind fun {t₂ z z' d d'} ho' hz hd' => .get_bind ?_
      have hadd := hz.add (z.puts_addForeign ⟨_, d, []⟩) (z'.puts_addForeign ⟨_, d', []⟩) (z.thing?_count .foreign)
        (z'.thing?_count .foreign) (.foreign ⟨(hd.mono ho'.le).mono le_sup_left, hd'.mono le_sup_left, .nil⟩)
      refine .set_bind hadd ?_
      exact .pure hadd.2 (.foreign base verdict (.inr ⟨rfl, rfl, rfl⟩))
    cases equalTo with
    | none => exact .pure_bind (hrest none le_rfl hw)
    | some t =>
      refine (eval_abreast hw hnames (hequal t rfl)).bind fun {t' u u' x x'} ho hu hx => .get_bind ?_
      rw [(hu.read hx).isTruthy]
      exact .pure_bind (hrest _ ho.le hu)

theorem answering_abreast {s : Matching} {w w' : World} (hw : Together c s w w') (hnames : NamesLike mine s names names')
    {a : Answering} (ha : AnsweringOwn mine a) : Abreast c s w w' CapabilityLike (a.eval names) (a.eval names') := by
  unfold Answering.eval
  cases ha with
  | plain h => exact .pure hw (h.mono hw.base)
  | returns h => exact (eval_abreast hw hnames h).bind fun _ hu hx => .pure hu (.returns hx)
  | holds h => exact (eval_abreast hw hnames h).bind fun _ hu hx => .pure hu (.holds hx)
  | names h => exact (evalAll_abreast hw hnames h).bind fun _ hu hxs => .pure hu (.names hxs)

theorem evalAll_abreast {s : Matching} {w w' : World} (hw : Together c s w w') (hnames : NamesLike mine s names names')
    {ts : List Term} (h : TermsOwn mine ts) : Abreast c s w w' LikeAll (evalAll names ts) (evalAll names' ts) := by
  unfold evalAll
  cases h with
  | nil => exact .pure hw .nil
  | cons h r =>
    exact (eval_abreast hw hnames h).bind fun ho hu hx => (evalAll_abreast hu (hnames.mono ho.le) r).bind fun ho' hv hxs =>
      .pure hv (.cons (hx.mono ho'.le) hxs)

theorem evalEntries_abreast {s : Matching} {w w' : World} (hw : Together c s w w') (hnames : NamesLike mine s names names')
    {es : List (Term × Term)} (h : TermEntriesOwn mine es) :
    Abreast c s w w' LikeEntries (evalEntries names es) (evalEntries names' es) := by
  unfold evalEntries
  cases h with
  | nil => exact .pure hw .nil
  | cons hk hv r =>
    refine (eval_abreast hw hnames hk).bind fun ho hu hx => ?_
    refine (eval_abreast hu (hnames.mono ho.le) hv).bind fun ho' hv hy => ?_
    refine (evalEntries_abreast hv (hnames.mono (ho.le.trans ho'.le)) r).bind fun ho'' hz hes => ?_
    exact .pure hz (.cons (hx.mono (ho'.le.trans ho''.le)) (hy.mono ho''.le) hes)

end

end Lineage.Script
