import Lineage.Proofs.Separation.Performing

/-!
# Sharing — scripts of different type systems in one world

Two scripts share a world, each with a type system and a plugin manager of its own, and their steps come in any order. What they
have in common is the base class, which neither of them changes, and functions, which nobody can change. Then neither
notices the other (`scripts_do_not_interfere`): its steps give the answers and leave the system and the classes that they give and
leave when it runs alone, up to the numbers that new things get.

The proof follows both runs of a script at once, the one alone and the one in company. A step of its own takes both further
abreast (`step_abreast`). A step of the other script changes only what is new or stands for something of that
script (`Onward.kept`), so what the first has matched stays (`Together.beside`). The base class has to be watched: it is seen to
be the same in company because alike things that stand for themselves are equal (`ClassLike.unique`).
-/

set_option autoImplicit false

namespace Lineage

variable {c d : Client} {s t u : Matching}

/-! ## One thing stands for one thing -/

mutual

/-- A value is alike one value only. -/
theorem Like.unique (hs : s.OneToOne) {v a b : Value} (ha : Like s v a) (hb : Like s v b) : a = b := by
  cases ha with
  | tuple h => cases hb with | tuple h' => rw [h.unique hs h']
  | list h => cases hb with | list h' => rw [h.unique hs h']
  | set _ h => cases hb with | set _ h' => rw [h.unique hs h']
  | view _ h => cases hb with | view _ h' => rw [h.unique hs h']
  | dict h => cases hb with | dict h' => rw [h.unique hs h']
  | enum _ hi h => cases hb with | enum _ hi' h' => rw [h.unique hs h', (hs hi hi').1 rfl]
  | shared _ h => cases hb with | shared _ h' => rw [(hs h h').1 rfl]
  | function h => cases hb with | function h' => rw [(hs h h').1 rfl]
  | property h => cases hb with | property h' => rw [(hs h h').1 rfl]
  | method hr h => cases hb with | method hr' h' => rw [hr.unique hs hr', (hs h h').1 rfl]
  | builtIn _ hr => cases hb with | builtIn _ hr' => rw [hr.unique hs hr']
  | cls h => cases hb with | cls h' => rw [(hs h h').1 rfl]
  | inst h => cases hb with | inst h' => rw [(hs h h').1 rfl]
  | foreign _ _ h => cases hb with | foreign _ _ h' => rw [(hs h h').1 rfl]
  | _ => cases hb; rfl
termination_by structural v

theorem LikeAll.unique (hs : s.OneToOne) {xs as bs : List Value} (ha : LikeAll s xs as) (hb : LikeAll s xs bs) : as = bs := by
  cases ha with
  | nil => cases hb; rfl
  | cons h r => cases hb with | cons h' r' => rw [h.unique hs h', r.unique hs r']
termination_by structural xs

theorem LikeEntries.unique (hs : s.OneToOne) {es fs gs : List (Value × Value)} (hf : LikeEntries s es fs)
    (hg : LikeEntries s es gs) : fs = gs := by
  cases hf with
  | nil => cases hg; rfl
  | cons hk hv r => cases hg with | cons hk' hv' r' => rw [hk.unique hs hk', hv.unique hs hv', r.unique hs r']
termination_by structural es

end

theorem FieldsLike.unique (hs : s.OneToOne) {fs as bs : Fields} (ha : FieldsLike s fs as) (hb : FieldsLike s fs bs) :
    as = bs := by
  induction ha generalizing bs with
  | nil => cases hb; rfl
  | cons h _ ih =>
    cases hb with
    | cons h' r' => rw [ih r', Prod.ext (h.1.symm.trans h'.1) (h.2.unique hs h'.2)]

/-- A class is alike one class only. -/
theorem ClassLike.unique (hs : s.OneToOne) {k a b : ClassRecord} (ha : ClassLike s k a) (hb : ClassLike s k b) : a = b := by
  obtain ⟨label, qualifiedName, module, doc, body⟩ := a
  obtain ⟨label', qualifiedName', module', doc', body'⟩ := b
  obtain rfl : label = label' := ha.label.symm.trans hb.label
  obtain rfl : qualifiedName = qualifiedName' := ha.qualifiedName.symm.trans hb.qualifiedName
  obtain rfl : module = module' := ha.module.unique hs hb.module
  obtain rfl : doc = doc' := ha.doc.unique hs hb.doc
  obtain rfl : body = body' := ha.body.unique hs hb.body
  rfl

/-! ## What two clients have in common -/

/-- Two matchings into one world have nothing in common there but functions and the base class. -/
def Matching.Apart (s t : Matching) : Prop :=
  ∀ {k i i' j}, s k i j → t k i' j → k = .function ∨ k = .cls ∧ j = baseIndex

theorem Matching.Apart.symm (h : s.Apart t) : t.Apart s := fun ht hs => h hs ht

variable {v w w' x' y : World}

/-- What a client goes on to match in a shared world is still apart from what another one has there. -/
theorem Onward.apart (ho : Onward c s w w' t y x') (hd : Together d u v w') (h : s.Apart u) : t.Apart u := by
  intro k i i' j ht hu
  rcases ho.fresh ht with hs | ⟨-, hnone⟩
  · exact h hs hu
  · exact absurd hnone (hd.ne_none hu).2

/-- **What one client does leaves what another one sees,** as long as the base class stays. -/
theorem Together.beside (hd : Together d u v w') (ho : Onward c s w w' t y x') (hapart : s.Apart u)
    (hsystem : d.system ≠ c.system) (hmanager : d.manager ≠ c.manager) (hbase : x'.class? baseIndex = w'.class? baseIndex) :
    Together d u v x' where
  oneToOne := hd.oneToOne
  base := hd.base
  thing {k i j} hij := by
    obtain ⟨a, b, ha, hb, hab⟩ := hd.thing hij
    refine ⟨a, b, ha, ?_, hab⟩
    by_cases hfree : ∀ i', ¬ t k i' j
    · exact ho.kept hfree hb
    · obtain ⟨i', hi'⟩ := not_forall_not.1 hfree
      rcases ho.apart hd hapart hi' hij with rfl | ⟨rfl, rfl⟩
      · exact ho.functions' hb
      · exact (congrArg (Option.map Thing.cls) hbase).trans hb
  system := by
    rw [ho.systems hsystem]
    exact hd.system
  manager := by
    rw [ho.managers hmanager]
    exact hd.manager

namespace Script

/-! ## Parties -/

/-- What belongs to a script: its system and its manager, the names it uses, and the things that it can reach at the
beginning. -/
structure Party where
  client : Client
  names : String → Prop
  things : Numbered → Nat → Prop

/-- The things of a script, each of which stands for itself. -/
def Party.itself (p : Party) : Matching := fun k i j => i = j ∧ p.things k i

/-- **What a script reaches is its own.** Everything that its things, its system, its plugins and its names lead to is among its
things. -/
abbrev Party.Confined (p : Party) (S : Session) : Prop := Alongside p.client p.itself p.names S S

/-- Two scripts that have different systems, managers and names, and no things in common but functions and the base class. -/
structure Party.Apart (p q : Party) : Prop where
  system : p.client.system ≠ q.client.system
  manager : p.client.manager ≠ q.client.manager
  names : ∀ n, p.names n → ¬ q.names n
  things : ∀ k i, p.things k i → q.things k i → k = .function ∨ k = .cls ∧ i = baseIndex

theorem Party.Apart.symm {p q : Party} (h : p.Apart q) : q.Apart p where
  system := h.system.symm
  manager := h.manager.symm
  names n hq hp := h.names n hp hq
  things k i hq hp := h.things k i hp hq

/-- The steps of a script. -/
def Party.own (p : Party) (steps : List Step) : List Step := steps.filter (·.sys = p.client.system)

/-- What the steps of a script answer in a run that is not its alone. -/
def Party.answers (p : Party) (S : Session) (steps : List Step) : List (Except Failure Answer) :=
  ((steps.zip (S.run steps).2).filter (·.1.sys = p.client.system)).map (·.2.2)

/-- After each step of a run the base class is what it was before. -/
def KeepsBase (S : Session) (steps : List Step) : Prop :=
  ∀ e ∈ (S.run steps).2, e.1.class? baseIndex = S.world.class? baseIndex

/-! ## Both runs of a script -/

variable {p q : Party} {S₀ A B S : Session}

/-- Where a script stands that began at `S₀`: alone it has come to `A`, in company to `S`, and these look alike to it. -/
structure InStep (p : Party) (S₀ A S : Session) (t : Matching) : Prop where
  alongside : Alongside p.client t p.names A S
  itself : p.itself ≤ t
  classes : ∀ {i}, S₀.world.class? i = none → A.world.class? i ≠ none → ∃ j, t .cls i j

/-- The base class is in company what it was, if it is alone. -/
theorem InStep.base_eq (h : InStep p S₀ A S t) (hconfined : p.Confined S₀)
    (hbase : A.world.class? baseIndex = S₀.world.class? baseIndex) : S.world.class? baseIndex = S₀.world.class? baseIndex := by
  have hself : Matching.base .cls baseIndex baseIndex := ⟨rfl, .inl ⟨rfl, rfl⟩⟩
  obtain ⟨k, k', hk, hk', hkk⟩ := hconfined.world.cls (hconfined.world.base _ _ _ hself)
  obtain ⟨x, y, hx, hy, hxy⟩ := h.alongside.world.cls (h.alongside.world.base _ _ _ hself)
  obtain rfl : k = k' := Option.some.inj (hk.symm.trans hk')
  obtain rfl : x = k := Option.some.inj (hx.symm.trans (hbase.trans hk))
  rw [hy, hk, hxy.unique h.alongside.world.oneToOne (hkk.mono h.itself)]

/-- **A step of one script in company:** it goes on as it does alone, and the other script does not notice. -/
theorem InStep.step (h : InStep p S₀ A S t) (h' : InStep q S₀ B S u) (hpq : p.Apart q) (htu : t.Apart u)
    (hconfined : p.Confined S₀) (hS : S.world.class? baseIndex = S₀.world.class? baseIndex) {step : Step}
    (hstep : StepOwn p.client p.names step)
    (hbase : (step.run.run A).2.world.class? baseIndex = S₀.world.class? baseIndex) :
    ∃ t', t ≤ t' ∧ InStep p S₀ (step.run.run A).2 (step.run.run S).2 t' ∧ InStep q S₀ B (step.run.run S).2 u ∧ t'.Apart u ∧
      (step.run.run S).2.world.class? baseIndex = S₀.world.class? baseIndex ∧
      ResultLike AnswerLike t' (step.run.run A).1 (step.run.run S).1 := by
  obtain ⟨t', ho, halong, hr, hnames⟩ := step_abreast h.alongside hstep
  have hnext : InStep p S₀ (step.run.run A).2 (step.run.run S).2 t' := by
    refine ⟨halong, h.itself.trans ho.le, fun {i} hnone hsome => ?_⟩
    by_cases hA : A.world.class? i = none
    · exact ho.classes (Option.map_eq_none_iff.2 hA) fun hthing => hsome (Option.map_eq_none_iff.1 hthing)
    · obtain ⟨j, hj⟩ := h.classes hnone hA
      exact ⟨j, ho.le _ _ _ hj⟩
  have hkept := hnext.base_eq hconfined hbase
  refine ⟨t', ho.le, hnext, ⟨⟨?_, fun n hn => ?_⟩, h'.itself, h'.classes⟩, ho.apart h'.alongside.world htu, hkept, hr⟩
  · exact h'.alongside.world.beside ho htu hpq.system.symm hpq.manager.symm (hkept.trans hS.symm)
  · rw [hnames n fun hp => hpq.names n hp hn]
    exact h'.alongside.names n hn

theorem Party.own_cons (p : Party) (step : Step) (steps : List Step) :
    p.own (step :: steps) = if step.sys = p.client.system then step :: p.own steps else p.own steps := by
  rw [own, List.filter_cons]
  exact if_congr (decide_eq_true_iff ..) rfl rfl

theorem Party.answers_cons (p : Party) (S : Session) (step : Step) (steps : List Step) :
    p.answers S (step :: steps) = if step.sys = p.client.system then
      (step.run.run S).1 :: p.answers (step.run.run S).2 steps else p.answers (step.run.run S).2 steps := by
  have hrun : (S.run (step :: steps)).2 =
      ((step.run.run S).2.world, (step.run.run S).1) :: ((step.run.run S).2.run steps).2 := rfl
  rw [answers, hrun, List.zip_cons_cons, List.filter_cons]
  by_cases h : step.sys = p.client.system
  · rw [if_pos h, if_pos (decide_eq_true h), List.map_cons, answers]
  · rw [if_neg h, if_neg (decide_eq_true_iff.not.2 h), answers]

/-- **Two scripts in company go on as they do alone,** whatever the order of their steps. -/
theorem InStep.run (hpq : p.Apart q) (hp : p.Confined S₀) (hq : q.Confined S₀) {steps : List Step}
    (hsteps : ∀ step ∈ steps, StepOwn p.client p.names step ∨ StepOwn q.client q.names step) {A B S : Session} {t u : Matching}
    (h : InStep p S₀ A S t) (h' : InStep q S₀ B S u) (htu : t.Apart u)
    (hS : S.world.class? baseIndex = S₀.world.class? baseIndex)
    (hA : ∀ e ∈ (A.run (p.own steps)).2, e.1.class? baseIndex = S₀.world.class? baseIndex)
    (hB : ∀ e ∈ (B.run (q.own steps)).2, e.1.class? baseIndex = S₀.world.class? baseIndex) :
    ∃ t', t ≤ t' ∧ InStep p S₀ (A.run (p.own steps)).1 (S.run steps).1 t' ∧
      List.Forall₂ (ResultLike AnswerLike t') ((A.run (p.own steps)).2.map (·.2)) (p.answers S steps) := by
  induction steps generalizing A B S t u with
  | nil => exact ⟨t, le_rfl, h, .nil⟩
  | cons step steps ih =>
    have hrest := fun x hx => hsteps x (List.mem_cons_of_mem step hx)
    rw [p.own_cons] at hA ⊢
    rw [q.own_cons] at hB
    rw [p.answers_cons]
    rcases hsteps step List.mem_cons_self with hstep | hstep
    · rw [if_pos hstep.sys] at hA ⊢
      rw [if_neg (hstep.sys ▸ hpq.system)] at hB
      rw [if_pos hstep.sys]
      obtain ⟨hbase, hA⟩ := List.forall_mem_cons.1 hA
      obtain ⟨t₁, ht, h, h', htu, hS, hr⟩ := h.step h' hpq htu hp hS hstep hbase
      obtain ⟨t₂, ht', h, hrs⟩ := ih hrest h h' htu hS hA hB
      exact ⟨t₂, ht.trans ht', h, .cons (hr.imp ht' (AnswerLike.mono ht')) hrs⟩
    · rw [if_neg (hstep.sys ▸ hpq.system.symm)] at hA ⊢
      rw [if_pos hstep.sys] at hB
      rw [if_neg (hstep.sys ▸ hpq.system.symm)]
      obtain ⟨hbase, hB⟩ := List.forall_mem_cons.1 hB
      obtain ⟨u₁, -, h', h, htu, hS, -⟩ := h'.step h hpq.symm htu.symm hq hS hstep hbase
      exact ih hrest h h' htu.symm hS hA hB

/-! ## Non-interference -/

/-- **A script is not disturbed** when it runs in company: what it does is, along a matching of new things, what it does alone. -/
structure Undisturbed (p : Party) (S : Session) (steps : List Step) (t : Matching) : Prop where
  /-- Distinct things stand for distinct things, and what there was before stands for itself. -/
  oneToOne : t.OneToOne
  itself : p.itself ≤ t
  /-- Every step returns an alike result, or raises an alike error. -/
  answers : List.Forall₂ (ResultLike AnswerLike t) ((S.run (p.own steps)).2.map (·.2)) (p.answers S steps)
  /-- The system has the same enumerations under the same names, and hands down the same keys. -/
  system : ∃ alone both, (S.run (p.own steps)).1.world.system? p.client.system = some alone ∧
    (S.run steps).1.world.system? p.client.system = some both ∧ FieldsLike t alone.enums both.enums ∧
    alone.excluded = both.excluded
  /-- Every class that it has or makes has the same type name, the same membership and the same members. -/
  classes : ∀ i, p.things .cls i ∨ S.world.class? i = none → ∀ alone, (S.run (p.own steps)).1.world.class? i = some alone →
    ∃ j both, t .cls i j ∧ (S.run steps).1.world.class? j = some both ∧ alone.typeName = both.typeName ∧
      alone.membership = both.membership ∧ FieldsLike t alone.fields both.fields
  /-- Everything else that it can reach is alike, too. -/
  world : Together p.client t (S.run (p.own steps)).1.world (S.run steps).1.world

theorem Party.Confined.inStep (h : p.Confined S) : InStep p S S S p.itself :=
  ⟨h, le_rfl, fun hnone hsome => absurd hnone hsome⟩

theorem Party.Apart.itself (h : p.Apart q) : p.itself.Apart q.itself := by
  rintro k i i' j ⟨rfl, hi⟩ ⟨rfl, hi'⟩
  exact h.things k _ hi hi'

/-- A script that goes on in company as it does alone is not disturbed. -/
theorem undisturbed (hpq : p.Apart q) (hp : p.Confined S) (hq : q.Confined S) {steps : List Step}
    (hsteps : ∀ step ∈ steps, StepOwn p.client p.names step ∨ StepOwn q.client q.names step)
    (hbase : KeepsBase S (p.own steps)) (hbase' : KeepsBase S (q.own steps)) : ∃ t, Undisturbed p S steps t := by
  obtain ⟨t, -, h, hanswers⟩ := InStep.run hpq hp hq hsteps hp.inStep hq.inStep hpq.itself rfl hbase hbase'
  obtain ⟨x, y, hx, hy, hxy⟩ := h.alongside.world.system
  refine ⟨t, h.alongside.world.oneToOne, h.itself, hanswers, ⟨x, y, hx, hy, hxy.enums, hxy.excluded⟩, fun i hi k hk => ?_,
    h.alongside.world⟩
  have hmatched : ∃ j, t .cls i j := by
    rcases hi with hi | hi
    · exact ⟨i, h.itself _ _ _ ⟨rfl, hi⟩⟩
    · exact h.classes hi (by rw [hk]; exact Option.some_ne_none k)
  obtain ⟨j, hij⟩ := hmatched
  obtain ⟨k', l, hk', hl, hkl⟩ := h.alongside.world.cls hij
  cases hk.symm.trans hk'
  exact ⟨j, l, hij, hl, hkl.typeName_eq, hkl.membership_eq, hkl.fields⟩

/-- **Type systems do not interfere.** Two scripts work on systems that have different managers, with names of their own, and
have nothing in common at the beginning but functions and the base class. In whatever order their steps come, and whether
these fail or not, neither script is disturbed by the other, if neither changes the base class when it runs alone. -/
theorem scripts_do_not_interfere (hpq : p.Apart q) (hp : p.Confined S) (hq : q.Confined S) {steps : List Step}
    (hsteps : ∀ step ∈ steps, StepOwn p.client p.names step ∨ StepOwn q.client q.names step)
    (hbase : KeepsBase S (p.own steps)) (hbase' : KeepsBase S (q.own steps)) :
    (∃ t, Undisturbed p S steps t) ∧ ∃ t, Undisturbed q S steps t :=
  ⟨undisturbed hpq hp hq hsteps hbase hbase',
    undisturbed hpq.symm hq hp (fun step hstep => (hsteps step hstep).symm) hbase' hbase⟩

/-! ## Systems that are new -/

/-- A script at its beginning: it has the base class and its methods, and its names stand for nothing yet. -/
def newcomer (c : Client) (mine : String → Prop) : Party where
  client := c
  names := mine
  things k i := k = .cls ∧ i = baseIndex ∨ k = .function ∧ i < Matching.baseMethods

/-- The base class leads to its methods only. -/
theorem baseClass_like : ClassLike Matching.base baseClass baseClass where
  label := rfl
  qualifiedName := rfl
  module := .ofString _
  doc := .ofString _
  body := by
    have hmethod (i : Nat) (hi : i < Matching.baseMethods) : Like Matching.base (.function i) (.function i) :=
      .function ⟨rfl, .inr ⟨rfl, hi⟩⟩
    exact .cons ⟨rfl, .ofString _⟩ (.cons ⟨rfl, hmethod 0 (by decide)⟩ (.cons ⟨rfl, hmethod 1 (by decide)⟩
      (.cons ⟨rfl, hmethod 2 (by decide)⟩ (.cons ⟨rfl, hmethod 3 (by decide)⟩ (.cons ⟨rfl, hmethod 4 (by decide)⟩
      (.cons ⟨rfl, .set true (.cons (.ofString _) .nil)⟩ .nil))))))

/-- **A new system has nothing but the base class:** without enumerations and plugins nothing else can be reached from it. -/
theorem newcomer_confined {c : Client} {mine : String → Prop} {S : Session}
    (hcls : S.world.class? baseIndex = some baseClass)
    (hmethods : S.world.behaviours.take Matching.baseMethods = World.initial.behaviours) {x : System}
    (hsystem : S.world.system? c.system = some x) (henums : x.enums = []) (hmanager : x.manager = c.manager) {m : Manager}
    (hm : S.world.managers[c.manager]? = some m) (hplugins : m.plugins = [])
    (hnames : ∀ n, mine n → Fields.get? S.names n = none) : (newcomer c mine).Confined S where
  names n hn := by
    rw [hnames n hn]
    exact .none
  world := {
    oneToOne := by
      rintro k i j i' j' ⟨rfl, -⟩ ⟨rfl, -⟩
      exact Iff.rfl
    base := le_rfl
    thing := by
      rintro k i j ⟨rfl, ⟨rfl, rfl⟩ | ⟨rfl, hi⟩⟩
      · have hthing : S.world.thing? .cls baseIndex = some (.cls baseClass) := congrArg (Option.map Thing.cls) hcls
        exact ⟨_, _, hthing, hthing, .cls baseClass_like⟩
      · have hlookup : S.world.behaviours[i]? = World.initial.behaviours[i]? := by
          rw [← hmethods, List.getElem?_take_of_lt hi]
        obtain ⟨b, hb⟩ : ∃ b, World.initial.behaviours[i]? = some (.base b) := by
          match i, hi with
          | 0, _ | 1, _ | 2, _ | 3, _ | 4, _ => exact ⟨_, rfl⟩
        have hthing : S.world.thing? .function i = some (.function (.base b)) :=
          congrArg (Option.map Thing.function) (hlookup.trans hb)
        exact ⟨_, _, hthing, hthing, .function (.base b)⟩
    system := ⟨x, x, hsystem, hsystem, rfl, henums ▸ .nil, rfl, hmanager, hmanager⟩
    manager := ⟨m, m, hm, hm, hplugins ▸ .nil, rfl⟩ }

/-- A world with two type systems that were made just now. -/
def twoSystems : Session := { Session.initial with world := (World.initial.ensureSystem "left").ensureSystem "right" }

/-- A definition of an enumeration. -/
def colours (sys : String) (red : Int) : Step :=
  ⟨sys, none, ⟨[]⟩, .defineEnum (.data (.ofString "Colours")) (.dict [(.data (.ofString "RED"), .data (.ofInt red))])⟩

/-- A definition of a class, which is saved under the name of the system. -/
def plainClass (sys : String) : Step := ⟨sys, some sys, ⟨[]⟩, .defineClass (.data (.ofString "Colours")) [] none 0⟩

/-- One script defines an enumeration and fails to define it again. In between the other one defines a class of the same
name. -/
def classBetweenEnums : List Step := [colours "left" 1, plainClass "right", colours "left" 2]

theorem class_between_enums : (∃ t, Undisturbed (newcomer ⟨"left", 0⟩ (· = "left")) twoSystems classBetweenEnums t) ∧
    ∃ t, Undisturbed (newcomer ⟨"right", 1⟩ (· = "right")) twoSystems classBetweenEnums t := by
  have hapart : (newcomer ⟨"left", 0⟩ (· = "left")).Apart (newcomer ⟨"right", 1⟩ (· = "right")) := {
    system := by decide
    manager := by decide
    names := fun n h h' => absurd (h.symm.trans h') (by decide)
    things := fun _ _ h _ => h.elim .inr fun h => .inl h.1 }
  have hleft : (newcomer ⟨"left", 0⟩ (· = "left")).Confined twoSystems :=
    newcomer_confined rfl rfl rfl rfl rfl rfl rfl fun _ _ => rfl
  have hright : (newcomer ⟨"right", 1⟩ (· = "right")).Confined twoSystems :=
    newcomer_confined rfl rfl rfl rfl rfl rfl rfl fun _ _ => rfl
  have hcolours (red : Int) : StepOwn ⟨"left", 0⟩ (· = "left") (colours "left" red) :=
    ⟨rfl, nofun, .defineEnum (.data (.ofString _)) (.dict (.cons (.data (.ofString _)) (.data (.ofInt _)) .nil))⟩
  have hclass : StepOwn ⟨"right", 1⟩ (· = "right") (plainClass "right") :=
    ⟨rfl, fun _ h => (Option.some.inj h).symm, .defineClass 0 (.data (.ofString _)) .nil nofun⟩
  have hbase : (twoSystems.run [colours "left" 1, colours "left" 2]).2.map (·.1.class? baseIndex) =
      List.replicate 2 (some baseClass) := by
    with_unfolding_all rfl
  have hbase' : (twoSystems.run [plainClass "right"]).2.map (·.1.class? baseIndex) = List.replicate 1 (some baseClass) := by
    with_unfolding_all rfl
  refine scripts_do_not_interfere hapart hleft hright ?_ (fun e he => List.eq_of_mem_replicate (hbase ▸ List.mem_map_of_mem he))
    fun e he => List.eq_of_mem_replicate (hbase' ▸ List.mem_map_of_mem he)
  simp only [classBetweenEnums, List.forall_mem_cons]
  exact ⟨.inl (hcolours 1), .inr hclass, .inl (hcolours 2), fun _ h => nomatch h⟩

end Script

end Lineage
