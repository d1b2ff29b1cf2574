import Mathlib
import Lineage.Proofs.Lasting

/-!
# Journal — what the journal tells

Classes and instances change line by line: a change either carries out one line of the journal or leaves them all
alone (`Change.line_or_rest`). A line that sets or removes an attribute stands for one use of the program's own `write`
or `erase` that succeeded, and every such use leaves its line (`write_ok_iff`, `erase_ok_iff`); one that fails changes
nothing at all. So the journal of a run lists its successful sets and removals, in their order (`Reaches.lines`).
-/

set_option autoImplicit false

namespace Lineage

/-- The class or the instance itself. -/
def Holder.value : Holder → Value
  | .cls i => .cls i
  | .inst i => .inst i

/-- What a line of the journal stands for: a request for a class that passed, a new instance, an attribute that was
set, an attribute that was removed. -/
def Entry.Happens (w : World) : Entry → Prop
  | .built i b => i = w.classes.length ∧ ∃ request u, (Definition.examine request).run u = (.ok b, w)
  | .made i c => i = w.instances.length ∧ c < w.classes.length
  | .assigned h key x => (Access.write h.value key x).run w = (.ok (), w.commit (.assigned h key x))
  | .erased h key => (Access.erase h.value key).run w = (.ok (), w.commit (.erased h key))

/-! ## One use of an attribute -/

/-- A class refuses to have its type name or its membership set. -/
theorem classSetRefusal?_eq_none {w : World} {c : ClassRecord} {key : String} {x : Value}
    (h : Access.classSetRefusal? w c key x = none) : key ∉ reservedKeys := by
  intro hkey
  rw [Access.classSetRefusal?, if_pos (List.contains_iff_mem.2 hkey)] at h
  cases h

theorem classEraseRefusal?_eq_none {c : ClassRecord} {key : String} (h : Access.classEraseRefusal? c key = none) :
    key ∉ reservedKeys := by
  intro hkey
  rw [Access.classEraseRefusal?, if_pos (List.contains_iff_mem.2 hkey)] at h
  cases h

/-- An action that may be done leaves a certain world; one that may not fails and leaves the world as it was. -/
def AllOrNothing (a : Action Unit) (allowed : Prop) (w w' : World) : Prop :=
  (allowed ∧ a.run w = (.ok (), w')) ∨ (¬ allowed ∧ ∃ e, a.run w = (.error e, w))

namespace AllOrNothing

variable {a : Action Unit} {allowed : Prop} {w w' : World}

/-- What is done unless something refuses it is all or nothing. -/
theorem of_refusal (refusal : Option Failure) (hallowed : allowed ↔ refusal = none)
    (hdone : refusal = none → a.run w = (.ok (), w')) (hrefused : ∀ e, refusal = some e → a.run w = (.error e, w)) :
    AllOrNothing a allowed w w' := by
  cases hr : refusal with
  | none => exact .inl ⟨hallowed.2 hr, hdone hr⟩
  | some e => exact .inr ⟨fun h => (nomatch hr.symm.trans (hallowed.1 h)), e, hrefused e hr⟩

theorem ok_iff (h : AllOrNothing a allowed w w') {u : World} : a.run w = (.ok (), u) ↔ allowed ∧ u = w' := by
  rcases h with ⟨hallowed, hrun⟩ | ⟨hnot, e, hrun⟩
  · rw [hrun]
    exact ⟨fun heq => ⟨hallowed, (Prod.mk.inj heq).2.symm⟩, fun ⟨_, heq⟩ => by rw [heq]⟩
  · rw [hrun]
    exact ⟨fun heq => (nomatch heq), fun ⟨hallowed, _⟩ => absurd hallowed hnot⟩

theorem error (h : AllOrNothing a allowed w w') {u : World} {e : Failure} (herror : a.run w = (.error e, u)) : u = w := by
  rcases h with ⟨-, hrun⟩ | ⟨-, _, hrun⟩
  · cases hrun.symm.trans herror
  · cases hrun.symm.trans herror
    rfl

end AllOrNothing

theorem write_allOrNothing (w : World) (h : Holder) (key : String) (x : Value) :
    AllOrNothing (Access.write h.value key x) ((Entry.assigned h key x).Fits w) w (w.commit (.assigned h key x)) := by
  cases h with
  | cls i =>
    cases hc : w.class? i with
    | none =>
      refine .inr ⟨?_, .tooDeep, ?_⟩
      · simp only [Entry.Fits, hc, reduceCtorEq, false_and, exists_false, not_false_iff]
      · simp only [Access.write, Holder.value, Action.run_bind, Action.run_get, hc, Action.run_throw]
    | some c =>
      refine .of_refusal (Access.classSetRefusal? w c key x) ?_ (fun hn => ?_) (fun e he => ?_)
      · simp only [Entry.Fits, hc, Option.some.injEq, exists_eq_left']
      · simp only [Access.write, Holder.value, Action.run_bind, Action.run_get, hc, hn, Action.run_set]
      · simp only [Access.write, Holder.value, Action.run_bind, Action.run_get, hc, he, Action.run_throw]
  | inst i =>
    cases hr : w.instances[i]? with
    | none =>
      refine .inr ⟨?_, .tooDeep, ?_⟩
      · simp only [Entry.Fits, hr, reduceCtorEq, false_and, exists_false, not_false_iff]
      · simp only [Access.write, Holder.value, Action.run_bind, Action.run_get, hr, Action.run_throw]
    | some r =>
      refine .of_refusal (Access.instanceSetRefusal? w i r key x) ?_ (fun hn => ?_) (fun e he => ?_)
      · simp only [Entry.Fits, hr, Option.some.injEq, exists_eq_left']
      · simp only [Access.write, Holder.value, Action.run_bind, Action.run_get, hr, hn, Action.run_set]
      · simp only [Access.write, Holder.value, Action.run_bind, Action.run_get, hr, he, Action.run_throw]

theorem erase_allOrNothing (w : World) (h : Holder) (key : String) :
    AllOrNothing (Access.erase h.value key) ((Entry.erased h key).Fits w) w (w.commit (.erased h key)) := by
  cases h with
  | cls i =>
    cases hc : w.class? i with
    | none =>
      refine .inr ⟨?_, .tooDeep, ?_⟩
      · simp only [Entry.Fits, hc, reduceCtorEq, false_and, exists_false, not_false_iff]
      · simp only [Access.erase, Holder.value, Action.run_bind, Action.run_get, hc, Action.run_throw]
    | some c =>
      refine .of_refusal (Access.classEraseRefusal? c key) ?_ (fun hn => ?_) (fun e he => ?_)
      · simp only [Entry.Fits, hc, Option.some.injEq, exists_eq_left']
      · simp only [Access.erase, Holder.value, Action.run_bind, Action.run_get, hc, hn, Action.run_set]
      · simp only [Access.erase, Holder.value, Action.run_bind, Action.run_get, hc, he, Action.run_throw]
  | inst i =>
    cases hr : w.instances[i]? with
    | none =>
      refine .inr ⟨?_, .tooDeep, ?_⟩
      · simp only [Entry.Fits, hr, reduceCtorEq, false_and, exists_false, not_false_iff]
      · simp only [Access.erase, Holder.value, Action.run_bind, Action.run_get, hr, Action.run_throw]
    | some r =>
      have hfits : (Entry.erased (.inst i) key).Fits w ↔ key ≠ "__class__" ∧ Fields.has r.attributes key = true := by
        simp only [Entry.Fits, hr, Option.some.injEq, exists_eq_left']
      simp only [AllOrNothing, hfits, Access.erase, Holder.value, Action.run_bind, Action.run_get, hr]
      by_cases hk : key = "__class__"
      · exact .inr ⟨fun h => h.1 hk, _, by rw [if_pos hk, Action.run_throw]⟩
      · by_cases hh : Fields.has r.attributes key = true
        · exact .inl ⟨⟨hk, hh⟩, by rw [if_neg hk, if_pos hh, Action.run_set]⟩
        · exact .inr ⟨fun h => hh h.2, _, by rw [if_neg hk, if_neg hh, Action.run_throw]⟩

/-- Setting an attribute succeeds exactly when nothing refuses it, and leaves its line. -/
theorem write_ok_iff {w w' : World} {h : Holder} {key : String} {x : Value} :
    (Access.write h.value key x).run w = (.ok (), w') ↔
      (Entry.assigned h key x).Fits w ∧ w' = w.commit (.assigned h key x) :=
  (write_allOrNothing w h key x).ok_iff

/-- Removing an attribute succeeds exactly when nothing refuses it, and leaves its line. -/
theorem erase_ok_iff {w w' : World} {h : Holder} {key : String} :
    (Access.erase h.value key).run w = (.ok (), w') ↔
      (Entry.erased h key).Fits w ∧ w' = w.commit (.erased h key) :=
  (erase_allOrNothing w h key).ok_iff

/-- A set that fails changes nothing. -/
theorem write_error {w w' : World} {v x : Value} {key : String} {e : Failure}
    (h : (Access.write v key x).run w = (.error e, w')) : w' = w := by
  cases v with
  | cls i => exact (write_allOrNothing w (.cls i) key x).error h
  | inst i => exact (write_allOrNothing w (.inst i) key x).error h
  | foreign i base verdict => cases h
  | function i => cases h
  | _ =>
    cases h
    rfl

/-- A removal that fails changes nothing. -/
theorem erase_error {w w' : World} {v : Value} {key : String} {e : Failure}
    (h : (Access.erase v key).run w = (.error e, w')) : w' = w := by
  cases v with
  | cls i => exact (erase_allOrNothing w (.cls i) key).error h
  | inst i => exact (erase_allOrNothing w (.inst i) key).error h
  | foreign i base verdict =>
    simp only [Access.erase, Action.run_bind, Action.run_get] at h
    split at h
    · cases h
    · cases h
      rfl
  | _ =>
    cases h
    rfl

/-- A line that fits is one that happens. -/
theorem Entry.Fits.happens {w : World} {e : Entry} (h : e.Fits w) : e.Happens w := by
  cases e with
  | built i b => exact h
  | made i c => exact h
  | assigned on key x => exact write_ok_iff.2 ⟨h, rfl⟩
  | erased on key => exact erase_ok_iff.2 ⟨h, rfl⟩

/-! ## One change -/

/-- **A change carries out one line of the journal** or leaves classes, instances and journal alone. -/
theorem Change.line_or_rest {w w' : World} (h : Change w w') :
    (∃ e : Entry, e.Fits w ∧ w' = w.commit e) ∨
      (w'.classes = w.classes ∧ w'.instances = w.instances ∧ w'.journal = w.journal) := by
  cases h with
  | built h => exact .inl ⟨_, h, rfl⟩
  | use h =>
    cases h with
    | made h => exact .inl ⟨_, h, rfl⟩
    | assigned on key x h => exact .inl ⟨_, h, rfl⟩
    | erased on key h => exact .inl ⟨_, h, rfl⟩
    | _ => exact .inr ⟨rfl, rfl, rfl⟩
  | _ => exact .inr ⟨rfl, rfl, rfl⟩

/-! ## One line -/

theorem getElem?_concat_eq_some {α : Type} {l : List α} {x y : α} {i : Nat} (h : (l ++ [x])[i]? = some y) :
    l[i]? = some y ∨ i = l.length ∧ y = x := by
  by_cases hi : i < l.length
  · rw [List.getElem?_append_left hi] at h
    exact .inl h
  · have hlt := (List.getElem?_eq_some_iff.1 h).1
    rw [List.length_append, List.length_singleton] at hlt
    obtain rfl : i = l.length := by omega
    rw [List.getElem?_concat_length] at h
    exact .inr ⟨rfl, (Option.some.inj h).symm⟩

theorem map_ite_eq_some {α : Type} {o : Option α} {p : Prop} [Decidable p] {f : α → α} {y : α}
    (h : (o.map fun x => if p then f x else x) = some y) : ∃ x, o = some x ∧ (y = x ∨ p ∧ y = f x) := by
  obtain ⟨x, hx, hy⟩ := Option.map_eq_some_iff.1 h
  refine ⟨x, hx, ?_⟩
  by_cases hp : p
  · rw [if_pos hp] at hy
    exact .inr ⟨hp, hy.symm⟩
  · rw [if_neg hp] at hy
    exact .inl hy.symm

/-- **What one line makes of a class:** nothing, what an attribute set or removed makes of it, or a new class. -/
theorem class?_commit {w : World} {e : Entry} {i : Nat} {c' : ClassRecord} (h : (w.commit e).class? i = some c') :
    (∃ c, w.class? i = some c ∧ (c' = c ∨ (∃ key x, e = .assigned (.cls i) key x ∧ c' = c.assign key x) ∨
        ∃ key, e = .erased (.cls i) key ∧ c' = c.erase key)) ∨
      ∃ j b, e = .built j b ∧ i = w.classes.length ∧ c' = Composition.classOf b (b.parents.filterMap w.class?) := by
  cases e with
  | built j b =>
    rcases getElem?_concat_eq_some h with hc | ⟨hi, hc⟩
    · exact .inl ⟨c', hc, .inl rfl⟩
    · exact .inr ⟨j, b, rfl, hi, hc⟩
  | made j k => exact .inl ⟨c', h, .inl rfl⟩
  | assigned on key x =>
    cases on with
    | inst j => exact .inl ⟨c', h, .inl rfl⟩
    | cls j =>
      obtain ⟨c, hc, rfl | ⟨rfl, rfl⟩⟩ := map_ite_eq_some ((World.class?_modifyClass w i j _).symm.trans h)
      · exact .inl ⟨_, hc, .inl rfl⟩
      · exact .inl ⟨c, hc, .inr (.inl ⟨key, x, rfl, rfl⟩)⟩
  | erased on key =>
    cases on with
    | inst j => exact .inl ⟨c', h, .inl rfl⟩
    | cls j =>
      obtain ⟨c, hc, rfl | ⟨rfl, rfl⟩⟩ := map_ite_eq_some ((World.class?_modifyClass w i j _).symm.trans h)
      · exact .inl ⟨_, hc, .inl rfl⟩
      · exact .inl ⟨c, hc, .inr (.inr ⟨key, rfl, rfl⟩)⟩

/-- **What one line makes of an instance.** -/
theorem instances_commit {w : World} {e : Entry} {i : Nat} {r' : InstanceRecord}
    (h : (w.commit e).instances[i]? = some r') :
    (∃ r, w.instances[i]? = some r ∧ (r' = r ∨ (∃ key x, e = .assigned (.inst i) key x ∧ r' = r.assign key x) ∨
        ∃ key, e = .erased (.inst i) key ∧ r' = r.erase key)) ∨
      ∃ j k, e = .made j k ∧ i = w.instances.length ∧ r' = ⟨k, []⟩ := by
  cases e with
  | built j b => exact .inl ⟨r', h, .inl rfl⟩
  | made j k =>
    rcases getElem?_concat_eq_some h with hr | ⟨hi, hr⟩
    · exact .inl ⟨r', hr, .inl rfl⟩
    · exact .inr ⟨j, k, rfl, hi, hr⟩
  | assigned on key x =>
    cases on with
    | cls j => exact .inl ⟨r', h, .inl rfl⟩
    | inst j =>
      obtain ⟨r, hr, rfl | ⟨rfl, rfl⟩⟩ := map_ite_eq_some ((World.instances_modifyInstance w i j _).symm.trans h)
      · exact .inl ⟨_, hr, .inl rfl⟩
      · exact .inl ⟨r, hr, .inr (.inl ⟨key, x, rfl, rfl⟩)⟩
  | erased on key =>
    cases on with
    | cls j => exact .inl ⟨r', h, .inl rfl⟩
    | inst j =>
      obtain ⟨r, hr, rfl | ⟨rfl, rfl⟩⟩ := map_ite_eq_some ((World.instances_modifyInstance w i j _).symm.trans h)
      · exact .inl ⟨_, hr, .inl rfl⟩
      · exact .inl ⟨r, hr, .inr (.inr ⟨key, rfl, rfl⟩)⟩

/-! ## Runs -/

/-- **A run extends the journal by the lines that happen in it,** each in the world that the lines before it left. -/
theorem Reaches.lines {w w' : World} (h : Reaches w w') :
    ∃ es, w'.journal = w.journal ++ es ∧
      ∀ before e after, es = before ++ e :: after →
        ∃ u, Reaches w u ∧ u.journal = w.journal ++ before ∧ e.Happens u ∧ Reaches (u.commit e) w' := by
  induction h with
  | refl => exact ⟨[], (List.append_nil _).symm, fun before e after heq => by simp at heq⟩
  | @tail u u' hu hc ih =>
    obtain ⟨es, hes, hall⟩ := ih
    rcases hc.line_or_rest with ⟨e, hfits, rfl⟩ | ⟨-, -, hj⟩
    · refine ⟨es ++ [e], ?_, fun before e' after heq => ?_⟩
      · show u.journal ++ [e] = _
        rw [hes, List.append_assoc]
      · rcases List.eq_nil_or_concat after with rfl | ⟨after, last, rfl⟩
        · obtain ⟨rfl, hlast⟩ := List.append_inj' heq rfl
          cases hlast
          exact ⟨u, hu, hes, hfits.happens, .refl⟩
        · rw [List.concat_eq_append, ← List.cons_append, ← List.append_assoc] at heq
          obtain ⟨hbefore, -⟩ := List.append_inj' heq rfl
          obtain ⟨v, hv, hvj, hhap, hrest⟩ := hall before e' after hbefore
          exact ⟨v, hv, hvj, hhap, hrest.tail hc⟩
    · refine ⟨es, hj.trans hes, fun before e after heq => ?_⟩
      obtain ⟨v, hv, hvj, hhap, hrest⟩ := hall before e after heq
      exact ⟨v, hv, hvj, hhap, hrest.tail hc⟩

/-- Lines stay. -/
theorem Reaches.mem_journal {w w' : World} (h : Reaches w w') {e : Entry} (he : e ∈ w.journal) : e ∈ w'.journal := by
  obtain ⟨es, hes, -⟩ := h.lines
  rw [hes]
  exact List.mem_append_left _ he

/-! ## The number of classes -/

/-- Only builds change the number of classes. -/
theorem World.length_classes_commit (w : World) {e : Entry} (he : ∀ i b, e ≠ .built i b) :
    (w.commit e).classes.length = w.classes.length := by
  cases e with
  | built i b => exact absurd rfl (he i b)
  | made i c => rfl
  | assigned on key x =>
    cases on with
    | cls i => exact List.length_modify _ _ _
    | inst i => rfl
  | erased on key =>
    cases on with
    | cls i => exact List.length_modify _ _ _
    | inst i => rfl

theorem Use.length_classes {w u : World} (h : Use w u) : u.classes.length = w.classes.length := by
  cases h with
  | made | assigned | erased => exact w.length_classes_commit fun _ _ => nofun
  | foreignAttributes | cells | asked => rfl

theorem length_classes_of_lasts {α : Type} {a : Action α} (ha : ∀ [Lasting], Lasts a) {w u : World} {r : Except Failure α}
    (h : a.run w = (r, u)) : u.classes.length = w.classes.length :=
  let _ : Lasting := ⟨fun v => v.classes.length = w.classes.length, fun huse hv => huse.length_classes.trans hv⟩
  ha.run_eq h rfl

/-- No change removes a class. -/
theorem Change.length_classes_le {w u : World} (h : Change w u) : w.classes.length ≤ u.classes.length := by
  rcases h.line_or_rest with ⟨e, -, rfl⟩ | ⟨hclasses, -, -⟩
  · cases e with
    | built i b =>
      have hone : (w.commit (.built i b)).classes.length = w.classes.length + 1 := List.length_append
      omega
    | made | assigned | erased =>
      refine le_of_eq (Eq.symm (w.length_classes_commit ?_))
      exact fun _ _ => nofun
  · rw [hclasses]

theorem Reaches.length_classes_le {w u : World} (h : Reaches w u) : w.classes.length ≤ u.classes.length := by
  induction h with
  | refl => exact le_rfl
  | tail _ hstep ih => exact ih.trans hstep.length_classes_le

end Lineage
