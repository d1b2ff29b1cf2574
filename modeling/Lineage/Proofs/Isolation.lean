import Mathlib
import Lineage.Proofs.Journal
import Lineage.Proofs.Lasting.Scripting

/-!
# Isolation — a class changes by what is done to it, and by nothing else

Inheritance copies once, so a class shares no namespace with its parents or its children. `edit` is what a line of the
journal makes of the members of one class: sets and removals addressed to that class are carried out on the table, and
every other line leaves it. `fields_follow_own_edits` says that the members at a later moment of a run are those at an
earlier one with the lines between them carried out.
-/

set_option autoImplicit false

namespace Lineage

open Script

/-- Whether an attribute that is set on a class is a member. The names that the kind of the class keeps apart, the
bookkeeping and the reserved keys are none. -/
def isMemberKey (key : String) : Bool :=
  !bookkeepingKeys.contains key && !reservedKeys.contains key && key != "__name__"

/-- The members of a class after one line of the journal. -/
def edit (i : Nat) (fs : Fields) : Entry → Fields
  | .assigned (.cls j) key x => if j = i ∧ isMemberKey key then Fields.set fs key x else fs
  | .erased (.cls j) key => if j = i then Fields.erase fs key else fs
  | _ => fs

/-! ## One line -/

theorem ClassRecord.fields_assign (c : ClassRecord) (key : String) (x : Value) :
    (c.assign key x).fields = if isMemberKey key then Fields.set c.fields key x else c.fields := by
  unfold ClassRecord.assign
  by_cases hname : key = "__name__"
  · subst hname
    rfl
  · rw [if_neg hname]
    by_cases hqual : key = "__qualname__"
    · subst hqual
      rfl
    · rw [if_neg hqual]
      by_cases hmodule : key = "__module__"
      · subst hmodule
        rfl
      · rw [if_neg hmodule]
        by_cases hdoc : key = "__doc__"
        · subst hdoc
          rfl
        · rw [if_neg hdoc]
          have hseen : isMemberKey key = (!bookkeepingKeys.contains key && !reservedKeys.contains key) := by
            rw [isMemberKey, bne_iff_ne.2 hname, Bool.and_true]
          rw [hseen]
          exact Fields.filter_set (fun k => !bookkeepingKeys.contains k && !reservedKeys.contains k) c.body key x

theorem ClassRecord.fields_erase (c : ClassRecord) (key : String) :
    (c.erase key).fields = Fields.erase c.fields key :=
  Fields.filter_erase (fun k => !bookkeepingKeys.contains k && !reservedKeys.contains k) c.body key

theorem class?_of_modifyClass {w : World} {i j : Nat} {c : ClassRecord} (f : ClassRecord → ClassRecord)
    (hc : w.class? i = some c) : (w.modifyClass j f).class? i = some (if j = i then f c else c) := by
  rw [World.class?_modifyClass, hc, Option.map_some]

/-- **One line changes the members of a class by its edit.** -/
theorem fields_commit {w : World} {i : Nat} {c : ClassRecord} (hc : w.class? i = some c) (e : Entry) :
    ∃ c', (w.commit e).class? i = some c' ∧ c'.fields = edit i c.fields e := by
  cases e with
  | built j b =>
    have hi : i < w.classes.length := (List.getElem?_eq_some_iff.1 hc).1
    exact ⟨c, (List.getElem?_append_left hi).trans hc, rfl⟩
  | made j k => exact ⟨c, hc, rfl⟩
  | assigned h key x =>
    cases h with
    | inst j => exact ⟨c, hc, rfl⟩
    | cls j =>
      refine ⟨_, class?_of_modifyClass (·.assign key x) hc, ?_⟩
      by_cases hj : j = i
      · rw [if_pos hj, ClassRecord.fields_assign]
        simp only [edit, hj, true_and]
      · rw [if_neg hj]
        simp only [edit, hj, false_and, if_false]
  | erased h key =>
    cases h with
    | inst j => exact ⟨c, hc, rfl⟩
    | cls j =>
      refine ⟨_, class?_of_modifyClass (·.erase key) hc, ?_⟩
      by_cases hj : j = i
      · rw [if_pos hj, ClassRecord.fields_erase]
        simp only [edit, hj, if_true]
      · rw [if_neg hj]
        simp only [edit, hj, if_false]

/-! ## Runs -/

/-- Classes stay, and their members follow the lines that are added to the journal. -/
theorem Reaches.fields {w w' : World} (h : Reaches w w') {i : Nat} {c : ClassRecord} (hc : w.class? i = some c) :
    ∃ es c', w'.journal = w.journal ++ es ∧ w'.class? i = some c' ∧ c'.fields = es.foldl (edit i) c.fields := by
  induction h with
  | refl => exact ⟨[], c, (List.append_nil _).symm, hc, rfl⟩
  | @tail u u' _ hstep ih =>
    obtain ⟨es, c₁, hes, hc₁, hf₁⟩ := ih
    rcases hstep.line_or_rest with ⟨e, -, rfl⟩ | ⟨hclasses, -, hj⟩
    · obtain ⟨c', hc', hf'⟩ := fields_commit hc₁ e
      refine ⟨es ++ [e], c', ?_, hc', ?_⟩
      · show u.journal ++ [e] = _
        rw [hes, List.append_assoc]
      · rw [hf', hf₁, List.foldl_append, List.foldl_cons, List.foldl_nil]
    · refine ⟨es, c₁, hj.trans hes, ?_, hf₁⟩
      show u'.classes[i]? = _
      rw [hclasses]
      exact hc₁

theorem read_fields {w : World} {i : Nat} {c : ClassRecord} (hc : w.class? i = some c) :
    (Access.read (.cls i) "fields").run w = (.ok (Access.dictOf c.fields), w) := by
  show (Access.readClass i "fields").run w = _
  rw [Access.readClass, Action.run_bind, Action.run_get]
  simp only [hc]
  rfl

/-- **Static copying isolates classes.** Between any two moments of a run, the members that a class answers with change by
the sets and the removals that are addressed to the class and succeed, in their order; each line of the journal in
between is one that happened there. A set or a removal that succeeds leaves its line, and one that fails changes
nothing. -/
theorem fields_follow_own_edits (s : Session) (steps : List Step) {u v : World} (h : Follows s steps u v) {i : Nat}
    {c : ClassRecord} (hc : u.class? i = some c) :
    (Access.read (.cls i) "fields").run u = (.ok (Access.dictOf c.fields), u) ∧
    (∃ es c', v.journal = u.journal ++ es ∧ v.class? i = some c' ∧
      (Access.read (.cls i) "fields").run v = (.ok (Access.dictOf c'.fields), v) ∧
      c'.fields = es.foldl (edit i) c.fields ∧
      ∀ before e after, es = before ++ e :: after →
        ∃ m, Reaches u m ∧ m.journal = u.journal ++ before ∧ e.Happens m ∧ Reaches (m.commit e) v) ∧
    -- what succeeds leaves its line
    (∀ (o : Holder) (key : String) (x : Value) (m m' : World),
      (Access.write o.value key x).run m = (.ok (), m') → m' = m.commit (.assigned o key x)) ∧
    (∀ (o : Holder) (key : String) (m m' : World),
      (Access.erase o.value key).run m = (.ok (), m') → m' = m.commit (.erased o key)) ∧
    -- what fails changes nothing
    (∀ (o : Value) (key : String) (x : Value) (f : Failure) (m m' : World),
      (Access.write o key x).run m = (.error f, m') → m' = m) ∧
    (∀ (o : Value) (key : String) (f : Failure) (m m' : World),
      (Access.erase o key).run m = (.error f, m') → m' = m) := by
  refine ⟨read_fields hc, ?_, fun _ _ _ _ _ hok => (write_ok_iff.1 hok).2, fun _ _ _ _ hok => (erase_ok_iff.1 hok).2,
    fun _ _ _ _ _ _ => write_error, fun _ _ _ _ _ => erase_error⟩
  obtain ⟨es, c', hes, hc', hfields⟩ := h.later.fields hc
  obtain ⟨es', hes', hlines⟩ := h.later.lines
  obtain rfl : es' = es := List.append_cancel_left (hes'.symm.trans hes)
  exact ⟨es', c', hes, hc', read_fields hc', hfields, hlines⟩

/-- A step that sets an attribute on the base class. -/
def patchBase : Step := ⟨"main", none, ⟨[]⟩, .write (.data (.cls baseIndex)) (.data (.ofString "tag")) (.data (.ofInt 1))⟩

theorem patched_base_fields :
    Follows .initial [patchBase] World.initial (Session.initial.run [patchBase]).1.world ∧
      World.initial.class? baseIndex = some baseClass ∧
      ∃ es c', (Session.initial.run [patchBase]).1.world.journal = es ∧
        (Session.initial.run [patchBase]).1.world.class? baseIndex = some c' ∧
        c'.fields = es.foldl (edit baseIndex) baseClass.fields := by
  have hfollows := follows_whole Session.initial [patchBase]
  have hbase : World.initial.class? baseIndex = some baseClass := rfl
  obtain ⟨-, ⟨es, c', hes, hc', -, hfields, -⟩, -⟩ := fields_follow_own_edits Session.initial [patchBase] hfollows hbase
  exact ⟨hfollows, hbase, es, c', hes, hc', hfields⟩

end Lineage
