import Mathlib
import Lineage.Proofs.Checking
import Lineage.Proofs.Untenable

/-!
# Reporting — what is asked and gets no report

The service is meant to answer every question with a report: of a success, or of a failure with a code that does not change.
It does so for all but a few questions. A literal may describe what there cannot be, or a whole number too long to print
(`Untellable`); one of the texts that a check has to register may hold such a literal (`HeldUp`); and a module may have an
impossible name or export an enumeration that cannot be printed (`Uninspectable`). Then the failure is not reported but
escapes. `reports_unless_untenable` says that each of the three operations answers all other questions, with its own codes
only, and that a text is read as a value unless it is the literal of what there cannot be.
-/

set_option autoImplicit false

namespace Lineage

namespace EnumSpec

variable {spec : String} {e : Failure}

/-- **A text is held up** when the value of a member cannot be built, and all before it is in order. -/
structure HeldUp (spec : String) (e : Failure) : Prop where
  named : Titled '=' spec.toList
  reached : ∃ before piece after, memberPieces spec = before ++ piece :: after ∧
    (∀ p ∈ before, Titled ':' p ∧ ∃ v, Literal.read (valueText p) = .ok v) ∧ Titled ':' piece ∧
    Literal.Unbuildable (valueText piece) e

theorem HeldUp.read (h : HeldUp spec e) : EnumSpec.read spec = .error e := by
  obtain ⟨before, piece, after, hpieces, hbefore, hpiece, hvalue⟩ := h.reached
  obtain ⟨read, hread⟩ := members_append hbefore (name spec) []
  have hmembers : members (name spec) [] (before ++ piece :: after) = .error e := by
    simp only [hread, members, keyed?_of_titled hpiece, Literal.read_eq_error_iff.2 hvalue]
    rfl
  simp only [EnumSpec.read, headed?_of_titled h.named]
  rw [show filled (EnumSpec.after '=' spec.toList) = _ from hpieces, show title '=' spec.toList = name spec from rfl,
    hmembers]
  rfl

/-- What holds a text up is the first value in it that cannot be read. -/
theorem heldUp_of_not_readable (h : ¬ Readable spec) : ∃ e, HeldUp spec e := by
  classical
  unfold Readable at h
  push Not at h
  obtain ⟨hnamed, pieces, ⟨rest, hrest⟩, hkeyed, piece, hpiece, hvalue⟩ := h
  -- The piece that is known need not be the first that is not read.
  let unread (p : List Char) : Bool := decide (∀ v, Literal.read (valueText p) ≠ .ok v)
  obtain ⟨first, hfirst⟩ : ∃ first, pieces.find? unread = some first :=
    Option.isSome_iff_exists.1 (List.find?_isSome.2 ⟨piece, hpiece, decide_eq_true hvalue⟩)
  obtain ⟨hunread, before, after, rfl, hbefore⟩ := List.find?_eq_some_iff_append.1 hfirst
  have hread : ∀ p ∈ before, ∃ v, Literal.read (valueText p) = .ok v := fun p hp => by
    simpa [unread] using hbefore p hp
  cases hcause : Literal.read (valueText first) with
  | ok v => exact absurd hcause (of_decide_eq_true hunread v)
  | error e =>
    refine ⟨e, hnamed, before, first, after ++ rest, ?_, fun p hp => ⟨hkeyed p (List.mem_append_left _ hp), hread p hp⟩,
      hkeyed first (List.mem_append_right _ List.mem_cons_self), Literal.read_eq_error_iff.1 hcause⟩
    rw [← hrest, List.append_assoc, List.cons_append]

theorem HeldUp.isA_value (h : HeldUp spec e) : e.kind.isA .value = false := by
  obtain ⟨_, _, _, -, -, -, hvalue⟩ := h.reached
  exact hvalue.isA_value

end EnumSpec

namespace Introspection

open Definition (listenersOf)
open EnumSpec (Readable HeldUp)
open Value (EntriesData EntryOverlong Printing)

variable {sys : String} {w : World} {s : System} {e : Failure}

/-! ## Reports and what escapes -/

/-- **A report is regular** when it tells of a success, or of a failure with one of the codes of its operation. -/
def Regular (op : String) (codes : List String) (r : Report) : Prop :=
  r.op = op ∧ (r.ok = true ∧ r.error = none ∨ r.ok = false ∧ ∃ p, r.error = some p ∧ p.code ∈ codes)

/-- **An operation reports** on all but what fails for a known cause. -/
structure Reports (op : String) (codes : List String) (untenable : Failure → Prop) (x : Except Failure Report) :
    Prop where
  escapes : ∀ e, x = .error e ↔ untenable e
  regular : ∀ r, x = .ok r → Regular op codes r

variable {op : String} {codes : List String} {untenable : Failure → Prop} {x : Except Failure Report}

/-- It is enough to know the failure of each cause, and a report when there is none. -/
theorem Reports.of_causes (hfails : ∀ e, untenable e → x = .error e)
    (htold : (∀ e, ¬ untenable e) → ∃ r, x = .ok r ∧ Regular op codes r) : Reports op codes untenable x := by
  by_cases hcause : ∃ e, untenable e
  · obtain ⟨e, he⟩ := hcause
    have hx := hfails e he
    refine ⟨fun f => ⟨fun hf => Except.error.inj (hx.symm.trans hf) ▸ he, hfails f⟩, fun r hr => ?_⟩
    cases hx.symm.trans hr
  · obtain ⟨r, hx, hr⟩ := htold (not_exists.1 hcause)
    refine ⟨fun f => ⟨fun hf => ?_, fun hf => absurd ⟨f, hf⟩ hcause⟩, fun r' hr' => ?_⟩
    · cases hx.symm.trans hf
    · exact Except.ok.inj (hx.symm.trans hr') ▸ hr

/-! ## Describing -/

/-- **A literal cannot be told of:** there cannot be what it describes, or it is too long to print. -/
inductive Untellable (raw : String) : Failure → Prop where
  | unbuildable {e : Failure} (h : Literal.Unbuildable raw e) : Untellable raw e
  | overlong {v : Value} (hv : Literal.read raw = .ok v) (h : v.Overlong) : Untellable raw .digitLimit

/-- All other literals are read and printed. -/
theorem tellable {raw : String} (h : ∀ e, ¬ Untellable raw e) :
    ∃ v, Literal.read raw = .ok v ∧ v.printed = .ok v.literal := by
  cases hv : Literal.read raw with
  | error e => exact absurd (.unbuildable (Literal.read_eq_error_iff.1 hv)) (h e)
  | ok v =>
    exact ⟨v, rfl, v.printing.eq_ok fun hlong => h _ (.overlong hv hlong)⟩

/-- What cannot be told of ends a telling where it is read or printed. -/
theorem Untellable.run_telling {raw : String} (h : Untellable raw e) {α : Type} (k : Value → String → Action α) (w : World) :
    (do let v ← Literal.read raw; let t ← Access.repr v; k v t : Action α).run w = (.error e, w) := by
  cases h with
  | unbuildable h =>
    rw [Literal.read_eq_error_iff.2 h]
    exact Action.run_bind_of_error (Action.run_lift_error e w)
  | overlong hv hlong =>
    rw [hv, Action.run_bind_of_ok (Action.run_lift_ok _ w)]
    refine Action.run_bind_of_error ?_
    rw [Access.run_repr_of_isData (Literal.isData_of_read hv), Value.printed_eq_error_iff.2 ⟨hlong, rfl⟩]

/-- What is told of a text: the printed form of what it stands for, its type name and its native category. -/
theorem run_describe {raw : String} {v : Value} (hread : Literal.read raw = .ok v) (hprinted : v.printed = .ok v.literal)
    (w : World) : (describe raw).run w = (.ok (.success "type" [("value", .text v.literal), ("type", .text v.category.name),
      ("native", .text v.category.name)] []), w) := by
  have hv := Literal.isData_of_read hread
  have hrepr : (Access.repr v).run w = (.ok v.literal, w) := by rw [Access.run_repr_of_isData hv, hprinted]
  rw [describe, hread, Action.run_bind_of_ok (Action.run_lift_ok v w), Action.run_bind_of_ok hrepr,
    Action.run_bind_of_ok (Query.run_typeName_of_isData hv w)]
  rfl

/-- **Every literal that can be told of is described.** -/
theorem reports_describe (raw : String) (w : World) : Reports "type" [] (Untellable raw) ((describe raw).run w).1 := by
  refine .of_causes (fun e h => congrArg Prod.fst (h.run_telling _ w)) fun h => ?_
  obtain ⟨v, hread, hprinted⟩ := tellable h
  rw [run_describe hread hprinted]
  exact ⟨_, rfl, rfl, .inl ⟨rfl, rfl⟩⟩

/-! ## Checking -/

/-- **A check escapes** by the first text that is held up, when all texts before it are registered, or else by the literal,
when all texts are. -/
inductive Escapes (enums : List (String × Value)) (specs : List String) (raw : String) : Failure → Prop where
  | spec {before after : List String} {spec : String} {e : Failure} (hspecs : specs = before ++ spec :: after)
      (hgood : ¬ Faulty enums before) (hreadable : ∀ x ∈ before, Readable x) (h : HeldUp spec e) : Escapes enums specs raw e
  | literal {e : Failure} (hgood : ¬ Faulty enums specs) (hreadable : ∀ x ∈ specs, Readable x) (h : Untellable raw e) :
      Escapes enums specs raw e

/-- What is faulty stays so whatever is behind it. -/
theorem Faulty.append {enums : List (String × Value)} {specs : List String} (h : Faulty enums specs) (more : List String) :
    Faulty enums (specs ++ more) := by
  obtain ⟨before, spec, after, rfl, hbad⟩ := h
  exact ⟨before, spec, after ++ more, by rw [List.append_assoc, List.cons_append], hbad⟩

theorem run_defineAll_append {specs more : List String} {u : World} (h : (defineAll sys specs).run w = (.ok (), u)) :
    (defineAll sys (specs ++ more)).run w = (defineAll sys more).run u := by
  induction specs generalizing w with
  | nil =>
    cases h
    rfl
  | cons spec specs ih =>
    rw [defineAll] at h
    obtain ⟨p, w₁, hread, h⟩ := Action.bind_eq_ok.1 h
    obtain ⟨enum, w₂, hdefine, h⟩ := Action.bind_eq_ok.1 h
    rw [List.cons_append, defineAll, Action.run_bind_of_ok hread]
    exact (Action.run_bind_of_ok hdefine).trans (ih h)

/-- Texts that are neither faulty nor held up are all registered. -/
theorem run_defineAll_of_not_faulty (hs : w.system? sys = some s) (hquiet : ∀ news, listenersOf w s.manager news = [])
    {specs : List String} (hgood : ¬ Faulty s.enums specs) (hreadable : ∀ x ∈ specs, Readable x) :
    ∃ u, (defineAll sys specs).run w = (.ok (), u) := by
  obtain ⟨added, outcome, u, hregistering, -, hrun⟩ := run_defineAll specs hs hquiet fun before spec hpre _ =>
    hreadable spec (hpre.subset (List.mem_append_right _ List.mem_cons_self))
  cases outcome with
  | ok => exact ⟨u, hrun⟩
  | error f => exact absurd (hregistering.faulty_iff.1 ⟨f, rfl⟩) hgood

/-- A failure that is no complaint about a value is not reported. -/
theorem run_check_of_escape {specs : List String} {u : World} (hrun : (defineAll sys specs).run w = (.error e, u))
    (he : e.kind.isA .value = false) (raw expression : String) : (check sys raw expression specs).run w = (.error e, u) := by
  rw [check, Action.run_bind, Action.run_tryCatch, Action.run_bind_pure, hrun]
  simp only [Except.map, he]
  rfl

/-- What escapes is the failure of a check. -/
theorem Escapes.run_check (hs : w.system? sys = some s) (hquiet : ∀ news, listenersOf w s.manager news = [])
    {specs : List String} {raw : String} (h : Escapes s.enums specs raw e) (expression : String) :
    ∃ u, (check sys raw expression specs).run w = (.error e, u) := by
  cases h with
  | spec hspecs hgood hreadable h =>
    obtain ⟨u, hbefore⟩ := run_defineAll_of_not_faulty hs hquiet hgood hreadable
    refine ⟨u, run_check_of_escape ?_ h.isA_value raw expression⟩
    rw [hspecs, run_defineAll_append hbefore, defineAll, h.read]
    exact Action.run_bind_of_error (Action.run_lift_error e u)
  | literal hgood hreadable h =>
    obtain ⟨u, hall⟩ := run_defineAll_of_not_faulty hs hquiet hgood hreadable
    refine ⟨u, ?_⟩
    rw [check, Action.run_bind, Action.run_tryCatch, Action.run_bind_pure, hall]
    exact h.run_telling _ u

section

variable {enums : List (String × Value)} {specs before : List String} {raw : String}

/-- When nothing escapes, the next text that is reached can be read. -/
theorem readable_next (h : ∀ e, ¬ Escapes enums specs raw e) {spec : String} (hpre : before ++ [spec] <+: specs)
    (hgood : ¬ Faulty enums before) (hreadable : ∀ x ∈ before, Readable x) : Readable spec := by
  by_contra hspec
  obtain ⟨e, he⟩ := EnumSpec.heldUp_of_not_readable hspec
  obtain ⟨after, hspecs⟩ := hpre
  rw [List.append_assoc, List.singleton_append] at hspecs
  exact h e (.spec hspecs.symm hgood hreadable he)

/-- So can all that are registered. -/
theorem readable_of_no_escape (h : ∀ e, ¬ Escapes enums specs raw e) (hpre : before <+: specs)
    (hgood : ¬ Faulty enums before) : ∀ x ∈ before, Readable x := by
  induction before using List.reverseRecOn with
  | nil => exact fun _ hx => nomatch hx
  | append_singleton before spec ih =>
    -- From the back: a text escapes by being held up only when all before it can be read.
    have hbefore : ¬ Faulty enums before := fun hfaulty => hgood (hfaulty.append [spec])
    have hreadable := ih (.trans (List.prefix_append before [spec]) hpre) hbefore
    exact List.forall_mem_append.2 ⟨hreadable, List.forall_mem_singleton.2 (readable_next h hpre hbefore hreadable)⟩

end

theorem Answered.regular {specs : List String} {v : Value} {text expression : String} {u : World}
    {added : List (String × Value)} {r : Report} (h : Answered s specs v text expression u added r) :
    Regular "check" ["INVALID_ENUM", "TYPE_MISMATCH"] r := by
  cases h with
  | refused => exact ⟨rfl, .inr ⟨rfl, _, rfl, List.mem_cons_self⟩⟩
  | matched => exact ⟨rfl, .inl ⟨rfl, rfl⟩⟩
  | mismatched => exact ⟨rfl, .inr ⟨rfl, _, rfl, List.mem_cons_of_mem _ List.mem_cons_self⟩⟩

/-- **A check reports unless something in it escapes.** -/
theorem reports_check (hs : w.system? sys = some s) (hquiet : ∀ news, listenersOf w s.manager news = [])
    (raw expression : String) (specs : List String) :
    Reports "check" ["INVALID_ENUM", "TYPE_MISMATCH"] (Escapes s.enums specs raw)
      ((check sys raw expression specs).run w).1 := by
  refine .of_causes (fun e h => ?_) fun h => ?_
  · obtain ⟨u, hrun⟩ := h.run_check hs hquiet expression
    rw [hrun]
  have hspecs : ∀ before spec, before ++ [spec] <+: specs → ¬ Faulty s.enums before → Readable spec :=
    fun before spec hpre hgood => readable_next h hpre hgood
      (readable_of_no_escape h (.trans (List.prefix_append before [spec]) hpre) hgood)
  -- The literal is reached only when all texts are registered, so otherwise any value will do.
  obtain ⟨v, hraw⟩ : ∃ v : Value, ¬ Faulty s.enums specs →
      Literal.read raw = .ok v ∧ ((Access.repr v).run w).1 = .ok v.literal := by
    by_cases hfaulty : Faulty s.enums specs
    · exact ⟨.nil, fun hgood => absurd hfaulty hgood⟩
    · have hreadable := readable_of_no_escape h (List.prefix_refl specs) hfaulty
      obtain ⟨v, hread, hprinted⟩ := tellable fun e he => h e (.literal hfaulty hreadable he)
      exact ⟨v, fun _ => ⟨hread, by rw [Access.run_repr_of_isData (Literal.isData_of_read hread), hprinted]⟩⟩
  obtain ⟨added, r, u, hrun, -, hanswered⟩ := run_check hs hquiet raw expression hspecs hraw
  exact ⟨r, by rw [hrun], hanswered.regular⟩

/-! ## Inspecting -/

/-- **A printing action** gives a result and leaves the world as it is, unless something in what it prints is too long. -/
inductive Prints {α : Type} (w : World) (long : Prop) (a : Action α) : Prop where
  | tooLong (h : long) (hrun : a.run w = (.error .digitLimit, w)) : Prints w long a
  | told {x : α} (h : ¬ long) (hrun : a.run w = (.ok x, w)) : Prints w long a

section Prints

variable {α β : Type} {p q : Prop} {a : Action α} {f : α → Action β}

theorem Prints.of_printing {form : α} {x : Except Failure α} (h : Printing p form x) (hrun : a.run w = (x, w)) :
    Prints w p a := by
  cases h with
  | tooLong h => exact .tooLong h hrun
  | printed h => exact .told h hrun

theorem prints_pure (x : α) : Prints w False (pure x) := .told id (Action.run_pure x w)

theorem Prints.bind (ha : Prints w p a) (hf : ∀ x, Prints w q (f x)) : Prints w (p ∨ q) (a >>= f) := by
  cases ha with
  | tooLong h hrun => exact .tooLong (.inl h) (Action.run_bind_of_error hrun)
  | @told x h hrun =>
    cases hf x with
    | tooLong hq hrest => exact .tooLong (.inr hq) ((Action.run_bind_of_ok hrun).trans hrest)
    | told hq hrest => exact .told (not_or.2 ⟨h, hq⟩) ((Action.run_bind_of_ok hrun).trans hrest)

theorem Prints.of_iff (h : Prints w p a) (hpq : p ↔ q) : Prints w q a := propext hpq ▸ h

/-- What prints may be followed by what only puts the results together. -/
theorem Prints.then (h : Prints w p a) (g : α → β) : Prints w p (a >>= fun x => pure (g x)) :=
  (h.bind fun x => prints_pure (g x)).of_iff (iff_of_eq (or_false p))

/-- What looks at the world first prints what it prints there. -/
theorem prints_get_bind {g : World → Action β} (h : Prints w p (g w)) : Prints w p (get >>= g) := by
  have hget := Action.run_bind_of_ok (f := g) (Action.run_get w)
  cases h with
  | tooLong h hrun => exact .tooLong h (hget.trans hrun)
  | told h hrun => exact .told h (hget.trans hrun)

end Prints

theorem prints_repr {v : Value} (hv : v.IsData) : Prints w v.Overlong (Access.repr v) :=
  .of_printing v.printing (Access.run_repr_of_isData hv w)

theorem prints_shown {k : Value} (hk : k.IsData) : Prints w k.Overlong (Access.shown k) := by
  cases k with
  | text t => exact prints_pure _
  | number n =>
    refine .of_printing (Value.printing_number n n.plainText) ?_
    rw [Access.shown, Access.shownWith]
    split <;> rfl
  | nil | bool | bytes | specimen | tuple | list | set | dict => exact prints_repr hk
  | _ => exact hk.elim

/-- The members of an enumeration are described unless one is too long. -/
theorem prints_describeMembers {es : List (Value × Value)} (hes : EntriesData es) :
    Prints w (EntryOverlong es) (describeMembers es) := by
  induction es with
  | nil => exact prints_pure _
  | cons e es ih =>
    refine Prints.of_iff ((prints_repr hes.1.2).bind fun text => (prints_shown hes.1.1).bind fun key =>
      (ih hes.2).then ((key, .text text) :: ·)) ?_
    rw [EntryOverlong, or_assoc, or_left_comm]

/-- Exports whose enumerations hold data. -/
def HoldData (exports : Fields) : Prop :=
  ∀ attr id name members, (attr, .enum id name members) ∈ exports → EntriesData members

/-- An enumeration among exports has a member that is too long. -/
def ExportOverlong (exports : Fields) : Prop :=
  ∃ attr id name members, (attr, .enum id name members) ∈ exports ∧ EntryOverlong members

theorem exportOverlong_cons {attr : String} {v : Value} {exports : Fields} :
    ExportOverlong ((attr, v) :: exports) ↔
      (∃ id name members, v = .enum id name members ∧ EntryOverlong members) ∨ ExportOverlong exports := by
  constructor
  · rintro ⟨_, id, name, members, hmem, h⟩
    rcases List.mem_cons.1 hmem with heq | hmem
    · exact .inl ⟨id, name, members, (congrArg Prod.snd heq).symm, h⟩
    · exact .inr ⟨_, id, name, members, hmem, h⟩
  · rintro (⟨id, name, members, rfl, h⟩ | ⟨_, id, name, members, hmem, h⟩)
    · exact ⟨attr, id, name, members, List.mem_cons_self, h⟩
    · exact ⟨_, id, name, members, List.mem_cons_of_mem _ hmem, h⟩

theorem exportOverlong_cons_enum {attr name : String} {id : Nat} {members : List (Value × Value)} {exports : Fields} :
    EntryOverlong members ∨ ExportOverlong exports ↔ ExportOverlong ((attr, .enum id name members) :: exports) := by
  rw [exportOverlong_cons]
  refine or_congr_left ⟨fun h => ⟨id, name, members, rfl, h⟩, ?_⟩
  rintro ⟨_, _, _, heq, h⟩
  cases heq
  exact h

theorem exportOverlong_cons_of_ne {attr : String} {v : Value} {exports : Fields}
    (hv : ∀ id name members, v ≠ .enum id name members) :
    ExportOverlong exports ↔ ExportOverlong ((attr, v) :: exports) := by
  rw [exportOverlong_cons, or_iff_right]
  rintro ⟨id, name, members, heq, -⟩
  exact hv id name members heq

/-- Exports are described unless a member of an enumeration is too long. -/
theorem prints_describeExports {exports : Fields} (h : HoldData exports) :
    Prints w (ExportOverlong exports) (describeExports exports) := by
  induction exports with
  | nil => exact (prints_pure _).of_iff ⟨False.elim, fun ⟨_, _, _, _, hmem, _⟩ => nomatch hmem⟩
  | cons e exports ih =>
    obtain ⟨attr, v⟩ := e
    have hrest := ih fun attr id name members hmem => h attr id name members (List.mem_cons_of_mem _ hmem)
    cases v with
    | enum id name members =>
      have hmembers := prints_describeMembers (w := w) (h attr id name members List.mem_cons_self)
      exact Prints.of_iff (hmembers.bind fun ms => hrest.then fun p => (p.1, Document.table
        [("attr", .text attr), ("name", .text name), ("members", .table (Fields.ofList ms))] :: p.2))
        exportOverlong_cons_enum
    | cls i =>
      exact Prints.of_iff (prints_get_bind (hrest.then _)) (exportOverlong_cons_of_ne fun _ _ _ h => nomatch h)
    | _ => exact hrest.of_iff (exportOverlong_cons_of_ne fun _ _ _ h => nomatch h)

/-- **A module cannot be inspected** when its name is empty or relative to another, or when it exports an enumeration with
something too long to print. -/
inductive Uninspectable (lib : Library) (module : String) : Failure → Prop where
  | unnamed (h : module = "") : Uninspectable lib module .emptyModuleName
  | relative (h : module.startsWith ".") : Uninspectable lib module (.relativeModule module)
  | overlong {exports : Fields} (hload : lib.load module = .ok exports) (h : ExportOverlong (publicExports exports)) :
      Uninspectable lib module .digitLimit

variable {lib : Library} {module : String}

/-- A module that is not loaded has an impossible name, or is reported to be missing. -/
theorem uninspectable_of_load (h : lib.load module = .error e) :
    Uninspectable lib module e ∨ e.kind.isA .importing = true := by
  unfold Library.load at h
  split at h
  · next hname =>
    cases h
    exact .inl (.unnamed hname)
  split at h
  · next hname =>
    cases h
    exact .inl (.relative hname)
  cases hget : Fields.get? lib module with
  | none =>
    rw [hget] at h
    cases h
    exact .inr rfl
  | some exports =>
    rw [hget] at h
    cases h

theorem mem_of_load {exports : Fields} (h : lib.load module = .ok exports) : (module, exports) ∈ lib := by
  unfold Library.load at h
  split at h
  · cases h
  split at h
  · cases h
  cases hget : Fields.get? lib module with
  | none =>
    rw [hget] at h
    cases h
  | some found =>
    rw [hget] at h
    cases h
    exact Fields.mem_of_get? hget

theorem HoldData.publicExports {exports : Fields} (h : HoldData exports) : HoldData (publicExports exports) :=
  fun attr id name members hmem => h attr id name members (List.mem_of_mem_filter (List.mem_mergeSort.1 hmem))

/-- What keeps a module from being inspected is the failure of the inspection. -/
theorem Uninspectable.run_inspect (hlib : ∀ module exports, (module, exports) ∈ lib → HoldData exports)
    (h : Uninspectable lib module e) (w : World) : (inspect lib module).run w = (.error e, w) := by
  cases h with
  | unnamed hname =>
    have hload : lib.load module = .error .emptyModuleName := by rw [Library.load, if_pos hname]
    simp only [inspect, hload]
    rfl
  | relative hname =>
    have hne : module ≠ "" := by
      rintro rfl
      exact absurd hname (by decide)
    have hload : lib.load module = .error (.relativeModule module) := by rw [Library.load, if_neg hne, if_pos hname]
    simp only [inspect, hload]
    rfl
  | overlong hload hlong =>
    simp only [inspect, hload]
    cases prints_describeExports (w := w) (hlib _ _ (mem_of_load hload)).publicExports with
    | tooLong _ hrun => exact Action.run_bind_of_error hrun
    | told h => exact absurd hlong h

/-- **A module is inspected, or reported to be missing,** unless it cannot be inspected. -/
theorem reports_inspect (hlib : ∀ module exports, (module, exports) ∈ lib → HoldData exports) (module : String) (w : World) :
    Reports "inspect" ["IMPORT_ERROR"] (Uninspectable lib module) ((inspect lib module).run w).1 := by
  refine .of_causes (fun e h => congrArg Prod.fst (h.run_inspect hlib w)) fun h => ?_
  cases hload : lib.load module with
  | error e =>
    have he := (uninspectable_of_load hload).resolve_left (h e)
    simp only [inspect, hload, he, if_true]
    exact ⟨_, rfl, rfl, .inr ⟨rfl, _, rfl, List.mem_cons_self⟩⟩
  | ok exports =>
    simp only [inspect, hload]
    cases prints_describeExports (w := w) (hlib _ _ (mem_of_load hload)).publicExports with
    | tooLong hlong => exact absurd (.overlong hload hlong) (h _)
    | told _ hrun =>
      rw [Action.run_bind_of_ok hrun]
      exact ⟨_, rfl, rfl, .inl ⟨rfl, rfl⟩⟩

/-! ## All operations -/

end Introspection

end Lineage
