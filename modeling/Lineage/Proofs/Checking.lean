import Mathlib
import Lineage.CommandLine
import Lineage.Proofs.EnumText
import Lineage.Proofs.Literals
import Lineage.Proofs.Registry

/-!
# Checking — a literal held against an expression

A check registers the enumerations that texts spell, from left to right, and stops at the first text that is malformed or
whose name is taken (`Registering`). When all are registered, the literal is held against the alternatives of the expression,
and the leftmost that is its category or an enumeration with it as a member is reported. `Answered` lists the three reports
there are; the main statement (`check_registers_then_matches`) says that a check gives one of them, when it is which, and
that it goes to one of the two outputs with the exit number that tells which.
-/

set_option autoImplicit false

namespace Lineage

namespace Introspection

open Definition (listenersOf)
open EnumSpec (WellFormed Readable Spells Malformed)

variable {sys : String} {w : World} {s : System}

/-! ## Registering what texts spell -/

/-- The entry of a registry that a text with certain members becomes. -/
def entry (id : Nat) (spec : String) (ms : List (String × Value)) : String × Value :=
  (EnumSpec.name spec, .enum id (EnumSpec.name spec) (ms.map fun m => (.ofString m.1, m.2)))

/-- **Texts become the entries of a registry,** one after the other, each under a name that is free. -/
inductive Registers : List (String × Value) → List String → List (String × Value) → Prop where
  | nil (enums : List (String × Value)) : Registers enums [] []
  | cons {enums added : List (String × Value)} {spec : String} {specs : List String} {ms : List (String × Value)} {id : Nat}
      (hw : WellFormed spec) (hspells : Spells spec ms) (hfree : EnumSpec.name spec ∉ enums.map Prod.fst)
      (hrest : Registers (enums ++ [entry id spec ms]) specs added) :
      Registers enums (spec :: specs) (entry id spec ms :: added)

/-- **What a text is refused for:** it is malformed, or the name is taken. -/
inductive Bad (enums : List (String × Value)) (spec : String) : Failure → Prop where
  | malformed {f : Failure} (h : Malformed spec f) : Bad enums spec f
  | taken (hw : WellFormed spec) (h : EnumSpec.name spec ∈ enums.map Prod.fst) :
      Bad enums spec (.duplicateEnum (EnumSpec.name spec))

/-- A text is malformed, or its name stands in the registry or is that of a text before it. -/
def Faulty (enums : List (String × Value)) (specs : List String) : Prop :=
  ∃ before spec after, specs = before ++ spec :: after ∧ (¬ WellFormed spec ∨ EnumSpec.name spec ∈ enums.map Prod.fst ∨
    ∃ earlier ∈ before, EnumSpec.name earlier = EnumSpec.name spec)

theorem Registers.names {enums added : List (String × Value)} {specs : List String} (h : Registers enums specs added) :
    added.map Prod.fst = specs.map EnumSpec.name := by
  induction h with
  | nil => rfl
  | cons _ _ _ _ ih => rw [List.map_cons, List.map_cons, ih, entry]

/-- When the first text becomes an entry, what is faulty is behind it. -/
theorem Faulty.behind {enums : List (String × Value)} {spec : String} {specs : List String} {ms : List (String × Value)}
    {id : Nat} (hw : WellFormed spec) (hfree : EnumSpec.name spec ∉ enums.map Prod.fst)
    (h : Faulty enums (spec :: specs)) : Faulty (enums ++ [entry id spec ms]) specs := by
  obtain ⟨before, bad, after, heq, hbad⟩ := h
  cases before with
  | nil =>
    cases heq
    rcases hbad with hbad | hbad | ⟨_, hbad, -⟩
    · exact absurd hw hbad
    · exact absurd hbad hfree
    · cases hbad
  | cons first before =>
    cases heq
    refine ⟨before, bad, after, rfl, ?_⟩
    rw [List.map_append, List.map_singleton, List.mem_append, List.mem_singleton, entry]
    rcases hbad with hbad | hbad | ⟨earlier, hearlier, hname⟩
    · exact .inl hbad
    · exact .inr (.inl (.inl hbad))
    · rcases List.mem_cons.1 hearlier with rfl | hearlier
      · exact .inr (.inl (.inr hname.symm))
      · exact .inr (.inr ⟨earlier, hearlier, hname⟩)

theorem not_faulty_nil (enums : List (String × Value)) : ¬ Faulty enums [] := by
  rintro ⟨before, _, _, heq, -⟩
  cases before <;> cases heq

/-- When all texts become entries, none is faulty. -/
theorem Registers.not_faulty {enums added : List (String × Value)} {specs : List String}
    (h : Registers enums specs added) : ¬ Faulty enums specs := by
  induction h with
  | nil => exact not_faulty_nil _
  | cons hw _ hfree _ ih => exact fun hfaulty => ih (hfaulty.behind hw hfree)

/-- The first text that is refused is faulty. -/
theorem Bad.faulty {enums added : List (String × Value)} {good more : List String} {bad : String} {f : Failure}
    (hgood : Registers enums good added) (hbad : Bad (enums ++ added) bad f) : Faulty enums (good ++ bad :: more) := by
  refine ⟨good, bad, more, rfl, ?_⟩
  cases hbad with
  | malformed h => exact .inl h.not_wellFormed
  | taken _ h =>
    rw [List.map_append, List.mem_append, hgood.names] at h
    exact .inr (h.imp id List.mem_map.1)

/-- An enumeration is not defined under a name that is taken. -/
theorem run_defineEnum_of_taken (hs : w.system? sys = some s) {n : String} (hn : n ∈ s.enums.map Prod.fst)
    (es : List (Value × Value)) :
    (Definition.defineEnum sys (.ofString n) (.dict es)).run w = (.error (.duplicateEnum n), w) :=
  Definition.run_defineEnumWith_of_error hs
    (Definition.Refused.taken (Value.string?_ofString n) rfl rfl hn).checkEnum

/-- Under a name that is free it is, and nobody is told when no plugin listens. -/
theorem run_defineEnum_of_free (hs : w.system? sys = some s) (hquiet : ∀ news, listenersOf w s.manager news = [])
    {n : String} (hn : n ∉ s.enums.map Prod.fst) (es : List (Value × Value)) :
    (Definition.defineEnum sys (.ofString n) (.dict es)).run w =
      (.ok (.enum w.enumCount n es), (Definition.enterEnum w sys n es).1) := by
  have hc : Definition.checkEnum w s.enums (.ofString n) (.dict es) = .ok (n, es) :=
    Definition.checkEnum_of_free (Value.string?_ofString n) rfl rfl hn
  have htold : (Definition.announce Definition.react s.manager (.enum n (Definition.enterEnum w sys n es).2)).run
      (Definition.enterEnum w sys n es).1 = (.ok (), (Definition.enterEnum w sys n es).1) := by
    rw [Definition.run_announce]
    exact congrArg (fun ps => (Definition.tellAll _ _ ps).run _) (hquiet _)
  exact Definition.run_defineEnumWith_of_ok hs hc htold

/-- **How far texts are registered:** all of them, or those before the first that is refused. -/
inductive Registering (enums : List (String × Value)) (specs : List String) :
    List (String × Value) → Except Failure Unit → Prop where
  | all {added : List (String × Value)} (h : Registers enums specs added) : Registering enums specs added (.ok ())
  | upTo {good more : List String} {bad : String} {added : List (String × Value)} {f : Failure}
      (hspecs : specs = good ++ bad :: more) (hgood : Registers enums good added) (hbad : Bad (enums ++ added) bad f) :
      Registering enums specs added (.error f)

theorem Registering.refused {enums : List (String × Value)} {spec : String} {f : Failure} (hbad : Bad enums spec f)
    (specs : List String) : Registering enums (spec :: specs) [] (.error f) :=
  .upTo (List.nil_append _).symm (.nil enums) ((List.append_nil enums).symm ▸ hbad)

theorem Registering.cons {enums added : List (String × Value)} {spec : String} {specs : List String}
    {ms : List (String × Value)} {id : Nat} {r : Except Failure Unit} (hw : WellFormed spec) (hspells : Spells spec ms)
    (hfree : EnumSpec.name spec ∉ enums.map Prod.fst) (h : Registering (enums ++ [entry id spec ms]) specs added r) :
    Registering enums (spec :: specs) (entry id spec ms :: added) r := by
  cases h with
  | all h => exact .all (.cons hw hspells hfree h)
  | upTo hspecs hgood hbad =>
    rw [List.append_assoc, List.singleton_append] at hbad
    exact .upTo (congrArg (spec :: ·) hspecs) (.cons hw hspells hfree hgood) hbad

/-- **Texts are registered from left to right,** up to the first that is refused. -/
theorem run_defineAll (specs : List String) (hs : w.system? sys = some s)
    (hquiet : ∀ news, listenersOf w s.manager news = [])
    (hspecs : ∀ before spec, before ++ [spec] <+: specs → ¬ Faulty s.enums before → Readable spec) :
    ∃ added r u, Registering s.enums specs added r ∧ u.system? sys = some { s with enums := s.enums ++ added } ∧
      (defineAll sys specs).run w = (r, u) := by
  induction specs generalizing w s with
  | nil => exact ⟨[], _, w, .all (.nil _), by rw [List.append_nil]; exact hs, rfl⟩
  | cons spec specs ih =>
    have hreadable := hspecs [] spec ⟨specs, rfl⟩ (not_faulty_nil _)
    have hunchanged : w.system? sys = some { s with enums := s.enums ++ [] } := by rw [List.append_nil]; exact hs
    rcases EnumSpec.wellFormed_or_malformed spec with hw | ⟨f, hf⟩
    · obtain ⟨ms, hms⟩ := hw.spells hreadable
      by_cases hname : EnumSpec.name spec ∈ s.enums.map Prod.fst
      · refine ⟨[], _, w, .refused (.taken hw hname) specs, hunchanged, ?_⟩
        rw [defineAll, hw.read hms, Action.run_bind_of_ok (Action.run_lift_ok _ w)]
        exact Action.run_bind_of_error (run_defineEnum_of_taken hs hname _)
      · have hdefine := run_defineEnum_of_free hs hquiet hname (ms.map fun m => (.ofString m.1, m.2))
        have hentered : (Definition.enterEnum w sys (EnumSpec.name spec)
            (ms.map fun m => (.ofString m.1, m.2))).1.system? sys =
              some { s with enums := s.enums ++ [entry w.enumCount spec ms] } := by
          rw [Definition.system?_enterEnum, hs, Option.map_some, if_pos rfl]
          rfl
        obtain ⟨added, r, u, hregistering, hu, hrun⟩ :=
          ih hentered hquiet fun before bad hpre hgood =>
            hspecs (spec :: before) bad (List.cons_prefix_cons.2 ⟨rfl, hpre⟩) (mt (Faulty.behind hw hname) hgood)
        refine ⟨_, r, u, hregistering.cons hw hms hname, ?_, ?_⟩
        · rw [hu, List.append_assoc]
          rfl
        · rw [defineAll, hw.read hms, Action.run_bind_of_ok (Action.run_lift_ok _ w)]
          exact (Action.run_bind_of_ok hdefine).trans hrun
    · refine ⟨[], _, w, .refused (.malformed hf) specs, hunchanged, ?_⟩
      rw [defineAll, hf.read hreadable]
      exact Action.run_bind_of_error (Action.run_lift_error f w)

/-- What a text is refused for is no surprise to a check. -/
theorem Registering.expected {enums added : List (String × Value)} {specs : List String} {f : Failure}
    (h : Registering enums specs added (.error f)) : f.kind.isA .value = true := by
  cases h with
  | upTo _ _ hbad =>
    cases hbad with
    | malformed h => cases h <;> rfl
    | taken => rfl

/-- Some text is refused exactly when one is faulty. -/
theorem Registering.faulty_iff {enums added : List (String × Value)} {specs : List String} {r : Except Failure Unit}
    (h : Registering enums specs added r) : (∃ f, r = .error f) ↔ Faulty enums specs := by
  cases h with
  | all h => exact ⟨fun ⟨_, hf⟩ => (nomatch hf), fun hfaulty => absurd hfaulty h.not_faulty⟩
  | upTo hspecs hgood hbad => exact ⟨fun _ => hspecs ▸ hbad.faulty hgood, fun _ => ⟨_, rfl⟩⟩

/-! ## Holding data against an expression -/

/-- **An alternative is satisfied** when it is the category of the value or an enumeration that has the value as a member. -/
def Satisfied (enums : List (String × Value)) (w : World) (v : Value) (a : String) : Prop :=
  a = v.category.name ∨ Query.Registered enums w a v

theorem satisfied_iff {enums : List (String × Value)} {v : Value} {a : String} :
    (decide (v.category.name = a) || Query.registryHas w enums a v) = true ↔ Satisfied enums w v a := by
  rw [Bool.or_eq_true, decide_eq_true_eq, Query.registryHas_iff, eq_comm, Satisfied]

/-- What a check finds out before it judges. -/
def findings (v : Value) (text expression : String) : List (String × Document) :=
  [("value", .text text), ("expression", .text expression), ("type", .text v.category.name)]

/-- What is reported on data, depending on the alternative that is found. -/
def judgement (v : Value) (text expression : String) (found : Option String) : Report :=
  match found with
  | some a => .success "check" (findings v text expression ++ [("matched", .text a)]) []
  | none => .failure "check" "TYPE_MISMATCH"
    ("The type should be '" ++ expression ++ "' but was '" ++ v.category.name ++ "'") (findings v text expression)

/-- **How a check is answered,** with what it adds to the registry. -/
inductive Answered (s : System) (specs : List String) (v : Value) (text expression : String) (u : World) :
    List (String × Value) → Report → Prop where
  /-- A text is refused. -/
  | refused {added : List (String × Value)} {f : Failure} (h : Registering s.enums specs added (.error f)) :
      Answered s specs v text expression u added (.failure "check" "INVALID_ENUM" f.message [])
  /-- The leftmost alternative that is satisfied. -/
  | matched {added : List (String × Value)} {before after : List String} {a : String}
      (h : Registering s.enums specs added (.ok ()))
      (has : Union.alternatives s.delimiter expression = before ++ a :: after)
      (ha : Satisfied (s.enums ++ added) u v a) (hbefore : ∀ b ∈ before, ¬ Satisfied (s.enums ++ added) u v b) :
      Answered s specs v text expression u added
        (.success "check" (findings v text expression ++ [("matched", .text a)]) [])
  /-- No alternative is. -/
  | mismatched {added : List (String × Value)} (h : Registering s.enums specs added (.ok ()))
      (hnone : ∀ a ∈ Union.alternatives s.delimiter expression, ¬ Satisfied (s.enums ++ added) u v a) :
      Answered s specs v text expression u added (.failure "check" "TYPE_MISMATCH"
        ("The type should be '" ++ expression ++ "' but was '" ++ v.category.name ++ "'") (findings v text expression))

section

variable {specs : List String} {v : Value} {text expression : String} {u : World} {added : List (String × Value)}
  {r : Report}

/-- When all texts are registered, the leftmost alternative that is satisfied is the answer. -/
theorem Answered.judged (h : Registering s.enums specs added (.ok ())) :
    Answered s specs v text expression u added (judgement v text expression
      ((Union.alternatives s.delimiter expression).find? fun a =>
        decide (v.category.name = a) || Query.registryHas u (s.enums ++ added) a v)) := by
  cases hfind : (Union.alternatives s.delimiter expression).find? fun a =>
      decide (v.category.name = a) || Query.registryHas u (s.enums ++ added) a v with
  | none => exact .mismatched h fun a ha => mt satisfied_iff.2 (List.find?_eq_none.1 hfind a ha)
  | some a =>
    obtain ⟨ha, before, after, has, hbefore⟩ := List.find?_eq_some_iff_append.1 hfind
    refine .matched h has (satisfied_iff.1 ha) fun b hb => mt satisfied_iff.2 ?_
    rw [Bool.not_eq_true]
    exact Bool.not_eq_true' .. ▸ hbefore b hb

theorem Answered.invalid_iff (h : Answered s specs v text expression u added r) :
    r.error.map (·.code) = some "INVALID_ENUM" ↔ Faulty s.enums specs := by
  cases h with
  | refused h => exact ⟨fun _ => h.faulty_iff.1 ⟨_, rfl⟩, fun _ => rfl⟩
  | matched h | mismatched h =>
    refine ⟨fun hcode => absurd hcode ?_, fun hfaulty => ?_⟩
    · simp [Report.success, Report.failure]
    · obtain ⟨_, hf⟩ := h.faulty_iff.2 hfaulty
      cases hf

theorem Answered.ok_iff (h : Answered s specs v text expression u added r) :
    r.ok = true ↔ ¬ Faulty s.enums specs ∧
      ∃ a ∈ Union.alternatives s.delimiter expression, Satisfied (s.enums ++ added) u v a := by
  cases h with
  | refused h => exact ⟨fun hok => (nomatch hok), fun ⟨hgood, _⟩ => absurd (h.faulty_iff.1 ⟨_, rfl⟩) hgood⟩
  | matched h has ha _ =>
    refine ⟨fun _ => ⟨fun hfaulty => ?_, _, has ▸ List.mem_append_right _ List.mem_cons_self, ha⟩, fun _ => rfl⟩
    obtain ⟨_, hf⟩ := h.faulty_iff.2 hfaulty
    cases hf
  | mismatched _ hnone => exact ⟨fun hok => (nomatch hok), fun ⟨_, a, hmem, ha⟩ => absurd ha (hnone a hmem)⟩

/-- The line that is shown for a success names the alternative, or the whole expression when the alternative is empty. -/
theorem checkText_matched (v : Value) (text expression a : String) :
    Display.checkText (findings v text expression ++ [("matched", .text a)]) =
      .ok (Display.Page.printPlain Display.reportPage
        ("OK " ++ text ++ " is " ++ if (Document.text a).isTruthy then a else expression)) := by
  have hvalue : Display.field (findings v text expression ++ [("matched", .text a)]) "value" = .ok (.text text) := rfl
  have hmatched : Display.field (findings v text expression ++ [("matched", .text a)]) "matched" = .ok (.text a) := rfl
  have hwhole : Display.field (findings v text expression ++ [("matched", .text a)]) "expression" =
    .ok (.text expression) := rfl
  rw [Display.checkText, hvalue, hmatched, hwhole]
  simp only [bind, Except.bind, Display.lineText]
  split <;> rfl

/-- **An answer can be told,** on the output that its success asks for. -/
theorem Answered.emit (h : Answered s specs v text expression u added r) (json : Bool) :
    ∃ out, r.format json = .ok out ∧ CommandLine.emit json r = .ok
      (if r.ok then ⟨0, CommandLine.written out, "", none⟩ else ⟨1, "", CommandLine.written out, none⟩) := by
  have htold {out : String} (hout : r.format json = .ok out) (hwarnings : r.warnings = []) :
      CommandLine.emit json r = .ok
        (if r.ok then ⟨0, CommandLine.written out, "", none⟩ else ⟨1, "", CommandLine.written out, none⟩) := by
    rw [CommandLine.emit, hout, hwarnings]
    cases json <;> rfl
  cases json with
  | true => exact ⟨_, rfl, htold rfl (by cases h <;> rfl)⟩
  | false =>
    have hformat : ∃ out, r.format false = .ok out := by
      cases h with
      | refused | mismatched => exact ⟨_, rfl⟩
      | @matched before after a =>
        exact ⟨_, congrArg (Except.map Display.dropLineEnds) (checkText_matched v text expression a)⟩
    obtain ⟨out, hout⟩ := hformat
    exact ⟨out, hout, htold hout (by cases h <;> rfl)⟩

end

/-! ## Running a check -/

/-- A text that is refused ends the check. -/
theorem run_check_of_refused {specs : List String} {added : List (String × Value)} {f : Failure} {u : World}
    (h : Registering s.enums specs added (.error f)) (hrun : (defineAll sys specs).run w = (.error f, u))
    (raw expression : String) :
    (check sys raw expression specs).run w = (.ok (.failure "check" "INVALID_ENUM" f.message []), u) := by
  rw [check, Action.run_bind, Action.run_tryCatch, Action.run_bind_pure, hrun]
  simp only [Except.map, h.expected, if_true]
  rfl

section

variable {v : Value} {expression : String} {found : Option String}

/-- Data that satisfies no alternative is refused with its category. -/
theorem run_require (hv : v.IsData) (hfound : (Query.findMatch sys v (.ofString expression)).run w = (.ok found, w)) :
    (Query.require sys v (.ofString expression) .nil none).run w =
      (if found.isSome then .ok () else .error (.typeMismatch .nil "" expression v.category.name none), w) := by
  have hanswer : (Query.typeOf sys v (.ofString expression)).run w = (.ok found.isSome, w) :=
    Action.run_bind_of_ok hfound
  rw [Query.require, Action.run_bind_of_ok hanswer]
  split
  · rfl
  · rw [Action.run_bind_of_ok (Query.run_typeName_of_isData hv w), Query.expressionText, Value.string?_ofString]
    rfl

/-- When all texts are registered, the alternative that is found decides. -/
theorem run_check_of_registered {specs : List String} {raw text : String} {u : World}
    (hrun : (defineAll sys specs).run w = (.ok (), u)) (hraw : Literal.read raw = .ok v)
    (hrepr : (Access.repr v).run u = (.ok text, u))
    (hfound : (Query.findMatch sys v (.ofString expression)).run u = (.ok found, u)) :
    (check sys raw expression specs).run w = (.ok (judgement v text expression found), u) := by
  have hv := Literal.isData_of_read hraw
  rw [check, Action.run_bind, Action.run_tryCatch, Action.run_bind_pure, hrun]
  simp only [Except.map, hraw]
  rw [Action.run_bind_of_ok (Action.run_lift_ok v u), Action.run_bind_of_ok hrepr,
    Action.run_bind_of_ok (Query.run_typeName_of_isData hv u), Action.run_bind, Action.run_tryCatch,
    Action.run_bind_pure, run_require hv hfound]
  cases found with
  | none => rfl
  | some a => exact Action.run_bind_of_ok hfound

end

/-- A check is answered when the literals that it reaches can be read and printed. -/
theorem run_check (hs : w.system? sys = some s) (hquiet : ∀ news, listenersOf w s.manager news = [])
    (raw expression : String) {specs : List String} {v : Value} {text : String}
    (hspecs : ∀ before spec, before ++ [spec] <+: specs → ¬ Faulty s.enums before → Readable spec)
    (hraw : ¬ Faulty s.enums specs → Literal.read raw = .ok v ∧ ((Access.repr v).run w).1 = .ok text) :
    ∃ added r u, (check sys raw expression specs).run w = (.ok r, u) ∧
      u.system? sys = some { s with enums := s.enums ++ added } ∧ Answered s specs v text expression u added r := by
  obtain ⟨added, outcome, u, hregistering, hu, hrun⟩ := run_defineAll specs hs hquiet hspecs
  cases outcome with
  | error f => exact ⟨added, _, u, run_check_of_refused hregistering hrun raw expression, hu, .refused hregistering⟩
  | ok x =>
    obtain ⟨hread, hrepr⟩ := hraw fun hfaulty => nomatch (hregistering.faulty_iff.2 hfaulty).choose_spec
    have hv := Literal.isData_of_read hread
    have hprinted : (Access.repr v).run u = (.ok text, u) := by
      rw [Access.run_repr_of_isData hv] at hrepr ⊢
      exact congrArg (·, u) hrepr
    have hfound := (Query.lacks_of_isData hv "type_of" u).run_findMatch hu (Value.string?_ofString expression)
    exact ⟨added, _, u, run_check_of_registered hrun hread hprinted hfound, hu, .judged hregistering⟩

/-- A world with a type system that has an enumeration and no plugins. -/
def sizeWorld : World :=
  { World.initial with
    enumCount := 1
    systems := [("main", ⟨Union.defaultDelimiter, [("Color", .enum 0 "Color" [])], [], 0⟩)]
    managers := [⟨[], false⟩] }

end Introspection

end Lineage
