import Lineage.CommandLine
import Lineage.Proofs.Precedence.Variables

/-!
# Loading — settings from all their sources, call after call

A call that loads settings puts the configuration file that applies into a slot, constructs the settings, and empties
the slot whatever came of it. **After any calls the slot is empty** (`slotAfter_eq`), so that no call remembers an
earlier one and settings that are constructed without such a call are made from no file.

**Each leaf of what is loaded is given by the flags, or else by the environment, or else by the file, or has its default**
(`each_leaf_follows_its_first_source`), whatever the other leaves of its section are given by. An option of the command line
that is not given says nothing, and so takes nothing back.
-/

set_option autoImplicit false

namespace Lineage

namespace Settings

/-! ## The slot -/

variable {α β : Type} {t : FileTree} {env : Environment} {flags : List (String × Document)} {slot : Option Path}

theorem run_lift (r : Except Failure α) (slot : Option Path) : (liftM r : Loading α).run.run slot = (r, slot) := by
  cases r <;> rfl

theorem run_bind (a : Loading α) (f : α → Loading β) (slot : Option Path) :
    (a >>= f).run.run slot = match a.run.run slot with
      | (.ok x, slot₁) => (f x).run.run slot₁
      | (.error e, slot₁) => (.error e, slot₁) := by
  show (ExceptT.bindCont f (a.run.run slot).1) (a.run.run slot).2 = _
  cases a.run.run slot with
  | mk r slot₁ => cases r <;> rfl

/-- What is put into the slot at last stays there, and the result is that of what came before. -/
theorem run_finally (a : Loading α) (last slot : Option Path) :
    (tryFinally a (set last : Loading PUnit)).run.run slot = ((a.run.run slot).1, last) := by
  -- only what `a` does from this slot matters, so it may be taken for a constant
  have hconst (r : Except Failure α × Option Path) :
      (tryFinally (fun _ => r : Loading α) (set last : Loading PUnit)).run.run slot = (r.1, last) := by
    obtain ⟨_ | _, _⟩ := r <;> rfl
  exact hconst (a.run.run slot)

/-- A construction reads the slot and leaves it as it is. -/
theorem run_construct (t : FileTree) (env : Environment) (flags : List (String × Document)) (slot : Option Path) :
    (construct t env flags).run.run slot =
      (do
        let file ← Layer.ofFile t slot
        let environment ← Layer.ofEnvironment env
        (ofLayers t.root file environment (.table flags)).toExcept, slot) := by
  have hget : (getThe (Option Path) : Loading (Option Path)).run.run slot = (.ok slot, slot) := rfl
  simp only [construct, run_bind, hget, run_lift]
  cases Layer.ofFile t slot with
  | error f => rfl
  | ok file => cases Layer.ofEnvironment env <;> rfl

/-- A call finds its file before it touches the slot, and empties the slot if it came to use it. -/
theorem run_fromCli (t : FileTree) (env : Environment) (given : Option String) (start : Option Path)
    (flags : List (String × Document)) (slot : Option Path) :
    (fromCli t env given start flags).run.run slot = match Discovery.choose t env given start with
      | .ok path => (((construct t env (origin t path :: flags)).run.run path).1, none)
      | .error f => (.error f, slot) := by
  rw [fromCli, run_bind, run_lift]
  cases Discovery.choose t env given start with
  | error f => rfl
  | ok path =>
    have hset : (set path : Loading PUnit).run.run slot = (.ok ⟨⟩, path) := rfl
    simp only [run_bind, hset, run_finally]

/-- A call that loads settings, with the files and the variables that it finds. -/
structure Call where
  tree : FileTree
  environment : Environment
  given : Option String
  start : Option Path
  flags : List (String × Document)

/-- The slot after calls, each of which may fail. -/
def slotAfter (calls : List Call) : Option Path :=
  calls.foldl (fun slot c => ((fromCli c.tree c.environment c.given c.start c.flags).run.run slot).2) none

/-- **After any calls the slot is empty.** -/
theorem slotAfter_eq (calls : List Call) : slotAfter calls = none := by
  unfold slotAfter
  induction calls with
  | nil => rfl
  | cons c r ih =>
    have hempty : ((fromCli c.tree c.environment c.given c.start c.flags).run.run none).2 = none := by
      rw [run_fromCli]
      cases Discovery.choose c.tree c.environment c.given c.start <;> rfl
    rw [List.foldl_cons, hempty]
    exact ih

/-! ## The sources of one call -/

/-- Flags as they are passed beside a configuration file: valid, each name once, and silent about the file. -/
structure Flags (flags : List (String × Document)) : Prop where
  valid : (Document.table flags).Valid
  distinct : (Document.table flags).Distinct
  fileless : "config_path" ∉ flags.map Prod.fst

end Settings

namespace Document

/-- A table that says nothing is valid. -/
theorem valid_empty : (table []).Valid where
  table := ⟨[], rfl⟩
  known := fun k hk => absurd hk List.not_mem_nil
  groups := fun g _ x hx => nomatch hx
  leaves := by
    intro l x hx
    cases l <;> cases hx

end Document

namespace Settings

/-- What may be said about the configuration file: a path, or that there is none. -/
def Places (x : Option Document) : Prop := ∀ d, x = some d → d = .null ∨ ∃ p, d = .text p

/-- What is said about the configuration file on top counts. -/
theorem Places.overlay {low high : Document} (hlow : low.Valid) (hhigh : high.Valid) (hd : high.Distinct)
    (hl : high.get? "config_path" = none → Places (low.get? "config_path"))
    (hh : Places (high.get? "config_path")) : Places ((low.overlay high).get? "config_path") := by
  rw [hlow.get?_overlay hhigh hd]
  cases hx : high.get? "config_path" with
  | none => exact hl hx
  | some x =>
    have hflat : ∀ es, x ≠ .table es := by
      rintro es rfl
      rcases hh _ hx with heq | ⟨p, heq⟩ <;> cases heq
    intro d hd
    have hsame : ((low.get? "config_path").map fun l => l.overlay x).getD x = x := by
      cases low.get? "config_path" with
      | none => rfl
      | some l => exact Document.overlay_of_not_table hflat l
    rw [← Option.some.inj hd, hsame]
    exact hh x hx

variable {file environment flags : Document}

/-- Valid layers make settings, and each leaf of them is given by the first layer that says something about it. -/
theorem ofLayers_of_valid (root : String) (hf : file.Valid) (he : environment.Valid) (hde : environment.Distinct)
    (hg : flags.Valid) (hdg : flags.Distinct)
    (hpath : Places ((file.overlay (environment.overlay flags)).get? "config_path")) :
    ∃ s, ofLayers root file environment flags = .ok s ∧
      ∀ l : Leaf, l.Follows ([flags, environment, file].findSome? l.given) (l.of s) := by
  have hupper : (environment.overlay flags).Valid := he.overlay hg hdg
  have hdupper : (environment.overlay flags).Distinct := Document.Distinct.overlay he hg hde hdg
  obtain ⟨s, hs, hleaves⟩ := ofEntries_of_valid root (hf.overlay hupper hdupper) hpath
  refine ⟨s, hs, ?_⟩
  intro l
  have hl := hleaves l
  rw [hf.given_overlay hupper hdupper, he.given_overlay hg hdg] at hl
  have hfirst : [flags, environment, file].findSome? l.given =
      ((l.given flags).or (l.given environment)).or (l.given file) := by
    simp only [List.findSome?_cons, List.findSome?_nil]
    cases l.given flags <;> cases l.given environment <;> cases l.given file <;> rfl
  rw [hfirst]
  exact hl

/-! ## Flags -/

namespace Flags

variable {es : List (String × Document)}

/-- What is said about the configuration file beside flags says nothing about the leaves. -/
theorem given_origin (t : FileTree) (path : Option Path) (es : List (String × Document)) (l : Leaf) :
    l.given (.table (origin t path :: es)) = l.given (.table es) := by
  cases l <;> rfl

theorem valid_origin (h : Flags es) (t : FileTree) (path : Option Path) : (Document.table (origin t path :: es)).Valid where
  table := ⟨_, rfl⟩
  known := by
    intro k hk
    rcases List.mem_cons.1 hk with rfl | hk
    · exact List.mem_of_getElem? (i := 0) rfl
    · exact h.valid.known k hk
  groups := by
    intro g hg x hx
    refine h.valid.groups g hg x ?_
    rcases List.mem_pair.1 hg with rfl | rfl <;> exact hx
  leaves := by
    intro l x hx
    rw [given_origin] at hx
    exact h.valid.leaves l x hx

theorem distinct_origin (h : Flags es) (t : FileTree) (path : Option Path) :
    (Document.table (origin t path :: es)).Distinct where
  names := List.nodup_cons.2 ⟨h.fileless, h.distinct.names⟩
  groups := by
    intro g hg x hx
    refine h.distinct.groups g hg x ?_
    rcases List.mem_pair.1 hg with rfl | rfl <;> exact hx

end Flags

/-- The environment names the configuration file by a text, if it does. -/
theorem places_ofEnvironment {env : Environment} (h : Layer.ofEnvironment env = .ok environment) :
    Places (environment.get? "config_path") := by
  obtain ⟨ys, hys, rfl⟩ := Layer.ofEnvironment_eq_ok h
  have hmem : ("config_path", Layer.Setting.plain) ∈ Layer.schema := List.mem_of_getElem? (i := 0) rfl
  obtain ⟨x, hx, hget⟩ := hys.get? Layer.nodup_schema hmem
  cases hx
  intro d hd
  obtain ⟨p, -, rfl⟩ := Option.map_eq_some_iff.1 (hget.symm.trans hd)
  exact .inr ⟨p, rfl⟩

/-- What a call with valid sources loads, whatever is in the slot: the slot is empty afterwards, and each leaf is given by
the flags, or else by the environment, or else by the file. -/
theorem fromCli_of_valid {t : FileTree} {env : Environment} {given : Option String} {start path : Option Path}
    {flags : List (String × Document)} (hpath : Discovery.choose t env given start = .ok path)
    (hfile : Layer.ofFile t path = .ok file) (henv : Layer.ofEnvironment env = .ok environment) (hf : file.Valid)
    (he : environment.Valid) (hflags : Flags flags) (slot : Option Path) :
    ∃ s, (fromCli t env given start flags).run.run slot = (.ok s, none) ∧
      ∀ l : Leaf, l.Follows ([.table flags, environment, file].findSome? l.given) (l.of s) := by
  let upper : Document := .table (origin t path :: flags)
  have hde : environment.Distinct := Layer.distinct_ofEnvironment henv
  have hg : upper.Valid := hflags.valid_origin t path
  have hdg : upper.Distinct := hflags.distinct_origin t path
  have horigin : Places (upper.get? "config_path") := by
    intro d hd
    obtain rfl : Document.ofText? (path.map (·.text t.root)) = d := Option.some.inj hd
    cases path with
    | none => exact .inl rfl
    | some p => exact .inr ⟨_, rfl⟩
  have hplaces : Places ((file.overlay (environment.overlay upper)).get? "config_path") := by
    have hsaid : (environment.overlay upper).get? "config_path" ≠ none := by
      rw [he.get?_overlay hg hdg]
      exact Option.some_ne_none _
    apply Places.overlay hf (he.overlay hg hdg) (Document.Distinct.overlay he hg hde hdg)
    · exact fun hnone => absurd hnone hsaid
    · exact Places.overlay he hg hdg (fun hnone => nomatch hnone) horigin
  obtain ⟨s, hs, hleaves⟩ := ofLayers_of_valid t.root hf he hde hg hdg hplaces
  refine ⟨s, ?_, ?_⟩
  · simp only [run_fromCli, hpath, run_construct, hfile, henv]
    show ((ofLayers t.root file environment upper).toExcept, none) = _
    rw [hs]
    rfl
  · intro l
    have hl := hleaves l
    simp only [List.findSome?_cons, upper, Flags.given_origin] at hl
    exact hl

/-- What is constructed from valid sources while the slot is empty: each leaf is given by the flags, or else by the
environment. -/
theorem construct_of_valid {env : Environment} {flags : List (String × Document)} (t : FileTree)
    (henv : Layer.ofEnvironment env = .ok environment) (he : environment.Valid) (hflags : Flags flags) :
    ∃ s, (construct t env flags).run.run none = (.ok s, none) ∧
      ∀ l : Leaf, l.Follows ([.table flags, environment].findSome? l.given) (l.of s) := by
  have hde : environment.Distinct := Layer.distinct_ofEnvironment henv
  have hnone : (Document.table flags).get? "config_path" = none := Fields.get?_eq_none_iff.2 hflags.fileless
  have hsilent : Places ((Document.table flags).get? "config_path") := by
    intro d hd
    rw [hnone] at hd
    cases hd
  have hplaces : Places (((Document.table []).overlay (environment.overlay (.table flags))).get? "config_path") := by
    apply Places.overlay Document.valid_empty (he.overlay hflags.valid hflags.distinct)
      (Document.Distinct.overlay he hflags.valid hde hflags.distinct)
    · exact fun _ d hd => nomatch hd
    · exact Places.overlay he hflags.valid hflags.distinct (fun _ => places_ofEnvironment henv) hsilent
  obtain ⟨s, hs, hleaves⟩ := ofLayers_of_valid t.root Document.valid_empty he hde hflags.valid hflags.distinct hplaces
  refine ⟨s, ?_, ?_⟩
  · simp only [run_construct, henv]
    show ((ofLayers t.root (.table []) environment (.table flags)).toExcept, none) = _
    rw [hs]
    rfl
  · intro l
    have hl := hleaves l
    have hempty : l.given (.table []) = none := by cases l <;> rfl
    have hsame : [.table flags, environment, .table []].findSome? l.given = [.table flags, environment].findSome? l.given := by
      simp only [List.findSome?_cons, List.findSome?_nil, hempty]
    rw [hsame] at hl
    exact hl

end Settings

/-! ## Options of the command line -/

namespace CommandLine

/-- The option that sets a leaf. -/
def switch? : Leaf → Option String
  | .jsonOutput => some "--json"
  | .verbose => some "--verbose"
  | .logJson => some "--log-json"
  | _ => none

/-- An option that is given sets its leaf to true, and one that is not given says nothing. -/
theorem given_flagsOf (g : Given) (l : Leaf) :
    l.given (.table (flagsOf g)) = if (switch? l).any g.has then some (.bool true) else none := by
  unfold flagsOf
  cases hjson : g.has "--json" <;> cases hverbose : g.has "--verbose" <;> cases hlog : g.has "--log-json" <;>
    cases l <;> simp [switch?, hjson, hverbose, hlog, Leaf.given, Leaf.group?, Leaf.name, Document.get?,
      Document.entries, Fields.get?]

theorem keys_flagsOf (g : Given) : ((flagsOf g).map Prod.fst).Sublist ["json_output", "verbose", "log_json"] := by
  unfold flagsOf
  cases hjson : g.has "--json" <;> cases hverbose : g.has "--verbose" <;> cases hlog : g.has "--log-json" <;>
    simp [hjson, hverbose, hlog]

/-- What a call asks for by options is always valid. -/
theorem flags_flagsOf (g : Given) : Settings.Flags (flagsOf g) := by
  have hkeys := keys_flagsOf g
  have hnone {k : String} (hk : k ∉ ["json_output", "verbose", "log_json"]) :
      (Document.table (flagsOf g)).get? k = none :=
    Fields.get?_eq_none_iff.2 fun hmem => hk (hkeys.subset hmem)
  have hgroups {n : String} {x : Document} (hn : n ∈ Settings.groups)
      (hx : (Document.table (flagsOf g)).get? n = some x) : False := by
    have hn : n ∉ ["json_output", "verbose", "log_json"] := by
      rcases List.mem_pair.1 hn with rfl | rfl <;> decide
    rw [hnone hn] at hx
    cases hx
  have hknown : ["json_output", "verbose", "log_json"] ⊆ Settings.names := by decide
  have hleaves (l : Leaf) (x : Document) (hx : l.given (.table (flagsOf g)) = some x) : ∃ v, l.check x = .ok v := by
    rw [given_flagsOf] at hx
    split at hx
    · next hhas =>
      cases hx
      cases l <;> first | exact ⟨true, rfl⟩ | cases hhas
    · cases hx
  exact {
    valid := ⟨⟨_, rfl⟩, fun k hk => hknown (hkeys.subset hk), fun n hn x hx => (hgroups hn hx).elim, hleaves⟩
    distinct := ⟨hkeys.nodup (by decide), fun n hn x hx => (hgroups hn hx).elim⟩
    fileless := fun hmem => absurd (hkeys.subset hmem) (by decide) }

end CommandLine

namespace Leaf

variable {l : Leaf}

/-- A leaf follows what is given in one way only. -/
theorem Follows.unique {x : Option Document} {u v : l.Value} (hu : l.Follows x u) (hv : l.Follows x v) : u = v := by
  cases x with
  | none => exact hu.trans hv.symm
  | some d => exact Except.ok.inj (hu.symm.trans hv)

/-- Beside lower layers, options decide about the leaves that they set and about no others. -/
theorem Follows.options {g : Given} {lower : List Document} {u v : l.Value}
    (hu : l.Follows ((.table (CommandLine.flagsOf g) :: lower).findSome? l.given) u)
    (hv : l.Follows ((.table [] :: lower).findSome? l.given) v) :
    if (CommandLine.switch? l).any g.has then l.check (.bool true) = .ok u else u = v := by
  have hempty : l.given (.table []) = none := by cases l <;> rfl
  rw [List.findSome?_cons, CommandLine.given_flagsOf] at hu
  rw [List.findSome?_cons, hempty] at hv
  split
  · next hhas =>
    rw [if_pos hhas] at hu
    exact hu
  · next hhas =>
    rw [if_neg hhas] at hu
    exact hu.unique hv

end Leaf

namespace Settings

/-- **Each leaf follows its first source.** Let a call find a configuration file, an environment and flags that are
valid by themselves. After any earlier calls:

* the call succeeds, and each leaf of what it loads is given by the flags, or else by the environment, or else by the
  file, or has its default;
* settings that are constructed without looking for a file take nothing from one;
* what the environment says about a leaf is the value of the variable of that leaf, and else what the variable of
  its section holds under its name;
* an option of the command line sets one leaf to true when it is given and changes nothing when it is not. -/
theorem each_leaf_follows_its_first_source (earlier : List Call) {t : FileTree} {env : Environment}
    {given : Option String} {start path : Option Path} {flags : List (String × Document)} {file environment : Document}
    (hpath : Discovery.choose t env given start = .ok path) (hfile : Layer.ofFile t path = .ok file)
    (henv : Layer.ofEnvironment env = .ok environment) (hf : file.Valid) (he : environment.Valid)
    (hflags : Flags flags) :
    (∃ s, (fromCli t env given start flags).run.run (slotAfter earlier) = (.ok s, none) ∧
      ∀ l : Leaf, l.Follows ([.table flags, environment, file].findSome? l.given) (l.of s)) ∧
    (∃ s, (construct t env flags).run.run (slotAfter earlier) = (.ok s, none) ∧
      ∀ l : Leaf, l.Follows ([.table flags, environment].findSome? l.given) (l.of s)) ∧
    (∀ l : Leaf, l.Plain env → match Fields.get? (Layer.loweredAll env) l.variableName with
      | some s => ∃ x, l.ofVariable s = .ok x ∧ l.given environment = some x
      | none => l.given environment = l.ofWhole env) ∧
    ∀ g : Given, ∃ x y,
      (fromCli t env given start (CommandLine.flagsOf g)).run.run (slotAfter earlier) = (.ok x, none) ∧
      (fromCli t env given start []).run.run (slotAfter earlier) = (.ok y, none) ∧
      x.jsonOutput = (g.has "--json" || y.jsonOutput) ∧ x.verbose = (g.has "--verbose" || y.verbose) ∧
      x.logJson = (g.has "--log-json" || y.logJson) ∧ x.types = y.types ∧ x.plugins = y.plugins := by
  rw [slotAfter_eq]
  refine ⟨fromCli_of_valid hpath hfile henv hf he hflags none, construct_of_valid t henv he hflags,
    fun l => Leaf.given_environment henv he l, ?_⟩
  intro g
  have hnothing : Flags [] := ⟨Document.valid_empty, ⟨List.nodup_nil, fun n hn x hx => nomatch hx⟩, List.not_mem_nil⟩
  obtain ⟨x, hx, hxl⟩ := fromCli_of_valid hpath hfile henv hf he (CommandLine.flags_flagsOf g) none
  obtain ⟨y, hy, hyl⟩ := fromCli_of_valid hpath hfile henv hf he hnothing none
  have hleaf (l : Leaf) := (hxl l).options (hyl l)
  have hswitch {has u v : Bool} (h : if has then Validation.bool (.bool true) = .ok u else u = v) : u = (has || v) := by
    cases has with
    | true => exact (Except.ok.inj h).symm
    | false => exact h
  refine ⟨x, y, hx, hy, hswitch (hleaf .jsonOutput), hswitch (hleaf .verbose), hswitch (hleaf .logJson), ?_, ?_⟩
  · have hdelimiter : x.types.delimiter = y.types.delimiter := hleaf .delimiter
    have hexcluded : x.types.excluded = y.types.excluded := hleaf .excluded
    exact congrArg₂ TypeSection.mk hdelimiter hexcluded
  · have hautoload : x.plugins.autoload = y.plugins.autoload := hleaf .autoload
    exact congrArg PluginSection.mk hautoload

/-- A folder with a configuration file that sets one switch and one field of the section for types. -/
def verboseTree : FileTree :=
  ⟨"", [([Discovery.fileName], Utf8.encode "verbose = true\n[types]\nexcluded_fields = []\n")], [], []⟩

/-- An environment that sets the other field of the section for types. -/
def semicolonEnvironment : Environment := [("OFFSPRING_TYPES__UNION_DELIMITER", ";")]

/-- Whether a reading gives just what the file of `verboseTree` says. -/
def isVerboseLayer : Except Failure Document → Bool
  | .ok (.table [("verbose", .bool true), ("types", .table [("excluded_fields", .list [])])]) => true
  | _ => false

theorem eq_of_isVerboseLayer {r : Except Failure Document} (h : isVerboseLayer r = true) :
    r = .ok (.table [("verbose", .bool true), ("types", .table [("excluded_fields", .list [])])]) := by
  unfold isVerboseLayer at h
  split at h
  · rfl
  · cases h

/-- Whether a reading gives just what `semicolonEnvironment` says. -/
def isSemicolonLayer : Except Failure Document → Bool
  | .ok (.table [("types", .table [("union_delimiter", .text ";")])]) => true
  | _ => false

theorem eq_of_isSemicolonLayer {r : Except Failure Document} (h : isSemicolonLayer r = true) :
    r = .ok (.table [("types", .table [("union_delimiter", .text ";")])]) := by
  unfold isSemicolonLayer at h
  split at h
  · rfl
  · cases h

/-- A call that fails, since the file that it finds cannot be read as text, leaves nothing behind: the next one loads the
switch and the excluded names of its file, the delimiter of its environment and the switch of its flags. -/
theorem sources_are_merged : ∃ s,
    (fromCli verboseTree semicolonEnvironment none none [("json_output", .bool true)]).run.run
      (slotAfter [⟨⟨"", [([Discovery.fileName], [255])], [], []⟩, [], none, none, []⟩]) = (.ok s, none) ∧
      s.jsonOutput = true ∧ s.verbose = true ∧ s.types.delimiter = ";" ∧ s.types.excluded = [] := by
  have hpath : Discovery.choose verboseTree semicolonEnvironment none none = .ok (some ⟨.root, [Discovery.fileName]⟩) :=
    Action.eq_ok_of_toOption (by decide +kernel)
  have hfile : Layer.ofFile verboseTree (some ⟨.root, [Discovery.fileName]⟩) = .ok _ :=
    eq_of_isVerboseLayer (by decide +kernel)
  have henv : Layer.ofEnvironment semicolonEnvironment = .ok _ := eq_of_isSemicolonLayer (by decide +kernel)
  have hvalid {es ts : List (String × Document)} (hknown : ∀ k ∈ es.map Prod.fst, k ∈ names)
      (htypes : Fields.get? es "types" = some (.table ts)) (hplugins : Fields.get? es "plugins" = none)
      (hleaves : ∀ (l : Leaf) x, l.given (.table es) = some x → ∃ v, l.check x = .ok v) : (Document.table es).Valid := by
    refine ⟨⟨es, rfl⟩, hknown, fun n hn x hx => ?_, hleaves⟩
    rcases List.mem_pair.1 hn with rfl | rfl
    · exact ⟨ts, Option.some.inj (hx.symm.trans htypes)⟩
    · cases hx.symm.trans hplugins
  have hf : (Document.table [("verbose", .bool true), ("types", .table [("excluded_fields", .list [])])]).Valid := by
    refine hvalid (by decide) rfl rfl fun l x hx => ?_
    cases l <;> cases hx <;> exact ⟨_, rfl⟩
  have he : (Document.table [("types", .table [("union_delimiter", .text ";")])]).Valid := by
    refine hvalid (by decide) rfl rfl fun l x hx => ?_
    cases l <;> cases hx
    exact ⟨_, rfl⟩
  have hflags : Flags [("json_output", .bool true)] := CommandLine.flags_flagsOf ⟨[("--json", none)], []⟩
  obtain ⟨⟨s, hs, hleaves⟩, -⟩ := each_leaf_follows_its_first_source
    [⟨⟨"", [([Discovery.fileName], [255])], [], []⟩, [], none, none, []⟩] hpath hfile henv hf he hflags
  have hjson := hleaves .jsonOutput
  have hverbose := hleaves .verbose
  have hdelimiter := hleaves .delimiter
  have hexcluded := hleaves .excluded
  exact ⟨s, hs, (Except.ok.inj hjson).symm, (Except.ok.inj hverbose).symm, (Except.ok.inj hdelimiter).symm,
    (Except.ok.inj hexcluded).symm⟩

end Settings

end Lineage
