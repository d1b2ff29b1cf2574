import Lineage.Proofs.Loading
import Lineage.Proofs.Paths
import Lineage.Proofs.Tables

/-!
# ConfigFile — the file that applies is the one that is read and reported

Which file applies is said by `Applies`, apart from the search: a file that is named outright, or by a variable, is it or none
is; else it is the file of the usual name in the nearest folder upwards that holds one, and a folder of that name holds none.

Whatever its sources say, a call loads the settings of that file and of no other, laid under the environment and the flags,
and reports its path: what the file and the environment say about the path has no influence, not even on whether the call
succeeds (`Settings.ofSource`).
-/

set_option autoImplicit false

namespace Lineage

namespace FileTree

/-- The file at a path, with its octets, if there is one. -/
def opened (t : FileTree) (p : Path) : Option (Path × List Nat) := (t.read? p).map (p, ·)

end FileTree

namespace Discovery

variable {t : FileTree} {env : Environment}

/-! ## Which file applies -/

/-- Nothing is named: no text is given, or the empty one. -/
def Unnamed (s : Option String) : Prop := s = none ∨ s = some ""

/-- The file that applies, with its octets, or that none does. -/
inductive Applies (t : FileTree) (env : Environment) : Option String → Option Path → Option (Path × List Nat) → Prop
  | outright {s : String} {start : Option Path} (hs : s ≠ "") : Applies t env (some s) start (t.opened (Path.ofText t.root s))
  | byVariable {given : Option String} {s : String} {start : Option Path} (hgiven : Unnamed given)
      (hvariable : Fields.get? env variableName = some s) (hs : s ≠ "") :
      Applies t env given start (t.opened (Path.ofText t.root s))
  | nearest {given : Option String} {start : Option Path} {l d : List String} {octets : List Nat} (hgiven : Unnamed given)
      (hvariable : Unnamed (Fields.get? env variableName)) (hstart : t.resolve (start.getD ⟨.here, []⟩) = some l)
      (habove : d <+: l) (hheld : t.held (d ++ [fileName]) = some octets)
      (hnearest : ∀ d', d' <+: l → d.length < d'.length → t.held (d' ++ [fileName]) = none) :
      Applies t env given start (some (⟨.root, d ++ [fileName]⟩, octets))
  | nowhere {given : Option String} {start : Option Path} (hgiven : Unnamed given)
      (hvariable : Unnamed (Fields.get? env variableName))
      (hnone : ∀ l, t.resolve (start.getD ⟨.here, []⟩) = some l → ∀ d, d <+: l → t.held (d ++ [fileName]) = none) :
      Applies t env given start none

/-- At most one file applies. -/
theorem Applies.unique {given : Option String} {start : Option Path} {f g : Option (Path × List Nat)}
    (hf : Applies t env given start f) (hg : Applies t env given start g) : f = g := by
  have hnamed {s : String} (hs : s ≠ "") : ¬ Unnamed (some s) := fun h => by
    rcases h with h | h
    · cases h
    · exact hs (Option.some.inj h)
  cases hf with
  | outright hs =>
    cases hg with
    | outright => rfl
    | byVariable hgiven | nearest hgiven | nowhere hgiven => exact absurd hgiven (hnamed hs)
  | byVariable hgiven hvariable hs =>
    cases hg with
    | outright hs' => exact absurd hgiven (hnamed hs')
    | byVariable _ hvariable' => rw [Option.some.inj (hvariable.symm.trans hvariable')]
    | nearest _ hunset | nowhere _ hunset => exact absurd (hvariable ▸ hunset) (hnamed hs)
  | @nearest _ _ l d octets hgiven hunset hstart habove hheld hnearest =>
    cases hg with
    | outright hs => exact absurd hgiven (hnamed hs)
    | byVariable _ hvariable hs => exact absurd (hvariable ▸ hunset) (hnamed hs)
    | @nearest _ _ l' d' octets' _ _ hstart' habove' hheld' hnearest' =>
      obtain rfl : l = l' := Option.some.inj (hstart.symm.trans hstart')
      -- neither of the two places lies further in than the other one
      have hlength : d.length = d'.length := by
        rcases Nat.lt_trichotomy d.length d'.length with hlt | heq | hlt
        · cases (hnearest d' habove' hlt).symm.trans hheld'
        · exact heq
        · cases (hnearest' d habove hlt).symm.trans hheld
      obtain rfl : d = d' := List.prefix_of_prefix_length_le habove habove' hlength.le |>.eq_of_length hlength
      rw [Option.some.inj (hheld.symm.trans hheld')]
    | nowhere _ _ hnone => cases (hnone l hstart d habove).symm.trans hheld
  | nowhere hgiven hunset hnone =>
    cases hg with
    | outright hs => exact absurd hgiven (hnamed hs)
    | byVariable _ hvariable hs => exact absurd (hvariable ▸ hunset) (hnamed hs)
    | @nearest _ _ l d _ _ _ hstart habove hheld => cases (hnone l hstart d habove).symm.trans hheld
    | nowhere => rfl

theorem plainName_fileName : Path.PlainName fileName ∧ fileName ≠ ".." := ⟨⟨by decide, by decide, by decide⟩, by decide⟩

/-- The places where the file is looked for are plain and without steps up. -/
theorem plain_candidate {l d : List String} (hl : ∀ n ∈ l, Path.PlainName n ∧ n ≠ "..") (h : d <+: l) :
    ∀ n ∈ d ++ [fileName], Path.PlainName n ∧ n ≠ ".." := by
  intro n hn
  rcases List.mem_append.1 hn with hn | hn
  · exact hl n (h.subset hn)
  · exact List.mem_singleton.1 hn ▸ plainName_fileName

/-- What is looked for at a place is there or not as the tree holds it. -/
theorem read?_candidate {l d : List String} (hl : ∀ n ∈ l, Path.PlainName n ∧ n ≠ "..") (h : d <+: l) :
    t.read? ⟨.root, d ++ [fileName]⟩ = t.held (d ++ [fileName]) :=
  FileTree.read?_root fun hup => (plain_candidate hl h ".." hup).2 rfl

theorem plain_start (start : Option Path) (hstart : ∀ p ∈ start, p.Plain) : (start.getD ⟨.here, []⟩).Plain := by
  cases start with
  | none => exact fun n hn => absurd hn List.not_mem_nil
  | some p => exact hstart p rfl

/-- A file that applies is there, and its path is kept by its text. -/
theorem Applies.plain (ht : t.Settled) {given : Option String} {start : Option Path} (hstart : ∀ p ∈ start, p.Plain)
    {source : Option (Path × List Nat)} (h : Applies t env given start source) {p : Path} {octets : List Nat}
    (hsource : source = some (p, octets)) : t.read? p = some octets ∧ p.Plain := by
  have hopened {q : Path} (hq : q.Plain) (h : t.opened q = some (p, octets)) : t.read? p = some octets ∧ p.Plain := by
    obtain ⟨os, hos, heq⟩ := Option.map_eq_some_iff.1 h
    cases heq
    exact ⟨hos, hq⟩
  cases h with
  | outright | byVariable => exact hopened (Path.plain_ofText _ _) hsource
  | nearest _ _ hl habove hheld =>
    cases hsource
    have hplain := FileTree.plain_resolve ht (plain_start start hstart) hl
    exact ⟨(read?_candidate hplain habove).trans hheld, fun n hn => (plain_candidate hplain habove n hn).1⟩
  | nowhere => cases hsource

/-! ## The search -/

theorem existing_eq (t : FileTree) (p : Path) : existing t p = (t.opened p).map Prod.fst := by
  unfold existing FileTree.isFile FileTree.opened
  cases t.read? p <;> rfl

/-- Without a tilde in its text a path is what it says. -/
theorem expand_of_plain {s : String} (hs : '~' ∉ s.toList) :
    expand t env (Path.ofText t.root s) = .ok (Path.ofText t.root s) := by
  have hnames (n : String) (hn : n ∈ (Path.ofText t.root s).names) : '~' ∉ n.toList :=
    fun hc => hs (Path.mem_of_mem_names hn hc)
  unfold expand
  split
  · next n ns _ heq =>
    have hn := hnames n (heq ▸ List.mem_cons_self)
    have hhome : n ≠ "~" := fun h => hn (h ▸ by decide)
    have hstem : n.startsWith "~" = false :=
      Bool.eq_false_iff.2 fun h => hn ((String.startsWith_string_iff.1 h).subset (by decide))
    rw [if_neg hhome, hstem]
    rfl
  · rfl

/-- The search upwards ends at the nearest file of the usual name. -/
theorem exists_nearest (ht : t.Settled) {given : Option String} (hgiven : Unnamed given) {start : Option Path}
    (hstart : ∀ p ∈ start, p.Plain) (hunset : Unnamed (Fields.get? env variableName)) :
    ∃ source, Applies t env given start source ∧ find.nearest t start = source.map Prod.fst := by
  unfold find.nearest
  cases hl : t.resolve (start.getD ⟨.here, []⟩) with
  | none => exact ⟨none, .nowhere hgiven hunset fun l hl' => (nomatch hl.symm.trans hl'), rfl⟩
  | some l =>
    have hplain := FileTree.plain_resolve ht (plain_start start hstart) hl
    have hisFile {d : List String} (hd : d <+: l) :
        t.isFile ⟨.root, d ++ [fileName]⟩ = (t.held (d ++ [fileName])).isSome := congrArg _ (read?_candidate hplain hd)
    have hfind : (candidates l).find? t.isFile = ((FileTree.upwards l).find? fun d => t.isFile ⟨.root, d ++ [fileName]⟩).map
        fun d => ⟨.root, d ++ [fileName]⟩ := List.find?_map
    dsimp only
    rw [hfind]
    cases hd : (FileTree.upwards l).find? fun d => t.isFile ⟨.root, d ++ [fileName]⟩ with
    | none =>
      refine ⟨none, .nowhere hgiven hunset fun l' hl' d hd' => ?_, rfl⟩
      obtain rfl := Option.some.inj (hl.symm.trans hl')
      have hnot := List.find?_eq_none.1 hd d (FileTree.mem_upwards.2 hd')
      rwa [hisFile hd', Option.not_isSome_iff_eq_none] at hnot
    | some d =>
      obtain ⟨habove, hfile, hfurther⟩ := FileTree.find?_upwards hd
      rw [hisFile habove] at hfile
      obtain ⟨octets, hheld⟩ := Option.isSome_iff_exists.1 hfile
      refine ⟨_, .nearest hgiven hunset hl habove hheld fun d' hd' hlt => ?_, rfl⟩
      have hnot := hfurther d' hd' hlt
      rwa [hisFile hd', Option.isSome_eq_false_iff, Option.isNone_iff_eq_none] at hnot

/-- The search finds the file that applies. -/
theorem exists_applies (ht : t.Settled) (given : Option String) {start : Option Path} (hstart : ∀ p ∈ start, p.Plain)
    (htilde : ∀ s, Fields.get? env variableName = some s → '~' ∉ s.toList) :
    ∃ source, Applies t env given start source ∧ choose t env given start = .ok (source.map Prod.fst) := by
  have hfind (hgiven : Unnamed given) :
      ∃ source, Applies t env given start source ∧ find t env start = .ok (source.map Prod.fst) := by
    have hunnamed (hunset : Unnamed (Fields.get? env variableName)) :
        ∃ source, Applies t env given start source ∧
          (.ok (find.nearest t start) : Except Failure (Option Path)) = .ok (source.map Prod.fst) := by
      obtain ⟨source, hsource, hnearest⟩ := exists_nearest ht hgiven hstart hunset
      exact ⟨source, hsource, congrArg _ hnearest⟩
    unfold find
    split
    · next s hs =>
      split_ifs with hempty
      · exact hunnamed (.inr (hs.trans (congrArg some hempty)))
      · refine ⟨_, .byVariable hgiven hs hempty, ?_⟩
        rw [expand_of_plain (htilde s hs)]
        exact congrArg Except.ok (existing_eq t _)
    · next hs => exact hunnamed (.inl hs)
  unfold choose
  split
  · next s =>
    split_ifs with hempty
    · exact hfind (.inr (congrArg some hempty))
    · exact ⟨_, .outright hempty, congrArg Except.ok (existing_eq t _)⟩
  · exact hfind (.inl rfl)

end Discovery

namespace Document

/-! ## Documents without a key -/

/-- A document without what it says under a key. -/
def without (key : String) : Document → Document
  | .table es => .table (Fields.erase es key)
  | d => d

theorem overlayAll_erase (ls hs : List (String × Document)) (k : String) :
    Fields.erase (overlayAll ls hs) k = overlayAll (Fields.erase ls k) (Fields.erase hs k) := by
  induction hs generalizing ls with
  | nil => rfl
  | cons e r ih =>
    obtain ⟨j, d⟩ := e
    rw [overlayAll, ih]
    rw [Fields.erase_set]
    by_cases hj : j = k
    · have hdrop : Fields.erase ((j, d) :: r) k = Fields.erase r k := List.filter_cons_of_neg (by simp [hj])
      rw [if_pos hj, hdrop]
    · have hkeep : Fields.erase ((j, d) :: r) k = (j, d) :: Fields.erase r k := List.filter_cons_of_pos (by simp [hj])
      rw [if_neg hj, hkeep, overlayAll, Fields.get?_erase_of_ne ls hj]

/-- What is said under a key has no influence on the rest of documents that are laid over each other. -/
theorem without_overlay (low high : Document) (k : String) :
    (low.overlay high).without k = (low.without k).overlay (high.without k) := by
  cases high with
  | table hs =>
    cases low with
    | table ls => exact congrArg table (overlayAll_erase ls hs k)
    | _ => rfl
  | _ => cases low <;> rfl

theorem entries_without (d : Document) (k : String) : (d.without k).entries = Fields.erase d.entries k := by
  cases d <;> rfl

theorem get?_overlayAll_of_not_mem {hs : List (String × Document)} {k : String} (h : k ∉ hs.map Prod.fst)
    (ls : List (String × Document)) : Fields.get? (overlayAll ls hs) k = Fields.get? ls k := by
  induction hs generalizing ls with
  | nil => rfl
  | cons e r ih =>
    obtain ⟨j, d⟩ := e
    obtain ⟨hj, hr⟩ := not_or.1 (mt List.mem_cons.2 h)
    rw [overlayAll, ih hr, Fields.get?_set_of_ne _ _ hj]

/-- What is no table and is laid on top under a key is seen there. -/
theorem get?_overlayAll_cons {d : Document} (hd : ∀ es, d ≠ table es) {hs : List (String × Document)} {k : String}
    (h : k ∉ hs.map Prod.fst) (ls : List (String × Document)) :
    Fields.get? (overlayAll ls ((k, d) :: hs)) k = some d := by
  rw [overlayAll, get?_overlayAll_of_not_mem h, Fields.get?_set_self]
  cases Fields.get? ls k with
  | none => rfl
  | some l => exact congrArg some (overlay_of_not_table hd l)

theorem get?_overlay_of_not_table {d : Document} (hd : ∀ es, d ≠ table es) {hs : List (String × Document)}
    (hn : (hs.map Prod.fst).Nodup) {k : String} (h : Fields.get? hs k = some d) (low : Document) :
    Fields.get? (low.overlay (table hs)).entries k = some d := by
  cases low with
  | table ls =>
    refine (get?_overlayAll hn ls k).trans ?_
    rw [h]
    cases Fields.get? ls k with
    | none => rfl
    | some l => exact congrArg some (overlay_of_not_table hd l)
  | _ => exact h

end Document

namespace Layer

/-- The settings in a configuration file that is at hand; none when there is no such file. -/
def ofSource (root : String) : Option (Path × List Nat) → Except Failure Document
  | none => .ok (.table [])
  | some (p, octets) => match FileTree.textOf octets with
    | .error f => .error (.misuse .decoding f.text)
    | .ok s => match Document.ofToml s with
      | .ok d => .ok d
      | .error reason => .error (.invalidDocument (p.text root) reason)

/-- Only the file that applies is read. -/
theorem ofFile_eq {t : FileTree} {source : Option (Path × List Nat)}
    (h : ∀ p octets, source = some (p, octets) → t.read? p = some octets) :
    ofFile t (source.map Prod.fst) = ofSource t.root source := by
  cases source with
  | none => rfl
  | some f =>
    have hread := h f.1 f.2 rfl
    simp only [ofFile, Option.map_some, Option.bind_some, hread]
    rfl

end Layer

namespace Settings

/-! ## The path among the settings -/

/-- The settings with a path in place of theirs. -/
def withPath (path : Option String) (s : Settings) : Settings := { s with configPath := path }

variable {root : String} {es : List (String × Document)} {d : Document} {path : Option String}

/-- What is said about the path is what comes of it, and has no influence on the rest. -/
theorem known_of_path (h : Fields.get? es "config_path" = some d)
    (hd : Validation.nullable (pathText root) d = .ok path) :
    known root es = (known root (Fields.erase es "config_path")).map (withPath path) := by
  have hhere : Validation.optional es "config_path" (Validation.nullable (pathText root)) none = .ok path :=
    Validation.optional_of_some h hd
  have hgone : Fields.get? (Fields.erase es "config_path") "config_path" = none :=
    Fields.get?_eq_none_iff.2 fun hmem => by
      obtain ⟨e, he, hkey⟩ := List.mem_map.1 hmem
      exact of_decide_eq_true (List.mem_filter.1 he).2 hkey
  have hnone : Validation.optional (Fields.erase es "config_path") "config_path" (Validation.nullable (pathText root)) none =
      .ok none := Validation.optional_of_none hgone
  have hother {α : Type} {key : String} (hkey : key ≠ "config_path") (check : Document → Checked α) (absent : α) :
      Validation.optional es key check absent = Validation.optional (Fields.erase es "config_path") key check absent := by
    rw [Validation.optional, Validation.optional, Fields.get?_erase_of_ne es hkey]
  unfold known
  dsimp only
  rw [hhere, hnone, hother (by decide), hother (by decide), hother (by decide), hother (by decide), hother (by decide)]
  generalize Validation.optional (Fields.erase es "config_path") "json_output" Validation.bool false = a
  generalize Validation.optional (Fields.erase es "config_path") "verbose" Validation.bool false = b
  generalize Validation.optional (Fields.erase es "config_path") "log_json" Validation.bool false = c
  generalize Validation.optional (Fields.erase es "config_path") "types" TypeSection.ofDocument .standard = e
  generalize Validation.optional (Fields.erase es "config_path") "plugins" PluginSection.ofDocument .standard = f
  cases a <;> cases b <;> cases c <;> cases e <;> cases f <;> rfl

theorem extras_erase (es : List (String × Document)) : extras (Fields.erase es "config_path") = extras es := by
  unfold extras Fields.erase
  rw [List.filter_filter]
  congr 1
  refine List.filter_congr fun e _ => ?_
  by_cases he : e.1 = "config_path"
  · rw [he]
    decide
  · simp [he]

theorem ofEntries_of_path (h : Fields.get? es "config_path" = some d)
    (hd : Validation.nullable (pathText root) d = .ok path) :
    ofEntries root es = (ofEntries root (Fields.erase es "config_path")).map (withPath path) := by
  unfold ofEntries
  rw [extras_erase, known_of_path h hd]
  cases extras es with
  | nil => rfl
  | cons => cases known root (Fields.erase es "config_path") <;> rfl

/-- The settings that a file, an environment and flags make: the path is that of the file, and nothing that is said about
it elsewhere counts. -/
def ofSource (root : String) (env : Environment) (flags : List (String × Document)) (source : Option (Path × List Nat)) :
    Except Failure Settings := do
  let file ← Layer.ofSource root source
  let environment ← Layer.ofEnvironment env
  let rest := ofLayers root (file.without "config_path") (environment.without "config_path") (.table flags)
  Checked.toExcept (rest.map (withPath (source.map fun f => f.1.text root)))

/-- The path on top of the layers is the one that comes of them. -/
theorem ofLayers_origin {t : FileTree} {p : Option Path} (hp : ∀ q ∈ p, q.Plain) {env : Environment} {environment : Document}
    (henv : Layer.ofEnvironment env = .ok environment) (file : Document) {flags : List (String × Document)}
    (hflags : "config_path" ∉ flags.map Prod.fst) :
    ofLayers t.root file environment (.table (origin t p :: flags)) =
      (ofLayers t.root (file.without "config_path") (environment.without "config_path") (.table flags)).map
        (withPath (p.map (·.text t.root))) := by
  have hflat (es : List (String × Document)) : (origin t p).2 ≠ .table es := by
    cases p <;> exact fun h => nomatch h
  have hread : Validation.nullable (pathText t.root) (origin t p).2 = .ok (p.map (·.text t.root)) := by
    cases p with
    | none => rfl
    | some q => exact congrArg (fun s => Except.ok (some s)) (Path.text_ofText_text (hp q rfl) t.root)
  have hseen : Fields.get? (file.overlay (environment.overlay (.table (origin t p :: flags)))).entries "config_path" =
      some (origin t p).2 := by
    have hnames := (Layer.distinct_ofEnvironment henv).names
    obtain ⟨ys, -, rfl⟩ := Layer.ofEnvironment_eq_ok henv
    exact Document.get?_overlay_of_not_table hflat (Document.nodup_keys_overlayAll hnames _)
      (Document.get?_overlayAll_cons hflat hflags _) file
  have hrest : (Document.table (origin t p :: flags)).without "config_path" = .table flags := by
    have hkeep : flags.filter (·.1 ≠ "config_path") = flags :=
      List.filter_eq_self.2 fun e he => decide_eq_true fun hkey => hflags (hkey ▸ List.mem_map_of_mem he)
    exact congrArg Document.table hkeep
  rw [ofLayers, ofEntries_of_path hseen hread, ← Document.entries_without, Document.without_overlay, Document.without_overlay,
    hrest]
  rfl

/-- What a call loads, whatever is in the slot. -/
theorem run_fromCli_of_applies {t : FileTree} {env : Environment} {given : Option String} {start : Option Path}
    {flags : List (String × Document)} (ht : t.Settled) (hstart : ∀ p ∈ start, p.Plain)
    (hflags : "config_path" ∉ flags.map Prod.fst) {source : Option (Path × List Nat)}
    (hsource : Discovery.Applies t env given start source)
    (hchosen : Discovery.choose t env given start = .ok (source.map Prod.fst)) (slot : Option Path) :
    (fromCli t env given start flags).run.run slot = (ofSource t.root env flags source, none) := by
  have hthere (p : Path) (octets : List Nat) (h : source = some (p, octets)) := hsource.plain ht hstart h
  have hfile : Layer.ofFile t (source.map Prod.fst) = Layer.ofSource t.root source :=
    Layer.ofFile_eq fun p octets h => (hthere p octets h).1
  have hplain : ∀ q ∈ source.map Prod.fst, q.Plain := by
    intro q hq
    obtain ⟨f, hf, rfl⟩ := Option.map_eq_some_iff.1 hq
    exact (hthere f.1 f.2 hf).2
  rw [run_fromCli, hchosen]
  dsimp only
  rw [run_construct, hfile, ofSource]
  cases Layer.ofSource t.root source with
  | error f => rfl
  | ok file =>
    cases henv : Layer.ofEnvironment env with
    | error f => rfl
    | ok environment =>
      have hlayers := ofLayers_origin (t := t) hplain henv file hflags
      rw [Option.map_map] at hlayers
      exact congrArg (fun r => (Checked.toExcept r, none)) hlayers

theorem configPath_of_withPath {r : Checked Settings} {s : Settings} (h : Checked.toExcept (r.map (withPath path)) = .ok s) :
    s.configPath = path := by
  cases r with
  | error cs => cases h
  | ok s =>
    cases h
    rfl

/-- The settings that are made report the path of the file. -/
theorem configPath_ofSource {root : String} {env : Environment} {flags : List (String × Document)}
    {source : Option (Path × List Nat)} {s : Settings} (h : ofSource root env flags source = .ok s) :
    s.configPath = source.map fun f => f.1.text root := by
  unfold ofSource at h
  cases hfile : Layer.ofSource root source with
  | error f =>
    rw [hfile] at h
    cases h
  | ok file =>
    cases henv : Layer.ofEnvironment env with
    | error f =>
      rw [hfile, henv] at h
      cases h
    | ok environment =>
      rw [hfile, henv] at h
      exact configPath_of_withPath h

/-- The octets of a configuration file that says of its path what no path can be. -/
def strayText : List Nat := Utf8.encode "config_path = false\nverbose = true"

/-- A tree with a folder of the usual name in the working folder, and files of that name in two folders above. -/
def nestedTree : FileTree where
  root := "/w"
  files := [(["a", "b", "offspring.toml", "notes"], []), (["offspring.toml"], Utf8.encode "json_output = true"),
    (["a", "offspring.toml"], strayText)]
  folders := []
  here := ["a", "b"]

/-- An environment that names yet another configuration file, as a setting. -/
def strayEnvironment : Environment := [("OFFSPRING_CONFIG_PATH", "other")]

end Settings

end Lineage
