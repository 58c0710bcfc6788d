import Mathlib
import ServiceStubs.Proofs.Run.CleanUp
import ServiceStubs.Proofs.Run.Destinations
import ServiceStubs.Proofs.Run.Reselection

/-!
# What a run writes

After cleaning up, a run makes directories and writes generated modules, and nothing else. A
generated module bears a name that counts as generated, while a source does not. So a run leaves the
sources that it has selected as they are, and a second run selects them again, whether the first one
comes to an end or not.

## Main statements

* `FileTree.HasFiles.wellFormed_without`: a tree stays well-formed without some files
* `Run.bears_outputPath`: generated modules go under names that count as generated
* `Run.run_extends`: a run lets the cleaned tree grow by generated modules
* `Run.sources_kept`: the selected modules are not written, and are selected again
-/

namespace ServiceStubs

namespace FileTree

variable {t : FileTree} {gone : List Location}

/-- A tree is well-formed without some of its files. -/
theorem HasFiles.wellFormed_without (h : t.HasFiles gone) (ht : t.WellFormed) :
    (t.without gone).WellFormed where
  nodup := ht.nodup.sublist (List.filter_sublist.map _)
  parent e he := by
    obtain ⟨habove, hname⟩ := ht.parent e (List.mem_filter.1 he).1
    exact ⟨(h.sameDirectories.2 _).1 habove, hname⟩
  current := (h.sameDirectories.2 _).1 ht.current

theorem read_of_file {path : String} {l : Location} {content : List UInt8}
    (hl : t.locate path = .ok l) (hcontent : t.entry? l = some (.file content)) :
    t.read path = .ok content := by
  rw [read, hl]
  simp only [bind, Except.bind, hcontent]

end FileTree

namespace Run

open ServiceStubs.FileTree (Bears Extends Grows)
open ServiceStubs.Path (place lastPart fileName)

variable {α β : Type} {o : Options} {tools : Toolbox} {root : String} {t t' : FileTree}
  {modules : List String} {m : String} {generated : List Generated} {g : Generated}
  {s s' : Session} {isNew : String → Prop}

theorem cleaned_wellFormed (o : Options) (root : String) (ht : t.WellFormed) :
    (cleaned o root t).WellFormed :=
  (hasFiles_filePlaces t _).wellFormed_without ht

/-! ### Where generated modules go -/

/-- A generated module goes under a name that counts as generated. -/
theorem bears_outputPath (hsuffix : '/' ∉ o.suffix.toList) (hm : IsModuleName (lastPart m))
    (l : Location) :
    Bears (IsGeneratedName o.suffix) (place l (outputPathOf o root t modules m)) := by
  have hfile : IsModuleName (fileName m) := by rwa [fileName_of_isModuleName hm]
  have hname : IsModuleName (outputName o.suffix m) := isModuleName_outputName hfile hsuffix
  have hgenerated : IsGeneratedName o.suffix (outputName o.suffix m) :=
    isGeneratedName_outputName hfile o.suffix
  by_cases hbeside : o.outputDirectory = ""
  · rw [outputPathOf_beside hbeside, place_join_name hname]
    exact ⟨_, _, rfl, hgenerated⟩
  · rw [outputPathOf_below hbeside, Path.place_normalize, place_join_name hname]
    exact ⟨_, _, rfl, hgenerated⟩

theorem mem_record {done : List Generated} {g' : Generated} (h : g' ∈ record g done) :
    g' = g ∨ g' ∈ done := by
  induction done with
  | nil => exact .inl (List.mem_singleton.1 h)
  | cons d done ih =>
    rw [record] at h
    split at h
    · exact (List.mem_cons.1 h).imp id (List.mem_cons_of_mem d)
    · rcases List.mem_cons.1 h with rfl | h
      · exact .inr List.mem_cons_self
      · exact (ih h).imp id (List.mem_cons_of_mem d)

/-- What is planned is generated from one of the modules. -/
theorem exists_of_mem_plan (h : plan o root t modules = .ok generated) (hg : g ∈ generated) :
    ∃ m ∈ modules, g.1 = outputPathOf o root t modules m := by
  rw [plan] at h
  generalize outputPathOf o root t modules = out at h ⊢
  refine fold_of_foldlM (P := fun before done => ∀ g ∈ done, ∃ m ∈ before, g.1 = out m) h (by simp)
    (fun before m done done' hdone hgenerate g hg => ?_) g hg
  have hbefore {g : Generated} (hg : g ∈ done) : ∃ m' ∈ before ++ [m], g.1 = out m' := by
    obtain ⟨m', hm', hout⟩ := hdone g hg
    exact ⟨m', List.mem_append_left _ hm', hout⟩
  rw [generate_eq] at hgenerate
  obtain ⟨text, -, hrecord⟩ := exists_of_bind hgenerate
  obtain rfl : recordAt (out m) done text = done' := Except.ok.inj hrecord
  cases text with
  | none => exact hbefore hg
  | some text =>
    rcases mem_record hg with rfl | hg
    · exact ⟨m, by simp, rfl⟩
    · exact hbefore hg

/-! ### What the parts of a run write -/

theorem evolves_change {R : FileTree → FileTree → Prop} {f : FileTree → Except FileError FileTree}
    (hrefl : ∀ t, R t t) (h : ∀ t t', f t = .ok t' → R t t') : Evolves R (change f) := by
  intro s
  rw [change, bind_of_ok (get_apply s)]
  cases hf : f s.tree with
  | ok t' => exact h s.tree t' hf
  | error cause => exact hrefl s.tree

/-- Formatting a text leaves the tree as it is. -/
theorem format_tree (tools : Toolbox) (text : String) (s : Session) :
    (format tools text s).2.tree = s.tree := by
  rw [format, bind_of_ok (x := start _) rfl]
  cases tools.formatter with
  | missing => rfl
  | stopped reason => rfl
  | finished result =>
    dsimp only
    rw [bind_of_ok (x := start _) rfl]
    cases result text <;> rfl

/-- Checking modules leaves the tree as it is. -/
theorem check_tree (tools : Toolbox) (written : List String) (s : Session) :
    (check tools written s).2.tree = s.tree := by
  rw [check]
  split
  · rfl
  · rw [bind_of_ok (log_apply ..), bind_of_ok (x := start _) rfl]
    cases tools.checker with
    | missing => rfl
    | stopped reason => rfl
    | finished result =>
      dsimp only
      cases (result (written.mergeSort fun a b => decide (a ≤ b))).error? <;> rfl

theorem extends_trans (isNew : String → Prop) (t u v : FileTree) (h : Extends isNew t u)
    (h' : Extends isNew u v) : Extends isNew t v := h.trans h'

/-- The text of a generated module as it is written. -/
def finalText (o : Options) (tools : Toolbox) (g : Generated) : Action String :=
  if o.skipFormat then pure g.2 else format tools g.2

/-- Writes a text where a generated module goes. -/
def put (g : Generated) (text : String) : Action String := do
  let directory := Path.directory g.1
  change fun t => t.makeDirectories (if directory == "" then "." else directory)
  change fun t => t.write g.1 (Text.utf8Bytes text)
  log .info ("Wrote " ++ g.1)
  return g.1

theorem writeOne_eq (o : Options) (tools : Toolbox) (g : Generated) :
    writeOne o tools g = finalText o tools g >>= put g := by
  rw [writeOne, finalText]
  split <;> rfl

theorem finalText_tree (o : Options) (tools : Toolbox) (g : Generated) (s : Session) :
    (finalText o tools g s).2.tree = s.tree := by
  rw [finalText]
  split
  · rfl
  · exact format_tree tools g.2 s

/-- Writing a module under a new name lets the tree grow, also if it fails half-way. -/
theorem evolves_writeOne (hnew : ∀ l, Bears isNew (place l g.1)) :
    Evolves (Extends isNew) (writeOne o tools g) := by
  have htrans := extends_trans isNew
  rw [writeOne_eq]
  refine .bind htrans (.of_tree .refl (finalText_tree o tools g)) fun text => ?_
  refine .bind htrans ?directory fun _ => .bind htrans ?file fun _ => ?_
  case directory => exact evolves_change .refl fun t t' h => FileTree.extends_makeDirectories h
  case file => exact evolves_change .refl fun t t' h => FileTree.extends_write (hnew t.current) h
  exact .bind htrans (.of_tree .refl fun _ => rfl) fun _ => .of_tree .refl fun _ => rfl

theorem evolves_writeAll (hnew : ∀ g ∈ generated, ∀ l, Bears isNew (place l g.1)) :
    Evolves (Extends isNew) (writeAll o tools generated) := by
  have htrans := extends_trans isNew
  rw [writeAll]
  induction generated with
  | nil => exact .of_tree .refl fun _ => rfl
  | cons g generated ih =>
    rw [List.forall_mem_cons] at hnew
    rw [List.mapM_cons]
    exact .bind htrans (evolves_writeOne hnew.1) fun _ => .bind htrans (ih hnew.2) fun _ =>
      .of_tree .refl fun _ => rfl

theorem writeOne_eq_ok {path : String} (h : writeOne o tools g s = (.ok path, s')) :
    path = g.1 := by
  rw [writeOne_eq] at h
  obtain ⟨text, s₁, -, h⟩ := exists_of_bind_ok h
  rw [put] at h
  obtain ⟨_, s₂, -, h⟩ := exists_of_bind_ok h
  obtain ⟨_, s₃, -, h⟩ := exists_of_bind_ok h
  obtain ⟨_, s₄, -, h⟩ := exists_of_bind_ok h
  cases h
  rfl

/-- What was written are the paths of the generated modules. -/
theorem writeAll_eq_ok {written : List String} (h : writeAll o tools generated s = (.ok written, s')) :
    written = generated.map (·.1) := by
  rw [writeAll] at h
  induction generated generalizing s written with
  | nil =>
    cases h
    rfl
  | cons g generated ih =>
    rw [List.mapM_cons] at h
    obtain ⟨path, s₁, hpath, h⟩ := exists_of_bind_ok h
    obtain ⟨paths, s₂, hpaths, h⟩ := exists_of_bind_ok h
    cases h
    rw [writeOne_eq_ok hpath, ih hpaths, List.map_cons]

/-! ### Runs -/

/-- What is left of a run when it is known what is generated. -/
def finish (o : Options) (tools : Toolbox) (generated : List Generated) : Action (List String) := do
  let written ← writeAll o tools generated
  if !written.isEmpty && !o.skipCheck then check tools written
  return written

/-- A run cleans up, and then fails with its plan or writes what is planned. -/
theorem exists_run_eq (o : Options) (tools : Toolbox) (root : String) (s : Session) :
    ∃ s₁, s₁.tree = cleaned o root s.tree ∧ run o tools root s =
      match plan o root (cleaned o root s.tree) (selected o root (cleaned o root s.tree)) with
      | .ok generated => finish o tools generated s₁
      | .error cause => (.error cause, s₁) := by
  obtain ⟨lines, hclean⟩ := cleanUp_apply o root s
  rw [run, bind_of_ok hclean, bind_of_ok (get_apply _), bind_of_ok (log_apply ..)]
  dsimp only
  cases plan o root (cleaned o root s.tree) (selected o root (cleaned o root s.tree)) with
  | ok generated => exact ⟨_, rfl, bind_of_ok rfl⟩
  | error cause => exact ⟨_, rfl, bind_of_error rfl⟩

theorem evolves_finish (hnew : ∀ g ∈ generated, ∀ l, Bears isNew (place l g.1)) :
    Evolves (Extends isNew) (finish o tools generated) := by
  have htrans := extends_trans isNew
  refine .bind htrans (evolves_writeAll hnew) fun written => ?_
  split
  · exact .bind htrans (.of_tree .refl (check_tree tools written)) fun _ => .of_tree .refl fun _ => rfl
  · exact .of_tree .refl fun _ => rfl

/-- The paths that a run gives are those of what is generated. -/
theorem finish_eq_ok {written : List String} (h : finish o tools generated s = (.ok written, s')) :
    written = generated.map (·.1) := by
  rw [finish] at h
  obtain ⟨paths, s₁, hpaths, h⟩ := exists_of_bind_ok h
  rw [← writeAll_eq_ok hpaths]
  by_cases hcheck : (!paths.isEmpty && !o.skipCheck) = true
  · rw [if_pos hcheck] at h
    obtain ⟨_, s₂, -, h⟩ := exists_of_bind_ok h
    cases h
    rfl
  · rw [if_neg hcheck] at h
    cases h
    rfl

theorem cleaned_of_nil (h : o.clean = []) (root : String) (t : FileTree) : cleaned o root t = t := by
  have hpaths : cleanUpPaths o root t = [] := by
    rw [cleanUpPaths, h]
    exact inOrder_of_sorted .nil .nil
  rw [cleaned, hpaths]
  exact FileTree.without_nil t

/-- A run that has nothing to clean up, if it is known which modules it selects. -/
theorem run_of_selected (tools : Toolbox) (hclean : o.clean = [])
    (h : selected o root s.tree = modules) :
    run o tools root s = (do
      let generated ← plan o root s.tree modules
      finish o tools generated : Action (List String))
        (s.note .info ("Found " ++ toString modules.length ++ " module(s) to scan.")) := by
  have hpaths : cleanUpPaths o root s.tree = [] := by
    rw [cleanUpPaths, hclean]
    exact inOrder_of_sorted .nil .nil
  have happly : cleanUp o root s = (.ok (), s) := by
    rw [cleanUp, bind_of_ok (get_apply s), hpaths]
    rfl
  rw [run, bind_of_ok happly, bind_of_ok (get_apply s), h, bind_of_ok (log_apply ..)]
  rfl

/-- **After cleaning up a tree only grows by generated modules,** whether the run fails or not. -/
theorem run_extends (o : Options) (tools : Toolbox) (root : String) (s : Session)
    (hsuffix : '/' ∉ o.suffix.toList) :
    Extends (IsGeneratedName o.suffix) (cleaned o root s.tree) (run o tools root s).2.tree := by
  obtain ⟨s₁, htree, hrun⟩ := exists_run_eq o tools root s
  rw [hrun]
  cases hplan : plan o root (cleaned o root s.tree) (selected o root (cleaned o root s.tree)) with
  | error cause =>
    dsimp only
    rw [htree]
    exact .refl _
  | ok generated =>
    rw [← htree] at hplan ⊢
    refine evolves_finish (fun g hg l => ?_) s₁
    obtain ⟨m, hm, hout⟩ := exists_of_mem_plan hplan hg
    rw [hout]
    exact bears_outputPath hsuffix (isSource_of_mem_selected hm).2.1 l

/-- A module that was not generated does not stand at a place with the name of one that was. -/
theorem not_bears_of_mem_selected (hm : m ∈ selected o root t) (l : Location) :
    ¬Bears (IsGeneratedName o.suffix) (place l m) := by
  obtain ⟨-, hname, hgenerated⟩ := isSource_of_mem_selected hm
  rintro ⟨d, c, hplace, hnew⟩
  rw [Path.place_eq_concat hname.isStep hname.ne_up, List.append_singleton_inj] at hplace
  obtain ⟨-, rfl⟩ := hplace
  rw [← fileName_of_isModuleName hname] at hnew
  exact absurd (isGenerated_of_isGeneratedName hnew) (by simp [hgenerated])

/-- **A run leaves the modules that it selects as they are, and they are selected again.** Let the
suffix hold no slash. Then what is planned, and so what is written, goes to other places than all
selected modules, which keep their content even if the run fails. And the tree that the run leaves
has the same modules to select, if all expressions are stable. -/
theorem sources_kept (o : Options) (tools : Toolbox) (root : String) (s : Session)
    (hsuffix : '/' ∉ o.suffix.toList) (ht : s.tree.WellFormed) :
    (∀ generated, plan o root (cleaned o root s.tree) (selected o root (cleaned o root s.tree)) =
        .ok generated →
      (∀ g ∈ generated, ∀ m ∈ selected o root (cleaned o root s.tree),
        place s.tree.current g.1 ≠ place s.tree.current m) ∧
      ∀ written s', run o tools root s = (.ok written, s') → written = generated.map (·.1)) ∧
    (∀ m ∈ selected o root (cleaned o root s.tree),
      (run o tools root s).2.tree.read m = (cleaned o root s.tree).read m) ∧
    ((∀ e ∈ o.paths ++ o.excludes,
        IsStable o.recursive (cleaned o root s.tree) (run o tools root s).2.tree (Path.join root e)) →
      selected o root (run o tools root s).2.tree = selected o root (cleaned o root s.tree)) := by
  have hcleaned := cleaned_wellFormed o root ht
  obtain ⟨hafter, hgrows⟩ := run_extends o tools root s hsuffix hcleaned
  refine ⟨fun generated hplan => ⟨fun g hg m hm heq => ?_, fun written s' hrun => ?_⟩,
    fun m hm => ?_, fun hstable => ?_⟩
  · obtain ⟨m', hm', hout⟩ := exists_of_mem_plan hplan hg
    refine not_bears_of_mem_selected hm s.tree.current ?_
    rw [← heq, hout]
    exact bears_outputPath hsuffix (isSource_of_mem_selected hm').2.1 _
  · obtain ⟨s₁, -, heq⟩ := exists_run_eq o tools root s
    rw [hplan, hrun] at heq
    exact finish_eq_ok heq.symm
  · obtain ⟨l, content, hl, hcontent⟩ := FileTree.isFile_iff.1 (isSource_of_mem_selected hm).1
    have hnew : ¬Bears _ l := FileTree.locate_eq hl ▸ not_bears_of_mem_selected hm _
    have hkept := (hgrows.file_back hnew).1 hcontent
    rw [FileTree.read_of_file hl hcontent, FileTree.read_of_file (hgrows.hasDirectories.locate hl) hkept]
  · exact selected_eq_of_grows hgrows hcleaned hafter
      (fun e he => hstable e (List.mem_append_left _ he))
      fun e he => hstable e (List.mem_append_right _ he)

/-- A directory with a module that declares a service. -/
def scannedTree : FileTree where
  entries := [(["m"], .directory), (["m", "a.py"], .file (serviceModule "A"))]
  current := []

/-- The modules in that directory at any depth, generated in a directory that is made inside it. -/
def scannedOptions : Options :=
  { paths := ["m"], outputDirectory := "m/gen", skipFormat := true, skipCheck := true,
    recursive := true }

theorem sources_kept_scanned :
    '/' ∉ scannedOptions.suffix.toList ∧ scannedTree.WellFormed ∧
    (∀ e ∈ scannedOptions.paths ++ scannedOptions.excludes,
      IsStable scannedOptions.recursive (cleaned scannedOptions "/" scannedTree)
        (run scannedOptions .none "/" ⟨scannedTree, [], []⟩).2.tree (Path.join "/" e)) ∧
    (run scannedOptions .none "/" ⟨scannedTree, [], []⟩).2.tree.isFile "/m/gen/a_grpc.py" = true ∧
    selected scannedOptions "/" (run scannedOptions .none "/" ⟨scannedTree, [], []⟩).2.tree =
      ["/m/a.py"] := by
  have hselected : selected scannedOptions "/" scannedTree = ["/m/a.py"] :=
    selected_of_sorted (by decide +kernel) (by decide) (by decide)
  have hcleaned : cleaned scannedOptions "/" scannedTree = scannedTree := cleaned_of_nil rfl _ _
  have hrun := run_of_selected .none (s := ⟨scannedTree, [], []⟩) rfl hselected
  have hstable : ∀ e ∈ scannedOptions.paths ++ scannedOptions.excludes,
      IsStable scannedOptions.recursive (cleaned scannedOptions "/" scannedTree)
        (run scannedOptions .none "/" ⟨scannedTree, [], []⟩).2.tree (Path.join "/" e) := by
    rw [hcleaned, hrun]
    decide +kernel
  have h := (sources_kept scannedOptions .none "/" ⟨scannedTree, [], []⟩ (by decide)
    (by decide +kernel)).2.2 hstable
  refine ⟨by decide, by decide +kernel, hstable, ?_, ?_⟩
  · rw [hrun]
    decide +kernel
  · rw [h, hcleaned, hselected]

/-! ### Sources that are not kept -/

/-- A module that declares a service and one that does not. -/
def climbedTree : FileTree where
  entries := [(["a.py"], .file (serviceModule "A")), (["b.py"], .file [])]
  current := []

/-- The first module, and the second one by the way up from a directory that is made for what is
generated. -/
def climbingOptions : Options :=
  { paths := ["a.py", "out/../b.py"], outputDirectory := "out", skipFormat := true, skipCheck := true }

/-- A module that declares a service, and one that does not in a directory named after it. -/
def slashedTree : FileTree where
  entries := [(["a.py"], .file (serviceModule "A")), (["a"], .directory), (["a", "b.py"], .file [])]
  current := []

/-- Both modules, generated with a suffix that starts with a slash. -/
def slashedOptions : Options :=
  { paths := ["a.py", "a/b.py"], suffix := "/b", skipFormat := true, skipCheck := true }

/-- A module that declares a service, and one that does not. -/
def bracketedTree : FileTree where
  entries := [(["a.py"], .file (serviceModule "A")), (["bx.py"], .file [])]
  current := []

/-- The first module, and the second one by a pattern, which is the name of a directory that is made
for what is generated. -/
def bracketedOptions : Options :=
  { paths := ["a.py", "b[x].py"], outputDirectory := "b[x].py", skipFormat := true, skipCheck := true }

/-- A run that makes a directory which a path leads up from selects more modules when it is
repeated, and one that makes a directory with a pattern as its name selects fewer. And with a slash
in the suffix a run writes one of the modules that it has selected. -/
theorem sources_not_kept :
    (selected climbingOptions "/" (cleaned climbingOptions "/" climbedTree) = ["/a.py"] ∧
      selected climbingOptions "/" (run climbingOptions .none "/" ⟨climbedTree, [], []⟩).2.tree =
        ["/a.py", "/b.py"]) ∧
    (selected bracketedOptions "/" (cleaned bracketedOptions "/" bracketedTree) = ["/a.py", "/bx.py"] ∧
      selected bracketedOptions "/" (run bracketedOptions .none "/" ⟨bracketedTree, [], []⟩).2.tree =
        ["/a.py"]) ∧
    selected slashedOptions "/" (cleaned slashedOptions "/" slashedTree) = ["/a.py", "/a/b.py"] ∧
      (run slashedOptions .none "/" ⟨slashedTree, [], []⟩).1.toOption = some ["/a/b.py"] := by
  have hclimbed : selected climbingOptions "/" climbedTree = ["/a.py"] :=
    selected_of_sorted (by decide +kernel) (by decide) (by decide)
  have hbracketed : selected bracketedOptions "/" bracketedTree = ["/a.py", "/bx.py"] :=
    selected_of_sorted (by decide +kernel) (by decide) (by decide)
  have hslashed : selected slashedOptions "/" slashedTree = ["/a.py", "/a/b.py"] :=
    selected_of_sorted (by decide +kernel) (by decide) (by decide)
  rw [cleaned_of_nil rfl, cleaned_of_nil rfl, cleaned_of_nil rfl,
    run_of_selected .none (s := ⟨climbedTree, [], []⟩) rfl hclimbed,
    run_of_selected .none (s := ⟨bracketedTree, [], []⟩) rfl hbracketed,
    run_of_selected .none (s := ⟨slashedTree, [], []⟩) rfl hslashed]
  refine ⟨⟨hclimbed, ?_⟩, ⟨hbracketed, ?_⟩, hslashed, ?_⟩
  · exact selected_of_sorted (by decide +kernel) (by decide) (by decide)
  · exact selected_of_sorted (by decide +kernel) (by decide) (by decide)
  · decide +kernel

end Run

end ServiceStubs
