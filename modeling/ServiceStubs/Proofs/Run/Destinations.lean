import Mathlib
import ServiceStubs.Proofs.Files.Relative
import ServiceStubs.Proofs.Files.WellFormed
import ServiceStubs.Proofs.Run.Naming
import ServiceStubs.Proofs.Run.Planning

/-!
# Generated modules do not meet

A generated module goes to a place that tells the directory of its source and the stem of its name:
it stands beside its source, or below the output directory as its source stands below the base. So
the modules that are generated from different sources go to different places, but for two slips. A
source whose directory, as seen from the base, only starts like a way up loses its directory. And
the names `.py` and `.py.py` have the same stem.

## Main definitions

* `Run.IsFlattened`: the sources that lose their directory

## Main statements

* `Run.place_ne_of_ne`: sources at different places have destinations at different places
* `Run.outputs_apart`: no generated module takes the place of another one
-/

namespace ServiceStubs

namespace Run

open ServiceStubs.Path (place fileName lastPart directory steps)

variable {o : Options} {root : String} {t : FileTree} {modules : List String} {m m' : String}

/-! ### Sources -/

/-- A selected module is a file and bears the name of a module that was not generated. -/
theorem isSource_of_mem_selected (h : m ∈ selected o root t) :
    t.isFile m = true ∧ IsModuleName (lastPart m) ∧ isGenerated o.suffix m = false := by
  obtain ⟨path, -, hsource, rfl, -⟩ := mem_selected.1 h
  obtain ⟨hfile, hextension, hgenerated⟩ := isSource_iff.1 hsource
  have hname := isModuleName_lastPart hextension
  have hfileName := Path.fileName_normalize hname.isStep hname.ne_up
  obtain ⟨l, content, hlocate, hcontent⟩ := FileTree.isFile_iff.1 hfile
  refine ⟨FileTree.isFile_iff.2 ⟨l, content, FileTree.locate_normalize hlocate, hcontent⟩, ?_, ?_⟩
  · rwa [Path.lastPart_normalize hname.isStep hname.ne_up]
  · rwa [isGenerated, Path.stem_congr hfileName]

/-! ### Destinations -/

/-- The directory of a module as seen from the base of some modules. -/
def seenFromBase (t : FileTree) (modules : List String) (m : String) : String :=
  Path.relativeTo (directory (Path.absolute t.currentPath m))
    (Path.absolute t.currentPath ((commonBase t.currentPath modules).getD ""))

/-- A module whose directory, as seen from the base, starts with the points that lead up. -/
def IsFlattened (t : FileTree) (modules : List String) (m : String) : Prop :=
  ['.', '.'] <+: (seenFromBase t modules m).toList

theorem steps_of_isModuleName {name : String} (h : IsModuleName name) : steps name = [name] := by
  rw [Path.steps_of_notMem h.1, List.filter_cons_of_pos h.isStep, List.filter_nil]

theorem place_join_name {name : String} (h : IsModuleName name) (l : Location) (d : String) :
    place l (Path.join d name) = place l d ++ [name] := by
  rw [Path.place_join, Path.isAbsolute_of_notMem h.1, if_neg Bool.false_ne_true,
    steps_of_isModuleName h, Path.walk_singleton, Path.walkStep_of_ne h.ne_up]

theorem outputPathOf_beside (h : o.outputDirectory = "") (m : String) :
    outputPathOf o root t modules m = Path.join (directory m) (outputName o.suffix m) := by
  rw [outputPathOf, h, if_pos (by decide), outputPath, if_pos (by decide)]

theorem outputPathOf_below (h : o.outputDirectory ≠ "") (m : String) :
    outputPathOf o root t modules m = Path.normalize (Path.join
      (Path.join (Path.join root o.outputDirectory)
        (directoryBelow t.currentPath (commonBase t.currentPath modules) m))
      (outputName o.suffix m)) := by
  have hjoin : Path.join root o.outputDirectory ≠ "" := Path.join_ne_empty (.inr h)
  rw [outputPathOf, if_neg (by simpa using h), outputPath, if_neg (by simpa using hjoin)]

/-- Without an output directory a generated module stands beside its source. -/
theorem place_output_beside (hdirectory : o.outputDirectory = "") (hsuffix : '/' ∉ o.suffix.toList)
    (hm : IsModuleName (lastPart m)) :
    place t.current (outputPathOf o root t modules m) =
      place t.current (directory m) ++ [outputName o.suffix m] := by
  have hname : IsModuleName (outputName o.suffix m) :=
    isModuleName_outputName (by rwa [fileName_of_isModuleName hm]) hsuffix
  rw [outputPathOf_beside hdirectory, place_join_name hname]

/-- The steps of the directory of a module, seen from the root. -/
theorem steps_directory_absolute (ht : t.WellFormed) (hm : IsModuleName (lastPart m)) :
    steps (directory (Path.absolute t.currentPath m)) = place t.current (directory m) := by
  have habsolute := ht.steps_absolute m
  rw [Path.place_eq_concat hm.isStep hm.ne_up, Path.steps_directory,
    Path.lastPart_absolute hm.isStep hm.ne_up, List.filter_cons_of_pos hm.isStep, List.filter_nil]
    at habsolute
  exact List.append_cancel_right habsolute

theorem dot_notMem_absolute (t : FileTree) (path : String) :
    "." ∉ Path.components (Path.absolute t.currentPath path) :=
  Path.dot_notMem_normalize (FileTree.isAbsolute_absolute t path)

/-- All modules stand below their base, and are seen from there by the further names of their
directories. -/
theorem exists_base (ht : t.WellFormed) (hne : modules ≠ [])
    (hmodules : ∀ m ∈ modules, IsModuleName (lastPart m)) :
    ∃ base shared, commonBase t.currentPath modules = some base ∧
      ∀ m ∈ modules, ∃ rest, place t.current (directory m) = shared ++ rest ∧
        (∀ c ∈ rest, Path.IsName c) ∧
        Path.relativeTo (directory (Path.absolute t.currentPath m))
          (Path.absolute t.currentPath base) = if rest = [] then "." else Path.ofComponents rest := by
  have hdirectories : (modules.map fun m => directory (Path.absolute t.currentPath m)) ≠ [] := by
    simpa using hne
  obtain ⟨shared, hbase, hshared⟩ := Path.exists_commonDirectory hdirectories
  have hnames : ∀ m ∈ modules, ∀ c ∈ place t.current (directory m), Path.IsName c := by
    intro m hm c hc
    rw [← steps_directory_absolute ht (hmodules m hm)] at hc
    have hstep : c ∈ steps (Path.absolute t.currentPath m) := by
      rw [Path.steps_directory]
      exact List.mem_append_left _ hc
    exact t.isName_of_mem_absolute hstep
  refine ⟨"/" ++ Path.ofComponents shared, shared, hbase, fun m hm => ?_⟩
  obtain ⟨rest, hrest⟩ := hshared _ (List.mem_map_of_mem hm)
  rw [steps_directory_absolute ht (hmodules m hm)] at hrest
  refine ⟨rest, hrest.symm, fun c hc => hnames m hm c ?_, ?_⟩
  · rw [← hrest]
    exact List.mem_append_right _ hc
  · have hshared : ∀ c ∈ shared, Path.IsName c := fun c hc => hnames m hm c (by
      rw [← hrest]
      exact List.mem_append_left _ hc)
    refine Path.relativeTo_eq (dot_notMem_absolute t _)
      (Path.dot_notMem_directory (dot_notMem_absolute t m)) ?_
    rw [steps_directory_absolute ht (hmodules m hm), ht.steps_absolute, ← hrest,
      Path.place_root hshared]

/-- Below an output directory a generated module stands as its source does below the base. -/
theorem exists_place_output_below (ht : t.WellFormed) (hdirectory : o.outputDirectory ≠ "")
    (hsuffix : '/' ∉ o.suffix.toList) (hmodules : ∀ m ∈ modules, IsModuleName (lastPart m))
    (hbelow : ∀ m ∈ modules, ¬IsFlattened t modules m) :
    ∃ shared top, ∀ m ∈ modules, ∃ rest, place t.current (directory m) = shared ++ rest ∧
      place t.current (outputPathOf o root t modules m) = top ++ rest ++ [outputName o.suffix m] := by
  by_cases hne : modules = []
  · subst hne
    exact ⟨[], [], by simp⟩
  obtain ⟨base, shared, hbase, hseen⟩ := exists_base ht hne hmodules
  refine ⟨shared, place t.current (Path.join root o.outputDirectory), fun m hm => ?_⟩
  obtain ⟨rest, hplace, hrest, hrelative⟩ := hseen m hm
  have hname : IsModuleName (outputName o.suffix m) :=
    isModuleName_outputName (by rw [fileName_of_isModuleName (hmodules m hm)]; exact hmodules m hm) hsuffix
  refine ⟨rest, hplace, ?_⟩
  have hunflattened := hbelow m hm
  rw [IsFlattened, seenFromBase, hbase, Option.getD_some, hrelative] at hunflattened
  have hsteps : ∀ c ∈ rest, Path.isStep c = true ∧ '/' ∉ c.toList := fun c hc =>
    ⟨(hrest c hc).1, (hrest c hc).2.2⟩
  have hbelow' : directoryBelow t.currentPath (commonBase t.currentPath modules) m =
      Path.ofComponents rest := by
    rw [hbase]
    simp only [directoryBelow, hrelative]
    by_cases hnil : rest = []
    · rw [if_pos hnil, if_pos (by decide), hnil]
      rfl
    · rw [if_neg hnil] at hunflattened ⊢
      have hdot : Path.ofComponents rest ≠ "." := by
        intro heq
        have hrest' := Path.steps_ofComponents hsteps
        rw [heq] at hrest'
        exact hnil (hrest'.symm.trans (by decide))
      rw [if_neg]
      rw [Bool.or_eq_true, beq_iff_eq, List.isPrefixOf_iff_prefix]
      exact not_or.2 ⟨hdot, hunflattened⟩
  rw [outputPathOf_below hdirectory, Path.place_normalize, place_join_name hname, Path.place_join,
    hbelow', Path.isAbsolute_ofComponents hsteps, if_neg Bool.false_ne_true,
    Path.steps_ofComponents hsteps, Path.walk_of_ne fun c hc => (hrest c hc).2.1]

/-! ### Different sources -/

/-- Two names of modules that have the same stem, the extension and the extension twice. -/
def SameStem (t : FileTree) (m m' : String) : Prop :=
  place t.current (directory m) = place t.current (directory m') ∧
    ((fileName m = ".py" ∧ fileName m' = ".py.py") ∨ (fileName m = ".py.py" ∧ fileName m' = ".py"))

/-- **Sources at different places have destinations at different places.** -/
theorem place_ne_of_ne (ht : t.WellFormed) (hsuffix : '/' ∉ o.suffix.toList)
    (hmodules : ∀ m ∈ modules, IsModuleName (lastPart m))
    (hbelow : o.outputDirectory = "" ∨ ∀ m ∈ modules, ¬IsFlattened t modules m)
    (hm : m ∈ modules) (hm' : m' ∈ modules) (hstem : ¬SameStem t m m')
    (hne : place t.current m ≠ place t.current m') :
    place t.current (outputPathOf o root t modules m) ≠
      place t.current (outputPathOf o root t modules m') := by
  intro heq
  -- The destinations tell the directories of the sources and the names of the generated modules.
  obtain ⟨hdirectory, hname⟩ : place t.current (directory m) = place t.current (directory m') ∧
      outputName o.suffix m = outputName o.suffix m' := by
    by_cases hbeside : o.outputDirectory = ""
    · rw [place_output_beside hbeside hsuffix (hmodules m hm),
        place_output_beside hbeside hsuffix (hmodules m' hm')] at heq
      exact List.append_singleton_inj.1 heq
    · obtain ⟨shared, top, hplaces⟩ := exists_place_output_below ht hbeside hsuffix hmodules
        (hbelow.resolve_left hbeside)
      obtain ⟨rest, hrest, hout⟩ := hplaces m hm
      obtain ⟨rest', hrest', hout'⟩ := hplaces m' hm'
      rw [hout, hout', List.append_singleton_inj] at heq
      rw [hrest, hrest', List.append_cancel_left heq.1]
      exact ⟨rfl, heq.2⟩
  have hfile := hmodules m hm
  have hfile' := hmodules m' hm'
  have hfileName := fileName_of_isModuleName hfile
  have hfileName' := fileName_of_isModuleName hfile'
  rcases fileName_of_stem_eq (hfileName ▸ hfile) (hfileName' ▸ hfile')
    (stem_eq_of_outputName_eq hname) with hsame | hdotted
  · rw [Path.place_eq_concat hfile.isStep hfile.ne_up, Path.place_eq_concat hfile'.isStep hfile'.ne_up,
      ← hfileName, ← hfileName', hdirectory, hsame] at hne
    exact hne rfl
  · exact hstem ⟨hdirectory, hdotted⟩

/-! ### Plans -/

theorem record_of_new {g : Generated} {done : List Generated} (h : g.1 ∉ done.map (·.1)) :
    record g done = done ++ [g] := by
  induction done with
  | nil => rfl
  | cons d done ih =>
    rw [List.map_cons, List.mem_cons, not_or] at h
    rw [record, if_neg (by simpa using Ne.symm h.1), ih h.2, List.cons_append]

/-- What is generated from some modules: a path and a text for each that declares anything. -/
def allGenerated (out : String → String) (modules : List String) (texts : List (Option String)) :
    List Generated :=
  (List.zipWith (fun m text => text.map fun text => (out m, text)) modules texts).reduceOption

/-- A plan in which no two paths are the same holds everything that is generated. -/
theorem exists_of_plan {out : String → String} {done generated : List Generated}
    (hnodup : (done.map (·.1) ++ modules.map out).Nodup)
    (h : modules.foldlM (generate t out) done = .ok generated) :
    ∃ texts, List.Forall₂ (fun m text => expansionAt t m = .ok text) modules texts ∧
      generated = done ++ allGenerated out modules texts := by
  induction modules generalizing done with
  | nil =>
    obtain rfl : done = generated := Except.ok.inj h
    exact ⟨[], .nil, (List.append_nil _).symm⟩
  | cons m modules ih =>
    rw [List.foldlM_cons, generate_eq] at h
    obtain ⟨done', htext, h⟩ := exists_of_bind h
    obtain ⟨text, hexpansion, hdone⟩ := exists_of_bind htext
    obtain rfl : recordAt (out m) done text = done' := Except.ok.inj hdone
    rw [List.map_cons] at hnodup
    have hnew : out m ∉ done.map (·.1) := fun hmem =>
      (List.nodup_append.1 hnodup).2.2 _ hmem _ List.mem_cons_self rfl
    cases text with
    | none =>
      have hrest : (done.map (·.1) ++ modules.map out).Nodup :=
        hnodup.sublist ((List.Sublist.refl _).append (List.sublist_cons_self _ _))
      obtain ⟨texts, htexts, hgenerated⟩ := ih hrest h
      exact ⟨none :: texts, .cons hexpansion htexts, hgenerated⟩
    | some text =>
      have hrecord : recordAt (out m) done (some text) = done ++ [(out m, text)] := record_of_new hnew
      rw [hrecord] at h
      obtain ⟨texts, htexts, hgenerated⟩ := ih (by simpa using hnodup) h
      refine ⟨some text :: texts, .cons hexpansion htexts, ?_⟩
      rw [hgenerated, List.append_assoc]
      rfl

/-- **No generated module takes the place of another one.** Let the selected modules lead to
different files, and let none of them be flattened and no two of them be named by the extension
alone and by it twice, in one directory. Then they are generated at different places, and a plan
holds all that is generated from them. -/
theorem outputs_apart (ht : t.WellFormed) (hsuffix : '/' ∉ o.suffix.toList)
    (hapart : ∀ m ∈ selected o root t, ∀ m' ∈ selected o root t, m ≠ m' → t.locate m ≠ t.locate m')
    (hstem : ∀ m ∈ selected o root t, ∀ m' ∈ selected o root t, ¬SameStem t m m')
    (hbelow : o.outputDirectory = "" ∨
      ∀ m ∈ selected o root t, ¬IsFlattened t (selected o root t) m) :
    (∀ m ∈ selected o root t, ∀ m' ∈ selected o root t, m ≠ m' →
      place t.current (outputPathOf o root t (selected o root t) m) ≠
        place t.current (outputPathOf o root t (selected o root t) m')) ∧
    ∀ generated, plan o root t (selected o root t) = .ok generated →
      ∃ texts, List.Forall₂ (fun m text => expansionAt t m = .ok text) (selected o root t) texts ∧
        generated =
          allGenerated (outputPathOf o root t (selected o root t)) (selected o root t) texts := by
  have hmodules : ∀ m ∈ selected o root t, IsModuleName (lastPart m) := fun m hm =>
    (isSource_of_mem_selected hm).2.1
  have hlocate : ∀ m ∈ selected o root t, t.locate m = .ok (place t.current m) := by
    intro m hm
    obtain ⟨l, -, hl, -⟩ := FileTree.isFile_iff.1 (isSource_of_mem_selected hm).1
    rw [hl, ← FileTree.locate_eq hl]
  have hplaces : ∀ m ∈ selected o root t, ∀ m' ∈ selected o root t, m ≠ m' →
      place t.current (outputPathOf o root t (selected o root t) m) ≠
        place t.current (outputPathOf o root t (selected o root t) m') := by
    intro m hm m' hm' hne
    refine place_ne_of_ne ht hsuffix hmodules hbelow hm hm' (hstem m hm m' hm') fun heq => ?_
    exact hapart m hm m' hm' hne (by rw [hlocate m hm, hlocate m' hm', heq])
  have hnodup : (([] : List Generated).map (·.1) ++
      (selected o root t).map (outputPathOf o root t (selected o root t))).Nodup := by
    refine List.Nodup.map_on (fun m hm m' hm' heq => ?_) (nodup_inOrder _)
    by_contra hne
    exact hplaces m hm m' hm' hne (by rw [heq])
  exact ⟨hplaces, fun generated hplan => exists_of_plan hnodup hplan⟩

/-- Two modules of one name, one in a directory beside the other one. -/
def nestedTree : FileTree where
  entries := [(["m"], .directory), (["m", "a.py"], .file []), (["m", "sub"], .directory),
    (["m", "sub", "a.py"], .file [])]
  current := []

/-- The modules of both directories, generated below another one. -/
def nestedOptions : Options := { paths := ["m", "m/sub"], outputDirectory := "out" }

theorem outputs_apart_nested :
    selected nestedOptions "" nestedTree = ["m/a.py", "m/sub/a.py"] ∧
    place nestedTree.current (outputPathOf nestedOptions "" nestedTree
        (selected nestedOptions "" nestedTree) "m/a.py") = ["out", "a_grpc.py"] ∧
    place nestedTree.current (outputPathOf nestedOptions "" nestedTree
        (selected nestedOptions "" nestedTree) "m/sub/a.py") = ["out", "sub", "a_grpc.py"] ∧
    place nestedTree.current (outputPathOf nestedOptions "" nestedTree
        (selected nestedOptions "" nestedTree) "m/a.py") ≠
      place nestedTree.current (outputPathOf nestedOptions "" nestedTree
        (selected nestedOptions "" nestedTree) "m/sub/a.py") := by
  have hselected : selected nestedOptions "" nestedTree = ["m/a.py", "m/sub/a.py"] :=
    selected_of_sorted (by decide +kernel) (by decide) (by decide)
  have hapart : ∀ m ∈ selected nestedOptions "" nestedTree,
      ∀ m' ∈ selected nestedOptions "" nestedTree, m ≠ m' →
        nestedTree.locate m ≠ nestedTree.locate m' := by
    rw [hselected]
    simp only [List.forall_mem_cons, List.not_mem_nil, false_imp_iff, implies_true, and_true]
    refine ⟨⟨fun h => absurd rfl h, fun _ heq => ?_⟩, fun _ heq => ?_, fun h => absurd rfl h⟩ <;>
      exact absurd (congrArg Except.toOption heq) (by decide +kernel)
  have hstem : ∀ m ∈ selected nestedOptions "" nestedTree,
      ∀ m' ∈ selected nestedOptions "" nestedTree, ¬SameStem nestedTree m m' := by
    have hname : ∀ m ∈ selected nestedOptions "" nestedTree, fileName m = "a.py" := by
      rw [hselected]
      decide +kernel
    rintro m hm m' - ⟨-, ⟨hdot, -⟩ | ⟨hdot, -⟩⟩ <;>
      exact absurd ((hname m hm).symm.trans hdot) (by decide)
  have hbelow : ∀ m ∈ selected nestedOptions "" nestedTree,
      ¬IsFlattened nestedTree (selected nestedOptions "" nestedTree) m := by
    rw [hselected]
    simp only [List.forall_mem_cons, List.not_mem_nil, false_imp_iff, implies_true, and_true,
      IsFlattened]
    constructor <;> decide +kernel
  have h := (outputs_apart (by decide +kernel) (by decide) hapart hstem (.inr hbelow)).1
    "m/a.py" (by rw [hselected]; decide) "m/sub/a.py" (by rw [hselected]; decide) (by decide)
  refine ⟨hselected, ?_, ?_, h⟩ <;> rw [hselected] <;> decide +kernel

/-! ### Sources that meet -/

/-- The bytes of a module that declares a service of the given name. -/
def serviceModule (name : String) : List UInt8 :=
  Text.utf8Bytes ("from grpc_stub_generator import service\n@service\nclass " ++ name ++ ": pass\n")

/-- Two modules of one name. One of them stands in a directory whose name starts with two points. -/
def dottedTree : FileTree where
  entries := [(["..a"], .directory), (["..a", "x.py"], .file (serviceModule "A")),
    (["x.py"], .file (serviceModule "B"))]
  current := []

/-- The modules of both directories, generated below another one. -/
def dottedOptions : Options := { paths := ["..a", "."], outputDirectory := "out" }

/-- Two modules whose names are the extension, and the extension twice. -/
def bareTree : FileTree where
  entries := [([".py"], .file []), ([".py.py"], .file [])]
  current := []

/-- Both modules, generated beside them. -/
def bareOptions : Options := { paths := [".py", ".py.py"] }

/-- Both modules of either tree are generated at one path. Where both declare a service, the plan
holds one module only. -/
theorem outputs_meet_dotted :
    (selected dottedOptions "" dottedTree = ["..a/x.py", "x.py"] ∧
      (selected dottedOptions "" dottedTree).map (outputPathOf dottedOptions "" dottedTree
        (selected dottedOptions "" dottedTree)) = ["out/x_grpc.py", "out/x_grpc.py"] ∧
      (plan dottedOptions "" dottedTree (selected dottedOptions "" dottedTree)).toOption.map
        (·.map (·.1)) = some ["out/x_grpc.py"]) ∧
    selected bareOptions "" bareTree = [".py", ".py.py"] ∧
      (selected bareOptions "" bareTree).map (outputPathOf bareOptions "" bareTree
        (selected bareOptions "" bareTree)) = [".py_grpc.py", ".py_grpc.py"] := by
  have hdotted : selected dottedOptions "" dottedTree = ["..a/x.py", "x.py"] :=
    selected_of_sorted (by decide +kernel) (by decide) (by decide)
  have hbare : selected bareOptions "" bareTree = [".py", ".py.py"] :=
    selected_of_sorted (by decide +kernel) (by decide) (by decide)
  rw [hdotted, hbare]
  refine ⟨⟨rfl, ?_, ?_⟩, rfl, ?_⟩ <;> decide +kernel

end Run

end ServiceStubs
