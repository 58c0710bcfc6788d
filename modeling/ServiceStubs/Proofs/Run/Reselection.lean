import Mathlib
import ServiceStubs.Proofs.Files.Expanding
import ServiceStubs.Proofs.Run.Naming
import ServiceStubs.Proofs.Run.Selecting

/-!
# Selecting again

A tree that grows by files under the names of generated modules has the same modules to select: what
was found is still found, and what is found anew is generated. An expression may only not come to
mean something else because of a directory that is new: by climbing from it, or because the text of
a pattern is its path.

## Main definitions

* `Run.IsStable`: the expressions that mean the same in a tree that grew

## Main statements

* `Run.IsStable.mem_candidatesAt`, `Run.IsStable.mem_candidatesAt_back`: what is found again, and
  what was found before
* `Run.selected_eq_of_grows`: the same modules are selected again
-/

namespace ServiceStubs

open FileTree (directoryPath)

namespace FileTree

variable {isNew : String → Prop} {t t' : FileTree} {l : Location} {path : String}

/-- What was found in a tree is found in one that grew out of it. -/
theorem Grows.carries (h : Grows isNew t t') : Carries (fun _ => True) t t' where
  directory _ _ _ _ := trivial
  entry _ _ _ _ hl he := ⟨h.hasDirectories.locate hl, h.exists_entry? he⟩

theorem Grows.isFile (h : Grows isNew t t') (hfile : t.isFile path = true) :
    t'.isFile path = true := by
  obtain ⟨l, content, hl, hcontent⟩ := isFile_iff.1 hfile
  obtain ⟨content', hcontent'⟩ := h.file l content hcontent
  exact isFile_iff.2 ⟨l, content', h.hasDirectories.locate hl, hcontent'⟩

/-- What a path led to is still of its kind. -/
theorem Grows.isDirectory_back (h : Grows isNew t t') (hthere : t.contains path = true)
    (hdirectory : t'.isDirectory path = true) : t.isDirectory path = true := by
  obtain ⟨l, e, hl, he⟩ := contains_iff.1 hthere
  obtain ⟨m, hm, hdirectory⟩ := isDirectory_iff.1 hdirectory
  rw [h.hasDirectories.locate hl] at hm
  cases hm
  exact isDirectory_iff.2 ⟨l, hl, h.directory_back he hdirectory⟩

theorem Grows.isFile_back (h : Grows isNew t t') (hthere : t.contains path = true)
    (hfile : t'.isFile path = true) : t.isFile path = true := by
  obtain ⟨l, e, hl, he⟩ := contains_iff.1 hthere
  obtain ⟨m, content, hm, hcontent⟩ := isFile_iff.1 hfile
  rw [h.hasDirectories.locate hl] at hm
  cases hm
  cases e with
  | file content' => exact isFile_iff.2 ⟨l, content', hl, he⟩
  | directory =>
    rw [h.directory l he] at hcontent
    cases hcontent

theorem contains_of_isFile (h : t.isFile path = true) : t.contains path = true := by
  obtain ⟨l, content, hl, hcontent⟩ := isFile_iff.1 h
  exact contains_iff.2 ⟨l, _, hl, hcontent⟩

theorem contains_of_isDirectory (h : t.isDirectory path = true) : t.contains path = true := by
  obtain ⟨l, hl, hdirectory⟩ := isDirectory_iff.1 h
  exact contains_iff.2 ⟨l, _, hl, hdirectory⟩

/-- A path that leads where it led before, and to what was there. -/
def LeadsBack (t t' : FileTree) (path : String) : Prop :=
  ∀ l, t'.locate (directoryPath path) = .ok l →
    t.locate (directoryPath path) = .ok l ∧ ∃ e, t.entry? l = some e

/-- What is found of what was there before was found before. -/
theorem Grows.carries_back (h : Grows isNew t t') : Carries (LeadsBack t t') t' t where
  directory d c hleads hback := by
    obtain ⟨hrelative, l, e', hl, -⟩ := hleads
    intro m hm
    obtain ⟨hl, e, he⟩ := hback l hl
    by_cases hc : c = ""
    · subst hc
      by_cases hd : d = ""
      · subst hd
        rw [Path.join_empty] at hl
        rw [h.hasDirectories.locate hl] at hm
        exact ⟨Except.ok.inj hm ▸ hl, e, Except.ok.inj hm ▸ he⟩
      · rw [directoryPath_of_ne (Path.join_ne_empty (.inl hd))] at hl
        rw [directoryPath_of_ne hd] at hm ⊢
        obtain ⟨hl, -⟩ := (locate_join_empty hd).1 hl
        rw [h.hasDirectories.locate hl] at hm
        exact ⟨Except.ok.inj hm ▸ hl, e, Except.ok.inj hm ▸ he⟩
    · rw [directoryPath_of_ne (Path.join_ne_empty (.inr hc)), locate_join hrelative hc] at hl
      obtain ⟨k, hk, hfollow⟩ := hl
      rw [h.hasDirectories.locate hk] at hm
      obtain rfl : k = m := Except.ok.inj hm
      exact ⟨hk, _, entry?_of_follow (components_ne_nil c) hfollow⟩
  entry path l e' hpath hl he' := by
    obtain ⟨hl, e, he⟩ := hpath l hl
    obtain ⟨e'', he'', hkind⟩ := h.exists_entry? he
    rw [he'] at he''
    cases he''
    exact ⟨hl, e, he, hkind.symm⟩

/-- A path to what was there before leads back, unless it climbs from a new directory. -/
theorem Grows.leadsBack (h : Grows isNew t t') (ht : t.WellFormed) (hne : path ≠ "")
    (hclimbs : ¬t.ClimbsFromNew t' path)
    (hthere : ∀ l, t'.locate path = .ok l → ∃ e, t.entry? l = some e) : LeadsBack t t' path := by
  intro l hl
  rw [directoryPath_of_ne hne] at hl ⊢
  obtain ⟨e, he⟩ := hthere l hl
  exact ⟨h.locate_back ht hl he hclimbs, e, he⟩

end FileTree

namespace Run

open ServiceStubs.FileTree (LeadsBack Grows)

variable {isNew : String → Prop} {o : Options} {root : String} {t t' : FileTree}
  {path m expression : String}

/-- An expression that means the same in a tree that grew: neither it nor a path that it stands for
climbs from a new directory, and it is not a pattern whose text has become a path that leads
somewhere. -/
structure IsStable (recursive : Bool) (t t' : FileTree) (expression : String) : Prop where
  climbs : ∀ path ∈ expression :: t'.expand recursive expression, ¬t.ClimbsFromNew t' path
  pattern : NamePattern.isPattern expression = true → t'.contains expression = true →
    t.contains expression = true

instance (recursive : Bool) (t t' : FileTree) (expression : String) :
    Decidable (IsStable recursive t t' expression) :=
  decidable_of_iff ((∀ path ∈ expression :: t'.expand recursive expression,
      ¬t.ClimbsFromNew t' path) ∧ (NamePattern.isPattern expression = true →
        t'.contains expression = true → t.contains expression = true))
    ⟨fun h => ⟨h.1, h.2⟩, fun h => ⟨h.climbs, h.pattern⟩⟩

theorem mem_expand_iff {recursive : Bool} :
    path ∈ t.expand recursive expression ↔
      path ≠ "" ∧ path ∈ t.expandFrom recursive false expression := by
  rw [FileTree.expand, List.mem_filter, bne_iff_ne, and_comm]

/-- An expression that is not a pattern stands for itself, and only if it leads somewhere. -/
theorem contains_of_mem_expand {recursive : Bool} (h : path ∈ t.expand recursive expression) :
    NamePattern.isPattern expression = true ∨ (path = expression ∧ t.contains expression = true) := by
  by_cases hpattern : NamePattern.isPattern expression = true
  · exact .inl hpattern
  · obtain ⟨rfl, hthere⟩ := (FileTree.mem_expandFrom_of_not_isPattern hpattern).1 (mem_expand_iff.1 h).2
    refine .inr ⟨rfl, ?_⟩
    split at hthere
    · exact FileTree.contains_of_isDirectory hthere
    · exact hthere

theorem mem_modulesInside_iff {directory : String} : path ∈ modulesInside o t directory ↔
    ∃ rest e, (rest, e) ∈ t.inside directory ∧ e ≠ .directory ∧
      (o.recursive = true ∨ rest.length = 1) ∧ hasModuleExtension (rest.getLast?.getD "") = true ∧
      Path.join directory (Path.ofComponents rest) = path := by
  simp only [modulesInside, List.mem_map, List.mem_filter, Bool.and_eq_true, Bool.or_eq_true,
    bne_iff_ne, beq_iff_eq]
  constructor
  · rintro ⟨rest, ⟨⟨⟨rest', e⟩, ⟨hmem, hkind, hdepth⟩, rfl⟩, hextension⟩, rfl⟩
    exact ⟨rest', e, hmem, hkind, hdepth, hextension, rfl⟩
  · rintro ⟨rest, e, hmem, hkind, hdepth, hextension, rfl⟩
    exact ⟨rest, ⟨⟨(rest, e), ⟨hmem, hkind, hdepth⟩, rfl⟩, hextension⟩, rfl⟩

/-- The modules in a directory are found by a path that leads on from it. -/
theorem modulesInside_carry {Q : String → Prop} {directory : String} (h : FileTree.Carries Q t t')
    (ht : t.WellFormed) (ht' : t'.WellFormed) (hpath : Q path)
    (hmem : path ∈ modulesInside o t directory) :
    Q directory ∧ path ∈ modulesInside o t' directory := by
  obtain ⟨rest, e, hinside, hkind, hdepth, hextension, rfl⟩ := mem_modulesInside_iff.1 hmem
  obtain ⟨e', hinside', hkind'⟩ := h.inside ht ht' hpath hinside
  exact ⟨h.directory _ _ (ht.leadsFrom_of_mem_inside hinside) hpath,
    mem_modulesInside_iff.2 ⟨rest, e', hinside', mt hkind'.2 hkind, hdepth, hextension, rfl⟩⟩

namespace IsStable

/-- The directories and the files that a stable expression spells are those it spelled before, where
it stood for something. -/
theorem contains {recursive : Bool} (h : IsStable recursive t t' expression)
    (hmem : path ∈ t.expand recursive expression) (hthere : t'.contains expression = true) :
    t.contains expression = true :=
  (contains_of_mem_expand hmem).elim (fun hpattern => h.pattern hpattern hthere) And.right

/-- What is found for a stable expression is found again. -/
theorem mem_candidatesAt (h : IsStable o.recursive t t' (Path.join root expression))
    (hgrows : Grows isNew t t')
    (ht : t.WellFormed) (ht' : t'.WellFormed) (hmem : path ∈ candidatesAt o root t expression) :
    path ∈ candidatesAt o root t' expression := by
  rw [candidatesAt] at hmem ⊢
  by_cases hdirectory : t.isDirectory (Path.join root expression) = true
  · rw [if_pos hdirectory] at hmem
    rw [if_pos (hgrows.carries.isDirectory trivial hdirectory)]
    exact (modulesInside_carry hgrows.carries ht ht' trivial hmem).2
  · rw [if_neg hdirectory] at hmem
    have hdirectory' : ¬t'.isDirectory (Path.join root expression) = true := fun hnew =>
      hdirectory (hgrows.isDirectory_back
        (h.contains hmem (FileTree.contains_of_isDirectory hnew)) hnew)
    rw [if_neg hdirectory']
    rw [mem_expand_iff] at hmem ⊢
    exact ⟨hmem.1, hgrows.carries.mem_expandFrom ht ht' trivial hmem.2⟩

/-- What stands in a directory that a stable expression spells was found there before, if it was
there. -/
theorem leadsBack_inside {recursive : Bool} {rest : Location} {e : FileTree.Entry}
    (h : IsStable recursive t t' expression) (hgrows : Grows isNew t t') (ht : t.WellFormed)
    (ht' : t'.WellFormed) (hdirectory : t'.isDirectory expression = true)
    (hinside : (rest, e) ∈ t'.inside expression)
    (hthere : ∀ l, t'.locate (Path.join expression (Path.ofComponents rest)) = .ok l →
      ∃ e, t.entry? l = some e) :
    LeadsBack t t' (Path.join expression (Path.ofComponents rest)) := by
  obtain ⟨k, hk, -, hne, he⟩ := ht'.mem_inside_iff.1 hinside
  have hlocate := ht'.locate_inside hk hne he
  have hpath := (FileTree.locate_eq_ok.1 hlocate).1
  obtain ⟨l, hl, -⟩ := FileTree.isDirectory_iff.1 hdirectory
  have hexpression := (FileTree.locate_eq_ok.1 hl).1
  intro m hm
  rw [FileTree.directoryPath_of_ne hpath] at hm ⊢
  obtain rfl : k ++ rest = m := Except.ok.inj (hlocate.symm.trans hm)
  obtain ⟨e', he'⟩ := hthere _ hm
  have hparent := (ht.entry?_of_append hne he').1
  rw [FileTree.directoryPath_of_ne hexpression] at hk
  have hback := hgrows.locate_back ht hk hparent (h.climbs expression List.mem_cons_self)
  rw [← FileTree.directoryPath_of_ne hexpression] at hback
  exact ⟨ht.locate_inside hback hne he', e', he'⟩

/-- What is found again of what was there before was found before. -/
theorem mem_candidatesAt_back (h : IsStable o.recursive t t' (Path.join root expression))
    (hgrows : Grows isNew t t') (ht : t.WellFormed) (ht' : t'.WellFormed)
    (hthere : ∀ l, t'.locate path = .ok l → ∃ e, t.entry? l = some e)
    (hmem : path ∈ candidatesAt o root t' expression) :
    path ∈ candidatesAt o root t expression ∧ LeadsBack t t' path := by
  have hcarries := hgrows.carries_back
  rw [candidatesAt] at hmem ⊢
  by_cases hdirectory : t'.isDirectory (Path.join root expression) = true
  · rw [if_pos hdirectory] at hmem
    have hback : LeadsBack t t' path := by
      obtain ⟨rest, e, hinside, -, -, -, rfl⟩ := mem_modulesInside_iff.1 hmem
      exact h.leadsBack_inside hgrows ht ht' hdirectory hinside hthere
    obtain ⟨hback', hmem'⟩ := modulesInside_carry hcarries ht' ht hback hmem
    rw [if_pos (hcarries.isDirectory hback' hdirectory)]
    exact ⟨hmem', hback⟩
  · rw [if_neg hdirectory] at hmem
    rw [if_neg (mt (hgrows.carries.isDirectory trivial) hdirectory)]
    have hback : LeadsBack t t' path := hgrows.leadsBack ht (mem_expand_iff.1 hmem).1
      (h.climbs path (List.mem_cons_of_mem _ hmem)) hthere
    rw [mem_expand_iff] at hmem ⊢
    exact ⟨⟨hmem.1, hcarries.mem_expandFrom ht' ht hback hmem.2⟩, hback⟩

/-- What a stable expression excludes it excludes again. -/
theorem mem_exclusion (h : IsStable o.recursive t t' (Path.join root expression))
    (hgrows : Grows isNew t t')
    (ht : t.WellFormed) (ht' : t'.WellFormed) (hmem : m ∈ exclusion o root t expression) :
    m ∈ exclusion o root t' expression := by
  rw [exclusion] at hmem ⊢
  by_cases hfile : t.isFile (Path.join root expression) = true
  · rw [if_pos hfile] at hmem
    rwa [if_pos (hgrows.isFile hfile)]
  · rw [if_neg hfile] at hmem
    obtain ⟨path, hpath, rfl⟩ := List.mem_map.1 hmem
    have hfile' : ¬t'.isFile (Path.join root expression) = true := fun hnew =>
      hfile (hgrows.isFile_back (h.contains hpath (FileTree.contains_of_isFile hnew)) hnew)
    rw [if_neg hfile']
    refine List.mem_map_of_mem ?_
    rw [mem_expand_iff] at hpath ⊢
    exact ⟨hpath.1, hgrows.carries.mem_expandFrom ht ht' trivial hpath.2⟩

/-- A file that a stable expression excludes again was excluded before. -/
theorem mem_exclusion_back (h : IsStable o.recursive t t' (Path.join root expression))
    (hgrows : Grows isNew t t')
    (ht : t.WellFormed) (ht' : t'.WellFormed) (hfile : t.isFile m = true)
    (hmem : m ∈ exclusion o root t' expression) : m ∈ exclusion o root t expression := by
  obtain ⟨l, content, hl, hcontent⟩ := FileTree.isFile_iff.1 hfile
  -- A path with that normal form leads to the file.
  have hthere {path : String} (hm : Path.normalize path = m) (k : Location)
      (hk : t'.locate path = .ok k) : t.entry? k = some (.file content) := by
    have hk' := FileTree.locate_normalize hk
    rw [hm, hgrows.hasDirectories.locate hl] at hk'
    rw [← Except.ok.inj hk', hcontent]
  have hcarries := hgrows.carries_back
  rw [exclusion] at hmem ⊢
  by_cases hfile' : t'.isFile (Path.join root expression) = true
  · rw [if_pos hfile', List.mem_singleton] at hmem
    obtain ⟨k, content', hk, hcontent'⟩ := FileTree.isFile_iff.1 hfile'
    have hback := hthere hmem.symm k hk
    have hlocate := hgrows.locate_back ht hk hback (h.climbs _ List.mem_cons_self)
    rw [if_pos (FileTree.isFile_iff.2 ⟨k, content, hlocate, hback⟩)]
    exact List.mem_singleton.2 hmem
  · rw [if_neg hfile'] at hmem
    rw [if_neg (mt hgrows.isFile hfile')]
    obtain ⟨path, hpath, rfl⟩ := List.mem_map.1 hmem
    refine List.mem_map_of_mem ?_
    have hback : LeadsBack t t' path := hgrows.leadsBack ht (mem_expand_iff.1 hpath).1
      (h.climbs path (List.mem_cons_of_mem _ hpath)) fun k hk => ⟨_, hthere rfl k hk⟩
    rw [mem_expand_iff] at hpath ⊢
    exact ⟨hpath.1, hcarries.mem_expandFrom ht' ht hback hpath.2⟩

end IsStable

/-! ### The same modules -/

/-- A source of the grown tree was there before. -/
theorem entry?_of_isSource (hgrows : Grows (IsGeneratedName o.suffix) t t')
    (h : isSource o t' path = true) :
    ∃ l content, t'.locate path = .ok l ∧ t.entry? l = some (.file content) := by
  obtain ⟨hfile, hextension, hgenerated⟩ := isSource_iff.1 h
  obtain ⟨l, content, hl, hcontent⟩ := FileTree.isFile_iff.1 hfile
  refine ⟨l, content, hl, (hgrows.fresh l content hcontent).resolve_right fun hbears => ?_⟩
  obtain ⟨d, c, hplace, hnew⟩ := hbears
  have hname := isModuleName_lastPart hextension
  rw [FileTree.locate_eq hl, Path.place_eq_concat hname.isStep hname.ne_up,
    List.append_singleton_inj] at hplace
  obtain ⟨-, rfl⟩ := hplace
  rw [← fileName_of_isModuleName hname] at hnew
  exact absurd (isGenerated_of_isGeneratedName hnew) (by simp [hgenerated])

theorem isSource_grows (hgrows : Grows isNew t t') (h : isSource o t path = true) :
    isSource o t' path = true := by
  rw [isSource_iff] at h ⊢
  exact ⟨hgrows.isFile h.1, h.2⟩

theorem isFile_normalize (h : t.isFile path = true) : t.isFile (Path.normalize path) = true := by
  obtain ⟨l, content, hl, hcontent⟩ := FileTree.isFile_iff.1 h
  exact FileTree.isFile_iff.2 ⟨l, content, FileTree.locate_normalize hl, hcontent⟩

theorem mem_candidates : path ∈ candidates o root t ↔
    ∃ expression ∈ o.paths, path ∈ candidatesAt o root t expression := List.mem_flatMap

theorem mem_excluded : m ∈ excluded o root t ↔
    ∃ expression ∈ o.excludes, m ∈ exclusion o root t expression := List.mem_flatMap

/-- A file is excluded again if it was excluded before, and only then. -/
theorem mem_excluded_iff_of_grows (hgrows : Grows isNew t t') (ht : t.WellFormed)
    (ht' : t'.WellFormed) (hstable : ∀ e ∈ o.excludes, IsStable o.recursive t t' (Path.join root e))
    (hfile : t.isFile m = true) : m ∈ excluded o root t ↔ m ∈ excluded o root t' := by
  rw [mem_excluded, mem_excluded]
  constructor
  · rintro ⟨e, he, hmem⟩
    exact ⟨e, he, (hstable e he).mem_exclusion hgrows ht ht' hmem⟩
  · rintro ⟨e, he, hmem⟩
    exact ⟨e, he, (hstable e he).mem_exclusion_back hgrows ht ht' hfile hmem⟩

/-- **A tree that grows by generated modules has the same modules to select,** if all expressions
are stable. -/
theorem selected_eq_of_grows (hgrows : Grows (IsGeneratedName o.suffix) t t') (ht : t.WellFormed)
    (ht' : t'.WellFormed) (hpaths : ∀ e ∈ o.paths, IsStable o.recursive t t' (Path.join root e))
    (hexcludes : ∀ e ∈ o.excludes, IsStable o.recursive t t' (Path.join root e)) :
    selected o root t' = selected o root t := by
  suffices hmem : ∀ m, m ∈ selected o root t' ↔ m ∈ selected o root t by
    exact inOrder_congr fun m => mem_inOrder.symm.trans ((hmem m).trans mem_inOrder)
  intro m
  rw [mem_selected, mem_selected]
  constructor
  · rintro ⟨path, hpath, hsource, rfl, hleft⟩
    obtain ⟨expression, hexpression, hpath⟩ := mem_candidates.1 hpath
    obtain ⟨l, content, hl, hcontent⟩ := entry?_of_isSource hgrows hsource
    obtain ⟨hmem, hback⟩ := (hpaths expression hexpression).mem_candidatesAt_back hgrows ht ht'
      (fun k hk => ⟨.file content, by rw [← Except.ok.inj (hl.symm.trans hk), hcontent]⟩) hpath
    have hne := (FileTree.locate_eq_ok.1 hl).1
    have hlocate : t.locate path = .ok l := by
      rw [← FileTree.directoryPath_of_ne hne] at hl ⊢
      exact (hback l hl).1
    have hfile : t.isFile path = true := FileTree.isFile_iff.2 ⟨l, content, hlocate, hcontent⟩
    refine ⟨path, mem_candidates.2 ⟨expression, hexpression, hmem⟩,
      isSource_iff.2 ⟨hfile, (isSource_iff.1 hsource).2⟩, rfl, ?_⟩
    rwa [mem_excluded_iff_of_grows hgrows ht ht' hexcludes (isFile_normalize hfile)]
  · rintro ⟨path, hpath, hsource, rfl, hleft⟩
    obtain ⟨expression, hexpression, hpath⟩ := mem_candidates.1 hpath
    have hfile := isFile_normalize (isSource_iff.1 hsource).1
    refine ⟨path, mem_candidates.2 ⟨expression, hexpression,
      (hpaths expression hexpression).mem_candidatesAt hgrows ht ht' hpath⟩,
      isSource_grows hgrows hsource, rfl, ?_⟩
    rwa [← mem_excluded_iff_of_grows hgrows ht ht' hexcludes hfile]

end Run

end ServiceStubs
