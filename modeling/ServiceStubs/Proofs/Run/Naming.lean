import Mathlib
import ServiceStubs.Proofs.Files.FileName
import ServiceStubs.Run.Selection

/-!
# Names of modules

A generated module is named after its source: the stem, the suffix and the extension. The stem of
that name ends in the suffix, so a generated module counts as one. Two sources in one directory get
the same name only if their stems are the same, which happens to the names `.py` and `.py.py` alone.

## Main definitions

* `Run.IsModuleName`: the names that end like modules
* `Run.IsGeneratedName`: the names of generated modules

## Main statements

* `Run.isGenerated_of_isGeneratedName`: what bears such a name counts as generated
* `Run.isGeneratedName_outputName`: generated modules bear such names
* `Run.fileName_of_stem_eq`: when the names of two sources lead to one name
-/

namespace ServiceStubs

namespace Run

open ServiceStubs.Path (fileName lastPart stem)

variable {path path' suffix name : String}

/-- The names that end like modules. -/
def IsModuleName (name : String) : Prop :=
  '/' ∉ name.toList ∧ moduleExtension.toList <:+ name.toList

/-- The names of the modules that are generated with a suffix. -/
def IsGeneratedName (suffix name : String) : Prop :=
  ∃ start ≠ [], name.toList = start ++ suffix.toList ++ moduleExtension.toList

theorem IsModuleName.mem (h : IsModuleName name) : 'y' ∈ name.toList :=
  h.2.subset (by decide)

theorem IsModuleName.isStep (h : IsModuleName name) : Path.isStep name = true := by
  have hempty : name ≠ "" := by
    rintro rfl
    exact absurd h.mem (by decide)
  have hdot : name ≠ "." := by
    rintro rfl
    exact absurd h.mem (by decide)
  simp [Path.isStep, hempty, hdot]

theorem IsModuleName.ne_up (h : IsModuleName name) : name ≠ ".." := by
  rintro rfl
  exact absurd h.mem (by decide)

/-- The extension of a path stands in its last part, since it holds no slash. -/
theorem isModuleName_lastPart (h : hasModuleExtension path = true) :
    IsModuleName (lastPart path) := by
  have hext : moduleExtension.toList <:+ path.toList := List.isSuffixOf_iff_suffix.1 h
  refine ⟨Path.notMem_lastPart path, ?_⟩
  obtain ⟨head, hpath, hhead, -⟩ := Path.exists_split path
  rcases hhead with rfl | ⟨cs, rfl⟩
  · rwa [hpath, List.nil_append] at hext
  · have hlast : '/' :: (lastPart path).toList <:+ path.toList :=
      ⟨cs, by rw [hpath, List.append_assoc]; rfl⟩
    rcases List.suffix_or_suffix_of_suffix hext hlast with h | h
    · rcases List.suffix_cons_iff.1 h with h | h
      · cases h
      · exact h
    · exact absurd (h.subset List.mem_cons_self) (by decide)

theorem fileName_of_isModuleName (h : IsModuleName (lastPart path)) :
    fileName path = lastPart path :=
  Path.fileName_of_isStep h.isStep

/-- The stem of the name of a module. -/
theorem stem_of_isModuleName {start : List Char}
    (h : (fileName path).toList = start ++ moduleExtension.toList) :
    stem path = if start = [] then moduleExtension else String.ofList start := by
  have hext : '.' ∉ ['p', 'y'] := by decide
  rw [Path.stem_of_extension h hext (by decide)]
  by_cases hstart : start = []
  · rw [if_pos hstart, if_pos hstart, ← String.toList_inj, h, hstart]
    rfl
  · rw [if_neg hstart, if_neg hstart]

theorem isGenerated_of_isGeneratedName (h : IsGeneratedName suffix (fileName path)) :
    isGenerated suffix path = true := by
  obtain ⟨start, hne, hname⟩ := h
  rw [isGenerated, List.isSuffixOf_iff_suffix, stem_of_isModuleName hname,
    if_neg fun hnil => hne (List.append_eq_nil_iff.1 hnil).1, String.toList_ofList]
  exact List.suffix_append start suffix.toList

theorem stem_ne_nil (h : IsModuleName (fileName path)) : (stem path).toList ≠ [] := by
  obtain ⟨start, hstart⟩ := h.2
  rw [stem_of_isModuleName hstart.symm]
  split
  · decide
  · rwa [String.toList_ofList]

theorem isGeneratedName_outputName (h : IsModuleName (fileName path)) (suffix : String) :
    IsGeneratedName suffix (outputName suffix path) :=
  ⟨(stem path).toList, stem_ne_nil h, by rw [outputName, String.toList_append, String.toList_append]⟩

theorem notMem_stem (h : IsModuleName (fileName path)) : '/' ∉ (stem path).toList := by
  obtain ⟨hslash, start, hstart⟩ := h
  rw [stem_of_isModuleName hstart.symm]
  split
  · decide
  · rw [String.toList_ofList]
    exact fun hmem => hslash (hstart ▸ List.mem_append_left _ hmem)

theorem isModuleName_outputName (h : IsModuleName (fileName path)) (hsuffix : '/' ∉ suffix.toList) :
    IsModuleName (outputName suffix path) := by
  have hname : (outputName suffix path).toList =
      (stem path).toList ++ suffix.toList ++ moduleExtension.toList := by
    rw [outputName, String.toList_append, String.toList_append]
  rw [IsModuleName, hname]
  refine ⟨?_, List.suffix_append _ _⟩
  rw [List.mem_append, List.mem_append]
  rintro ((hmem | hmem) | hmem)
  · exact notMem_stem h hmem
  · exact hsuffix hmem
  · exact absurd hmem (by decide)

theorem stem_eq_of_outputName_eq (h : outputName suffix path = outputName suffix path') :
    stem path = stem path' := by
  rw [outputName, outputName, String.append_assoc, String.append_assoc] at h
  exact String.append_left_inj _ |>.1 h

/-- Only names of two modules that are nothing but the extension, once and twice, have one stem. -/
theorem fileName_of_stem_eq (h : IsModuleName (fileName path)) (h' : IsModuleName (fileName path'))
    (heq : stem path = stem path') :
    fileName path = fileName path' ∨
      (fileName path = ".py" ∧ fileName path' = ".py.py") ∨
      (fileName path = ".py.py" ∧ fileName path' = ".py") := by
  obtain ⟨start, hstart⟩ := h.2
  obtain ⟨start', hstart'⟩ := h'.2
  rw [stem_of_isModuleName hstart.symm, stem_of_isModuleName hstart'.symm] at heq
  have hname {s : String} {cs : List Char} (hs : cs ++ moduleExtension.toList = s.toList) :
      s = String.ofList cs ++ moduleExtension := by
    rw [← String.toList_inj, String.toList_append, String.toList_ofList, hs]
  rw [hname hstart, hname hstart']
  by_cases hnil : start = [] <;> by_cases hnil' : start' = []
  · rw [hnil, hnil']
    exact .inl rfl
  · rw [if_pos hnil, if_neg hnil'] at heq
    rw [← heq, hnil]
    exact .inr (.inl ⟨rfl, rfl⟩)
  · rw [if_neg hnil, if_pos hnil'] at heq
    rw [heq, hnil']
    exact .inr (.inr ⟨rfl, rfl⟩)
  · rw [if_neg hnil, if_neg hnil'] at heq
    rw [heq]
    exact .inl rfl

end Run

end ServiceStubs
