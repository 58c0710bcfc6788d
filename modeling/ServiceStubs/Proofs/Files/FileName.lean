import Mathlib
import ServiceStubs.Proofs.Files.Place

/-!
# Names of files

The last part of a path is the name of the file if it is a step that does not lead up; then
normalizing the path keeps it. The stem of a name with an extension is what stands before the
extension, unless nothing does.

## Main statements

* `Path.fileName_normalize`: normalizing a path keeps the name of the file
* `Path.stem_of_extension`: the stem of a name with an extension
-/

namespace ServiceStubs

namespace Path

variable {path : String} {base ext : List Char}

theorem exists_components (path : String) : ∃ cs, components path = cs ++ [lastPart path] := by
  obtain ⟨head, hpath, hhead, -⟩ := exists_split path
  rcases hhead with rfl | ⟨cs, rfl⟩
  · have heq : path = lastPart path := by rw [← String.toList_inj, hpath, List.nil_append]
    refine ⟨[], ?_⟩
    conv_lhs => rw [heq]
    exact components_of_notMem (notMem_lastPart path)
  · have heq : path = String.ofList cs ++ "/" ++ lastPart path := by
      rw [← String.toList_inj, hpath, String.toList_append, String.toList_append,
        String.toList_ofList]
      rfl
    refine ⟨components (String.ofList cs), ?_⟩
    conv_lhs => rw [heq]
    rw [components_slash, components_of_notMem (notMem_lastPart path)]

theorem getLast?_components (path : String) : (components path).getLast? = some (lastPart path) := by
  obtain ⟨cs, hcs⟩ := exists_components path
  rw [hcs, List.getLast?_concat]

theorem lastPart_join (base : String) (h : isAbsolute path = false) :
    lastPart (join base path) = lastPart path := by
  have hlast {s : String} (hs : ∃ before, components s = before ++ components path) :
      lastPart s = lastPart path := by
    obtain ⟨before, hbefore⟩ := hs
    obtain ⟨cs, hcs⟩ := exists_components path
    have heq := getLast?_components s
    rw [hbefore, hcs, ← List.append_assoc, List.getLast?_concat] at heq
    exact (Option.some.inj heq).symm
  rcases join_cases base with rfl | ⟨base', rfl⟩ | ⟨hne, hslash⟩
  · rw [join_empty]
  · rw [join_slash base' h]
    exact hlast ⟨components base', components_slash base' path⟩
  · rw [join_of_ne h hne hslash]
    exact hlast ⟨components base, components_slash base path⟩

/-- Normalizing a path keeps the name at its end. -/
theorem lastPart_normalize (hstep : isStep (lastPart path) = true) (hup : lastPart path ≠ "..") :
    lastPart (normalize path) = lastPart path := by
  obtain ⟨before, -, heq⟩ := components_normalize path
  obtain ⟨cs, hcs⟩ := exists_components (normalize path)
  have hkept : (kept (isAbsolute path) (steps path)).reverse =
      (kept (isAbsolute path) (steps (directory path))).reverse ++ [lastPart path] := by
    rw [steps_directory, List.filter_cons_of_pos hstep, List.filter_nil, kept_concat,
      addComponent_of_ne hstep hup, List.reverse_cons]
  rw [heq, hkept, ← List.append_assoc] at hcs
  exact (List.append_singleton_inj.1 hcs).2.symm

theorem lastPart_absolute (hstep : isStep (lastPart path) = true) (hup : lastPart path ≠ "..")
    (current : String) : lastPart (absolute current path) = lastPart path := by
  rw [absolute]
  split
  · exact lastPart_normalize hstep hup
  · rename_i habsolute
    have hjoin := lastPart_join current (Bool.not_eq_true _ ▸ habsolute)
    rw [lastPart_normalize (by rwa [hjoin]) (by rwa [hjoin]), hjoin]

theorem fileName_normalize (hstep : isStep (lastPart path) = true) (hup : lastPart path ≠ "..") :
    fileName (normalize path) = fileName path := by
  have hlast := lastPart_normalize hstep hup
  rw [fileName_of_isStep hstep, fileName_of_isStep (by rwa [hlast]), hlast]

/-- A path to something that is named leads there from its directory. -/
theorem place_eq_concat (hstep : isStep (lastPart path) = true) (hup : lastPart path ≠ "..")
    (current : Location) :
    place current path = place current (directory path) ++ [lastPart path] := by
  rw [place_directory, List.filter_cons_of_pos hstep, List.filter_nil, walk_singleton,
    walkStep_of_ne hup]

/-- The stem is known from the name of the file. -/
theorem stem_congr {path' : String} (h : fileName path = fileName path') : stem path = stem path' := by
  simp only [stem, h]

/-- The stem of a name with an extension is what stands before it, unless that is nothing. -/
theorem stem_of_extension (hname : (fileName path).toList = base ++ '.' :: ext) (hext : '.' ∉ ext)
    (hne : ext ≠ []) : stem path = if base = [] then fileName path else String.ofList base := by
  have hrest : (fileName path).toList.reverse.takeWhile (· != '.') = ext.reverse := by
    rw [hname, List.reverse_append, List.reverse_cons, List.append_assoc,
      List.takeWhile_append_of_pos]
    · rw [List.singleton_append, List.takeWhile_cons_of_neg (by simp), List.append_nil]
    · intro c hc
      rw [bne_iff_ne]
      rintro rfl
      exact hext (List.mem_reverse.1 hc)
  have hbase : (fileName path).toList.take
      ((fileName path).toList.length - ext.reverse.length - 1) = base := by
    rw [hname, List.take_left']
    rw [List.length_append, List.length_cons, List.length_reverse]
    omega
  have hlength : ext.length ≠ (fileName path).toList.length := by
    rw [hname, List.length_append, List.length_cons]
    omega
  rw [stem, hrest, hbase]
  by_cases hnil : base = []
  · rw [if_pos hnil, if_pos (by simp [hnil])]
  · rw [if_neg hnil, if_neg]
    simp [hnil, hne, hlength]

end Path

end ServiceStubs
