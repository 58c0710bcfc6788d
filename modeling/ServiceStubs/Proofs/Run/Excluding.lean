import Mathlib
import ServiceStubs.Proofs.Run.Reselection

/-!
# Leaving modules out

What an expression stands for is found out twice, once where it is a path to search and once where
it is an exclusion, and not in the same way. A file and a pattern stand for the same paths both
times, so the modules that they select are left out when they are excluded. A directory stands for
the modules in it where it is searched and for itself where it is excluded, so nothing is left out
for it. And a file whose path is a pattern as well is searched as a pattern and excluded as a file.

## Main statements

* `Run.candidatesAt_subset_exclusion`: the paths that an expression stands for both times
* `Run.not_mem_selected_of_excluded`: what an expression selects is left out when it is excluded
* `Run.selected_of_excluded_directory`: nothing is left out for a directory
-/

namespace ServiceStubs

namespace Run

open ServiceStubs.Path (normalize)
open NamePattern (isPattern)

variable {o : Options} {root e m path : String} {t : FileTree}

/-- The settings of a run that searches one path and leaves nothing out. -/
def Options.onlyFor (o : Options) (e : String) : Options := { o with paths := [e], excludes := [] }

theorem candidates_onlyFor : candidates (o.onlyFor e) root t = candidatesAt o root t e := by
  rw [candidates, Options.onlyFor, List.flatMap_singleton]
  rfl

/-- **What an expression stands for it is excluded as**, unless it is a directory. If a file stands
at its own text although that is a pattern, only the file is excluded. -/
theorem candidatesAt_subset_exclusion (hdirectory : t.isDirectory (Path.join root e) = false)
    (hmem : path ∈ candidatesAt o root t e)
    (hfile : t.isFile (Path.join root e) = true →
      isPattern (Path.join root e) = false ∨ normalize path = normalize (Path.join root e)) :
    normalize path ∈ exclusion o root t e := by
  rw [candidatesAt, if_neg (by simp [hdirectory])] at hmem
  by_cases hthere : t.isFile (Path.join root e) = true
  · rw [exclusion, if_pos hthere, List.mem_singleton]
    rcases hfile hthere with hplain | hsame
    · obtain ⟨rfl, -⟩ := (contains_of_mem_expand hmem).resolve_left (by simp [hplain])
      rfl
    · exact hsame
  · rw [exclusion, if_neg hthere]
    exact List.mem_map_of_mem hmem

/-- **What an expression selects is left out when it is excluded**, whatever paths are searched,
unless it is a directory, or a file stands at its own text although that is a pattern. -/
theorem not_mem_selected_of_excluded (he : e ∈ o.excludes)
    (hdirectory : t.isDirectory (Path.join root e) = false)
    (hm : m ∈ selected (o.onlyFor e) root t)
    (hfile : t.isFile (Path.join root e) = true →
      isPattern (Path.join root e) = false ∨ m = normalize (Path.join root e)) :
    m ∉ selected o root t := by
  obtain ⟨path, hpath, -, rfl, -⟩ := mem_selected.1 hm
  rw [candidates_onlyFor] at hpath
  have hexcluded : normalize path ∈ excluded o root t :=
    mem_excluded.2 ⟨e, he, candidatesAt_subset_exclusion hdirectory hpath hfile⟩
  intro hselected
  obtain ⟨-, -, -, -, hleft⟩ := mem_selected.1 hselected
  exact hleft hexcluded

/-- A module beside others, and a directory with a module in it. -/
def shelfTree : FileTree where
  entries := [(["a.py"], .file []), (["b.py"], .file []), (["pkg"], .directory),
    (["pkg", "a.py"], .file [])]
  current := []

/-- All modules at any depth but those that start with an a. -/
def shelfOptions : Options := { paths := ["**/*.py"], excludes := ["./a*"], recursive := true }

theorem not_mem_selected_of_excluded_star :
    "a.py" ∈ selected (shelfOptions.onlyFor "./a*") "" shelfTree ∧
      "a.py" ∉ selected shelfOptions "" shelfTree ∧
      selected shelfOptions "" shelfTree = ["b.py", "pkg/a.py"] := by
  have hselected : selected (shelfOptions.onlyFor "./a*") "" shelfTree = ["a.py"] :=
    selected_of_sorted (by decide +kernel) (by decide) (by decide)
  have hmem : "a.py" ∈ selected (shelfOptions.onlyFor "./a*") "" shelfTree := by
    rw [hselected]
    decide
  refine ⟨hmem, ?_, selected_of_sorted (by decide +kernel) (by decide) (by decide)⟩
  exact not_mem_selected_of_excluded (by decide) (by decide +kernel) hmem
    fun hfile => absurd hfile (by decide +kernel)

/-! ### Directories -/

theorem not_isFile_of_isDirectory (h : t.isDirectory path = true) : t.isFile path = false := by
  rw [Bool.eq_false_iff]
  intro hfile
  obtain ⟨l, content, hl, hcontent⟩ := FileTree.isFile_iff.1 hfile
  obtain ⟨l', hl', hdirectory⟩ := FileTree.isDirectory_iff.1 h
  cases hl.symm.trans hl'
  cases hcontent.symm.trans hdirectory

/-- A directory that is excluded by its path stands for no file. -/
theorem not_mem_exclusion_of_isFile (hdirectory : t.isDirectory (Path.join root e) = true)
    (hplain : isPattern (Path.join root e) = false) (hfile : t.isFile m = true) :
    m ∉ exclusion o root t e := by
  intro hmem
  rw [exclusion, if_neg (by simp [not_isFile_of_isDirectory hdirectory])] at hmem
  obtain ⟨path, hpath, rfl⟩ := List.mem_map.1 hmem
  obtain ⟨rfl, -⟩ := (contains_of_mem_expand hpath).resolve_left (by simp [hplain])
  obtain ⟨l, hl, hthere⟩ := FileTree.isDirectory_iff.1 hdirectory
  have hnormal : t.isDirectory (normalize (Path.join root e)) = true :=
    FileTree.isDirectory_iff.2 ⟨l, FileTree.locate_normalize hl, hthere⟩
  rw [not_isFile_of_isDirectory hnormal] at hfile
  cases hfile

/-- **Nothing is left out for a directory** that is excluded by its path. -/
theorem selected_of_excluded_directory (hdirectory : t.isDirectory (Path.join root e) = true)
    (hplain : isPattern (Path.join root e) = false) (es : List String) :
    selected { o with excludes := e :: es } root t = selected { o with excludes := es } root t := by
  refine inOrder_congr fun m => mem_inOrder.symm.trans (Iff.trans (?_ :
    m ∈ selected { o with excludes := e :: es } root t ↔ m ∈ selected { o with excludes := es } root t)
    mem_inOrder)
  rw [mem_selected, mem_selected]
  refine exists_congr fun path => and_congr Iff.rfl (and_congr_right fun hsource => and_congr_right ?_)
  rintro rfl
  have hmine : normalize path ∉ exclusion { o with excludes := e :: es } root t e :=
    not_mem_exclusion_of_isFile hdirectory hplain (isFile_normalize (isSource_iff.1 hsource).1)
  have hmem : normalize path ∈ excluded { o with excludes := e :: es } root t ↔
      normalize path ∈ exclusion { o with excludes := e :: es } root t e ∨
        normalize path ∈ excluded { o with excludes := es } root t := List.mem_append
  rw [hmem, or_iff_right hmine]

/-- A module in a directory, which is excluded. -/
def packageOptions : Options := { paths := ["pkg"], excludes := ["pkg"] }

/-- A file whose name is a pattern, beside a file that fits it. -/
def bracketTree : FileTree where
  entries := [(["a1.py"], .file []), (["a[1].py"], .file [])]
  current := []

/-- The file that fits, and the pattern excluded. -/
def bracketOptions : Options := { paths := ["a1.py"], excludes := ["a[1].py"] }

/-- A module in an excluded directory is selected, and so is one that fits an excluded pattern if
there is a file under the text of the pattern. -/
theorem selected_although_excluded :
    (selected (packageOptions.onlyFor "pkg") "" shelfTree = ["pkg/a.py"] ∧
      selected packageOptions "" shelfTree = ["pkg/a.py"]) ∧
    selected (bracketOptions.onlyFor "a[1].py") "" bracketTree = ["a1.py"] ∧
      selected bracketOptions "" bracketTree = ["a1.py"] := by
  refine ⟨⟨?_, ?_⟩, ?_, ?_⟩ <;> exact selected_of_sorted (by decide +kernel) (by decide) (by decide)

end Run

end ServiceStubs
