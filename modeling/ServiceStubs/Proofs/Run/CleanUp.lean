import Mathlib
import ServiceStubs.Proofs.Files.Place
import ServiceStubs.Proofs.Run.Action
import ServiceStubs.Run.Plan

/-!
# Cleaning up

A run removes the files that its patterns stand for, and nothing else. The paths are found before
any of them is removed, and removing a file does not change where another path leads, so each of the
files is removed whatever their order.

## Main definitions

* `FileTree.without`: a tree without what stands at some places
* `Run.cleaned`: a tree without the files to clean up

## Main statements

* `Run.cleanUp_apply`: the removal always succeeds
-/

namespace ServiceStubs

namespace FileTree

/-- The tree without what stands at some places. -/
def without (t : FileTree) (gone : List Location) : FileTree :=
  { t with entries := t.entries.filter fun e => !gone.contains e.1 }

variable {t : FileTree} {gone : List Location} {l : Location} {path : String}

theorem without_nil (t : FileTree) : t.without [] = t := by
  rw [without]
  congr 1
  exact List.filter_eq_self.2 fun e _ => rfl

theorem erase_without (t : FileTree) (gone : List Location) (l : Location) :
    (t.without gone).erase l = t.without (gone ++ [l]) := by
  rw [without, without, erase]
  congr 1
  rw [List.filter_filter]
  refine List.filter_congr fun e _ => ?_
  by_cases he : e.1 = l
  · simp [he]
  · simp [he]

theorem entry?_without (h : [] ∉ gone) :
    FileTree.entry? (t.without gone) l = if l ∈ gone then none else t.entry? l := by
  by_cases hl : l = []
  · rw [hl, if_neg h]
    rfl
  · rw [entry?_of_ne _ hl, entry?_of_ne _ hl, without, lookup_filter (fun l => !gone.contains l)]
    by_cases hgone : l ∈ gone
    · rw [if_pos hgone, if_neg (by simpa using hgone)]
    · rw [if_neg hgone, if_pos (by simpa using hgone)]

/-- Only files stand at some places. -/
def HasFiles (t : FileTree) (places : List Location) : Prop :=
  ∀ l ∈ places, ∃ content, t.entry? l = some (.file content)

theorem HasFiles.nil_notMem (h : t.HasFiles gone) : [] ∉ gone := by
  intro hmem
  obtain ⟨content, hcontent⟩ := h [] hmem
  cases hcontent

/-- Without some files, every path leads where it led. -/
theorem HasFiles.sameDirectories (h : t.HasFiles gone) : t.SameDirectories (t.without gone) := by
  refine ⟨rfl, fun l => ?_⟩
  rw [entry?_without h.nil_notMem]
  split
  · rename_i hmem
    obtain ⟨content, hcontent⟩ := h l hmem
    simp [hcontent]
  · rfl

/-- Without some files, a path leads to a file if it did and that file is still there. -/
theorem HasFiles.isFile_without (h : t.HasFiles gone) :
    (t.without gone).isFile path = true ↔
      ∃ l content, t.locate path = .ok l ∧ t.entry? l = some (.file content) ∧ l ∉ gone := by
  rw [isFile_iff]
  refine exists_congr fun l => exists_congr fun content => ?_
  rw [← h.sameDirectories.locate_iff, entry?_without h.nil_notMem]
  split <;> simp_all

end FileTree

namespace Run

variable {o : Options} {root : String} {t : FileTree}

/-- Where the files among some paths stand. -/
def filePlaces (t : FileTree) (paths : List String) : List Location :=
  paths.filterMap fun path => if t.isFile path then (t.locate path).toOption else none

/-- The tree without the files to clean up. -/
def cleaned (o : Options) (root : String) (t : FileTree) : FileTree :=
  t.without (filePlaces t (cleanUpPaths o root t))

theorem mem_filePlaces {paths : List String} {l : Location} :
    l ∈ filePlaces t paths ↔ ∃ path ∈ paths, t.isFile path = true ∧ t.locate path = .ok l := by
  rw [filePlaces, List.mem_filterMap]
  refine exists_congr fun path => and_congr_right fun _ => ?_
  by_cases hfile : t.isFile path = true
  · rw [if_pos hfile]
    cases t.locate path with
    | error e => simp [Except.toOption]
    | ok l' => simp [Except.toOption, hfile]
  · rw [if_neg hfile]
    simp [hfile]

theorem hasFiles_filePlaces (t : FileTree) (paths : List String) :
    t.HasFiles (filePlaces t paths) := by
  intro l hl
  obtain ⟨path, -, hfile, hlocate⟩ := mem_filePlaces.1 hl
  obtain ⟨l', content, hlocate', hcontent⟩ := FileTree.isFile_iff.1 hfile
  rw [hlocate] at hlocate'
  cases hlocate'
  exact ⟨content, hcontent⟩

theorem filePlaces_concat (t : FileTree) (paths : List String) (path : String) :
    filePlaces t (paths ++ [path]) =
      filePlaces t paths ++ if t.isFile path then (t.locate path).toOption.toList else [] := by
  rw [filePlaces, List.filterMap_append, ← filePlaces]
  congr 1
  by_cases hfile : t.isFile path = true
  · simp only [List.filterMap_cons, List.filterMap_nil, if_pos hfile]
    cases (t.locate path).toOption <;> rfl
  · simp only [List.filterMap_cons, List.filterMap_nil, if_neg hfile]

/-- Removing once more what is removed changes nothing. -/
theorem without_concat_of_mem {gone : List Location} {l : Location} (h : l ∈ gone) :
    t.without (gone ++ [l]) = t.without gone := by
  rw [FileTree.without, FileTree.without]
  congr 1
  refine List.filter_congr fun e _ => ?_
  rw [List.contains_append]
  by_cases he : e.1 = l
  · simp [he, h]
  · simp [he]

theorem remove_of_file {path : String} {l : Location} {content : List UInt8}
    (hlocate : t.locate path = .ok l) (hcontent : t.entry? l = some (.file content)) :
    t.remove path = .ok (t.erase l) := by
  rw [FileTree.remove, hlocate]
  simp only [bind, Except.bind, hcontent]

/-- **Cleaning up succeeds, removes the files it is asked to remove, and starts no tool.** -/
theorem cleanUp_apply (o : Options) (root : String) (s : Session) :
    ∃ lines, cleanUp o root s = (.ok (), ⟨cleaned o root s.tree, lines, s.commands⟩) := by
  -- Of the paths that were looked at, the files are gone.
  have hloop : ∃ s', cleanUp o root s = (.ok (), s') ∧
      s'.tree = s.tree.without (filePlaces s.tree (cleanUpPaths o root s.tree)) ∧
        s'.commands = s.commands := by
    rw [cleanUp, bind_of_ok (get_apply s)]
    refine forIn_of_step (I := fun before s' => s'.tree = s.tree.without (filePlaces s.tree before) ∧
      s'.commands = s.commands) ⟨(FileTree.without_nil s.tree).symm, rfl⟩ fun before path s₁ hI => ?_
    obtain ⟨htree, hcommands⟩ := hI
    have hfiles := hasFiles_filePlaces s.tree before
    rw [bind_of_ok (get_apply s₁), filePlaces_concat]
    by_cases hfile : s₁.tree.isFile path = true
    · rw [if_pos hfile, bind_of_ok (log_apply ..)]
      rw [htree, hfiles.isFile_without] at hfile
      obtain ⟨l, content, hlocate, hcontent, hl⟩ := hfile
      have hthere : s.tree.isFile path = true := FileTree.isFile_iff.2 ⟨l, content, hlocate, hcontent⟩
      have hremove : s₁.tree.remove path = .ok (s.tree.without (filePlaces s.tree before ++ [l])) := by
        have hstill : FileTree.entry? (s.tree.without (filePlaces s.tree before)) l =
            some (.file content) := by
          rw [FileTree.entry?_without hfiles.nil_notMem, if_neg hl, hcontent]
        rw [htree, ← FileTree.erase_without]
        exact remove_of_file (hfiles.sameDirectories.locate_iff.1 hlocate) hstill
      rw [if_pos hthere, hlocate]
      exact ⟨_, bind_of_ok (change_of_ok hremove), rfl, hcommands⟩
    · rw [if_neg hfile]
      refine ⟨s₁, rfl, ?_, hcommands⟩
      rw [htree, hfiles.isFile_without] at hfile
      rw [htree]
      by_cases hthere : s.tree.isFile path = true
      · -- The path was a file once, so it is another path to a file that is gone.
        obtain ⟨l, content, hlocate, hcontent⟩ := FileTree.isFile_iff.1 hthere
        have hgone : l ∈ filePlaces s.tree before := by
          by_contra hl
          exact hfile ⟨l, content, hlocate, hcontent, hl⟩
        rw [if_pos hthere, hlocate]
        exact (without_concat_of_mem hgone).symm
      · rw [if_neg hthere, List.append_nil]
  obtain ⟨s', happly, htree, hcommands⟩ := hloop
  refine ⟨s'.log, ?_⟩
  rw [happly, cleaned, ← htree, ← hcommands]

end Run

end ServiceStubs
