import Mathlib
import ServiceStubs.Proofs.Except
import ServiceStubs.Proofs.Files.WellFormed

/-!
# Trees that grow

Making directories and writing files under new names lets a tree grow: what stood there still does,
and files under other names keep their content. A path to a place that was there before leads there
in the grown tree only if it did before, as long as it does not climb from a new directory.

## Main definitions

* `FileTree.Grows`: what making directories and writing files changes
* `FileTree.Extends`: changes that keep a tree well-formed and let it grow
* `FileTree.ClimbsFromNew`: the paths that lead up from a new directory

## Main statements

* `FileTree.extends_makeDirectories`, `FileTree.extends_write`: the changes that let a tree grow
* `FileTree.Grows.locate_back`: where a path led before
-/

namespace ServiceStubs

namespace FileTree

open ServiceStubs.Path

/-- A place that bears a name of some kind. -/
def Bears (isNew : String → Prop) (l : Location) : Prop := ∃ d c, l = d ++ [c] ∧ isNew c

/-- What stood in a tree still does, and only files under new names are new or have another content.
-/
structure Grows (isNew : String → Prop) (t t' : FileTree) : Prop where
  current : t'.current = t.current
  directory : ∀ l, t.entry? l = some .directory → t'.entry? l = some .directory
  file : ∀ l content, t.entry? l = some (.file content) →
    ∃ content', t'.entry? l = some (.file content')
  fresh : ∀ l content, t'.entry? l = some (.file content) →
    t.entry? l = some (.file content) ∨ Bears isNew l

/-- A tree that is well-formed grows and stays well-formed. -/
def Extends (isNew : String → Prop) (t t' : FileTree) : Prop :=
  t.WellFormed → t'.WellFormed ∧ Grows isNew t t'

/-- A way through a tree that leads up from a directory which an earlier tree does not have. -/
def Climbs (t t' : FileTree) : Location → List String → Prop
  | _, [] => False
  | l, c :: cs => ∃ m, t'.step l c = .ok m ∧ ((c = ".." ∧ t.entry? l = none) ∨ Climbs t t' m cs)

instance decidableClimbs (t t' : FileTree) : ∀ l cs, Decidable (Climbs t t' l cs)
  | _, [] => .isFalse id
  | l, c :: cs =>
    match h : t'.step l c with
    | .error _ => .isFalse fun ⟨_, hstep, _⟩ => by rw [h] at hstep; cases hstep
    | .ok m =>
      have := decidableClimbs t t' m cs
      decidable_of_iff ((c = ".." ∧ t.entry? l = none) ∨ Climbs t t' m cs)
        ⟨fun hclimbs => ⟨m, h, hclimbs⟩, fun ⟨_, hstep, hclimbs⟩ => Except.ok.inj
          (h.symm.trans hstep) ▸ hclimbs⟩

/-- A path that leads up from a directory which is new in a tree. -/
def ClimbsFromNew (t t' : FileTree) (path : String) : Prop :=
  Climbs t t' (if isAbsolute path then [] else t'.current) (components path)

instance (t t' : FileTree) (path : String) : Decidable (ClimbsFromNew t t' path) :=
  inferInstanceAs (Decidable (Climbs _ _ _ _))

variable {isNew : String → Prop} {t t' t'' : FileTree} {l : Location} {e : Entry} {path c : String}

theorem not_climbs_of_step {cs : List String} {m : Location} (h : ¬Climbs t t' l (c :: cs))
    (hstep : t'.step l c = .ok m) : ¬Climbs t t' m cs := fun hrest => h ⟨m, hstep, .inr hrest⟩

/-- From a new directory only new places are reached without the way up. -/
theorem entry?_eq_none_of_follow {cs : List String} {l' : Location} (ht : t.WellFormed)
    (hnew : t.entry? l = none) (hclimbs : ¬Climbs t t' l cs) (h : cs.foldlM t'.step l = .ok l') :
    t.entry? l' = none := by
  induction cs generalizing l with
  | nil => exact Except.ok.inj h ▸ hnew
  | cons c cs ih =>
    obtain ⟨m, hstep, hrest⟩ := follow_cons.1 h
    refine ih ?_ (not_climbs_of_step hclimbs hstep) hrest
    obtain ⟨-, -, hm⟩ := step_eq_ok.1 hstep
    by_cases hc : isStep c = true
    · have hup : c ≠ ".." := fun hup => hclimbs ⟨m, hstep, .inl ⟨hup, hnew⟩⟩
      rw [List.filter_cons_of_pos hc, List.filter_nil, walk_singleton, walkStep_of_ne hup] at hm
      rw [← hm, Option.eq_none_iff_forall_ne_some]
      intro e he
      rw [(ht.parent_of_append he).1] at hnew
      cases hnew
    · rw [List.filter_cons_of_neg hc, List.filter_nil] at hm
      exact hm ▸ hnew

namespace Grows

theorem refl (t : FileTree) : Grows isNew t t :=
  ⟨rfl, fun _ => id, fun _ content h => ⟨content, h⟩, fun _ _ => .inl⟩

theorem trans (h : Grows isNew t t') (h' : Grows isNew t' t'') : Grows isNew t t'' where
  current := h'.current.trans h.current
  directory l hl := h'.directory l (h.directory l hl)
  file l content hl := by
    obtain ⟨content', hl'⟩ := h.file l content hl
    exact h'.file l content' hl'
  fresh l content hl := by
    rcases h'.fresh l content hl with hl | hnew
    · exact h.fresh l content hl
    · exact .inr hnew

theorem hasDirectories (h : Grows isNew t t') : t.HasDirectories t' := ⟨h.current, h.directory⟩

/-- What stands at a place is still of its kind. -/
theorem exists_entry? (h : Grows isNew t t') (hl : t.entry? l = some e) :
    ∃ e', t'.entry? l = some e' ∧ (e = .directory ↔ e' = .directory) := by
  cases e with
  | directory => exact ⟨.directory, h.directory l hl, Iff.rfl⟩
  | file content =>
    obtain ⟨content', hl'⟩ := h.file l content hl
    exact ⟨.file content', hl', by simp⟩

theorem directory_back (h : Grows isNew t t') (hl : t.entry? l = some e)
    (hl' : t'.entry? l = some .directory) : t.entry? l = some .directory := by
  obtain ⟨e', he', hkind⟩ := h.exists_entry? hl
  rw [hl'] at he'
  rw [hl, hkind.2 (Option.some.inj he').symm]

/-- Files under other names keep their content. -/
theorem file_back (h : Grows isNew t t') {content : List UInt8} (hnew : ¬Bears isNew l) :
    t.entry? l = some (.file content) ↔ t'.entry? l = some (.file content) := by
  constructor
  · intro hl
    obtain ⟨content', hl'⟩ := h.file l content hl
    rcases h.fresh l content' hl' with hl'' | hbears
    · rw [hl', ← hl, hl'']
    · exact absurd hbears hnew
  · exact fun hl' => (h.fresh l content hl').resolve_right hnew

/-- A path to a place that was there led there before, unless it climbs from a new directory. -/
theorem locate_back (h : Grows isNew t t') (ht : t.WellFormed) (hlocate : t'.locate path = .ok l)
    (hl : t.entry? l = some e) (hclimbs : ¬t.ClimbsFromNew t' path) : t.locate path = .ok l := by
  rw [locate_eq_ok] at hlocate ⊢
  rw [ClimbsFromNew, h.current] at hclimbs
  rw [h.current] at hlocate
  refine ⟨hlocate.1, ?_⟩
  obtain ⟨-, hfollow⟩ := hlocate
  generalize (if isAbsolute path then [] else t.current) = start at hfollow hclimbs ⊢
  generalize components path = cs at hfollow hclimbs
  induction cs generalizing start with
  | nil => exact hfollow
  | cons c cs ih =>
    obtain ⟨m, hstep, hrest⟩ := follow_cons.1 hfollow
    have hthere : t.entry? start ≠ none := fun hnew =>
      absurd (entry?_eq_none_of_follow ht hnew hclimbs hfollow) (by simp [hl])
    obtain ⟨hdirectory, hsize, hm⟩ := step_eq_ok.1 hstep
    obtain ⟨e', he'⟩ := Option.ne_none_iff_exists'.1 hthere
    have hstart := h.directory_back he' hdirectory
    exact follow_cons.2 ⟨m, step_eq_ok.2 ⟨hstart, hsize, hm⟩,
      ih m hrest (not_climbs_of_step hclimbs hstep)⟩

end Grows

theorem Extends.refl (t : FileTree) : Extends isNew t t := fun ht => ⟨ht, .refl t⟩

theorem Extends.trans (h : Extends isNew t t') (h' : Extends isNew t' t'') :
    Extends isNew t t'' := by
  intro ht
  obtain ⟨ht', hgrows⟩ := h ht
  obtain ⟨ht'', hgrows'⟩ := h' ht'
  exact ⟨ht'', hgrows.trans hgrows'⟩

/-! ### Putting something at a place -/

theorem entry?_insert (hne : l ≠ []) (l' : Location) :
    FileTree.entry? (t.insert l e) l' = if l' = l then some e else t.entry? l' := by
  by_cases hnil : l' = []
  · rw [hnil, if_neg (Ne.symm hne)]
    rfl
  · rw [entry?_of_ne _ hnil, entry?_of_ne _ hnil, insert, List.lookup_cons]
    by_cases heq : l' = l
    · rw [if_pos heq, heq, beq_self_eq_true]
    · rw [if_neg heq, beq_eq_false_iff_ne.2 heq]
      dsimp only
      rw [lookup_filter (fun x => x != l), if_pos (by simpa using heq)]

/-- The place that a path leads to is the root, or has a directory above it and a proper name. -/
theorem WellFormed.parent_of_locate (ht : t.WellFormed) (h : t.locate path = .ok l) {d : Location}
    (hl : l = d ++ [c]) : t.entry? d = some .directory ∧ IsEntryName c := by
  obtain ⟨-, hfollow⟩ := locate_eq_ok.1 h
  have hslash : ∀ c ∈ components path, '/' ∉ c.toList := fun c => notMem_of_mem_components
  rcases List.eq_nil_or_concat' (components path) with hnil | ⟨cs, last, hcs⟩
  · exact absurd hnil (components_ne_nil path)
  · rw [hcs, follow_concat] at hfollow
    rw [hcs] at hslash
    obtain ⟨m, -, hstep⟩ := hfollow
    obtain ⟨hdirectory, hsize, hm⟩ := step_eq_ok.1 hstep
    by_cases hlast : isStep last = true
    · rw [List.filter_cons_of_pos hlast, List.filter_nil, walk_singleton] at hm
      by_cases hup : last = ".."
      · -- The way up leads to a directory that something stands in.
        rw [hup, walkStep, if_pos (by decide), hl] at hm
        have hne : m ≠ [] := by
          rintro rfl
          simp at hm
        have habove : t.entry? (m.dropLast ++ [m.getLast hne]) = some .directory := by
          rwa [List.dropLast_append_getLast hne]
        have hparent := (ht.parent_of_append habove).1
        rw [hm] at hparent
        exact ht.parent_of_append hparent
      · rw [walkStep_of_ne hup, hl, List.append_singleton_inj] at hm
        obtain ⟨rfl, rfl⟩ := hm
        exact ⟨hdirectory, ⟨hlast, hup, hslash last (by simp)⟩, hsize hlast hup⟩
    · rw [List.filter_cons_of_neg hlast, List.filter_nil] at hm
      have hwalk : walk m [] = m := rfl
      rw [hwalk, hl] at hm
      rw [hm] at hdirectory
      exact ht.parent_of_append hdirectory

/-- Something new at a place in a directory keeps a tree well-formed. -/
theorem WellFormed.insert (ht : t.WellFormed) (hne : l ≠ [])
    (hparent : ∀ d c, l = d ++ [c] → t.entry? d = some .directory ∧ IsEntryName c)
    (hkind : t.entry? l = some .directory → e = .directory) : (t.insert l e).WellFormed := by
  have hdirectory {m : Location} (hm : t.entry? m = some .directory) :
      FileTree.entry? (t.insert l e) m = some .directory := by
    rw [entry?_insert hne]
    split
    · rename_i heq
      rw [hkind (heq ▸ hm)]
    · exact hm
  obtain ⟨d, c, rfl⟩ : ∃ d c, l = d ++ [c] :=
    ⟨l.dropLast, l.getLast hne, (List.dropLast_append_getLast hne).symm⟩
  refine ⟨?_, ?_, hdirectory ht.current⟩
  · have hkeys : (t.insert (d ++ [c]) e).entries.map (·.1) =
        (d ++ [c]) :: (t.entries.filter (·.1 != d ++ [c])).map (·.1) := rfl
    rw [hkeys, List.nodup_cons]
    refine ⟨?_, ht.nodup.sublist (List.filter_sublist.map _)⟩
    rw [List.mem_map]
    rintro ⟨e', he', heq⟩
    exact absurd heq (by simpa using (List.mem_filter.1 he').2)
  · intro e' he'
    have he' : e' = (d ++ [c], e) ∨ e' ∈ t.entries.filter (·.1 != d ++ [c]) := List.mem_cons.1 he'
    rcases he' with rfl | he'
    · obtain ⟨hd, hc⟩ := hparent d c rfl
      have hlast : ((d ++ [c]).getLast?.getD "") = c := by rw [List.getLast?_concat, Option.getD_some]
      dsimp only
      rw [List.dropLast_concat, hlast]
      exact ⟨hdirectory hd, hc⟩
    · obtain ⟨habove, hname⟩ := ht.parent e' (List.mem_filter.1 he').1
      exact ⟨hdirectory habove, hname⟩

theorem extends_makeDirectory (h : t.makeDirectory path = .ok t') : Extends isNew t t' := by
  intro ht
  rw [makeDirectory] at h
  cases hlocate : t.locate path with
  | error cause => rw [hlocate] at h; cases h
  | ok l =>
    rw [hlocate] at h
    by_cases hthere : (t.entry? l).isSome = true
    · simp [bind, Except.bind, hthere] at h
    · obtain rfl : t.insert l .directory = t' := by simpa [bind, Except.bind, hthere] using h
      rw [Option.not_isSome_iff_eq_none] at hthere
      have hne : l ≠ [] := by
        rintro rfl
        cases hthere
      refine ⟨ht.insert hne (fun d c hl => ht.parent_of_locate hlocate hl) fun _ => rfl, rfl,
        fun m hm => ?_, fun m content hm => ⟨content, ?_⟩, fun m content hm => ?_⟩
      · rw [entry?_insert hne]
        split
        · rfl
        · exact hm
      · rw [entry?_insert hne, if_neg]
        · exact hm
        · rintro rfl
          rw [hthere] at hm
          cases hm
      · rw [entry?_insert hne] at hm
        split at hm
        · cases hm
        · exact .inl hm

/-- Making a directory and those above it lets a tree grow. -/
theorem extends_makeDirectories (h : t.makeDirectories path = .ok t') : Extends isNew t t' := by
  induction hlength : path.length using Nat.strong_induction_on generalizing t t' path with
  | _ n ih =>
    rw [makeDirectories] at h
    generalize splitLast path = parts at h
    obtain ⟨head, tail⟩ := parts
    dsimp -zeta only at h
    extract_lets make at h
    have hmake : ∀ above, make above = .ok t' → Extends isNew above t' := by
      intro above hlast
      unfold make at hlast
      split at hlast
      · rename_i hmade
        cases hlast
        exact extends_makeDirectory hmade
      · split at hlast
        · cases hlast
          exact .refl _
        · cases hlast
    clear_value make
    split at h
    · rename_i hlt
      split at h
      · obtain ⟨above, habove, hlast⟩ := exists_of_bind h
        exact (ih _ (hlength ▸ hlt) habove rfl).trans (hmake above hlast)
      · exact hmake t h
    · exact hmake t h

/-- Writing a file under a new name lets a tree grow. -/
theorem extends_write {content : List UInt8} (hnew : Bears isNew (place t.current path))
    (h : t.write path content = .ok t') : Extends isNew t t' := by
  intro ht
  rw [write] at h
  cases hlocate : t.locate path with
  | error cause => rw [hlocate] at h; cases h
  | ok l =>
    rw [hlocate] at h
    rw [← locate_eq hlocate] at hnew
    by_cases hdirectory : t.entry? l = some .directory
    · simp [bind, Except.bind, hdirectory] at h
    · obtain rfl : t.insert l (.file content) = t' := by
        simpa [bind, Except.bind, hdirectory] using h
      have hne : l ≠ [] := by
        rintro rfl
        exact hdirectory rfl
      refine ⟨ht.insert hne (fun d c hl => ht.parent_of_locate hlocate hl) fun h => absurd h hdirectory,
        rfl, fun m hm => ?_, fun m content' hm => ?_, fun m content' hm => ?_⟩
      · rw [entry?_insert hne, if_neg]
        · exact hm
        · rintro rfl
          exact hdirectory hm
      · rw [entry?_insert hne]
        split
        · exact ⟨content, rfl⟩
        · exact ⟨content', hm⟩
      · rw [entry?_insert hne] at hm
        split at hm
        · rename_i heq
          exact .inr (heq ▸ hnew)
        · exact .inl hm

end FileTree

end ServiceStubs
