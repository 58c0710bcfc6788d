import Mathlib
import ServiceStubs.Files.Tree
import ServiceStubs.Proofs.Files.Components

/-!
# Where paths lead

A path that leads anywhere leads to a place that its text alone tells, given the current directory:
the tree only decides whether the path can be followed. So two trees with the same directories agree
on every path, and normalizing a path does not change where it leads.

## Main definitions

* `Path.place`: where a path leads if it can be followed
* `FileTree.SameDirectories`: trees with the same directories

## Main statements

* `FileTree.locate_eq`: a path that can be followed leads to its place
* `Path.place_normalize`, `FileTree.locate_normalize`: a normalized path leads to the same place
* `Path.steps_normalize_of_isAbsolute`: the steps of a normalized path from the root are its place
-/

namespace ServiceStubs

namespace Path

/-- Where a step leads from a place. -/
def walkStep (l : Location) (c : String) : Location :=
  if c == ".." then l.dropLast else l ++ [c]

/-- Where steps lead from a place. -/
def walk (l : Location) (cs : List String) : Location := cs.foldl walkStep l

/-- Where a path leads if it can be followed. -/
def place (current : Location) (path : String) : Location :=
  walk (if isAbsolute path then [] else current) (steps path)

theorem walk_append (l : Location) (cs ds : List String) :
    walk l (cs ++ ds) = walk (walk l cs) ds := List.foldl_append

theorem walk_singleton (l : Location) (c : String) : walk l [c] = walkStep l c := rfl

theorem walkStep_of_ne {c : String} (hc : c ≠ "..") (l : Location) : walkStep l c = l ++ [c] :=
  if_neg (by simpa using hc)

theorem walk_of_ne {cs : List String} (h : ∀ c ∈ cs, c ≠ "..") (l : Location) :
    walk l cs = l ++ cs := by
  induction cs generalizing l with
  | nil => rw [List.append_nil]; rfl
  | cons c cs ih =>
    rw [List.forall_mem_cons] at h
    rw [walk, List.foldl_cons, walkStep_of_ne h.1, ← walk, ih h.2, List.append_assoc]
    rfl

theorem place_join (current : Location) (base path : String) :
    place current (join base path) =
      if isAbsolute path then place current path else walk (place current base) (steps path) := by
  rw [place, isAbsolute_join, steps_join]
  by_cases h : isAbsolute path = true
  · rw [h, Bool.true_or, if_pos rfl, if_pos rfl, if_pos rfl, place, if_pos h]
  · rw [Bool.eq_false_iff.2 h, Bool.false_or, if_neg Bool.false_ne_true, if_neg Bool.false_ne_true,
      walk_append, place]

theorem place_directory (current : Location) (path : String) :
    place current path = walk (place current (directory path)) ([lastPart path].filter isStep) := by
  rw [place, place, isAbsolute_directory, steps_directory, walk_append]

/-! ### Normalized paths -/

theorem rootOf_bne_empty (path : String) : (rootOf path != "") = isAbsolute path := by
  rw [rootOf, isAbsolute]
  split <;> rename_i h
  · rw [h]; rfl
  · rw [h]; rfl
  · rw [h]; rfl
  · cases hcs : path.toList with
    | nil => rfl
    | cons c rest =>
      have hc : c ≠ '/' := fun heq => h rest (by rw [hcs, heq])
      simpa using hc

section AddComponent

variable {rooted : Bool} {done others : List String} {c last : String}

theorem addComponent_of_not_isStep (hc : ¬isStep c = true) :
    addComponent rooted done c = done := by
  rw [addComponent.eq_def, if_pos (by simpa using hc)]

theorem addComponent_of_ne (hc : isStep c = true) (hup : c ≠ "..") :
    addComponent rooted done c = c :: done := by
  rw [addComponent.eq_def, if_neg (by simp [hc]), if_pos (by simpa using hup)]

theorem addComponent_up_nil : addComponent rooted [] ".." = if rooted then [] else [".."] := rfl

theorem addComponent_up_up : addComponent rooted (".." :: others) ".." = ".." :: ".." :: others :=
  rfl

theorem addComponent_up_of_ne (h : last ≠ "..") :
    addComponent rooted (last :: others) ".." = others := by
  rw [addComponent.eq_def, if_neg (by decide), if_neg (by decide)]
  exact if_neg (by simpa using h)

end AddComponent

/-- The components that are left of a path, the last one first. -/
def kept (rooted : Bool) (cs : List String) : List String := cs.foldl (addComponent rooted) []

theorem kept_filter (rooted : Bool) (cs : List String) :
    kept rooted (cs.filter isStep) = kept rooted cs := by
  rw [kept, kept, List.foldl_filter]
  congr 1
  funext done c
  by_cases hc : isStep c = true
  · rw [if_pos hc]
  · rw [if_neg hc, addComponent_of_not_isStep hc]

theorem kept_concat (rooted : Bool) (cs : List String) (c : String) :
    kept rooted (cs ++ [c]) = addComponent rooted (kept rooted cs) c := by
  rw [kept, List.foldl_append]
  rfl

/-- What is left with one more component was left before, or is that component. It leads up from
the root only behind one that does. -/
theorem mem_addComponent {rooted : Bool} {done : List String} {c d : String}
    (h : d ∈ addComponent rooted done c) :
    d ∈ done ∨ (isStep c = true ∧ d = c ∧ (rooted = true → c = ".." → ".." ∈ done)) := by
  by_cases hc : isStep c = true
  · by_cases hup : c = ".."
    · subst hup
      cases done with
      | nil =>
        rw [addComponent_up_nil] at h
        split at h
        · cases h
        · rename_i hrooted
          exact .inr ⟨hc, List.mem_singleton.1 h, fun h' => absurd h' hrooted⟩
      | cons last others =>
        by_cases hlast : last = ".."
        · rw [hlast, addComponent_up_up, List.mem_cons] at h
          rcases h with rfl | h
          · exact .inl (by rw [hlast]; exact List.mem_cons_self)
          · exact .inl (by rwa [hlast])
        · rw [addComponent_up_of_ne hlast] at h
          exact .inl (List.mem_cons_of_mem _ h)
    · rw [addComponent_of_ne hc hup, List.mem_cons] at h
      rcases h with rfl | h
      · exact .inr ⟨hc, rfl, fun _ heq => absurd heq hup⟩
      · exact .inl h
  · rw [addComponent_of_not_isStep hc] at h
    exact .inl h

theorem mem_kept {rooted : Bool} {cs : List String} {d : String} (h : d ∈ kept rooted cs) :
    d ∈ cs ∧ isStep d = true := by
  induction cs using List.reverseRecOn with
  | nil => cases h
  | append_singleton cs c ih =>
    rw [kept_concat] at h
    rcases mem_addComponent h with h | ⟨hc, rfl, -⟩
    · exact ⟨List.mem_append_left _ (ih h).1, (ih h).2⟩
    · exact ⟨by simp, hc⟩

/-- No step of a normalized path from the root leads up. -/
theorem ne_up_of_mem_kept {cs : List String} {d : String} (h : d ∈ kept true cs) : d ≠ ".." := by
  induction cs using List.reverseRecOn generalizing d with
  | nil => cases h
  | append_singleton cs c ih =>
    rw [kept_concat] at h
    rcases mem_addComponent h with h | ⟨-, rfl, hup⟩
    · exact ih h
    · rintro rfl
      exact ih (hup rfl rfl) rfl

/-- The text of a normalized path. -/
theorem normalize_eq (path : String) :
    normalize path =
      if rootOf path ++ ofComponents (kept (isAbsolute path) (steps path)).reverse = "" then "."
      else rootOf path ++ ofComponents (kept (isAbsolute path) (steps path)).reverse := by
  rw [normalize, rootOf_bne_empty, steps, kept_filter, ← kept]
  simp only [beq_iff_eq]

theorem normalize_ne_empty (path : String) : normalize path ≠ "" := by
  rw [normalize_eq]
  split
  · decide
  · assumption

theorem isStep_of_mem_kept {path c : String}
    (h : c ∈ (kept (isAbsolute path) (steps path)).reverse) : isStep c = true ∧ '/' ∉ c.toList :=
  have hmem := mem_kept (List.mem_reverse.1 h)
  ⟨hmem.2, notMem_of_mem_steps hmem.1⟩

/-- A normalized path consists of steps, but for components at its start that are none: those before
slashes, or the dot for the current directory. -/
theorem components_normalize (path : String) :
    ∃ before, (∀ c ∈ before, c = "" ∨ (c = "." ∧ isAbsolute path = false)) ∧
      components (normalize path) = before ++ (kept (isAbsolute path) (steps path)).reverse := by
  have hrest : ∃ before, (∀ c ∈ before, c = "" ∨ (c = "." ∧ isAbsolute path = false)) ∧
      components (ofComponents (kept (isAbsolute path) (steps path)).reverse) =
        before ++ (kept (isAbsolute path) (steps path)).reverse := by
    by_cases hcs : (kept (isAbsolute path) (steps path)).reverse = []
    · exact ⟨[""], by simp, by rw [hcs]; decide⟩
    · exact ⟨[], by simp, components_ofComponents (fun c hc => (isStep_of_mem_kept hc).2) hcs⟩
  have hslash {s : String} {cs : List String} {P : String → Prop}
      (h : ∃ before, (∀ c ∈ before, c = "" ∨ P c) ∧ components s = before ++ cs) :
      ∃ before, (∀ c ∈ before, c = "" ∨ P c) ∧ components ("/" ++ s) = before ++ cs := by
    obtain ⟨before, hbefore, heq⟩ := h
    have hcons : components ("/" ++ s) = components "" ++ components s := by
      simpa using components_slash "" s
    exact ⟨"" :: before, List.forall_mem_cons.2 ⟨.inl rfl, hbefore⟩, by rw [hcons, heq]; rfl⟩
  rw [normalize_eq]
  split
  · rename_i hempty
    have hrelative : isAbsolute path = false := by
      rw [← rootOf_bne_empty, (String.append_eq_empty_iff.1 hempty).1]
      rfl
    refine ⟨["."], by simp [hrelative], ?_⟩
    by_cases hcs : (kept (isAbsolute path) (steps path)).reverse = []
    · rw [hcs]
      decide
    · have hnil := components_ofComponents (fun c hc => (isStep_of_mem_kept hc).2) hcs
      rw [(String.append_eq_empty_iff.1 hempty).2] at hnil
      have hmem : "" ∈ (kept (isAbsolute path) (steps path)).reverse := by
        rw [← hnil]
        decide
      exact absurd (isStep_of_mem_kept hmem).1 (by decide)
  · rw [rootOf]
    split
    · exact hslash hrest
    · have hslashes (s : String) : "//" ++ s = "/" ++ ("/" ++ s) := by
        rw [← String.append_assoc]
        rfl
      rw [hslashes]
      exact hslash (hslash hrest)
    · exact hslash hrest
    · rw [String.empty_append]
      exact hrest

theorem not_isStep_of_eq {c : String} {P : Prop} (h : c = "" ∨ (c = "." ∧ P)) : isStep c = false := by
  rcases h with rfl | ⟨rfl, -⟩
  · decide
  · decide

theorem steps_normalize (path : String) :
    steps (normalize path) = (kept (isAbsolute path) (steps path)).reverse := by
  obtain ⟨before, hbefore, heq⟩ := components_normalize path
  rw [steps, heq, List.filter_append,
    List.filter_eq_nil_iff.2 fun c hc => by simp [not_isStep_of_eq (hbefore c hc)], List.nil_append]
  exact List.filter_eq_self.2 fun c hc => (isStep_of_mem_kept hc).1

theorem isAbsolute_iff_head (path : String) :
    isAbsolute path = true ↔ ∃ rest, path.toList = '/' :: rest := by
  rw [isAbsolute, beq_iff_eq, List.head?_eq_some_iff]

theorem isAbsolute_ofComponents {cs : List String}
    (h : ∀ c ∈ cs, isStep c = true ∧ '/' ∉ c.toList) : isAbsolute (ofComponents cs) = false := by
  by_cases hne : cs = []
  · subst hne
    rfl
  · rw [Bool.eq_false_iff, Ne, isAbsolute_iff_head]
    rintro ⟨rest, hrest⟩
    have hcomponents : "" ∈ components (ofComponents cs) := by
      rw [components, hrest, Text.splitAt, if_pos (by rfl), List.map_cons]
      exact List.mem_cons_self
    rw [components_ofComponents (fun c hc => (h c hc).2) hne] at hcomponents
    exact absurd (h "" hcomponents).1 (by decide)

theorem isAbsolute_normalize (path : String) : isAbsolute (normalize path) = isAbsolute path := by
  have hcs : isAbsolute (ofComponents (kept (isAbsolute path) (steps path)).reverse) = false :=
    isAbsolute_ofComponents fun c hc => isStep_of_mem_kept hc
  have hroot := rootOf_bne_empty path
  rw [normalize_eq]
  by_cases habsolute : isAbsolute path = true
  · have hne : rootOf path ≠ "" := by simpa [habsolute] using hroot
    rw [if_neg fun h => hne (String.append_eq_empty_iff.1 h).1, isAbsolute_append, if_neg hne,
      habsolute, isAbsolute_iff_head]
    rw [rootOf] at hne ⊢
    split
    · exact ⟨[], rfl⟩
    · exact ⟨['/'], rfl⟩
    · exact ⟨[], rfl⟩
    · rename_i h _ _
      simp_all
  · have hempty : rootOf path = "" := by simpa [habsolute] using hroot
    rw [hempty, String.empty_append, Bool.eq_false_iff.2 habsolute]
    split
    · rfl
    · simpa [habsolute] using hcs

/-- What is left of steps leads where they lead. -/
theorem walk_kept {rooted : Bool} {l : Location} (hrooted : rooted = true → l = [])
    {cs : List String} (h : ∀ c ∈ cs, isStep c = true) :
    walk l (kept rooted cs).reverse = walk l cs := by
  induction cs using List.reverseRecOn with
  | nil => rfl
  | append_singleton cs c ih =>
    rw [List.forall_mem_append, List.forall_mem_singleton] at h
    have hstep (done : List String) :
        walk l (addComponent rooted done c).reverse = walkStep (walk l done.reverse) c := by
      by_cases hup : c = ".."
      · subst hup
        cases done with
        | nil =>
          cases rooted with
          | false => rfl
          | true => rw [hrooted rfl]; rfl
        | cons last others =>
          by_cases hlast : last = ".."
          · rw [hlast, addComponent_up_up, List.reverse_cons, walk_append, walk_singleton]
          · rw [addComponent_up_of_ne hlast, List.reverse_cons, walk_append, walk_singleton,
              walkStep_of_ne hlast, walkStep, if_pos (by rfl), List.dropLast_concat]
      · rw [addComponent_of_ne h.2 hup, List.reverse_cons, walk_append, walk_singleton]
    rw [kept_concat, hstep, ih h.1, walk_append, walk_singleton]

/-- **A normalized path leads to the same place.** -/
theorem place_normalize (current : Location) (path : String) :
    place current (normalize path) = place current path := by
  rw [place, isAbsolute_normalize, steps_normalize, place]
  refine walk_kept (fun h => ?_) fun c hc => isStep_of_mem_steps hc
  rw [if_pos h]

/-! ### Absolute paths -/

theorem isName_of_mem_normalize {path c : String} (h : isAbsolute path = true)
    (hc : c ∈ steps (normalize path)) : IsName c := by
  rw [steps_normalize] at hc
  have hstep := isStep_of_mem_kept hc
  rw [h] at hc
  exact ⟨hstep.1, ne_up_of_mem_kept (List.mem_reverse.1 hc), hstep.2⟩

theorem isAbsolute_root (s : String) : isAbsolute ("/" ++ s) = true := by
  rw [isAbsolute_append, if_neg (by decide)]
  rfl

theorem steps_root {cs : List String} (h : ∀ c ∈ cs, IsName c) :
    steps ("/" ++ ofComponents cs) = cs := by
  rw [← String.empty_append (s := "/"), steps_slash, steps_empty, List.nil_append,
    steps_ofComponents fun c hc => ⟨(h c hc).1, (h c hc).2.2⟩]

theorem place_root {cs : List String} (h : ∀ c ∈ cs, IsName c) (current : Location) :
    place current ("/" ++ ofComponents cs) = cs := by
  rw [place, if_pos (isAbsolute_root _), steps_root h, walk_of_ne fun c hc => (h c hc).2.1,
    List.nil_append]

/-- The steps of a normalized path from the root are its place. -/
theorem steps_normalize_of_isAbsolute {path : String} (h : isAbsolute path = true)
    (current : Location) : steps (normalize path) = place current path := by
  rw [← place_normalize, place, isAbsolute_normalize, if_pos h,
    walk_of_ne fun c hc => (isName_of_mem_normalize h hc).2.1, List.nil_append]

end Path

namespace FileTree

open ServiceStubs.Path

variable {t t' : FileTree} {l l' : Location} {c path : String} {cs : List String}

/-! ### Following paths -/

theorem entry?_of_ne (t : FileTree) (h : l ≠ []) : t.entry? l = t.entries.lookup l := by
  rw [FileTree.entry?, if_neg (by simpa using h)]

/-- What is found where only the entries at some places are kept. -/
theorem lookup_filter (p : Location → Bool) (entries : List (Location × Entry)) (l : Location) :
    (entries.filter fun e => p e.1).lookup l = if p l then entries.lookup l else none := by
  induction entries with
  | nil => rw [List.filter_nil, List.lookup_nil, ite_self]
  | cons e entries ih =>
    by_cases hl : l = e.1
    · subst hl
      by_cases hp : p e.1 = true
      · rw [List.filter_cons_of_pos (by simpa using hp), if_pos hp, List.lookup_cons, List.lookup_cons,
          beq_self_eq_true]
      · rw [List.filter_cons_of_neg (by simpa using hp), ih, if_neg hp, if_neg hp]
    · have hrest : (e :: entries).lookup l = entries.lookup l := by
        rw [List.lookup_cons, beq_eq_false_iff_ne.2 hl]
      rw [hrest, ← ih]
      by_cases hp : p e.1 = true
      · rw [List.filter_cons_of_pos (by simpa using hp), List.lookup_cons, beq_eq_false_iff_ne.2 hl]
      · rw [List.filter_cons_of_neg (by simpa using hp)]

/-- A step leads on from a directory, and no name is too long. -/
theorem step_eq_ok : t.step l c = .ok l' ↔
    t.entry? l = some .directory ∧ (isStep c = true → c ≠ ".." → c.utf8ByteSize ≤ maxNameSize) ∧
      walk l ([c].filter isStep) = l' := by
  rw [step]
  cases he : t.entry? l with
  | none => simp
  | some e =>
    cases e with
    | file content => simp
    | directory =>
      by_cases hc : isStep c = true
      · rw [List.filter_cons_of_pos hc, List.filter_nil, walk_singleton]
        by_cases hup : c = ".."
        · subst hup
          have hwalk : walkStep l ".." = l.dropLast := rfl
          simp [hc, hwalk]
        · rw [walkStep_of_ne hup]
          by_cases hsize : maxNameSize < c.utf8ByteSize
          · simp [hc, hup, hsize]
          · simp [hc, hup, hsize, Nat.le_of_not_lt hsize]
      · have hwalk : walk l [] = l := rfl
        simp [hc, hwalk]

theorem follow_concat : (cs ++ [c]).foldlM t.step l = .ok l' ↔
    ∃ m, cs.foldlM t.step l = .ok m ∧ t.step m c = .ok l' := by
  rw [List.foldlM_append]
  cases h : cs.foldlM t.step l with
  | error e => simp [bind, Except.bind]
  | ok m =>
    show t.step m c >>= pure = .ok l' ↔ _
    rw [bind_pure]
    simp

theorem follow_cons : (c :: cs).foldlM t.step l = .ok l' ↔
    ∃ m, t.step l c = .ok m ∧ cs.foldlM t.step m = .ok l' := by
  rw [List.foldlM_cons]
  cases h : t.step l c with
  | error e => simp [bind, Except.bind]
  | ok m => simp [bind, Except.bind]

theorem follow_eq (h : cs.foldlM t.step l = .ok l') : l' = walk l (cs.filter isStep) := by
  induction cs generalizing l with
  | nil => cases h; rfl
  | cons c cs ih =>
    obtain ⟨m, hstep, h⟩ := follow_cons.1 h
    rw [ih h, ← (step_eq_ok.1 hstep).2.2, ← walk_append, ← List.filter_append, List.singleton_append]

theorem locate_eq_ok : t.locate path = .ok l ↔
    path ≠ "" ∧ (components path).foldlM t.step (if isAbsolute path then [] else t.current) = .ok l := by
  rw [locate]
  by_cases h : path = ""
  · simp [h]
  · simp [h]

/-- **A path that can be followed leads to the place that its text tells.** -/
theorem locate_eq (h : t.locate path = .ok l) : l = place t.current path :=
  follow_eq (locate_eq_ok.1 h).2

theorem components_ne_nil (path : String) : components path ≠ [] := by
  simpa [components] using Text.splitAt_ne_nil '/' path.toList

/-- A path can only be followed from a directory. -/
theorem entry?_start (h : t.locate path = .ok l) :
    t.entry? (if isAbsolute path then [] else t.current) = some .directory := by
  obtain ⟨-, h⟩ := locate_eq_ok.1 h
  cases hcs : components path with
  | nil => exact absurd hcs (components_ne_nil path)
  | cons c cs =>
    rw [hcs] at h
    obtain ⟨m, hstep, -⟩ := follow_cons.1 h
    exact (step_eq_ok.1 hstep).1

/-! ### Trees with the same directories -/

/-- The directories of one tree are directories of another one. -/
def HasDirectories (t t' : FileTree) : Prop :=
  t'.current = t.current ∧ ∀ l, t.entry? l = some .directory → t'.entry? l = some .directory

/-- Two trees have the same directories. -/
def SameDirectories (t t' : FileTree) : Prop :=
  t'.current = t.current ∧ ∀ l, t.entry? l = some .directory ↔ t'.entry? l = some .directory

theorem HasDirectories.follow (h : t.HasDirectories t') (hcs : cs.foldlM t.step l = .ok l') :
    cs.foldlM t'.step l = .ok l' := by
  induction cs generalizing l with
  | nil => exact hcs
  | cons c cs ih =>
    obtain ⟨m, hstep, hcs⟩ := follow_cons.1 hcs
    obtain ⟨hdirectory, hrest⟩ := step_eq_ok.1 hstep
    exact follow_cons.2 ⟨m, step_eq_ok.2 ⟨h.2 l hdirectory, hrest⟩, ih hcs⟩

theorem HasDirectories.locate (h : t.HasDirectories t') (hl : t.locate path = .ok l) :
    t'.locate path = .ok l := by
  rw [locate_eq_ok] at hl ⊢
  rw [h.1]
  exact ⟨hl.1, h.follow hl.2⟩

theorem SameDirectories.hasDirectories (h : t.SameDirectories t') : t.HasDirectories t' :=
  ⟨h.1, fun l => (h.2 l).1⟩

theorem SameDirectories.symm (h : t.SameDirectories t') : t'.SameDirectories t :=
  ⟨h.1.symm, fun l => (h.2 l).symm⟩

theorem SameDirectories.locate_iff (h : t.SameDirectories t') :
    t.locate path = .ok l ↔ t'.locate path = .ok l :=
  ⟨h.hasDirectories.locate, h.symm.hasDirectories.locate⟩

/-! ### Looking -/

theorem find?_eq_some {e : Entry} :
    t.find? path = some e ↔ ∃ l, t.locate path = .ok l ∧ t.entry? l = some e := by
  rw [find?]
  cases h : t.locate path with
  | error cause => simp [Except.toOption]
  | ok l => simp [Except.toOption]

theorem isFile_iff : t.isFile path = true ↔
    ∃ l content, t.locate path = .ok l ∧ t.entry? l = some (.file content) := by
  have hfind : t.isFile path = true ↔ ∃ content, t.find? path = some (.file content) := by
    rw [isFile]
    cases h : t.find? path with
    | none => simp
    | some e => cases e <;> simp
  rw [hfind]
  simp only [find?_eq_some]
  exact exists_comm

theorem isDirectory_iff : t.isDirectory path = true ↔
    ∃ l, t.locate path = .ok l ∧ t.entry? l = some .directory := by
  rw [isDirectory, beq_iff_eq, find?_eq_some]

theorem contains_iff : t.contains path = true ↔
    ∃ l e, t.locate path = .ok l ∧ t.entry? l = some e := by
  rw [contains, Option.isSome_iff_exists]
  simp only [find?_eq_some]
  exact exists_comm

/-! ### Normalized paths -/

theorem follow_kept {rooted : Bool} (hrooted : rooted = true → l = [])
    (h : cs.foldlM t.step l = .ok l') : (kept rooted cs).reverse.foldlM t.step l = .ok l' := by
  induction cs using List.reverseRecOn generalizing l' with
  | nil => exact h
  | append_singleton cs c ih =>
    obtain ⟨m, hm, hstep⟩ := follow_concat.1 h
    have ih := ih hm
    rw [kept_concat]
    by_cases hc : isStep c = true
    · by_cases hup : c = ".."
      · subst hup
        cases hdone : kept rooted cs with
        | nil =>
          rw [hdone] at ih
          cases ih
          cases rooted with
          | false => exact follow_cons.2 ⟨l', hstep, rfl⟩
          | true =>
            rw [← (step_eq_ok.1 hstep).2.2, hrooted rfl]
            exact rfl
        | cons last others =>
          rw [hdone, List.reverse_cons] at ih
          by_cases hlast : last = ".."
          · rw [hlast, addComponent_up_up, List.reverse_cons, List.reverse_cons]
            rw [hlast] at ih
            exact follow_concat.2 ⟨m, ih, hstep⟩
          · -- The step back undoes the last name, and the names before it could be followed.
            obtain ⟨k, hk, hname⟩ := follow_concat.1 ih
            have hlastKept : last ∈ kept rooted cs := by
              rw [hdone]
              exact List.mem_cons_self
            have hlastStep : isStep last = true := (mem_kept hlastKept).2
            have hback : l' = k := by
              rw [← (step_eq_ok.1 hstep).2.2, ← (step_eq_ok.1 hname).2.2,
                List.filter_cons_of_pos hlastStep, List.filter_nil, walk_singleton,
                walkStep_of_ne hlast]
              exact List.dropLast_concat
            rw [addComponent_up_of_ne hlast, hback]
            exact hk
      · rw [addComponent_of_ne hc hup, List.reverse_cons]
        exact follow_concat.2 ⟨m, ih, hstep⟩
    · rw [addComponent_of_not_isStep hc, ih, ← (step_eq_ok.1 hstep).2.2, List.filter_cons_of_neg hc,
        List.filter_nil]
      rfl

/-- Components that are no steps lead nowhere else. -/
theorem follow_skip {before : List String} (hbefore : ∀ c ∈ before, isStep c = false)
    (hstart : t.entry? l = some .directory) :
    (before ++ cs).foldlM t.step l = cs.foldlM t.step l := by
  induction before with
  | nil => rfl
  | cons c before ih =>
    rw [List.forall_mem_cons] at hbefore
    have hstep : t.step l c = .ok l := by
      rw [step_eq_ok, List.filter_cons_of_neg (by simp [hbefore.1])]
      exact ⟨hstart, fun hc => absurd hc (by simp [hbefore.1]), rfl⟩
    rw [List.cons_append, List.foldlM_cons, hstep]
    exact ih hbefore.2

/-- **A normalized path can be followed if the path can be.** -/
theorem locate_normalize (h : t.locate path = .ok l) : t.locate (normalize path) = .ok l := by
  obtain ⟨before, hbefore, heq⟩ := components_normalize path
  have hfollow := (locate_eq_ok.1 h).2
  rw [locate_eq_ok, isAbsolute_normalize, heq,
    follow_skip (fun c hc => not_isStep_of_eq (hbefore c hc)) (entry?_start h), steps, kept_filter]
  exact ⟨normalize_ne_empty path, follow_kept (fun habsolute => if_pos habsolute) hfollow⟩

end FileTree

end ServiceStubs
