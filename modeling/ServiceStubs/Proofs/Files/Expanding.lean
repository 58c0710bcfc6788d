import Mathlib
import ServiceStubs.Files.Glob
import ServiceStubs.Proofs.Files.Growth

/-!
# What patterns stand for

The paths that a pattern stands for lead somewhere. Whether a path is among them depends only on
what stands where it leads and where its directories lead: two trees that agree on that agree on the
path.

## Main definitions

* `FileTree.Carries`: another tree agrees on the paths of some kind

## Main statements

* `FileTree.WellFormed.mem_inside_iff`: what stands inside a directory
* `FileTree.Carries.mem_expandFrom`: what a pattern stands for in one tree it stands for in another
-/

namespace ServiceStubs

namespace FileTree

open ServiceStubs.Path

variable {t t' : FileTree} {l rest rest' : Location} {e : Entry} {path d c : String}
  {recursive onlyDirectories : Bool}

/-! ### Inside a directory -/

theorem below?_eq_some : below? l rest = some rest' ↔ rest = l ++ rest' := by
  induction l generalizing rest with
  | nil => rw [below?]; simp
  | cons a l ih =>
    cases rest with
    | nil => simp [below?]
    | cons b rest =>
      rw [below?]
      by_cases hab : a = b
      · rw [if_pos (by simpa using hab), ih, hab, List.cons_append, List.cons.injEq]
        simp
      · rw [if_neg (by simpa using hab), List.cons_append, List.cons.injEq]
        simp [Ne.symm hab]

theorem mem_below_iff (t : FileTree) (l : Location) :
    (rest, e) ∈ t.below l ↔ rest ≠ [] ∧ (l ++ rest, e) ∈ t.entries := by
  rw [below, List.mem_filterMap]
  constructor
  · rintro ⟨⟨m, e'⟩, hmem, h⟩
    dsimp only at h
    split at h
    · rename_i name rest' hbelow
      cases h
      rw [below?_eq_some] at hbelow
      exact ⟨List.cons_ne_nil _ _, hbelow ▸ hmem⟩
    · cases h
  · rintro ⟨hne, hmem⟩
    refine ⟨(l ++ rest, e), hmem, ?_⟩
    dsimp only
    rw [below?_eq_some.2 rfl]
    cases rest with
    | nil => exact absurd rfl hne
    | cons name rest => rfl

/-- What stands inside the directory that a path leads to. -/
theorem WellFormed.mem_inside_iff (ht : t.WellFormed) :
    (rest, e) ∈ t.inside d ↔ ∃ l, t.locate (directoryPath d) = .ok l ∧
      t.entry? l = some .directory ∧ rest ≠ [] ∧ t.entry? (l ++ rest) = some e := by
  rw [inside, ← directoryPath]
  cases hlocate : t.locate (directoryPath d) with
  | error cause => simp
  | ok l =>
    dsimp only
    by_cases hdirectory : t.entry? l = some .directory
    · rw [if_pos (by simpa using hdirectory), mem_below_iff]
      constructor
      · rintro ⟨hne, hmem⟩
        exact ⟨l, rfl, hdirectory, hne, (ht.mem_entries_iff (by simp [hne])).1 hmem⟩
      · rintro ⟨m, hm, -, hne, hentry⟩
        obtain rfl : l = m := Except.ok.inj hm
        exact ⟨hne, (ht.mem_entries_iff (by simp [hne])).2 hentry⟩
    · rw [if_neg (by simpa using hdirectory)]
      constructor
      · intro h
        cases h
      · rintro ⟨m, hm, hdirectory', -⟩
        obtain rfl : l = m := Except.ok.inj hm
        exact absurd hdirectory' hdirectory

theorem mem_names_iff {name : String} : (name, e) ∈ t.names d ↔ ([name], e) ∈ t.inside d := by
  rw [names, List.mem_filterMap]
  constructor
  · rintro ⟨⟨m, e'⟩, hmem, h⟩
    dsimp only at h
    split at h
    · cases h
      exact hmem
    · cases h
  · exact fun hmem => ⟨_, hmem, rfl⟩

/-! ### Looking from a directory -/

theorem directoryPath_of_ne (h : path ≠ "") : directoryPath path = path :=
  if_neg (by simpa using h)

theorem isDirectory_iff_of_ne : t.isDirectory path = true ↔
    path ≠ "" ∧ ∃ l, t.locate (directoryPath path) = .ok l ∧ t.entry? l = some .directory := by
  rw [isDirectory_iff]
  constructor
  · rintro ⟨l, hl, hdirectory⟩
    have hne := (locate_eq_ok.1 hl).1
    exact ⟨hne, l, by rwa [directoryPath_of_ne hne], hdirectory⟩
  · rintro ⟨hne, l, hl, hdirectory⟩
    rw [directoryPath_of_ne hne] at hl
    exact ⟨l, hl, hdirectory⟩

theorem contains_iff_of_ne : t.contains path = true ↔
    path ≠ "" ∧ ∃ l e, t.locate (directoryPath path) = .ok l ∧ t.entry? l = some e := by
  rw [contains_iff]
  constructor
  · rintro ⟨l, e, hl, he⟩
    have hne := (locate_eq_ok.1 hl).1
    exact ⟨hne, l, e, by rwa [directoryPath_of_ne hne], he⟩
  · rintro ⟨hne, l, e, hl, he⟩
    rw [directoryPath_of_ne hne] at hl
    exact ⟨l, e, hl, he⟩

/-- Slashes at the end of a path do not matter where a directory is asked for. -/
theorem isDirectory_directory (hlast : lastPart path = "") :
    t.isDirectory (Path.directory path) = t.isDirectory path := by
  obtain ⟨head, hpath, -, hdirectory⟩ := exists_split path
  obtain ⟨n, hn⟩ := exists_dropFinalSlashes head
  rw [hlast, String.toList_empty, List.append_nil] at hpath
  have heq : path = String.ofList (dropFinalSlashes head ++ List.replicate n '/') := by
    rw [← hn, ← String.toList_inj, String.toList_ofList, hpath]
  have hcomponents : components path = components (Path.directory path) ++ List.replicate n "" := by
    rw [hdirectory, ← components_append_slashes, ← heq]
  have hempty : Path.directory path ≠ "" ↔ path ≠ "" := by
    rw [not_iff_not, ← String.toList_eq_nil_iff, ← String.toList_eq_nil_iff, hpath, hdirectory,
      String.toList_ofList, dropFinalSlashes_eq]
    split
    · rfl
    · rename_i hkept
      exact ⟨fun hnil => absurd hnil hkept, fun hnil => absurd (by rw [hnil]; rfl) hkept⟩
  have hslashes : ∀ c ∈ List.replicate n "", isStep c = false := fun c hc => by
    rw [List.eq_of_mem_replicate hc]
    decide
  rw [Bool.eq_iff_iff, isDirectory_iff, isDirectory_iff]
  refine exists_congr fun l => ?_
  rw [locate_eq_ok, locate_eq_ok, isAbsolute_directory, hempty, hcomponents, follow_append]
  constructor
  · rintro ⟨⟨hne, hl⟩, he⟩
    have hskip : (List.replicate n "" ++ []).foldlM t.step l = .ok l := follow_skip hslashes he
    rw [List.append_nil] at hskip
    exact ⟨⟨hne, l, hl, hskip⟩, he⟩
  · rintro ⟨⟨hne, m, hm, hl⟩, he⟩
    have hsame : l = m := by
      rw [follow_eq hl, List.filter_eq_nil_iff.2 fun c hc => by simp [hslashes c hc]]
      rfl
    exact ⟨⟨hne, hsame ▸ hm⟩, he⟩

theorem mem_expandFrom_of_not_isPattern {pattern : String}
    (h : ¬NamePattern.isPattern pattern = true) :
    path ∈ t.expandFrom recursive onlyDirectories pattern ↔ path = pattern ∧
      (if lastPart pattern = "" then t.isDirectory pattern else t.contains pattern) = true := by
  rw [expandFrom]
  dsimp only
  rw [if_pos (by simp [h])]
  have hthere : (if lastPart pattern == "" then t.isDirectory (Path.directory pattern)
      else t.contains pattern) =
        if lastPart pattern = "" then t.isDirectory pattern else t.contains pattern := by
    by_cases hlast : lastPart pattern = ""
    · rw [if_pos (by simpa using hlast), if_pos hlast, isDirectory_directory hlast]
    · rw [if_neg (by simpa using hlast), if_neg hlast]
  rw [hthere]
  generalize (if lastPart pattern = "" then t.isDirectory pattern else t.contains pattern) = there
  cases there <;> simp

theorem ofComponents_singleton (c : String) : ofComponents [c] = c := by
  rw [ofComponents, ← String.toList_inj, String.toList_intercalate, List.map_singleton,
    List.intercalate_singleton]

theorem mem_visibleInside_iff : c ∈ t.visibleInside d onlyDirectories ↔
    (c = "" ∧ (d = "" ∨ t.isDirectory d = true)) ∨
      ∃ rest e, (rest, e) ∈ t.inside d ∧ (onlyDirectories = true → e = .directory) ∧
        (rest.all fun name => !isHidden name) = true ∧ ofComponents rest = c := by
  rw [visibleInside, List.mem_append, List.mem_map]
  refine or_congr ?_ ?_
  · by_cases hd : d = "" ∨ t.isDirectory d = true
    · rw [if_pos (by simpa using hd), List.mem_singleton, and_iff_left hd]
    · rw [if_neg (by simpa using hd)]
      simp [hd]
  · simp only [List.mem_filter, Bool.and_eq_true, Bool.or_eq_true, Bool.not_eq_true', beq_iff_eq]
    constructor
    · rintro ⟨⟨rest, e⟩, ⟨hmem, hkind, hvisible⟩, rfl⟩
      exact ⟨rest, e, hmem, fun honly => hkind.resolve_left (by simp [honly]), hvisible, rfl⟩
    · rintro ⟨rest, e, hmem, hkind, hvisible, rfl⟩
      refine ⟨(rest, e), ⟨hmem, ?_, hvisible⟩, rfl⟩
      by_cases honly : onlyDirectories = true
      · exact .inr (hkind honly)
      · exact .inl (by simpa using honly)

theorem mem_fittingNames_iff {pattern : String} : c ∈ t.fittingNames d onlyDirectories pattern ↔
    ∃ e, ([c], e) ∈ t.inside d ∧ (onlyDirectories = true → e = .directory) ∧
      ((isHidden pattern || !isHidden c) && NamePattern.fits pattern c) = true := by
  rw [fittingNames, List.mem_filter, List.mem_map]
  simp only [List.mem_filter, Bool.or_eq_true (!onlyDirectories), Bool.not_eq_true', beq_iff_eq]
  constructor
  · rintro ⟨⟨⟨name, e⟩, ⟨hmem, hkind⟩, rfl⟩, hfits⟩
    exact ⟨e, mem_names_iff.1 hmem, fun honly => hkind.resolve_left (by simp [honly]), hfits⟩
  · rintro ⟨e, hmem, hkind, hfits⟩
    refine ⟨⟨(c, e), ⟨mem_names_iff.2 hmem, ?_⟩, rfl⟩, hfits⟩
    by_cases honly : onlyDirectories = true
    · exact .inr (hkind honly)
    · exact .inl (by simpa using honly)

/-! ### What patterns stand for is there -/

/-- A relative path leads somewhere from a directory. -/
def LeadsFrom (t : FileTree) (d c : String) : Prop :=
  isAbsolute c = false ∧ ∃ l e, t.locate (directoryPath (join d c)) = .ok l ∧ t.entry? l = some e

theorem WellFormed.leadsFrom_of_mem_inside (ht : t.WellFormed) (h : (rest, e) ∈ t.inside d) :
    t.LeadsFrom d (ofComponents rest) := by
  obtain ⟨l, hl, -, hne, he⟩ := ht.mem_inside_iff.1 h
  have hlocate := ht.locate_inside hl hne he
  have hnames := (ht.entry?_of_append hne he).2
  refine ⟨isAbsolute_ofComponents fun c hc => ⟨(hnames c hc).1.1, (hnames c hc).1.2.2⟩, l ++ rest, e,
    ?_, he⟩
  rwa [directoryPath_of_ne (locate_eq_ok.1 hlocate).1]

theorem WellFormed.leadsFrom_empty (ht : t.WellFormed) (h : d = "" ∨ t.isDirectory d = true) :
    t.LeadsFrom d "" := by
  refine ⟨by decide, ?_⟩
  by_cases hd : d = ""
  · subst hd
    have hjoin : join "" "" = "" := join_empty ""
    have hdot : directoryPath "" = "." := rfl
    refine ⟨t.current, .directory, ?_, ht.current⟩
    rw [hjoin, hdot, locate_eq_ok]
    refine ⟨by decide, follow_cons.2 ⟨t.current, step_eq_ok.2 ⟨ht.current, ?_, rfl⟩, rfl⟩⟩
    exact fun h => absurd h (by decide)
  · obtain ⟨l, hl, hdirectory⟩ := isDirectory_iff.1 (h.resolve_left hd)
    have hjoin := (locate_join_empty hd).2 ⟨hl, hdirectory⟩
    refine ⟨l, .directory, ?_, hdirectory⟩
    rwa [directoryPath_of_ne (locate_eq_ok.1 hjoin).1]

theorem WellFormed.leadsFrom_of_mem_expandIn (ht : t.WellFormed) {component : String}
    (hcomponent : '/' ∉ component.toList)
    (h : c ∈ t.expandIn recursive onlyDirectories d component) : t.LeadsFrom d c := by
  rw [expandIn] at h
  split at h
  · split at h
    · rcases mem_visibleInside_iff.1 h with ⟨rfl, hd⟩ | ⟨rest, e, hmem, -, -, rfl⟩
      · exact ht.leadsFrom_empty hd
      · exact ht.leadsFrom_of_mem_inside hmem
    · obtain ⟨e, hmem, -, -⟩ := mem_fittingNames_iff.1 h
      exact ofComponents_singleton c ▸ ht.leadsFrom_of_mem_inside hmem
  · split at h
    · split at h
      · rename_i hd
        rw [List.mem_singleton.1 h]
        exact ht.leadsFrom_empty (.inr hd)
      · cases h
    · split at h
      · rename_i hthere
        rw [List.mem_singleton.1 h]
        exact ⟨isAbsolute_of_notMem hcomponent, (contains_iff_of_ne.1 hthere).2⟩
      · cases h

/-! ### Trees that agree -/

/-- Another tree agrees on the paths of some kind: where they lead and whether a directory stands
there. With a path, those to its directories are of that kind. -/
structure Carries (Q : String → Prop) (t t' : FileTree) : Prop where
  directory : ∀ d c, t.LeadsFrom d c → Q (join d c) → Q d
  entry : ∀ path l e, Q path → t.locate (directoryPath path) = .ok l → t.entry? l = some e →
    t'.locate (directoryPath path) = .ok l ∧
      ∃ e', t'.entry? l = some e' ∧ (e = .directory ↔ e' = .directory)

namespace Carries

variable {Q : String → Prop}

theorem isDirectory (h : Carries Q t t') (hpath : Q path) (hdirectory : t.isDirectory path = true) :
    t'.isDirectory path = true := by
  obtain ⟨hne, l, hl, he⟩ := isDirectory_iff_of_ne.1 hdirectory
  obtain ⟨hl', e', he', hkind⟩ := h.entry path l _ hpath hl he
  exact isDirectory_iff_of_ne.2 ⟨hne, l, hl', by rw [he', hkind.1 rfl]⟩

theorem contains (h : Carries Q t t') (hpath : Q path) (hthere : t.contains path = true) :
    t'.contains path = true := by
  obtain ⟨hne, l, e, hl, he⟩ := contains_iff_of_ne.1 hthere
  obtain ⟨hl', e', he', -⟩ := h.entry path l e hpath hl he
  exact contains_iff_of_ne.2 ⟨hne, l, e', hl', he'⟩

theorem inside (h : Carries Q t t') (ht : t.WellFormed) (ht' : t'.WellFormed)
    (hpath : Q (join d (ofComponents rest))) (hmem : (rest, e) ∈ t.inside d) :
    ∃ e', (rest, e') ∈ t'.inside d ∧ (e = .directory ↔ e' = .directory) := by
  have hleads := ht.leadsFrom_of_mem_inside hmem
  obtain ⟨l, hl, hdirectory, hne, he⟩ := ht.mem_inside_iff.1 hmem
  obtain ⟨hl', e₁, he₁, hkind₁⟩ := h.entry d l _ (h.directory d _ hleads hpath) hl hdirectory
  have hlocate := ht.locate_inside hl hne he
  rw [← directoryPath_of_ne (locate_eq_ok.1 hlocate).1] at hlocate
  obtain ⟨-, e', he', hkind⟩ := h.entry _ _ e hpath hlocate he
  exact ⟨e', ht'.mem_inside_iff.2 ⟨l, hl', by rw [he₁, hkind₁.1 rfl], hne, he'⟩, hkind⟩

theorem mem_expandIn (h : Carries Q t t') (ht : t.WellFormed) (ht' : t'.WellFormed)
    {component : String} (hcomponent : '/' ∉ component.toList) (hpath : Q (join d c))
    (hmem : c ∈ t.expandIn recursive onlyDirectories d component) :
    c ∈ t'.expandIn recursive onlyDirectories d component := by
  have hd : Q d := h.directory d c (ht.leadsFrom_of_mem_expandIn hcomponent hmem) hpath
  rw [expandIn] at hmem ⊢
  by_cases hpattern : NamePattern.isPattern component = true
  · rw [if_pos hpattern] at hmem ⊢
    by_cases hdepth : (recursive && component == anyDepth) = true
    · rw [if_pos hdepth] at hmem ⊢
      rcases mem_visibleInside_iff.1 hmem with ⟨rfl, hself⟩ | ⟨rest, e, hinside, hkind, hvisible, rfl⟩
      · exact mem_visibleInside_iff.2 (.inl ⟨rfl, hself.imp id (h.isDirectory hd)⟩)
      · obtain ⟨e', hinside', hkind'⟩ := h.inside ht ht' hpath hinside
        exact mem_visibleInside_iff.2
          (.inr ⟨rest, e', hinside', fun honly => hkind'.1 (hkind honly), hvisible, rfl⟩)
    · rw [if_neg hdepth] at hmem ⊢
      obtain ⟨e, hinside, hkind, hfits⟩ := mem_fittingNames_iff.1 hmem
      rw [← ofComponents_singleton c] at hpath
      obtain ⟨e', hinside', hkind'⟩ := h.inside ht ht' hpath hinside
      exact mem_fittingNames_iff.2 ⟨e', hinside', fun honly => hkind'.1 (hkind honly), hfits⟩
  · rw [if_neg hpattern] at hmem ⊢
    by_cases hempty : component = ""
    · rw [if_pos (by simpa using hempty)] at hmem ⊢
      by_cases hdirectory : t.isDirectory d = true
      · rw [if_pos (h.isDirectory hd hdirectory)]
        rwa [if_pos hdirectory] at hmem
      · rw [if_neg hdirectory] at hmem
        cases hmem
    · rw [if_neg (by simpa using hempty)] at hmem ⊢
      by_cases hthere : t.contains (join d component) = true
      · rw [if_pos hthere] at hmem
        rw [List.mem_singleton.1 hmem] at hpath ⊢
        rw [if_pos (h.contains hpath hthere)]
        exact List.mem_singleton_self component
      · rw [if_neg hthere] at hmem
        cases hmem

/-- **What a pattern stands for in one tree it stands for in another that agrees on it.** -/
theorem mem_expandFrom (h : Carries Q t t') (ht : t.WellFormed) (ht' : t'.WellFormed)
    {pattern : String} (hpath : Q path)
    (hmem : path ∈ t.expandFrom recursive onlyDirectories pattern) :
    path ∈ t'.expandFrom recursive onlyDirectories pattern := by
  induction hlength : pattern.length using Nat.strong_induction_on
    generalizing pattern path onlyDirectories with
  | _ n ih =>
    by_cases hpattern : NamePattern.isPattern pattern = true
    · rw [expandFrom] at hmem ⊢
      dsimp only at hmem ⊢
      rw [if_neg (by simp [hpattern]), List.mem_flatMap] at hmem ⊢
      obtain ⟨d, hd, hmem⟩ := hmem
      obtain ⟨c, hc, rfl⟩ := List.mem_map.1 hmem
      have hslash : '/' ∉ (lastPart pattern).toList := notMem_lastPart pattern
      have hleads := ht.leadsFrom_of_mem_expandIn hslash hc
      refine ⟨d, ?_, List.mem_map_of_mem (h.mem_expandIn ht ht' hslash hpath hc)⟩
      split at hd
      · rename_i hdirectories
        rw [if_pos hdirectories]
        split at hd
        · rename_i hlt
          rw [dif_pos hlt]
          exact ih _ (hlength ▸ hlt) (h.directory d c hleads hpath) hd rfl
        · cases hd
      · rename_i hdirectories
        rwa [if_neg hdirectories]
    · rw [mem_expandFrom_of_not_isPattern hpattern] at hmem ⊢
      obtain ⟨rfl, hthere⟩ := hmem
      refine ⟨rfl, ?_⟩
      split at hthere
      · rename_i hlast
        rw [if_pos hlast]
        exact h.isDirectory hpath hthere
      · rename_i hlast
        rw [if_neg hlast]
        exact h.contains hpath hthere

end Carries

end FileTree

end ServiceStubs
