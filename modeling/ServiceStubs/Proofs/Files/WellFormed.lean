import Mathlib
import ServiceStubs.Proofs.Files.Place

/-!
# Trees that are trees

In a tree that is well-formed everything stands in a directory, under a name that a path can spell,
and nothing stands at a place twice. The current directory is one.

## Main definitions

* `FileTree.IsEntryName`: the names of what stands in a directory
* `FileTree.WellFormed`: trees that are well-formed

## Main statements

* `FileTree.WellFormed.mem_entries_iff`: what stands in the tree
* `FileTree.WellFormed.entry?_of_append`: everything stands in directories
* `FileTree.locate_join`: where a path leads from a directory
-/

namespace ServiceStubs

namespace FileTree

open ServiceStubs.Path

/-- The names of what stands in a directory. -/
def IsEntryName (c : String) : Prop := IsName c ∧ c.utf8ByteSize ≤ maxNameSize

instance (c : String) : Decidable (IsEntryName c) := inferInstanceAs (Decidable (_ ∧ _))

/-- A tree in which everything stands in a directory, once and under a proper name. -/
structure WellFormed (t : FileTree) : Prop where
  nodup : (t.entries.map (·.1)).Nodup
  parent : ∀ e ∈ t.entries,
    t.entry? e.1.dropLast = some .directory ∧ IsEntryName (e.1.getLast?.getD "")
  current : t.entry? t.current = some .directory

instance (t : FileTree) : Decidable t.WellFormed :=
  decidable_of_iff ((t.entries.map (·.1)).Nodup ∧
    (∀ e ∈ t.entries,
      t.entry? e.1.dropLast = some .directory ∧ IsEntryName (e.1.getLast?.getD "")) ∧
    t.entry? t.current = some .directory)
    ⟨fun h => ⟨h.1, h.2.1, h.2.2⟩, fun h => ⟨h.nodup, h.parent, h.current⟩⟩

variable {t t' : FileTree} {l rest : Location} {c path : String} {e : Entry}

theorem lookup_eq_some_iff {entries : List (Location × Entry)}
    (h : (entries.map (·.1)).Nodup) : entries.lookup l = some e ↔ (l, e) ∈ entries := by
  induction entries with
  | nil => simp
  | cons e' entries ih =>
    rw [List.map_cons, List.nodup_cons] at h
    rw [List.lookup_cons, List.mem_cons]
    by_cases heq : l = e'.1
    · have hnot : (l, e) ∉ entries := fun hmem => h.1 (heq ▸ List.mem_map_of_mem hmem)
      rw [heq, beq_self_eq_true, or_iff_left (heq ▸ hnot)]
      exact ⟨fun hsome => by rw [← Option.some.inj hsome], fun hpair => by rw [← hpair]⟩
    · rw [beq_eq_false_iff_ne.2 heq, ih h.2]
      exact (or_iff_right fun hpair => heq (congrArg Prod.fst hpair)).symm

namespace WellFormed

theorem mem_entries_iff (h : t.WellFormed) (hl : l ≠ []) :
    (l, e) ∈ t.entries ↔ t.entry? l = some e := by
  rw [entry?_of_ne t hl]
  exact (lookup_eq_some_iff h.nodup).symm

theorem ne_nil (h : t.WellFormed) (hmem : (l, e) ∈ t.entries) : l ≠ [] := by
  rintro rfl
  have hstep : isStep "" = true := (h.parent _ hmem).2.1.1
  exact absurd hstep (by decide)

theorem parent_of_append (h : t.WellFormed) (hc : t.entry? (l ++ [c]) = some e) :
    t.entry? l = some .directory ∧ IsEntryName c := by
  have hmem := (h.mem_entries_iff (by simp)).2 hc
  simpa using h.parent _ hmem

/-- Everything stands in directories, under proper names. -/
theorem entry?_of_append (h : t.WellFormed) (hne : rest ≠ [])
    (hrest : t.entry? (l ++ rest) = some e) :
    t.entry? l = some .directory ∧ ∀ c ∈ rest, IsEntryName c := by
  induction rest using List.reverseRecOn generalizing e with
  | nil => exact absurd rfl hne
  | append_singleton rest c ih =>
    rw [← List.append_assoc] at hrest
    obtain ⟨hparent, hc⟩ := h.parent_of_append hrest
    by_cases hnil : rest = []
    · subst hnil
      rw [List.append_nil] at hparent
      exact ⟨hparent, List.forall_mem_singleton.2 hc⟩
    · obtain ⟨hl, hnames⟩ := ih hnil hparent
      exact ⟨hl, List.forall_mem_append.2 ⟨hnames, List.forall_mem_singleton.2 hc⟩⟩

theorem isEntryName_of_mem (h : t.WellFormed) (hl : t.entry? l = some e) (hc : c ∈ l) :
    IsEntryName c :=
  (h.entry?_of_append (l := []) (List.ne_nil_of_mem hc) hl).2 c hc

end WellFormed

/-! ### The current directory -/

theorem isAbsolute_currentPath (t : FileTree) : isAbsolute t.currentPath = true :=
  isAbsolute_root _

theorem isAbsolute_absolute (t : FileTree) (path : String) :
    isAbsolute (if isAbsolute path then path else join t.currentPath path) = true := by
  split
  · assumption
  · rw [isAbsolute_join, isAbsolute_currentPath, Bool.or_true]

theorem WellFormed.isName_of_mem_current (h : t.WellFormed) (hc : c ∈ t.current) : IsName c :=
  (h.isEntryName_of_mem h.current hc).1

/-- Seen from the root, a path has its place for steps. -/
theorem WellFormed.steps_absolute (h : t.WellFormed) (path : String) :
    steps (absolute t.currentPath path) = place t.current path := by
  rw [absolute, steps_normalize_of_isAbsolute (isAbsolute_absolute t path) t.current]
  split
  · rfl
  · rename_i hrelative
    rw [place_join, if_neg hrelative, currentPath,
      place_root fun c hc => h.isName_of_mem_current hc, place, if_neg hrelative]

theorem isName_of_mem_absolute (t : FileTree) (hc : c ∈ steps (absolute t.currentPath path)) :
    IsName c :=
  isName_of_mem_normalize (isAbsolute_absolute t path) hc

/-! ### Paths from a directory -/

/-- The path to a directory, where the empty path stands for the current one. -/
def directoryPath (path : String) : String := if path == "" then "." else path

theorem follow_append {cs ds : List String} {l' : Location} :
    (cs ++ ds).foldlM t.step l = .ok l' ↔
      ∃ m, cs.foldlM t.step l = .ok m ∧ ds.foldlM t.step m = .ok l' := by
  rw [List.foldlM_append]
  cases h : cs.foldlM t.step l with
  | error e => simp [bind, Except.bind]
  | ok m => simp [bind, Except.bind]

theorem follow_empty {l' : Location} :
    [""].foldlM t.step l = .ok l' ↔ t.entry? l = some .directory ∧ l = l' := by
  have hnotStep : ¬isStep "" = true := by decide
  rw [follow_cons]
  constructor
  · rintro ⟨m, hstep, hm⟩
    obtain ⟨hdirectory, -, hl⟩ := step_eq_ok.1 hstep
    cases hm
    exact ⟨hdirectory, hl⟩
  · rintro ⟨hdirectory, rfl⟩
    exact ⟨l, step_eq_ok.2 ⟨hdirectory, fun h => absurd h hnotStep, rfl⟩, rfl⟩

/-- Components can only be followed from a directory. -/
theorem entry?_of_follow {cs : List String} {l' : Location} (hne : cs ≠ [])
    (h : cs.foldlM t.step l = .ok l') : t.entry? l = some .directory := by
  cases cs with
  | nil => exact absurd rfl hne
  | cons c cs =>
    obtain ⟨m, hstep, -⟩ := follow_cons.1 h
    exact (step_eq_ok.1 hstep).1

theorem components_append_slash (d : String) : components (d ++ "/") = components d ++ [""] := by
  rw [← String.append_empty (s := d ++ "/"), components_slash]
  rfl

/-- Where a path leads from a directory. -/
theorem locate_join {d : String} {l' : Location} (hc : isAbsolute c = false) (hne : c ≠ "") :
    t.locate (join d c) = .ok l' ↔
      ∃ l, t.locate (directoryPath d) = .ok l ∧ (components c).foldlM t.step l = .ok l' := by
  have hdirectory {m : Location} (h : (components c).foldlM t.step m = .ok l') :
      t.entry? m = some .directory := entry?_of_follow (components_ne_nil c) h
  have happend (s : String) : s ++ c ≠ "" := fun h => hne (String.append_eq_empty_iff.1 h).2
  rcases join_cases d with rfl | ⟨d', rfl⟩ | ⟨hd, hslash⟩
  · have hdot : directoryPath "" = "." := rfl
    rw [join_empty, hdot, locate_eq_ok, hc]
    constructor
    · rintro ⟨-, h⟩
      refine ⟨t.current, locate_eq_ok.2 ⟨by decide, follow_cons.2 ⟨t.current, ?_, rfl⟩⟩, h⟩
      exact step_eq_ok.2 ⟨hdirectory h, fun h => absurd h (by decide), rfl⟩
    · rintro ⟨l, hl, h⟩
      obtain rfl : l = t.current := locate_eq hl
      exact ⟨hne, h⟩
  · have hd : d' ++ "/" ≠ "" := fun h => absurd (String.append_eq_empty_iff.1 h).2 (by decide)
    have hpath : directoryPath (d' ++ "/") = d' ++ "/" := if_neg (by simp)
    rw [hpath, locate_eq_ok, isAbsolute_join, hc, Bool.false_or, join_slash d' hc, components_slash,
      follow_append]
    simp only [locate_eq_ok, components_append_slash, follow_append]
    constructor
    · rintro ⟨-, m, hm, h⟩
      exact ⟨m, ⟨hd, m, hm, follow_empty.2 ⟨hdirectory h, rfl⟩⟩, h⟩
    · rintro ⟨l, ⟨-, m, hm, hlast⟩, h⟩
      obtain ⟨-, rfl⟩ := follow_empty.1 hlast
      exact ⟨happend _, m, hm, h⟩
  · have hpath : directoryPath d = d := if_neg (by simpa using hd)
    rw [hpath, locate_eq_ok, isAbsolute_join, hc, Bool.false_or, join_of_ne hc hd hslash,
      components_slash, follow_append]
    simp only [locate_eq_ok]
    constructor
    · rintro ⟨-, m, hm, h⟩
      exact ⟨m, ⟨hd, hm⟩, h⟩
    · rintro ⟨m, ⟨-, hm⟩, h⟩
      exact ⟨happend _, m, hm, h⟩

/-- A slash at the end asks for a directory. -/
theorem locate_join_empty {d : String} (hd : d ≠ "") :
    t.locate (join d "") = .ok l ↔ t.locate d = .ok l ∧ t.entry? l = some .directory := by
  have hrelative : isAbsolute "" = false := by decide
  rcases join_cases d with rfl | ⟨d', rfl⟩ | ⟨-, hslash⟩
  · exact absurd rfl hd
  · rw [join_slash d' hrelative, String.append_empty]
    refine ⟨fun h => ⟨h, ?_⟩, And.left⟩
    obtain ⟨-, h⟩ := locate_eq_ok.1 h
    rw [components_append_slash, follow_append] at h
    obtain ⟨m, -, hlast⟩ := h
    obtain ⟨hdirectory, rfl⟩ := follow_empty.1 hlast
    exact hdirectory
  · have hne : d ++ "/" ≠ "" := fun h => hd (String.append_eq_empty_iff.1 h).1
    have hstart : isAbsolute (d ++ "/") = isAbsolute d := by rw [isAbsolute_append, if_neg hd]
    rw [join_of_ne hrelative hd hslash, String.append_empty, locate_eq_ok, locate_eq_ok,
      components_append_slash, follow_append, hstart]
    constructor
    · rintro ⟨-, m, hm, hlast⟩
      obtain ⟨hdirectory, rfl⟩ := follow_empty.1 hlast
      exact ⟨⟨hd, hm⟩, hdirectory⟩
    · rintro ⟨⟨-, h⟩, hdirectory⟩
      exact ⟨hne, l, h, follow_empty.2 ⟨hdirectory, rfl⟩⟩

namespace WellFormed

theorem follow_of_entry? (h : t.WellFormed) (hrest : t.entry? (l ++ rest) = some e) :
    rest.foldlM t.step l = .ok (l ++ rest) := by
  induction rest using List.reverseRecOn generalizing e with
  | nil => rw [List.append_nil]; rfl
  | append_singleton rest c ih =>
    rw [← List.append_assoc] at hrest ⊢
    obtain ⟨hparent, hname, hsize⟩ := h.parent_of_append hrest
    refine follow_concat.2 ⟨l ++ rest, ih hparent, step_eq_ok.2 ⟨hparent, fun _ _ => hsize, ?_⟩⟩
    rw [List.filter_cons_of_pos hname.1, List.filter_nil, walk_singleton, walkStep_of_ne hname.2.1]

/-- A path to something inside a directory. -/
theorem locate_inside (h : t.WellFormed) {d : String} (hd : t.locate (directoryPath d) = .ok l)
    (hne : rest ≠ []) (hrest : t.entry? (l ++ rest) = some e) :
    t.locate (join d (ofComponents rest)) = .ok (l ++ rest) := by
  have hnames : ∀ c ∈ rest, isStep c = true ∧ '/' ∉ c.toList := fun c hc =>
    have hname := ((h.entry?_of_append hne hrest).2 c hc).1
    ⟨hname.1, hname.2.2⟩
  have hcomponents : components (ofComponents rest) = rest :=
    components_ofComponents (fun c hc => (hnames c hc).2) hne
  have hempty : ofComponents rest ≠ "" := by
    intro heq
    rw [heq] at hcomponents
    have hmem : "" ∈ rest := by
      rw [← hcomponents]
      decide
    exact absurd (hnames "" hmem).1 (by decide)
  refine (locate_join (isAbsolute_ofComponents hnames) hempty).2 ⟨l, hd, ?_⟩
  rw [hcomponents]
  exact h.follow_of_entry? hrest

end WellFormed

end FileTree

end ServiceStubs
