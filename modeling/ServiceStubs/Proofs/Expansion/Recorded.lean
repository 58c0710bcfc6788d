import ServiceStubs.Proofs.Expansion.Imported
import ServiceStubs.Proofs.Expansion.Replacing
import ServiceStubs.Proofs.Grammar.Rows
import ServiceStubs.Proofs.Schema.Marked

/-!
# The edits of a module

The edits of an expansion leave each other's ranges alone. A class and its decorators have lines of
their own, and an edit of a declaration stays within those lines. The edits near the top add lines
in front of all classes. So it does not matter that the edits are applied one after the other.

What an edit adds behind a class may stand at the position where the range of the next one starts,
but then the next one ends further down. That is why no two edits have the same range and priority.

## Main definitions

* `Expansion.Edit.Separate`: two edits that leave each other's ranges alone and can be told apart
* `Expansion.Edit.IsWithin`: an edit of the lines of a class

## Main statements

* `Expansion.isWithin_serviceEdit`, `Expansion.isWithin_serverEdits`: the edits of a declaration
* `Expansion.behind_importLineOf`: generated imports go in front of all classes
* `Expansion.Draft.applied_at_once`: an expansion makes all of its edits at once
-/

namespace ServiceStubs

namespace Expansion

open Schema Grammar
open ServiceStubs.Tree

/-! ### Edits of classes -/

/-- One of the statements ends above the lines of the other one, as far as that is a class. -/
def Distant (s t : Stmt) : Prop := Behind s.endLine t ∨ Behind t.endLine s

instance : Std.Symm Distant := ⟨fun _ _ => Or.symm⟩

namespace Edit

/-- The edits leave each other's ranges alone, and they can be told apart. -/
def Separate (a b : Edit) : Prop := Apart a b ∧ a.key ≠ b.key

theorem Separate.symm {a b : Edit} (h : Separate a b) : Separate b a := ⟨h.1.symm, h.2.symm⟩

theorem compatible_of_pairwise {n : ℕ} {edits : List Edit}
    (hranges : ∀ e ∈ edits, e.start ≤ e.stop ∧ e.stop ≤ n) (h : edits.Pairwise Separate) :
    Compatible n edits :=
  ⟨hranges, h.imp And.left, List.pairwise_map.mpr (h.imp And.right)⟩

/-- The edit changes lines of the class or adds lines behind them. -/
structure IsWithin (s : Stmt) (e : Edit) : Prop where
  behind : ∀ line, Behind line s → line ≤ e.start ∧ line < e.stop
  ordered : e.start ≤ e.stop
  stop : e.stop ≤ s.endLine

theorem IsWithin.separate {s t : Stmt} {a b : Edit} (ha : IsWithin s a) (hb : IsWithin t b)
    (h : Behind s.endLine t) : Separate a b := by
  obtain ⟨hstart, hstop⟩ := hb.behind _ h
  have := ha.stop
  refine ⟨.inl (by omega), fun hkey => ?_⟩
  simp only [key, Prod.mk.injEq] at hkey
  omega

/-- Lines that are added in front of a class leave its edits alone. -/
theorem IsWithin.separate_of_insertion {s : Stmt} {a b : Edit} (hb : IsWithin s b)
    (ha : a.start = a.stop) (h : Behind a.stop s) : Separate a b := by
  obtain ⟨hstart, hstop⟩ := hb.behind _ h
  refine ⟨.inl hstart, fun hkey => ?_⟩
  simp only [key, Prod.mk.injEq] at hkey
  omega

/-- The edits of one class. -/
structure AreWithin (s : Stmt) (edits : List Edit) : Prop where
  within : ∀ e ∈ edits, IsWithin s e
  separate : edits.Pairwise Separate

/-- The edits of several classes, of which none stands on the lines of another. -/
theorem pairwise_flatten {classes : List Stmt} {groups : List (List Edit)}
    (h : List.Forall₂ AreWithin classes groups)
    (hclasses : classes.Pairwise Distant) :
    groups.flatten.Pairwise Separate := by
  induction h with
  | nil => exact .nil
  | @cons s edits classes groups hs hrest ih =>
    obtain ⟨hfirst, hothers⟩ := List.pairwise_cons.mp hclasses
    rw [List.flatten_cons, List.pairwise_append]
    refine ⟨hs.separate, ih hothers, fun a ha b hb => ?_⟩
    obtain ⟨group, hgroup, hb⟩ := List.mem_flatten.mp hb
    obtain ⟨t, ht, hwithin⟩ := (exists_of_forall₂ hrest).2 group hgroup
    rcases hfirst t ht with hbehind | hbehind
    · exact (hs.within a ha).separate (hwithin.within b hb) hbehind
    · exact ((hwithin.within b hb).separate (hs.within a ha) hbehind).symm

end Edit

open Edit

/-! ### Declarations -/

section Declarations

variable {names : MarkerNames} {s : Stmt}

/-- The first line of a class is that of a decorator or of the class itself. -/
theorem firstLine_cases (c : MarkedClass) : c.firstLine ≤ c.span.start.line ∧
    (c.firstLine = c.span.start.line ∨ ∃ d ∈ c.decorators, c.firstLine = d.span.start.line) := by
  have hfold (ds : List Decorator) (first : ℕ) :
      ds.foldl (fun first d => min first d.span.start.line) first ≤ first ∧
        (ds.foldl (fun first d => min first d.span.start.line) first = first ∨ ∃ d ∈ ds,
          ds.foldl (fun first d => min first d.span.start.line) first = d.span.start.line) := by
    induction ds generalizing first with
    | nil => simp
    | cons d ds ih =>
      obtain ⟨hle, hcases⟩ := ih (min first d.span.start.line)
      refine ⟨hle.trans (min_le_left _ _), ?_⟩
      rw [List.foldl_cons]
      rcases hcases with heq | ⟨d', hd', heq⟩
      · rcases min_choice first d.span.start.line with hmin | hmin
        · exact .inl (heq.trans hmin)
        · exact .inr ⟨d, List.mem_cons_self, heq.trans hmin⟩
      · exact .inr ⟨d', List.mem_cons_of_mem _ hd', heq⟩
  exact hfold c.decorators c.span.start.line

theorem lt_firstLine {c : MarkedClass} {line : ℕ} (hc : IsClassOf names s c) (h : Behind line s) :
    line < c.firstLine := by
  obtain ⟨hstart, hdecorators⟩ := h _ _ _ _ _ hc.node
  rcases (firstLine_cases c).2 with heq | ⟨d, hd, heq⟩
  · rwa [heq, hc.span]
  · rw [heq]
    exact hdecorators d hd

theorem firstLine_of_readService {c : MarkedClass} {v : Service} (h : readService c = .ok v) :
    v.firstLine = c.firstLine := by
  unfold readService at h
  obtain ⟨client, -, h⟩ := exists_of_bind h
  obtain ⟨acc, -, h⟩ := exists_of_bind h
  obtain ⟨bases, -, h⟩ := exists_of_bind h
  obtain ⟨keywords, -, h⟩ := exists_of_bind h
  obtain ⟨decorators, -, h⟩ := exists_of_bind h
  obtain rfl := Except.ok.inj h
  rfl

/-- The edit that replaces a service is made within its class. -/
theorem areWithin_serviceEdit {v : Service} (hv : IsServiceAt names s v) (hs : Shaped s) :
    AreWithin s [Draft.serviceEdit v] := by
  obtain ⟨c, hc, hread⟩ := hv.read
  obtain ⟨hshape, -⟩ := hs _ _ _ _ _ hc.node
  have hfirst : v.firstLine = c.firstLine := firstLine_of_readService hread
  have hle : c.firstLine ≤ s.start.line := by
    rw [Stmt.start, ← hc.span]
    exact (firstLine_cases c).1
  refine ⟨fun e he => ?_, List.pairwise_singleton _ _⟩
  obtain rfl := List.mem_singleton.mp he
  refine ⟨fun line hline => ?_, ?_, hv.lastLine.le⟩
  · have := lt_firstLine hc hline
    simp only [Draft.serviceEdit, hfirst, hv.lastLine]
    omega
  · simp only [Draft.serviceEdit, hfirst, hv.lastLine]
    omega

theorem mem_of_markersOf {decorators : List Decorator} {found : MarkerNames.Found}
    (h : found ∈ names.markersOf decorators) : found.decorator ∈ decorators := by
  obtain ⟨⟨d, i⟩, hd, hfound⟩ := List.mem_filterMap.mp h
  obtain ⟨marker, -, rfl⟩ := Option.map_eq_some_iff.mp hfound
  exact (List.mem_zipIdx' hd).2 ▸ List.getElem_mem _

theorem markerLines_of_readServer {sourceLines : List String} {services : List Service}
    {c : MarkedClass} {v : Server} (h : readServer sourceLines services c = .ok v) :
    v.markerLines = (c.found.decorator.span.start.line, c.found.decorator.span.endLine) := by
  unfold readServer at h
  obtain ⟨methods, -, h⟩ := exists_of_bind h
  obtain ⟨-, h⟩ := not_of_check (by rintro u ⟨⟩) h
  obtain rfl := Except.ok.inj h
  rfl

/-- The edits that remove the marker of a server and add methods behind it are made within its
class, and they do not meet. -/
theorem areWithin_serverEdits {sourceLines : List String} {services : List Service} {v : Server}
    (hv : IsServerAt names sourceLines services s v) (hs : Shaped s) :
    AreWithin s (Draft.serverEdits v) := by
  obtain ⟨c, hc, hread⟩ := hv.read
  have hmarker := mem_of_markersOf (hc.found ▸ List.mem_singleton_self c.found)
  obtain ⟨hshape, hdecorators⟩ := hs _ _ _ _ _ hc.node
  obtain ⟨hle, hlt⟩ := hdecorators _ hmarker
  have hlines := markerLines_of_readServer hread
  have hremoved : IsWithin s ⟨v.markerLines.1 - 1, v.markerLines.2, [], 0⟩ := by
    rw [hlines]
    refine ⟨fun line hline => ?_, ?_, ?_⟩
    · have := (hline _ _ _ _ _ hc.node).2 _ hmarker
      dsimp only
      omega
    · dsimp only
      omega
    · dsimp only
      omega
  have hadded (added : List String) : IsWithin s ⟨v.lastLine, v.lastLine, added, 0⟩ := by
    refine ⟨fun line hline => ?_, Nat.le_refl _, hv.lastLine.le⟩
    have := (hline _ _ _ _ _ hc.node).1
    have := hv.lastLine
    dsimp only
    omega
  have hseparate (added : List String) : Separate ⟨v.markerLines.1 - 1, v.markerLines.2, [], 0⟩
      ⟨v.lastLine, v.lastLine, added, 0⟩ := by
    have := hv.lastLine
    rw [hlines]
    refine ⟨.inl (by dsimp only; omega), fun hkey => ?_⟩
    simp only [key, Prod.mk.injEq] at hkey
    omega
  dsimp only [Draft.serverEdits]
  split
  · exact ⟨fun e he => List.mem_singleton.mp he ▸ hremoved, List.pairwise_singleton _ _⟩
  · exact ⟨by simp [hremoved, hadded], by simp [hseparate]⟩

end Declarations

/-! ### The edits near the top -/

/-- Imports from the future are no classes, and classes are behind them. -/
theorem behind_futureLine {line : ℕ} {body : List Stmt} (hline : ∀ s ∈ body, Behind line s)
    (hbody : body.Pairwise fun s t => Behind s.endLine t) :
    ∀ s ∈ body, Behind (futureLine line body) s := by
  induction body generalizing line with
  | nil => simp
  | cons s rest ih =>
    obtain ⟨hs, hrest⟩ := List.pairwise_cons.mp hbody
    rw [futureLine]
    split
    · next hnode =>
      refine List.forall_mem_cons.mpr ⟨fun name bases keywords ds inner h => ?_, ih hs hrest⟩
      cases hnode.symm.trans h
    · exact hline

theorem futureLine_le {line last : ℕ} {body : List Stmt} (hline : line ≤ last)
    (hbody : ∀ s ∈ body, s.endLine ≤ last) : futureLine line body ≤ last := by
  induction body generalizing line with
  | nil => exact hline
  | cons s rest ih =>
    obtain ⟨hs, hrest⟩ := List.forall_mem_cons.mp hbody
    rw [futureLine]
    split
    · exact ih hs hrest
    · exact hline

/-- **Generated imports go in front of all classes**, on a line of the module. -/
theorem behind_importLineOf {last : ℕ} {body : List Stmt} (h : Laid 0 last body) :
    importLineOf body ≤ last ∧ ∀ s ∈ body, Behind (importLineOf body) s := by
  unfold importLineOf
  split
  · exact ⟨Nat.zero_le _, by simp⟩
  · next s rest =>
    obtain ⟨hs, hrest⟩ := List.pairwise_cons.mp h.ordered
    obtain ⟨hle, hles⟩ := List.forall_mem_cons.mp h.last
    split
    · next text htext =>
      refine ⟨futureLine_le hle hles, List.forall_mem_cons.mpr
        ⟨fun name bases keywords ds inner hnode => ?_, behind_futureLine hs hrest⟩⟩
      rw [textOf?, hnode] at htext
      cases htext
    · exact ⟨futureLine_le (Nat.zero_le _) h.last, behind_futureLine h.behind h.ordered⟩

/-- **The banner goes in front of all statements**: a first line that names an interpreter is a
comment. -/
theorem bannerLine_lt {source : String} {body : List Stmt}
    (h : readModule source.toList = .ok body) :
    Draft.bannerLine (Text.splitLines source) ≤ (Text.splitLines source).length ∧
      ∀ s ∈ body, Draft.bannerLine (Text.splitLines source) < s.firstLine := by
  unfold Draft.bannerLine
  split
  · next first others hsplit =>
    split
    · next hnames =>
      refine ⟨by simp [hsplit], ?_⟩
      obtain ⟨line, lines, hlines, rfl, -⟩ := List.map_eq_cons_iff.mp hsplit
      rw [String.toList_ofList, List.isPrefixOf_iff_prefix] at hnames
      obtain ⟨rest, hrest⟩ := hnames.trans (Text.isPrefix_of_lines hlines)
      rw [← hrest] at h
      exact (rows_of_readModule_comment h).fresh
    · exact ⟨Nat.zero_le _, (rows_of_readModule h).fresh⟩
  · exact ⟨Nat.zero_le _, (rows_of_readModule h).fresh⟩

theorem importLine_of_ofBody {sourceLines : List String} {body : List Stmt} {m : Schema.Module}
    (h : Module.ofBody sourceLines body = .ok m) : m.importLine = importLineOf body := by
  unfold Module.ofBody at h
  dsimp only at h
  split at h
  · obtain rfl := Except.ok.inj h
    rfl
  · obtain ⟨_, -, h⟩ := exists_of_bind h
    obtain ⟨marked, -, h⟩ := exists_of_bind h
    split at h
    · obtain rfl := Except.ok.inj h
      rfl
    · obtain ⟨scope, -, h⟩ := exists_of_bind h
      obtain ⟨⟨services, scope'⟩, -, h⟩ := exists_of_bind h
      obtain ⟨servers, -, h⟩ := exists_of_bind h
      obtain rfl := Except.ok.inj h
      rfl

/-! ### All edits of an expansion -/

namespace Draft

/-- The draft of the expansion of a source text. Its edits, if computed, leave each other's ranges
alone. -/
structure Records (source : String) (d : Draft) : Prop where
  declared : Module.ofSource source = .ok d.declared
  sourceLines : d.sourceLines = Text.splitLines source
  edits : ∀ edits, d.edits = some edits → Compatible d.sourceLines.length edits

variable {source filename : String} {body : List Stmt} {d : Draft}

/-- Classes that carry markers do not stand on each other's lines. -/
theorem pairwise_marked {names : MarkerNames} {last : ℕ} (hlaid : Laid 0 last body)
    (hsingle : ∀ s ∈ body, (names.markersOn s).length ≤ 1) :
    ((body.filter fun s => .service ∈ names.markersOn s) ++
      body.filter fun s => .server ∈ names.markersOn s).Pairwise Distant := by
  have hordered : body.Pairwise Distant := hlaid.ordered.imp Or.inl
  refine List.pairwise_append.mpr ⟨hordered.filter _, hordered.filter _, fun s hs t ht => ?_⟩
  obtain ⟨hs, hservice⟩ := List.mem_filter.mp hs
  obtain ⟨ht, hserver⟩ := List.mem_filter.mp ht
  simp only [decide_eq_true_eq] at hservice hserver
  refine hordered.forall hs ht ?_
  -- no class is marked both as a service and as a server
  rintro rfl
  obtain ⟨marker, hmarker⟩ := List.length_eq_one_iff.mp
    (Nat.le_antisymm (hsingle s hs) (List.length_pos_of_mem hservice))
  rw [hmarker, List.mem_singleton] at hservice hserver
  cases hservice.trans hserver.symm

/-- The edits of declarations do not meet, and each of them is made within a class. -/
theorem separate_declarations {m : Schema.Module} (hbody : readModule source.toList = .ok body)
    (hm : Module.ofBody (Text.splitLines source) body = .ok m) :
    (m.services.map serviceEdit ++ m.servers.flatMap serverEdits).Pairwise Separate ∧
      ∀ e ∈ m.services.map serviceEdit ++ m.servers.flatMap serverEdits,
        ∃ s ∈ body, IsWithin s e := by
  have hlaid := laid_of_readModule hbody
  have hdeclares := declaresMarked_of_ofBody hm
  have hshaped (p : Stmt → Bool) :
      List.Forall₂ (fun s t => s = t ∧ Shaped s) (body.filter p) (body.filter p) :=
    List.forall₂_same.mpr fun s hs => ⟨rfl, hlaid.shaped s (List.mem_filter.mp hs).1⟩
  have hwithin := List.rel_append
    (List.forall₂_map_right_iff.mpr (forall₂_through (T := fun s v => AreWithin s [serviceEdit v])
      (by rintro s _ v ⟨rfl, hs⟩ hv; exact areWithin_serviceEdit hv hs)
      (hshaped _) hdeclares.services))
    (List.forall₂_map_right_iff.mpr (forall₂_through (T := fun s v => AreWithin s (serverEdits v))
      (by rintro s _ v ⟨rfl, hs⟩ hv; exact areWithin_serverEdits hv hs)
      (hshaped _) hdeclares.servers))
  have hflatten : (m.services.map (fun v => [serviceEdit v]) ++ m.servers.map serverEdits).flatten =
      m.services.map serviceEdit ++ m.servers.flatMap serverEdits := by
    rw [List.flatten_append, ← List.flatMap_def, ← List.flatMap_def, ← List.map_eq_flatMap]
  rw [← hflatten]
  refine ⟨pairwise_flatten hwithin (pairwise_marked hlaid hdeclares.single), fun e he => ?_⟩
  obtain ⟨group, hgroup, he⟩ := List.mem_flatten.mp he
  obtain ⟨s, hs, hall⟩ := (exists_of_forall₂ hwithin).2 group hgroup
  refine ⟨s, ?_, hall.within e he⟩
  rcases List.mem_append.mp hs with hs | hs <;> exact (List.mem_filter.mp hs).1

/-- The edits near the top add lines in front of all classes, and the banner comes before the
imports. -/
theorem separate_headEdits (hbody : readModule source.toList = .ok body)
    (hlines : d.sourceLines = Text.splitLines source)
    (hline : d.declared.importLine = importLineOf body) :
    d.headEdits.Pairwise Separate ∧ ∀ e ∈ d.headEdits, e.start = e.stop ∧
      e.stop ≤ (Text.splitLines source).length ∧ ∀ s ∈ body, Behind e.stop s := by
  have hlaid := laid_of_readModule hbody
  obtain ⟨hle, hfresh⟩ := bannerLine_lt hbody
  have hbehind := fun s hs => behind_of_lt (hfresh s hs)
  obtain ⟨hle', hbehind'⟩ := behind_importLineOf hlaid
  rw [← hlines] at hle hbehind ⊢
  rw [← hline] at hle' hbehind'
  have hlength : (Text.lines source.toList).length = d.sourceLines.length := by
    rw [hlines, Text.splitLines, List.length_map]
  have hmax : max d.declared.importLine (bannerLine d.sourceLines) ≤ d.sourceLines.length ∧
      ∀ s ∈ body, Behind (max d.declared.importLine (bannerLine d.sourceLines)) s := by
    rcases max_choice d.declared.importLine (bannerLine d.sourceLines) with h | h <;> rw [h]
    · exact ⟨hlength ▸ hle', hbehind'⟩
    · exact ⟨hle, hbehind⟩
  dsimp only [headEdits]
  split
  · exact ⟨List.pairwise_singleton _ _, by simpa [hle] using hbehind⟩
  · refine ⟨?_, by simpa [hle, hmax.1] using ⟨hmax.2, hbehind⟩⟩
    simp [Separate, Apart, key]

/-- All edits of an expansion leave each other's ranges alone, whatever imports were requested. -/
theorem compatible_complete (h : Records source d) (hnone : d.edits = none) :
    ∃ edits, d.complete.edits = some edits ∧ Compatible d.sourceLines.length edits := by
  have hdeclared := h.declared
  have hlength : (Text.lines source.toList).length = d.sourceLines.length := by
    rw [h.sourceLines, Text.splitLines, List.length_map]
  unfold Module.ofSource at hdeclared
  split at hdeclared
  · cases hdeclared
  · next body hbody =>
    have hlaid := laid_of_readModule hbody
    obtain ⟨hseparate, hwithin⟩ := separate_declarations hbody hdeclared
    obtain ⟨hhead, htop⟩ := separate_headEdits (d := { d with requested := d.requested ++ d.full })
      hbody h.sourceLines (importLine_of_ofBody hdeclared)
    rw [complete_of_none hnone]
    refine ⟨_, rfl, compatible_of_pairwise (fun e he => ?_) (List.pairwise_append.mpr
      ⟨hseparate, hhead, fun a ha b hb => ?_⟩)⟩
    · rcases List.mem_append.mp he with he | he
      · obtain ⟨s, hs, hedit⟩ := hwithin e he
        exact ⟨hedit.ordered, hlength ▸ hedit.stop.trans (hlaid.last s hs)⟩
      · obtain ⟨heq, hle, -⟩ := htop e he
        exact ⟨heq.le, h.sourceLines ▸ hle⟩
    · obtain ⟨s, hs, hedit⟩ := hwithin a ha
      obtain ⟨heq, -, hbehind⟩ := htop b hb
      exact (hedit.separate_of_insertion heq (hbehind s hs)).symm

/-- **Completing a draft** keeps what it records, and afterwards its edits are known. -/
theorem Records.complete (h : Records source d) : Records source d.complete ∧
    ∃ edits, d.complete.edits = some edits ∧ Compatible (Text.splitLines source).length edits := by
  cases hd : d.edits with
  | some edits =>
    have hsame : d.complete = d := by rw [Draft.complete, hd]
    rw [hsame]
    exact ⟨h, edits, hd, h.sourceLines ▸ h.edits edits hd⟩
  | none =>
    obtain ⟨edits, hedits, hcompatible⟩ := compatible_complete h hd
    rw [h.sourceLines] at hcompatible
    refine ⟨⟨?_, ?_, fun edits' hedits' => ?_⟩, edits, hedits, hcompatible⟩
    · rw [complete_of_none hd]
      exact h.declared
    · rw [complete_of_none hd]
      exact h.sourceLines
    · obtain rfl := Option.some.inj (hedits.symm.trans hedits')
      rw [complete_of_none hd]
      exact h.sourceLines ▸ hcompatible

/-- The lines of an expansion are those of its source with all edits made at once. -/
theorem Records.lines_complete (h : Records source d) :
    ∃ edits, d.complete.edits = some edits ∧ Compatible (Text.splitLines source).length edits ∧
      d.complete.lines = replaceAll (Text.splitLines source) edits := by
  obtain ⟨hrecords, edits, hedits, hcompatible⟩ := h.complete
  refine ⟨edits, hedits, hcompatible, ?_⟩
  rw [lines, hrecords.sourceLines, hedits]
  exact hcompatible.applyAll_eq_replaceAll

theorem Records.perform (h : Records source d) (c : Call) : Records source (d.perform c).1 := by
  cases c with
  | complete | text => exact h.complete.1
  | emit e => exact ⟨h.declared, h.sourceLines, h.edits⟩

theorem Records.run (h : Records source d) (calls : List Call) :
    Records source (d.run calls).1 := by
  induction calls generalizing d with
  | nil => exact h
  | cons c calls ih => exact ih (h.perform c)

theorem records_of_ofSource (h : ofSource source filename = .ok d) : Records source d := by
  obtain ⟨declared, hdeclared, hd⟩ := exists_of_bind h
  obtain rfl := Except.ok.inj hd
  exact ⟨hdeclared, rfl, by simp⟩

/-- **An expansion makes all of its edits at once.** Edits that leave each other's ranges alone come
to the lines with all of them made at once, in whatever order they were recorded: each edit is one
of those that add lines at its position, or it is what replaces the lines from there on. The edits
of an accepted module are such edits, whatever its expansion was asked for before. -/
theorem applied_at_once :
    (∀ (ls : List String) (edits : List Edit), Compatible ls.length edits →
      Edit.applyAll ls edits = replaceAll ls edits ∧
        ∀ e ∈ edits, (e.start = e.stop ∧ e ∈ insertionsAt edits e.start) ∨
          (e.start < e.stop ∧ replacementsAt edits e.start = [e])) ∧
    ∀ source filename d, ofSource source filename = .ok d → ∀ calls : List Call,
      ∃ edits, (d.run calls).1.complete.edits = some edits ∧
        Compatible (Text.splitLines source).length edits ∧
        (d.run calls).1.complete.lines = replaceAll (Text.splitLines source) edits := by
  refine ⟨fun ls edits h => ⟨h.applyAll_eq_replaceAll, fun e he => h.mem_at he⟩, ?_⟩
  intro source filename d hd calls
  exact ((records_of_ofSource hd).run calls).lines_complete

/-- A service and a server back to back behind the imports, under a first line that names an
interpreter. -/
def adjoiningSource : String :=
  "#!x\n'd'\nfrom __future__ import a\nfrom grpc_stub_generator import service, server\n" ++
    "@service\nclass A: pass\n@server\nclass B:\n def f(self): ...\n"

theorem applied_at_once_adjoining :
    (∃ ls : List String, ∃ edits : List Edit, Compatible ls.length edits ∧
      Edit.applyAll ls edits = ["i", "j", "x", "b", "k"] ∧
        Edit.applyAll ls edits = replaceAll ls edits) ∧
    ∃ d edits, ofSource adjoiningSource "a.py" = .ok d ∧
      (d.run [.text]).1.complete.edits = some edits ∧
      edits.map key = [(4, 6, 0), (6, 7, 0), (9, 9, 0), (3, 3, 1), (1, 1, 0)] ∧
      Compatible (Text.splitLines adjoiningSource).length edits ∧
      (d.run [.text]).1.complete.lines = replaceAll (Text.splitLines adjoiningSource) edits := by
  refine ⟨⟨["a", "b"], [⟨2, 2, ["k"], 0⟩, ⟨0, 0, ["j"], 1⟩, ⟨0, 1, ["x"], 0⟩, ⟨0, 0, ["i"], 0⟩], ?_⟩,
    ?_⟩
  · have hcompatible : Compatible ["a", "b"].length
        [⟨2, 2, ["k"], 0⟩, ⟨0, 0, ["j"], 1⟩, ⟨0, 1, ["x"], 0⟩, ⟨0, 0, ["i"], 0⟩] :=
      ⟨by decide, by simp [Apart], by decide⟩
    exact ⟨hcompatible, by cbv, (applied_at_once.1 _ _ hcompatible).1⟩
  · have hread : (ofSource adjoiningSource "a.py").toOption.map (fun d =>
        (d.run [.text]).1.complete.edits.map fun edits => edits.map key) =
          some (some [(4, 6, 0), (6, 7, 0), (9, 9, 0), (3, 3, 1), (1, 1, 0)]) := by
      rw [Draft.ofSource_eq (show adjoiningSource.toList = _ from
        toList_append_eq String.toList_ofList String.toList_ofList)]
      decide +kernel
    obtain ⟨d, hd, hkeys⟩ := exists_of_toOption_map hread
    obtain ⟨edits, hedits, hcompatible, hlines⟩ := applied_at_once.2 adjoiningSource "a.py" d hd [.text]
    rw [hedits] at hkeys
    exact ⟨d, edits, hd, hedits, Option.some.inj hkeys, hcompatible, hlines⟩

end Draft

end Expansion

end ServiceStubs
