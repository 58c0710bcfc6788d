import ServiceStubs.Proofs.Expansion.Newlines
import ServiceStubs.Proofs.Expansion.Recorded

/-!
# What surrounds the declarations of a module

A source text is numbered by its newlines, and it is cut at every boundary. As long as no other
boundary stands in it, the two agree, and then the parts of a module fit together: the lines of a
declaration make way for its artifacts, and a server loses the lines of its marker and gains methods
behind its last line. What stands in between stays, line by line, except that the banner and the
imports are added above all declarations. The latter come behind the imports from the future. If no
statement goes on there that started on the same line, then none is cut apart.

So the parts are read off the text twice, as they were (`Expansion.Part.before`) and as they are
afterwards (`Expansion.Part.after`). A form feed in a comment is a boundary that is no newline, and
then every cut is made one line too high.

## Main definitions

* `Text.numberedLines`, `Text.OnlyNewlines`: the lines that places refer to, and when they are those
  that edits refer to
* `Expansion.Part`: a stretch of lines of a module, before and after its expansion
* `Expansion.Site`: a marked class and its lines
* `Expansion.Carried`: a statement and the part that it stands in

## Main statements

* `Text.numberedLines_eq`: the lines of a text without other boundaries
* `Expansion.splice_sites`: the walk along all edits passes the parts
* `Expansion.expand_parts`: an expansion and its source text, part by part
-/

namespace ServiceStubs

/-! ### Lines by number -/

namespace Text

variable {cs : List Char}

/-- The lines of a text as places number them: what stands between its newlines. -/
def numberedLines (cs : List Char) : List (List Char) := splitAt '\n' (withLineFeeds cs)

/-- No line ends at a boundary that is no newline. -/
def OnlyNewlines (cs : List Char) : Prop := ∀ c ∈ cs, isBoundary c = true → c = '\n' ∨ c = '\r'

theorem OnlyNewlines.tail {c : Char} (h : OnlyNewlines (c :: cs)) : OnlyNewlines cs :=
  fun d hd => h d (List.mem_cons_of_mem c hd)

/-- **The lines of a text without other boundaries** are those between its newlines. Behind a
newline at the end there is one more, which is empty. -/
theorem numberedLines_eq (h : OnlyNewlines cs) :
    ∃ rest, (rest = [] ∨ rest = [[]]) ∧ numberedLines cs = lines cs ++ rest := by
  have hfeed (cs : List Char) : splitAt '\n' ('\n' :: cs) = [] :: splitAt '\n' cs := by
    rw [splitAt, if_pos (beq_self_eq_true _)]
  have hother {c : Char} (hc : ¬isBoundary c = true) {cs : List Char}
      (hreturn : ∀ rest, c = '\r' → cs = '\n' :: rest → False) :
      splitAt '\n' (withLineFeeds (c :: cs)) = consLine c (splitAt '\n' (withLineFeeds cs)) := by
    have hne : c ≠ '\n' ∧ c ≠ '\r' := by constructor <;> rintro rfl <;> exact hc (by decide)
    rw [withLineFeeds, if_neg (by simpa using hne.2), splitAt, if_neg (by simpa using hne.1)]
    · rfl
    · exact hreturn
  unfold numberedLines
  fun_induction lines cs with
  | case1 => exact ⟨[[]], .inr rfl, rfl⟩
  | case2 rest ih =>
    obtain ⟨tail, htail, heq⟩ := ih h.tail.tail
    exact ⟨tail, htail, by rw [withLineFeeds, hfeed, heq, List.cons_append]⟩
  | case3 c rest hreturn hboundary ih =>
    obtain ⟨tail, htail, heq⟩ := ih h.tail
    refine ⟨tail, htail, ?_⟩
    rw [withLineFeeds, List.cons_append, ← heq]
    · rcases h c List.mem_cons_self hboundary with rfl | rfl <;> exact hfeed _
    · exact hreturn
  | case4 c rest hreturn hboundary hlines ih =>
    obtain ⟨tail, rfl | rfl, heq⟩ := ih h.tail
    · exact absurd (hlines ▸ heq) (splitAt_ne_nil _ _)
    · exact ⟨[], .inl rfl, by rw [hother hboundary hreturn, heq, hlines]; rfl⟩
  | case5 c rest hreturn hboundary line others hlines ih =>
    obtain ⟨tail, htail, heq⟩ := ih h.tail
    exact ⟨tail, htail, by rw [hother hboundary hreturn, heq, hlines]; rfl⟩

end Text

namespace Expansion

open Schema Grammar
open ServiceStubs.Tree

/-! ### Parts of a module -/

/-- A stretch of lines of a module, before and after its expansion. -/
inductive Part
  | kept (lines : List String)
  | added (lines : List String)
  | service (lines : List String) (v : Service)
  | server (above marker below : List String) (v : Server)

namespace Part

/-- The lines of the part in the source text. -/
def before : Part → List String
  | kept lines | service lines _ => lines
  | added _ => []
  | server above marker below _ => above ++ marker ++ below

/-- The lines of the part in the expanded text: artifacts in the place of a service, and a server
without its marker and with its methods. -/
def after : Part → List String
  | kept lines | added lines => lines
  | service _ v => (Draft.serviceEdit v).lines
  | server above _ below v => above ++ below ++ Code.indent (serverMethods v).lines v.bodyIndent

/-- What the part declares. -/
def declared? : Part → Option (Service ⊕ Server)
  | service _ v => some (.inl v)
  | server _ _ _ v => some (.inr v)
  | _ => none

/-- The lines that the part adds to the module. -/
def added? : Part → Option (List String)
  | added lines => some lines
  | _ => none

/-- The part stands behind some lines of the source text. -/
def StandsAt (parts : List Part) (line : ℕ) (p : Part) : Prop :=
  ∃ above below, parts = above ++ p :: below ∧ (above.flatMap before).length = line

theorem StandsAt.head (p : Part) (parts : List Part) : StandsAt (p :: parts) 0 p :=
  ⟨[], parts, rfl, rfl⟩

theorem StandsAt.cons {parts : List Part} {line : ℕ} {p : Part} (h : StandsAt parts line p)
    (q : Part) : StandsAt (q :: parts) (q.before.length + line) p := by
  obtain ⟨above, below, rfl, rfl⟩ := h
  exact ⟨q :: above, below, rfl, by rw [List.flatMap_cons, List.length_append]⟩

end Part

/-! ### Stretches of lines -/

/-- The lines from one position up to another. -/
def slice (ls : List String) (a b : ℕ) : List String := (ls.drop a).take (b - a)

section Slices

variable {ls : List String} {a b c : ℕ}

theorem slice_append_drop (h : a ≤ b) : slice ls a b ++ ls.drop b = ls.drop a := by
  have hdrop : ls.drop b = (ls.drop a).drop (b - a) := by rw [List.drop_drop, Nat.add_sub_cancel' h]
  rw [slice, hdrop, List.take_append_drop]

theorem slice_append (hab : a ≤ b) (hbc : b ≤ c) : slice ls a b ++ slice ls b c = slice ls a c := by
  have hsplit : c - a = b - a + (c - b) := by omega
  have hdrop : ls.drop b = (ls.drop a).drop (b - a) := by rw [List.drop_drop, Nat.add_sub_cancel' hab]
  rw [slice, slice, slice, hsplit, List.take_add, hdrop]

theorem length_slice (h : b ≤ ls.length) : (slice ls a b).length = b - a := by
  rw [slice, List.length_take, List.length_drop]
  omega

end Slices

/-! ### Sites of declarations -/

/-- The lines of a marked class, its decorators included, and what it declares. -/
structure Site where
  start : ℕ
  stop : ℕ
  declared : Service ⊕ Server

namespace Site

/-- The edits of the declaration. -/
def edits (t : Site) : List Edit := t.declared.elim (fun v => [Draft.serviceEdit v]) Draft.serverEdits

/-- The lines of the site, as they are and as they become. -/
def part (ls : List String) (t : Site) : Part :=
  match t.declared with
  | .inl v => .service (slice ls t.start t.stop) v
  | .inr v => .server (slice ls t.start (v.markerLines.1 - 1))
      (slice ls (v.markerLines.1 - 1) v.markerLines.2) (slice ls v.markerLines.2 t.stop) v

/-- A service fills its site. The marker of a server stands above the last line of its site. -/
def Fits (t : Site) : Prop :=
  match t.declared with
  | .inl v => v.firstLine - 1 = t.start ∧ v.lastLine = t.stop ∧ t.start < t.stop
  | .inr v => t.start < v.markerLines.1 ∧ v.markerLines.1 ≤ v.markerLines.2 ∧
      v.markerLines.2 ≤ t.stop ∧ v.lastLine = t.stop

/-- The edits of a site are made within its lines, one behind the other. -/
theorem Fits.edits {t : Site} (h : t.Fits) : t.edits.Pairwise Edit.Precedes ∧
    ∀ e ∈ t.edits, t.start ≤ e.start ∧ t.start < e.stop ∧ e.stop ≤ t.stop := by
  obtain ⟨start, stop, v | v⟩ := t <;> simp only [Fits] at h
  · obtain ⟨hstart, hstop, hlt⟩ := h
    refine ⟨List.pairwise_singleton _ _, fun e he => ?_⟩
    obtain rfl := List.mem_singleton.mp he
    simp only [Draft.serviceEdit]
    omega
  · obtain ⟨hstart, hmarker, hbelow, hstop⟩ := h
    simp only [Site.edits, Sum.elim_inr, Draft.serverEdits]
    split
    · refine ⟨List.pairwise_singleton _ _, fun e he => ?_⟩
      obtain rfl := List.mem_singleton.mp he
      dsimp only
      omega
    · refine ⟨List.pairwise_pair.mpr ⟨by dsimp only; omega, by dsimp only; omega⟩, fun e he => ?_⟩
      rcases List.mem_cons.mp he with rfl | he
      · dsimp only
        omega
      · obtain rfl := List.mem_singleton.mp he
        dsimp only
        omega

theorem Fits.lt {t : Site} (h : t.Fits) : t.start < t.stop := by
  obtain ⟨start, stop, v | v⟩ := t
  · exact h.2.2
  · obtain ⟨hstart, hmarker, hbelow, -⟩ := h
    exact Nat.lt_of_lt_of_le hstart (Nat.le_trans hmarker hbelow)

theorem Fits.before_part {t : Site} (h : t.Fits) (ls : List String) :
    (t.part ls).before = slice ls t.start t.stop := by
  obtain ⟨start, stop, v | v⟩ := t
  · rfl
  · obtain ⟨hstart, hmarker, hbelow, -⟩ := h
    simp only at hstart hmarker hbelow
    simp only [part, Part.before]
    rw [slice_append (by omega) (by omega), slice_append (by omega) hbelow]

/-- Sites one behind the other, on the lines from a position on. -/
structure Ordered (n pos : ℕ) (ts : List Site) : Prop where
  fits : ∀ t ∈ ts, t.Fits
  ordered : ts.Pairwise fun t u => t.stop ≤ u.start
  behind : ∀ t ∈ ts, pos ≤ t.start
  within : ∀ t ∈ ts, t.stop ≤ n

theorem Ordered.tail {n pos : ℕ} {t : Site} {ts : List Site} (h : Ordered n pos (t :: ts)) :
    Ordered n t.stop ts where
  fits u hu := h.fits u (List.mem_cons_of_mem t hu)
  ordered := (List.pairwise_cons.mp h.ordered).2
  behind := (List.pairwise_cons.mp h.ordered).1
  within u hu := h.within u (List.mem_cons_of_mem t hu)

/-- The edits of sites one behind the other. -/
theorem Ordered.pairwise_edits {n pos : ℕ} {ts : List Site} (h : Ordered n pos ts) :
    (ts.flatMap edits).Pairwise Edit.Precedes := by
  refine List.pairwise_flatMap.mpr ⟨fun t ht => (h.fits t ht).edits.1,
    h.ordered.imp_of_mem fun {t u} ht hu htu e he f hf => ?_⟩
  obtain ⟨-, -, hstop⟩ := (h.fits t ht).edits.2 e he
  obtain ⟨hstart, hlt, -⟩ := (h.fits u hu).edits.2 f hf
  exact ⟨by omega, by omega⟩

/-! ### The parts along the sites -/

/-- The parts of the lines from a position on: the sites and what stands between them. -/
def parts (ls : List String) (pos : ℕ) : List Site → List Part
  | [] => [.kept (ls.drop pos)]
  | t :: ts => .kept (slice ls pos t.start) :: t.part ls :: parts ls t.stop ts

variable {ls : List String} {pos : ℕ} {ts : List Site}

theorem flatMap_before (h : Ordered ls.length pos ts) :
    (parts ls pos ts).flatMap Part.before = ls.drop pos := by
  induction ts generalizing pos with
  | nil => simp [parts, Part.before]
  | cons t ts ih =>
    have hfits := h.fits t List.mem_cons_self
    have hpos := h.behind t List.mem_cons_self
    rw [parts, List.flatMap_cons, List.flatMap_cons, ih h.tail, hfits.before_part, Part.before,
      slice_append_drop hfits.lt.le, slice_append_drop hpos]

/-- What the walk passes before it meets an edit. -/
theorem splice_eq_slice_append {mid : ℕ} {edits : List Edit} (hmid : pos ≤ mid)
    (hedits : ∀ e ∈ edits, mid ≤ e.start) :
    Edit.splice ls pos edits = slice ls pos mid ++ Edit.splice ls mid edits := by
  cases edits with
  | nil => exact (slice_append_drop hmid).symm
  | cons e es =>
    have hstart := hedits e List.mem_cons_self
    rw [Edit.splice, Edit.splice, ← List.append_assoc, ← List.append_assoc]
    exact congrArg (· ++ e.lines ++ Edit.splice ls e.stop es) (slice_append hmid hstart).symm

/-- The walk through one site. -/
theorem Fits.splice_edits {t : Site} (h : t.Fits) {edits : List Edit}
    (hedits : ∀ e ∈ edits, t.stop ≤ e.start) : Edit.splice ls t.start (t.edits ++ edits) =
      (t.part ls).after ++ Edit.splice ls t.stop edits := by
  obtain ⟨start, stop, v | v⟩ := t <;> simp only [Fits] at h
  · obtain ⟨hstart, hstop, -⟩ := h
    simp only [Site.edits, Sum.elim_inl, List.singleton_append, Edit.splice, part, Part.after]
    simp [Draft.serviceEdit, hstart, hstop]
  · obtain ⟨hstart, hmarker, hbelow, hstop⟩ := h
    have hrest := @splice_eq_slice_append ls _ _ _ hbelow hedits
    simp only [Site.edits, Sum.elim_inr, Draft.serverEdits, part, Part.after]
    split
    · next hnone =>
      rw [List.isEmpty_iff] at hnone
      simp [Edit.splice, hrest, hnone, slice, Code.indent]
    · simp [Edit.splice, hstop, slice]

/-- **The walk along all edits passes the parts.** -/
theorem splice_sites (h : Ordered ls.length pos ts) :
    Edit.splice ls pos (ts.flatMap edits) = (parts ls pos ts).flatMap Part.after := by
  induction ts generalizing pos with
  | nil => simp [parts, Part.after, Edit.splice]
  | cons t ts ih =>
    have hfits := h.fits t List.mem_cons_self
    have hpos := h.behind t List.mem_cons_self
    have hrest : ∀ e ∈ ts.flatMap edits, t.stop ≤ e.start := by
      intro e he
      obtain ⟨u, hu, he⟩ := List.mem_flatMap.mp he
      exact Nat.le_trans (h.tail.behind u hu) ((h.tail.fits u hu).edits.2 e he).1
    have hall : ∀ e ∈ t.edits ++ ts.flatMap edits, t.start ≤ e.start := by
      intro e he
      rcases List.mem_append.mp he with he | he
      · exact (hfits.edits.2 e he).1
      · exact Nat.le_trans hfits.lt.le (hrest e he)
    rw [List.flatMap_cons, splice_eq_slice_append hpos hall, hfits.splice_edits hrest, ih h.tail, parts,
      List.flatMap_cons, List.flatMap_cons, Part.after]

theorem declared?_part (t : Site) : (t.part ls).declared? = some t.declared := by
  obtain ⟨start, stop, v | v⟩ := t <;> rfl

theorem added?_part (t : Site) : (t.part ls).added? = none := by
  obtain ⟨start, stop, v | v⟩ := t <;> rfl

theorem filterMap_declared (ls : List String) (pos : ℕ) (ts : List Site) :
    (parts ls pos ts).filterMap Part.declared? = ts.map declared := by
  induction ts generalizing pos with
  | nil => rfl
  | cons t ts ih =>
    rw [parts, List.filterMap_cons_none rfl, List.filterMap_cons_some (declared?_part t), ih,
      List.map_cons]

theorem filterMap_added (ls : List String) (pos : ℕ) (ts : List Site) :
    (parts ls pos ts).filterMap Part.added? = [] := by
  induction ts generalizing pos with
  | nil => rfl
  | cons t ts ih =>
    rw [parts, List.filterMap_cons_none rfl, List.filterMap_cons_none (added?_part t), ih]

/-- A site stands where it says. -/
theorem standsAt_part (h : Ordered ls.length pos ts) {t : Site} (ht : t ∈ ts) :
    Part.StandsAt (parts ls pos ts) (t.start - pos) (t.part ls) := by
  induction ts generalizing pos with
  | nil => cases ht
  | cons u us ih =>
    have hfits := h.fits u List.mem_cons_self
    have hpos := h.behind u List.mem_cons_self
    have hwithin := h.within u List.mem_cons_self
    have hkept : (Part.kept (slice ls pos u.start)).before.length = u.start - pos :=
      length_slice (Nat.le_trans hfits.lt.le hwithin)
    rcases List.mem_cons.mp ht with rfl | ht
    · have hstands := (Part.StandsAt.head (t.part ls) (parts ls t.stop us)).cons
        (.kept (slice ls pos t.start))
      rwa [hkept] at hstands
    · have hstands := ((ih h.tail ht).cons (u.part ls)).cons (.kept (slice ls pos u.start))
      have hstop := h.tail.behind t ht
      have hlt := hfits.lt
      rw [hfits.before_part, length_slice hwithin, hkept] at hstands
      rw [parts]
      convert hstands using 1
      omega

/-- Lines that no site reaches into stay together. -/
theorem standsAt_kept (h : Ordered ls.length pos ts) {first last : ℕ} (hpos : pos ≤ first)
    (hlast : last ≤ ls.length) (hapart : ∀ t ∈ ts, last ≤ t.start ∨ t.stop ≤ first) :
    ∃ line lines, Part.StandsAt (parts ls pos ts) (line - pos) (.kept lines) ∧ pos ≤ line ∧
      line ≤ first ∧ last ≤ line + lines.length := by
  induction ts generalizing pos with
  | nil =>
    refine ⟨pos, ls.drop pos, ?_, Nat.le_refl _, hpos, by rw [List.length_drop]; omega⟩
    rw [Nat.sub_self]
    exact .head _ _
  | cons t ts ih =>
    have hfits := h.fits t List.mem_cons_self
    have hstart := h.behind t List.mem_cons_self
    have hwithin := h.within t List.mem_cons_self
    have hlt := hfits.lt
    have hlength : (slice ls pos t.start).length = t.start - pos :=
      length_slice (Nat.le_trans hlt.le hwithin)
    rcases hapart t List.mem_cons_self with habove | hbelow
    · refine ⟨pos, slice ls pos t.start, ?_, Nat.le_refl _, hpos, by rw [hlength]; omega⟩
      rw [Nat.sub_self]
      exact .head _ _
    · obtain ⟨line, lines, hstands, hline, hfirst, hlines⟩ :=
        ih h.tail hbelow fun u hu => hapart u (List.mem_cons_of_mem t hu)
      refine ⟨line, lines, ?_, by omega, hfirst, hlines⟩
      have hstands := (hstands.cons (t.part ls)).cons (.kept (slice ls pos t.start))
      rw [hfits.before_part, length_slice hwithin, Part.before, hlength] at hstands
      rw [parts]
      convert hstands using 1
      omega

end Site

/-! ### The sites of a module -/

section Sites

variable {names : MarkerNames} {sourceLines : List String} {services : List Service}

/-- A marked class and its site. -/
structure IsSite (names : MarkerNames) (sourceLines : List String) (services : List Service)
    (s : Stmt) (t : Site) : Prop where
  start : t.start = s.firstLine - 1
  stop : t.stop = s.endLine
  marker : names.markersOn s = [t.declared.elim (fun _ => .service) fun _ => .server]
  declared : t.declared.elim (IsServiceAt names s) (IsServerAt names sourceLines services s)

/-- The services and the servers in the order of their classes. -/
theorem exists_sites {body : List Stmt} {vs : List Service} {ws : List Server}
    (hsingle : ∀ s ∈ body, (names.markersOn s).length ≤ 1)
    (hvs : List.Forall₂ (IsServiceAt names) (body.filter fun s => .service ∈ names.markersOn s) vs)
    (hws : List.Forall₂ (IsServerAt names sourceLines services)
      (body.filter fun s => .server ∈ names.markersOn s) ws) :
    ∃ ts, List.Forall₂ (IsSite names sourceLines services)
        (body.filter fun s => names.markersOn s ≠ []) ts ∧
      ts.filterMap (·.declared.getLeft?) = vs ∧ ts.filterMap (·.declared.getRight?) = ws := by
  induction body generalizing vs ws with
  | nil =>
    cases hvs
    cases hws
    exact ⟨[], .nil, rfl, rfl⟩
  | cons s body ih =>
    obtain ⟨hs, hrest⟩ := List.forall_mem_cons.mp hsingle
    match hmarkers : names.markersOn s with
    | [] =>
      rw [List.filter_cons_of_neg (by simp [hmarkers])] at hvs hws ⊢
      exact ih hrest hvs hws
    | [.service] =>
      rw [List.filter_cons_of_pos (by simp [hmarkers])] at hvs ⊢
      rw [List.filter_cons_of_neg (by simp [hmarkers])] at hws
      cases hvs with
      | cons hv hvs =>
        obtain ⟨ts, hts, rfl, rfl⟩ := ih hrest hvs hws
        exact ⟨⟨s.firstLine - 1, s.endLine, .inl _⟩ :: ts, .cons ⟨rfl, rfl, hmarkers, hv⟩ hts, rfl, rfl⟩
    | [.server] =>
      rw [List.filter_cons_of_neg (by simp [hmarkers])] at hvs
      rw [List.filter_cons_of_pos (by simp [hmarkers])] at hws ⊢
      cases hws with
      | cons hw hws =>
        obtain ⟨ts, hts, rfl, rfl⟩ := ih hrest hvs hws
        exact ⟨⟨s.firstLine - 1, s.endLine, .inr _⟩ :: ts, .cons ⟨rfl, rfl, hmarkers, hw⟩ hts, rfl, rfl⟩
    | _ :: _ :: _ => simp [hmarkers] at hs

/-- The edits of the sites are those of the services and of the servers. -/
theorem perm_edits (ts : List Site) : (ts.flatMap Site.edits).Perm
    ((ts.filterMap (·.declared.getLeft?)).map Draft.serviceEdit ++
      (ts.filterMap (·.declared.getRight?)).flatMap Draft.serverEdits) := by
  induction ts with
  | nil => exact .nil
  | cons t ts ih =>
    obtain ⟨start, stop, v | w⟩ := t
    · exact .cons _ ih
    · rw [List.flatMap_cons]
      refine (ih.append_left _).trans ?_
      exact List.perm_append_comm_assoc _ _ _

theorem decorators_of_isClassOf {s : Stmt} {c : MarkedClass} (h : IsClassOf names s c) :
    s.decorators = c.decorators := by
  rw [Stmt.decorators, h.node]

/-- The declaration fits its site. -/
theorem IsSite.fits {s : Stmt} {t : Site} (h : IsSite names sourceLines services s t)
    (hs : Shaped s) (hfirst : 0 < s.firstLine) (hle : s.firstLine ≤ s.endLine) : t.Fits := by
  obtain ⟨start, stop, declared⟩ := t
  obtain ⟨rfl, rfl, -, hdeclared⟩ := h
  cases declared with
  | inl v =>
    obtain ⟨c, hc, hread⟩ := hdeclared.read
    have hline : v.firstLine = s.firstLine := by
      rw [firstLine_of_readService hread, MarkedClass.firstLine, Stmt.firstLine,
        decorators_of_isClassOf hc, hc.span]
      rfl
    exact ⟨by rw [hline], hdeclared.lastLine, by dsimp only; omega⟩
  | inr v =>
    obtain ⟨c, hc, hread⟩ := hdeclared.read
    have hmarker := mem_of_markersOf (hc.found ▸ List.mem_singleton_self c.found)
    obtain ⟨hshape, hdecorators⟩ := hs _ _ _ _ _ hc.node
    obtain ⟨hspan, hlt⟩ := hdecorators _ hmarker
    have hbehind : s.firstLine ≤ c.found.decorator.span.start.line := by
      have hall := (Stmt.lt_firstLine_iff.mp (Nat.sub_lt hfirst Nat.one_pos)).2 _
        (decorators_of_isClassOf hc ▸ hmarker)
      omega
    have hlines := markerLines_of_readServer hread
    refine ⟨?_, ?_, ?_, hdeclared.lastLine⟩ <;> rw [hlines] <;> dsimp only <;> omega

/-- What holds of members of a list, one behind the other, holds of what is in step with them. -/
theorem pairwise_of_forall₂ {α β : Type} {R : α → β → Prop} {P : α → α → Prop} {Q : β → β → Prop}
    {as : List α} {bs : List β} (h : List.Forall₂ R as bs) (has : as.Pairwise P)
    (hstep : ∀ {a a' b b'}, R a b → R a' b' → P a a' → Q b b') : bs.Pairwise Q := by
  induction h with
  | nil => exact .nil
  | cons hab hrest ih =>
    obtain ⟨hfirst, has⟩ := List.pairwise_cons.mp has
    refine List.pairwise_cons.mpr ⟨fun b' hb' => ?_, ih has⟩
    obtain ⟨a', ha', hab'⟩ := (exists_of_forall₂ hrest).2 b' hb'
    exact hstep hab hab' (hfirst a' ha')

/-- A class that declares something is no simple statement. -/
theorem isDefinition_of_marked {s : Stmt} (h : names.markersOn s ≠ []) :
    isDefinition s.node = true := by
  unfold MarkerNames.markersOn at h
  split at h
  · next hnode => rw [hnode, isDefinition]
  · exact absurd rfl h

/-- What comes behind a class stands below its lines, and so does a class that comes behind
something. -/
theorem lt_of_trails {s t : Stmt} (h : Trails s t)
    (hmarked : names.markersOn s ≠ [] ∨ names.markersOn t ≠ []) : s.endLine < t.firstLine := by
  rcases h with hlt | ⟨-, hs, ht⟩
  · exact hlt
  · rcases hmarked with hmarked | hmarked
    · exact absurd ((isDefinition_of_marked hmarked).symm.trans hs) (by decide)
    · exact absurd ((isDefinition_of_marked hmarked).symm.trans ht) (by decide)

theorem lt_of_behind {s : Stmt} {line : ℕ} (h : Behind line s) (hmarked : names.markersOn s ≠ []) :
    line < s.firstLine := by
  unfold MarkerNames.markersOn at hmarked
  split at hmarked
  · next hnode =>
    have hlt := h _ _ _ _ _ hnode
    rwa [Stmt.lt_firstLine_iff, Stmt.decorators, hnode]
  · exact absurd rfl hmarked

/-- The sites of marked classes stand one behind the other. -/
theorem ordered_sites {last pos : ℕ} {body : List Stmt} {ts : List Site} (hbody : Rows 0 last body)
    (hpos : ∀ s ∈ body, names.markersOn s ≠ [] → pos < s.firstLine)
    (h : List.Forall₂ (IsSite names sourceLines services)
      (body.filter fun s => names.markersOn s ≠ []) ts) : Site.Ordered last pos ts := by
  have hmem : ∀ t ∈ ts, ∃ s ∈ body, names.markersOn s ≠ [] ∧
      IsSite names sourceLines services s t := by
    intro t ht
    obtain ⟨s, hs, hsite⟩ := (exists_of_forall₂ h).2 t ht
    obtain ⟨hs, hmarked⟩ := List.mem_filter.mp hs
    exact ⟨s, hs, by simpa using hmarked, hsite⟩
  refine ⟨fun t ht => ?_, ?_, fun t ht => ?_, fun t ht => ?_⟩
  · obtain ⟨s, hs, -, hsite⟩ := hmem t ht
    exact hsite.fits (hbody.shaped s hs) (hbody.fresh s hs) (hbody.ordered s hs)
  · refine pairwise_of_forall₂ (P := fun s t => s.endLine < t.firstLine) h ?_ ?_
    · refine (hbody.trails.filter _).imp_of_mem fun {s t} hs _ hst => ?_
      have hmarked : names.markersOn s ≠ [] := by simpa using (List.mem_filter.mp hs).2
      exact lt_of_trails hst (.inl hmarked)
    · intro s s' t t' hsite hsite' hlt
      have := hsite.stop
      have := hsite'.start
      omega
  · obtain ⟨s, hs, hmarked, hsite⟩ := hmem t ht
    have := hpos s hs hmarked
    have := hsite.start
    omega
  · obtain ⟨s, hs, -, hsite⟩ := hmem t ht
    exact hsite.stop ▸ hbody.last s hs

end Sites

/-! ### The parts of a module -/

/-- **The walk along edits** that are made in the order of their positions comes to the edits one
after the other, in whatever order they were recorded. -/
theorem Edit.Compatible.applyAll_eq_splice {ls : List String} {edits es : List Edit}
    (h : Compatible ls.length edits) (hperm : es.Perm edits) (hes : es.Pairwise Precedes) :
    applyAll ls edits = splice ls 0 es := by
  have hahead : Ahead ls.length 0 es :=
    ⟨hes, fun e he => h.ranges e (hperm.mem_iff.mp he), fun _ _ => Nat.zero_le _⟩
  have hlines : linesAt ls edits = linesAt ls es := funext fun p => (h.linesAt_eq hperm ls p).symm
  rw [h.applyAll_eq_replaceAll, replaceAll, List.range_eq_range', hlines, ← flatMap_linesAt hahead]
  rfl

section Top

variable {ls banner imports : List String} {b i : ℕ} {ts : List Site}

/-- The parts of a module: the banner behind one line, the imports behind another one, and the sites
of its declarations below. -/
def moduleParts (ls : List String) (b i : ℕ) (banner imports : List String) (ts : List Site) :
    List Part :=
  .kept (slice ls 0 b) :: .added banner :: .kept (slice ls b i) :: .added imports ::
    Site.parts ls i ts

/-- The edits of a module in the order of their positions. -/
def orderedEdits (b i : ℕ) (banner imports : List String) (ts : List Site) : List Edit :=
  ⟨b, b, banner, 0⟩ :: ⟨i, i, imports, 1⟩ :: ts.flatMap Site.edits

theorem precedes_orderedEdits {n : ℕ} (hbi : b ≤ i) (h : Site.Ordered n i ts) :
    (orderedEdits b i banner imports ts).Pairwise Edit.Precedes := by
  have hsites : ∀ e ∈ ts.flatMap Site.edits, i ≤ e.start ∧ i < e.stop := by
    intro e he
    obtain ⟨t, ht, he⟩ := List.mem_flatMap.mp he
    have := (h.fits t ht).edits.2 e he
    have := h.behind t ht
    omega
  refine List.pairwise_cons.mpr ⟨List.forall_mem_cons.mpr ⟨⟨hbi, fun _ _ => Nat.one_pos⟩, ?_⟩,
    List.pairwise_cons.mpr ⟨fun e he => ?_, h.pairwise_edits⟩⟩
  · intro e he
    have := hsites e he
    exact ⟨by dsimp only; omega, by dsimp only; omega⟩
  · have := hsites e he
    exact ⟨by dsimp only; omega, by dsimp only; omega⟩

theorem flatMap_before_moduleParts (hbi : b ≤ i) (h : Site.Ordered ls.length i ts) :
    (moduleParts ls b i banner imports ts).flatMap Part.before = ls := by
  simp only [moduleParts, List.flatMap_cons, Part.before, List.nil_append, Site.flatMap_before h]
  rw [slice_append_drop hbi, slice_append_drop (Nat.zero_le b), List.drop_zero]

theorem splice_orderedEdits (h : Site.Ordered ls.length i ts) :
    Edit.splice ls 0 (orderedEdits b i banner imports ts) =
      (moduleParts ls b i banner imports ts).flatMap Part.after := by
  simp only [moduleParts, orderedEdits, List.flatMap_cons, Part.after, Edit.splice,
    Site.splice_sites h, slice, List.append_assoc]

theorem filterMap_declared_moduleParts (ls banner imports : List String) (b i : ℕ) (ts : List Site) :
    (moduleParts ls b i banner imports ts).filterMap Part.declared? = ts.map Site.declared := by
  rw [← Site.filterMap_declared ls i ts]
  rfl

theorem filterMap_added_moduleParts (ls banner imports : List String) (b i : ℕ) (ts : List Site) :
    (moduleParts ls b i banner imports ts).filterMap Part.added? = [banner, imports] := by
  have hsites := congrArg ([banner, imports] ++ ·) (Site.filterMap_added ls i ts)
  rwa [List.append_nil] at hsites

/-- What stands below the imports. -/
theorem standsAt_moduleParts (hbi : b ≤ i) (hi : i ≤ ls.length) {line : ℕ} (hline : i ≤ line)
    {p : Part} (h : Part.StandsAt (Site.parts ls i ts) (line - i) p) :
    Part.StandsAt (moduleParts ls b i banner imports ts) line p := by
  have hstands := (((h.cons (.added imports)).cons (.kept (slice ls b i))).cons (.added banner)).cons
    (.kept (slice ls 0 b))
  simp only [Part.before, List.length_nil, length_slice hi,
    length_slice (Nat.le_trans hbi hi)] at hstands
  rw [moduleParts]
  convert hstands using 1
  omega

/-- What stands between the banner and the imports. -/
theorem standsAt_between (hbi : b ≤ i) (hi : i ≤ ls.length) :
    Part.StandsAt (moduleParts ls b i banner imports ts) b (.kept (slice ls b i)) := by
  have hstands := ((Part.StandsAt.head (.kept (slice ls b i))
    (.added imports :: Site.parts ls i ts)).cons (.added banner)).cons (.kept (slice ls 0 b))
  simp only [Part.before, List.length_nil, length_slice (Nat.le_trans hbi hi)] at hstands
  simpa [moduleParts] using hstands

end Top

/-! ### Statements and parts -/

/-- No statement stands on both sides of the line that the imports go behind. -/
def HeaderApart (body : List Stmt) : Prop :=
  ∀ s ∈ body, s.endLine ≤ importLineOf body ∨ importLineOf body < s.firstLine

/-- The part that a statement at the top level stands in. If it carries no marker, its lines are
kept, one behind the other. If it is marked as a service, its lines are those that make way for the
artifacts. If it is marked as a server, its lines are those of the marker and those above and below
them. -/
structure Carried (names : MarkerNames) (sourceLines : List String) (services : List Service)
    (parts : List Part) (s : Stmt) : Prop where
  kept : names.markersOn s = [] → ∃ line lines, Part.StandsAt parts line (.kept lines) ∧
    line < s.firstLine ∧ s.endLine ≤ line + lines.length
  service : .service ∈ names.markersOn s → ∃ lines v, IsServiceAt names s v ∧
    Part.StandsAt parts (s.firstLine - 1) (.service lines v) ∧
      s.firstLine + lines.length = s.endLine + 1
  server : .server ∈ names.markersOn s → ∃ above marker below v,
    IsServerAt names sourceLines services s v ∧
      Part.StandsAt parts (s.firstLine - 1) (.server above marker below v) ∧
        s.firstLine + above.length = v.markerLines.1 ∧
          v.markerLines.1 + marker.length = v.markerLines.2 + 1 ∧
            v.markerLines.2 + below.length = s.endLine

section Carried

variable {names : MarkerNames} {sourceLines ls banner imports : List String}
  {services : List Service} {body : List Stmt} {b i : ℕ} {ts : List Site}

/-- A statement without a marker stands between the sites. -/
theorem exists_kept {s : Stmt} (hbody : Rows 0 ls.length body) (hordered : Site.Ordered ls.length i ts)
    (hts : List.Forall₂ (IsSite names sourceLines services)
      (body.filter fun s => names.markersOn s ≠ []) ts)
    (hbi : b ≤ i) (hi : i ≤ ls.length) (hs : s ∈ body) (hb : b < s.firstLine)
    (hapart : s.endLine ≤ i ∨ i < s.firstLine) (hnone : names.markersOn s = []) :
    ∃ line lines, Part.StandsAt (moduleParts ls b i banner imports ts) line (.kept lines) ∧
      line < s.firstLine ∧ s.endLine ≤ line + lines.length := by
  rcases hapart with habove | hbelow
  · refine ⟨b, _, standsAt_between hbi hi, hb, ?_⟩
    rw [length_slice hi]
    omega
  · have hsites : ∀ t ∈ ts, s.endLine ≤ t.start ∨ t.stop ≤ s.firstLine - 1 := by
      intro t ht
      obtain ⟨c, hc, hsite⟩ := (exists_of_forall₂ hts).2 t ht
      obtain ⟨hc, hmarked⟩ := List.mem_filter.mp hc
      have hmarked : names.markersOn c ≠ [] := by simpa using hmarked
      have hne : s ≠ c := by
        rintro rfl
        exact hmarked hnone
      have hstart := hsite.start
      have hstop := hsite.stop
      have hboth : body.Pairwise fun s t => Trails s t ∨ Trails t s := hbody.trails.imp Or.inl
      have : Std.Symm fun s t => Trails s t ∨ Trails t s := ⟨fun _ _ => Or.symm⟩
      rcases hboth.forall hs hc hne with hbefore | hbehind
      · have := lt_of_trails hbefore (.inr hmarked)
        omega
      · have := lt_of_trails hbehind (.inl hmarked)
        omega
    obtain ⟨line, lines, hstands, hline, hfirst, hlines⟩ := Site.standsAt_kept hordered
      (show i ≤ s.firstLine - 1 by omega) (hbody.last s hs) hsites
    exact ⟨line, lines, standsAt_moduleParts hbi hi hline hstands, by omega, hlines⟩

variable (banner imports) in
/-- A statement with a marker stands in the part of its site. -/
theorem exists_site {s : Stmt} (hordered : Site.Ordered ls.length i ts)
    (hts : List.Forall₂ (IsSite names sourceLines services)
      (body.filter fun s => names.markersOn s ≠ []) ts)
    (hbi : b ≤ i) (hi : i ≤ ls.length) (hs : s ∈ body) (hmarked : names.markersOn s ≠ []) :
    ∃ t, IsSite names sourceLines services s t ∧ t.Fits ∧ t.stop ≤ ls.length ∧
      Part.StandsAt (moduleParts ls b i banner imports ts) (s.firstLine - 1) (t.part ls) := by
  obtain ⟨t, ht, hsite⟩ := (exists_of_forall₂ hts).1 s (List.mem_filter.mpr ⟨hs, by simpa using hmarked⟩)
  refine ⟨t, hsite, hordered.fits t ht, hordered.within t ht, ?_⟩
  rw [← hsite.start]
  exact standsAt_moduleParts hbi hi (hordered.behind t ht) (Site.standsAt_part hordered ht)

/-- **Every statement comes through in its part.** -/
theorem carried_of_sites {s : Stmt} (hbody : Rows 0 ls.length body)
    (hordered : Site.Ordered ls.length i ts)
    (hts : List.Forall₂ (IsSite names sourceLines services)
      (body.filter fun s => names.markersOn s ≠ []) ts)
    (hbi : b ≤ i) (hi : i ≤ ls.length) (hs : s ∈ body)
    (hb : b < s.firstLine) (hapart : s.endLine ≤ i ∨ i < s.firstLine) :
    Carried names sourceLines services (moduleParts ls b i banner imports ts) s := by
  have hfirst := hbody.fresh s hs
  have hle := hbody.ordered s hs
  refine ⟨exists_kept hbody hordered hts hbi hi hs hb hapart, fun hservice => ?_, fun hserver => ?_⟩
  · obtain ⟨⟨start, stop, v | v⟩, ⟨rfl, rfl, hmarker, hv⟩, hfits, hwithin, hstands⟩ :=
      exists_site banner imports hordered hts hbi hi hs
        (List.ne_nil_of_mem hservice)
    · refine ⟨slice ls (s.firstLine - 1) s.endLine, v, hv, hstands, ?_⟩
      simp only at hwithin
      rw [length_slice hwithin]
      omega
    · rw [hmarker] at hservice
      cases List.mem_singleton.mp hservice
  · obtain ⟨⟨start, stop, v | v⟩, ⟨rfl, rfl, hmarker, hv⟩, hfits, hwithin, hstands⟩ :=
      exists_site banner imports hordered hts hbi hi hs
        (List.ne_nil_of_mem hserver)
    · rw [hmarker] at hserver
      cases List.mem_singleton.mp hserver
    · obtain ⟨hstart, hmarker, hbelow, -⟩ := hfits
      simp only at hstart hmarker hbelow hwithin
      refine ⟨slice ls (s.firstLine - 1) (v.markerLines.1 - 1),
        slice ls (v.markerLines.1 - 1) v.markerLines.2, slice ls v.markerLines.2 s.endLine, v, hv,
        hstands, ?_, ?_, ?_⟩
      · rw [length_slice (by omega)]
        omega
      · rw [length_slice (by omega)]
        omega
      · rw [length_slice hwithin]
        omega

end Carried

/-! ### Expansions -/

/-- The parts of an expansion: the source text and the expanded text, the latter of which ends in a
newline, are put together from them. What is added besides the artifacts is the banner and a block
of imports. The parts hold the declarations of the module, each once, and every statement comes
through in its part. -/
structure IsExpansion (d : Draft) (source text : String) (body : List Stmt) (parts : List Part) :
    Prop where
  before : ∃ rest, (rest = [] ∨ rest = [""]) ∧
    (Text.numberedLines source.toList).map String.ofList = parts.flatMap Part.before ++ rest
  after : text = Text.joinLines (parts.flatMap Part.after) ++ "\n"
  added : ∃ imports lines, IsImportBlock imports lines ∧
    parts.filterMap Part.added? = [[d.banner], lines]
  services : (parts.filterMap Part.declared?).filterMap Sum.getLeft? = d.declared.services
  servers : (parts.filterMap Part.declared?).filterMap Sum.getRight? = d.declared.servers
  carried : ∀ s ∈ body,
    Carried (.ofModule body) (Text.splitLines source) d.declared.services parts s

namespace Draft

/-- The edits near the top, if anything is imported. -/
theorem headEdits_of_requested {d : Draft} (h : d.requested ≠ []) : ∃ imports lines,
    IsImportBlock imports lines ∧
      d.headEdits = [⟨max d.declared.importLine (bannerLine d.sourceLines),
        max d.declared.importLine (bannerLine d.sourceLines), lines, 1⟩,
        ⟨bannerLine d.sourceLines, bannerLine d.sourceLines, [d.banner], 0⟩] := by
  have hgap (c : Prop) [Decidable c] : (if c then [""] else []) ∈ [[], [""]] := by
    split <;> simp
  refine ⟨_, _, @isImportBlock d.requested _
    (hgap (bannerLine d.sourceLines < max d.declared.importLine (bannerLine d.sourceLines))), ?_⟩
  dsimp only [headEdits]
  rw [if_neg (by simpa using h)]
  rfl

/-- What declares something needs an import. -/
theorem full_ne_nil {d : Draft} (h : d.hasExpansions = true) : d.full ≠ [] := by
  have hsome : d.declared.services ≠ [] ∨ d.declared.servers ≠ [] := by
    simpa [hasExpansions, Schema.Module.isEmpty, or_iff_not_imp_left] using h
  rcases hsome with hservices | hservers
  · obtain ⟨v, hv⟩ := List.exists_mem_of_ne_nil _ hservices
    exact List.ne_nil_of_mem (mem_full_of_service hv .runtime)
  · obtain ⟨v, hv⟩ := List.exists_mem_of_ne_nil _ hservers
    exact List.ne_nil_of_mem (mem_full_of_server hv List.mem_cons_self)

end Draft

section Expanding

variable {source filename text : String} {body : List Stmt} {d : Draft}

/-- The edits of a draft in the order of their positions. -/
theorem exists_orderedEdits (hrecords : Draft.Records source d) (hnone : d.edits = none)
    (hdeclares : d.hasExpansions = true) {i : ℕ} {ts : List Site}
    (hi : i = max d.declared.importLine (Draft.bannerLine d.sourceLines))
    (hordered : Site.Ordered d.sourceLines.length i ts)
    (hservices : ts.filterMap (·.declared.getLeft?) = d.declared.services)
    (hservers : ts.filterMap (·.declared.getRight?) = d.declared.servers) :
    ∃ imports lines, IsImportBlock imports lines ∧ d.complete.lines = Edit.splice d.sourceLines 0
      (orderedEdits (Draft.bannerLine d.sourceLines) i [d.banner] lines ts) := by
  obtain ⟨imports, lines, himports, hhead⟩ := Draft.headEdits_of_requested
    (d := { d with requested := d.requested ++ d.full })
    (List.append_ne_nil_of_right_ne_nil _ (Draft.full_ne_nil hdeclares))
  refine ⟨imports, lines, himports, ?_⟩
  obtain ⟨edits, hedits, hcompatible⟩ := Draft.compatible_complete hrecords hnone
  have hlines : d.complete.lines = Edit.applyAll d.sourceLines edits := by
    rw [Draft.lines, hedits, Draft.complete_of_none hnone]
    rfl
  rw [Draft.complete_of_none hnone, hhead, ← hi] at hedits
  obtain rfl := Option.some.inj hedits
  rw [hlines]
  refine hcompatible.applyAll_eq_splice ?_ (precedes_orderedEdits (hi ▸ le_max_right _ _) hordered)
  have hperm := perm_edits ts
  rw [hservices, hservers] at hperm
  exact (List.Perm.append_right [_, _] hperm |>.symm.trans List.perm_append_comm |>.trans
    (.swap _ _ _)).symm

/-- The parts of a draft that is completed. -/
theorem exists_isExpansion (hrecords : Draft.Records source d) (hnone : d.edits = none)
    (hdeclares : d.hasExpansions = true) (hbody : readModule source.toList = .ok body)
    (hplain : Text.OnlyNewlines source.toList) (happart : HeaderApart body) :
    ∃ parts, IsExpansion d source d.complete.text body parts := by
  have hm := hrecords.declared
  simp only [Module.ofSource, hbody] at hm
  have hmarked := declaresMarked_of_ofBody hm
  have hline := importLine_of_ofBody hm
  have hlength : (Text.lines source.toList).length = d.sourceLines.length := by
    rw [hrecords.sourceLines, Text.splitLines, List.length_map]
  have hrows := rows_of_readModule hbody
  rw [hlength] at hrows
  obtain ⟨himport, hbehind⟩ := behind_importLineOf hrows.laid
  obtain ⟨hb, hfresh⟩ := bannerLine_lt hbody
  rw [← hrecords.sourceLines] at hb hfresh
  obtain ⟨ts, hts, hservices, hservers⟩ :=
    exists_sites hmarked.single hmarked.services hmarked.servers
  obtain ⟨i, hi⟩ : ∃ i, i = max d.declared.importLine (Draft.bannerLine d.sourceLines) := ⟨_, rfl⟩
  have hordered : Site.Ordered d.sourceLines.length i ts := ordered_sites hrows (fun s hs hmarks => by
    have := lt_of_behind (hbehind s hs) hmarks
    have := hfresh s hs
    omega) hts
  obtain ⟨imports, lines, himports, hlines⟩ :=
    exists_orderedEdits hrecords hnone hdeclares hi hordered hservices hservers
  obtain ⟨rest, hrest, hnumbered⟩ := Text.numberedLines_eq hplain
  have hbi : Draft.bannerLine d.sourceLines ≤ i := hi ▸ le_max_right _ _
  refine ⟨moduleParts d.sourceLines (Draft.bannerLine d.sourceLines) i [d.banner] lines ts,
    ⟨rest.map String.ofList, ?_, ?_⟩, ?_, ⟨imports, lines, himports, ?_⟩, ?_, ?_, fun s hs => ?_⟩
  · rcases hrest with rfl | rfl
    · exact .inl rfl
    · exact .inr rfl
  · rw [flatMap_before_moduleParts hbi hordered, hnumbered, List.map_append, hrecords.sourceLines,
      Text.splitLines]
  · rw [Draft.text, hlines, splice_orderedEdits hordered]
  · exact filterMap_added_moduleParts _ _ _ _ _ _
  · rw [filterMap_declared_moduleParts, List.filterMap_map]
    exact hservices
  · rw [filterMap_declared_moduleParts, List.filterMap_map]
    exact hservers
  · refine carried_of_sites hrows hordered hts hbi (by omega) hs (hfresh s hs) ?_
    have := happart s hs
    have := hfresh s hs
    omega

/-- **An expansion and its source text, part by part.** A source text is accepted, it has no
boundaries besides newlines, and no statement stands on both sides of the line that imports go
behind. Then the lines of its declarations, as places number them, make way for their artifacts, and
all other lines of its statements are kept, in order and with nothing in between.

This is about lines. A marker that is written over several lines leaves what stands around its name,
and whether the lines make a module again is not said. -/
theorem expand_parts (h : expand source filename = .ok (some text))
    (hbody : readModule source.toList = .ok body) (hplain : Text.OnlyNewlines source.toList)
    (happart : HeaderApart body) :
    ∃ d parts, Draft.ofSource source filename = .ok d ∧ IsExpansion d source text body parts := by
  obtain ⟨d, hd, h⟩ := exists_of_bind h
  obtain ⟨m, hm, hd'⟩ := exists_of_bind hd
  obtain rfl := Except.ok.inj hd'
  split at h
  case isFalse => cases h
  case isTrue hdeclares =>
    obtain rfl := Option.some.inj (Except.ok.inj h)
    obtain ⟨parts, hparts⟩ := @exists_isExpansion source _ _ ⟨hm, rfl, by simp⟩ rfl hdeclares
      hbody hplain happart
    exact ⟨_, parts, hd, hparts⟩

end Expanding

instance (cs : List Char) : Decidable (Text.OnlyNewlines cs) :=
  decidable_of_iff (cs.all fun c => !Text.isBoundary c || c == '\n' || c == '\r') (by
    simp [Text.OnlyNewlines, or_iff_not_imp_left])

instance (body : List Stmt) : Decidable (HeaderApart body) :=
  inferInstanceAs (Decidable (∀ s ∈ body, _))

/-- A server between two statements. -/
def surroundedSource : String :=
  "from grpc_stub_generator import server\n@server\nclass B:\n x=1\ny=2\n"

theorem expand_parts_surrounded : ∃ text body d parts,
    expand surroundedSource "m.py" = .ok (some text) ∧
      readModule surroundedSource.toList = .ok body ∧
      Draft.ofSource surroundedSource "m.py" = .ok d ∧
      IsExpansion d surroundedSource text body parts := by
  have hchars : surroundedSource.toList = _ := String.toList_ofList
  obtain ⟨text, htext⟩ : ∃ text, expand surroundedSource "m.py" = .ok (some text) :=
    exists_expand hchars (by decide +kernel)
  have hread : (readModule surroundedSource.toList).toOption.map (decide <| HeaderApart ·) = some true := by
    rw [hchars]
    decide +kernel
  have hplain : Text.OnlyNewlines surroundedSource.toList := by
    rw [hchars]
    decide +kernel
  obtain ⟨body, hbody, happart⟩ := exists_of_toOption_map hread
  obtain ⟨d, parts, hd, hparts⟩ := expand_parts htext hbody hplain (of_decide_eq_true happart)
  exact ⟨text, body, d, parts, htext, hbody, hd, hparts⟩

/-- A server below a comment with a form feed in it. -/
def shiftedSource : String :=
  "#\x0cb\nfrom grpc_stub_generator import server\n@server\nclass B:\n x=1\n"

/-- What becomes of it. -/
def shiftedText : String :=
  "# This module was generated by grpc-stub-generator from `m.py`. Do not edit by hand.\n" ++
    "from grpc_stub_generator import runtime as _grpc_runtime\n\n#\nb\n@server\nclass B:\n x=1\n"

/-- The name that a statement consists of. -/
def loneName? (s : Stmt) : Option String :=
  match s.node with
  | .expression (.name id) => some id
  | _ => none

/-- The classes of a module, with the number of their decorators. -/
def decoratedClasses (body : List Stmt) : List (String × ℕ) :=
  body.filterMap fun s =>
    match s.node with
    | .classDef name _ _ ds _ => some (name, ds.length)
    | _ => none

instance (a b : Edit) : Decidable (Edit.Precedes a b) := inferInstanceAs (Decidable (_ ∧ _))

/-- Behind a form feed all cuts are one line too high: the end of the comment becomes a statement,
and the marker stays, while the line that imports it is removed. -/
theorem expand_shifted : ∃ text body body', expand shiftedSource "m.py" = .ok (some text) ∧
    readModule shiftedSource.toList = .ok body ∧ readModule text.toList = .ok body' ∧
      HeaderApart body ∧ body.filterMap loneName? = [] ∧ body'.filterMap loneName? = ["b"] ∧
        decoratedClasses body = [("B", 1)] ∧ decoratedClasses body' = [("B", 1)] := by
  have hchars : shiftedSource.toList = _ := String.toList_ofList
  have hread : (readModule shiftedSource.toList).toOption.map (fun body =>
      (decide (HeaderApart body), body.filterMap loneName?, decoratedClasses body)) =
        some (true, [], [("B", 1)]) := by
    rw [hchars]
    decide +kernel
  have hdraft : (Draft.ofSource shiftedSource "m.py").toOption.map (fun d =>
      let es := (d.complete.edits.getD []).reverse
      (d.hasExpansions, decide (es.Pairwise Edit.Precedes),
        Text.joinLines (Edit.splice d.sourceLines 0 es) ++ "\n")) = some (true, true, shiftedText) := by
    rw [Draft.ofSource_eq hchars]
    decide +kernel
  have hread' : (readModule shiftedText.toList).toOption.map (fun body =>
      (body.filterMap loneName?, decoratedClasses body)) = some (["b"], [("B", 1)]) := by
    rw [show shiftedText.toList = _ from toList_append_eq String.toList_ofList String.toList_ofList]
    decide +kernel
  obtain ⟨body, hbody, hvalues⟩ := exists_of_toOption_map hread
  obtain ⟨d, hd, hexpanded⟩ := exists_of_toOption_map hdraft
  obtain ⟨body', hbody', hvalues'⟩ := exists_of_toOption_map hread'
  obtain ⟨m, hm, hd'⟩ := exists_of_bind hd
  obtain rfl := Except.ok.inj hd'
  simp only [Prod.mk.injEq, decide_eq_true_eq] at hvalues hvalues' hexpanded
  obtain ⟨happart, hnames, hclasses⟩ := hvalues
  obtain ⟨hdeclares, hordered, htext⟩ := hexpanded
  refine ⟨shiftedText, body, body', ?_, hbody, hbody', happart, hnames, hvalues'.1, hclasses, hvalues'.2⟩
  obtain ⟨edits, hedits, hcompatible⟩ := Draft.compatible_complete
    (d := ⟨m, Text.splitLines shiftedSource, "m.py", [], none⟩) ⟨hm, rfl, by simp⟩ rfl
  rw [hedits, Option.getD_some] at hordered htext
  rw [← hcompatible.applyAll_eq_splice (List.reverse_perm edits) hordered] at htext
  rw [expand, hd]
  refine congrArg Except.ok ((if_pos hdeclares).trans (congrArg some ?_))
  rw [Draft.text, Draft.lines, hedits, Draft.complete_of_none rfl]
  exact htext

end Expansion

end ServiceStubs
