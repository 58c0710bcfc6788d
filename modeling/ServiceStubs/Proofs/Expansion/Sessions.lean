import Mathlib.Data.List.Basic
import ServiceStubs.Expansion.Session
import ServiceStubs.Proofs.Except
import ServiceStubs.Proofs.Expansion.Namespace
import ServiceStubs.Proofs.Schema.Parameters

/-!
# Sessions do not interfere

The draft of a session changes with every call: a fragment adds imports, and the first call that
needs the edits fixes them, with the imports known by then. No answer depends on any of that. Import
lines come in one order and each at most once, so they depend only on which imports were requested;
and every fragment of the module's own declarations needs nothing that its full expansion does not
need.

## Main definitions

* `Expansion.Draft.full`: the imports of the full expansion
* `Expansion.Draft.Follows`: a draft that calls have made of another one

## Main statements

* `Expansion.Draft.follows_perform`: one call
* `Expansion.Draft.answers_run`: all calls
-/

namespace ServiceStubs

namespace Expansion

open Schema

/-! ### Imports -/

/-- Import lines depend only on which imports are requested. -/
theorem Import.lines_congr {requested requested' : List Import}
    (h : ∀ i, i ∈ requested ↔ i ∈ requested') :
    Import.lines requested = Import.lines requested' := by
  have hcontains : requested.contains = requested'.contains := by
    funext i
    rw [Bool.eq_iff_iff, List.contains_iff_mem, List.contains_iff_mem, h]
  rw [Import.lines, hcontains, Import.lines]

/-- A service needs all imports. -/
theorem mem_imports_service (s : Service) (i : Import) : i ∈ (service s).imports := by
  simp only [service, Fragment.spaced, List.flatMap_cons, List.mem_append]
  cases i with
  | abc => exact .inr (.inl (by simp [interface]))
  | copy | typing => exact .inr (.inr (.inl (by simp [factory])))
  | grpc => exact .inr (.inr (.inr (.inl (by simp [client]))))
  | codec | runtime => exact .inl (by simp [constants, Fragment.append])

/-- What a call answers when the module expands to that text. -/
def Call.answer (text : String) : Call → Answer
  | .emit e => .lines e.fragment.lines
  | .complete => .done
  | .text => .text text

namespace Draft

/-- The imports of the full expansion. -/
def full (d : Draft) : List Import :=
  (d.declared.services.map service ++ d.declared.servers.map serverMethods).flatMap (·.imports)

theorem foldl_request (d : Draft) (fs : List Fragment) :
    fs.foldl request d = { d with requested := d.requested ++ fs.flatMap (·.imports) } := by
  induction fs generalizing d with
  | nil => simp
  | cons f fs ih => simp [ih, request, List.append_assoc]

/-- The fragment is one of the services, servers and methods of the module. -/
def Owns (d : Draft) : Emission → Prop
  | .constants s | .interface s | .factory s | .client s | .service s => s ∈ d.declared.services
  | .clientMethods s m => s ∈ d.declared.services ∧ m ∈ d.declared.methods
  | .serverMethod m => m ∈ d.declared.methods
  | .serverMethods s => s ∈ d.declared.servers

/-- A call asks for nothing but fragments of the module. -/
def Permits (d : Draft) : Call → Prop
  | .emit e => d.Owns e
  | .complete | .text => True

theorem mem_full_of_service {d : Draft} {s : Service} (hs : s ∈ d.declared.services) (i : Import) :
    i ∈ d.full :=
  List.mem_flatMap.2 ⟨service s, List.mem_append_left _ (List.mem_map_of_mem hs),
    mem_imports_service s i⟩

theorem mem_full_of_server {d : Draft} {s : Server} (hs : s ∈ d.declared.servers) {i : Import}
    (hi : i ∈ (serverMethods s).imports) : i ∈ d.full :=
  List.mem_flatMap.2 ⟨serverMethods s, List.mem_append_right _ (List.mem_map_of_mem hs), hi⟩

/-- **A fragment of the module needs nothing that the full expansion does not need.** -/
theorem imports_subset_full {d : Draft} {e : Emission} (he : d.Owns e) :
    e.fragment.imports ⊆ d.full := by
  intro i hi
  cases e with
  | constants s | interface s | factory s | client s | service s => exact mem_full_of_service he i
  | clientMethods s m => cases hi
  | serverMethods s => exact mem_full_of_server he hi
  | serverMethod m =>
    rcases List.mem_append.1 he with hm | hm
    · obtain ⟨s, hs, -⟩ := List.mem_flatMap.1 hm
      exact mem_full_of_service hs i
    · obtain ⟨s, hs, hm⟩ := List.mem_flatMap.1 hm
      refine mem_full_of_server hs (List.mem_cons_of_mem _ ?_)
      exact List.mem_flatMap.2 ⟨serverMethod m, List.mem_map_of_mem hm, hi⟩

/-! ### One call -/

/-- The draft has been made of another one by calls: it knows the same module, only imports of the
full expansion have been requested, and its edits, if computed, are those of the full expansion. -/
structure Follows (start d : Draft) : Prop where
  declared : d.declared = start.declared
  sourceLines : d.sourceLines = start.sourceLines
  filename : d.filename = start.filename
  requested : d.requested ⊆ start.full
  edits : d.edits = none ∨ d.edits = start.complete.edits

/-- The edits near the top depend only on which imports are requested. -/
theorem headEdits_congr {d d' : Draft} (hdeclared : d.declared = d'.declared)
    (hlines : d.sourceLines = d'.sourceLines) (hname : d.filename = d'.filename)
    (hrequested : ∀ i, i ∈ d.requested ↔ i ∈ d'.requested) : d.headEdits = d'.headEdits := by
  have hempty : d.requested.isEmpty = d'.requested.isEmpty := by
    rw [Bool.eq_iff_iff, List.isEmpty_iff, List.isEmpty_iff, List.eq_nil_iff_forall_not_mem,
      List.eq_nil_iff_forall_not_mem]
    exact forall_congr' fun i => not_congr (hrequested i)
  have himports : d.importLines = d'.importLines := Import.lines_congr hrequested
  have hbanner : d.banner = d'.banner := by
    unfold banner
    rw [hname]
  unfold headEdits
  rw [hempty, himports, hbanner, hlines, hdeclared]

theorem complete_of_none {d : Draft} (h : d.edits = none) : d.complete =
    { d with
      requested := d.requested ++ d.full
      edits := some (d.declared.services.map serviceEdit ++ d.declared.servers.flatMap serverEdits ++
        ({ d with requested := d.requested ++ d.full } : Draft).headEdits) } := by
  rw [complete, h]
  dsimp only
  rw [foldl_request]
  rfl

variable {start d : Draft}

theorem Follows.refl (hedits : start.edits = none) (hrequested : start.requested = []) :
    Follows start start := ⟨rfl, rfl, rfl, by simp [hrequested], .inl hedits⟩

theorem Follows.full_eq (h : Follows start d) : d.full = start.full := by
  rw [full, full, h.declared]

/-- **Completing a draft always gives the same edits.** -/
theorem Follows.edits_complete (h : Follows start d) (hstart : start.edits = none)
    (hnone : start.requested = []) : d.complete.edits = start.complete.edits := by
  rcases h.edits with hedits | hedits
  · rw [complete_of_none hedits, complete_of_none hstart]
    dsimp only
    rw [h.full_eq, h.declared]
    refine congrArg some (congrArg₂ (· ++ ·) rfl
      (headEdits_congr rfl h.sourceLines h.filename fun i => ?_))
    simp only [List.mem_append, hnone, List.not_mem_nil, false_or]
    exact ⟨fun hi => hi.elim (h.requested ·) id, .inr⟩
  · have hsome : start.complete.edits.isSome := by rw [complete_of_none hstart]; rfl
    obtain ⟨edits, hcomplete⟩ := Option.isSome_iff_exists.1 hsome
    rw [hcomplete] at hedits ⊢
    rw [complete, hedits]
    exact hedits

theorem Follows.complete (h : Follows start d) (hstart : start.edits = none)
    (hnone : start.requested = []) : Follows start d.complete := by
  have hedits := h.edits_complete hstart hnone
  cases hd : d.edits with
  | some edits =>
    have hsame : d.complete = d := by rw [Draft.complete, hd]
    rwa [hsame]
  | none =>
    refine ⟨?_, ?_, ?_, ?_, .inr hedits⟩ <;> rw [complete_of_none hd]
    · exact h.declared
    · exact h.sourceLines
    · exact h.filename
    · intro i hi
      rcases List.mem_append.1 hi with hi | hi
      · exact h.requested hi
      · exact h.full_eq ▸ hi

theorem requested_subset_complete (d : Draft) : d.requested ⊆ d.complete.requested := by
  cases hd : d.edits with
  | some edits => simp [Draft.complete, hd]
  | none => simp [complete_of_none hd]

theorem Follows.text_complete (h : Follows start d) (hstart : start.edits = none)
    (hnone : start.requested = []) : d.complete.text = start.complete.text := by
  have hlines : d.complete.sourceLines = start.complete.sourceLines := by
    have hkeep (d : Draft) : d.complete.sourceLines = d.sourceLines := by
      cases hd : d.edits with
      | some edits => rw [Draft.complete, hd]
      | none => rw [complete_of_none hd]
    rw [hkeep, hkeep, h.sourceLines]
  rw [text, text, lines, lines, hlines, h.edits_complete hstart hnone]

/-- Whatever was asked for before, a call keeps what the session knows and answers what a first call
would. -/
theorem follows_perform (h : Follows start d) (hstart : start.edits = none)
    (hnone : start.requested = [])
    {c : Call} (hc : start.Permits c) :
    Follows start (d.perform c).1 ∧ (d.perform c).2 = c.answer start.complete.text ∧
      d.requested ⊆ (d.perform c).1.requested := by
  cases c with
  | complete => exact ⟨h.complete hstart hnone, rfl, requested_subset_complete d⟩
  | text =>
    exact ⟨h.complete hstart hnone, congrArg Answer.text (h.text_complete hstart hnone),
      requested_subset_complete d⟩
  | emit e =>
    refine ⟨⟨h.declared, h.sourceLines, h.filename, fun i hi => ?_, h.edits⟩, rfl,
      List.subset_append_left _ _⟩
    rcases List.mem_append.1 hi with hi | hi
    · exact h.requested hi
    · exact imports_subset_full hc hi

/-! ### All calls -/

/-- One call after the other answers what first calls would. -/
theorem follows_run (h : Follows start d) (hstart : start.edits = none) (hnone : start.requested = [])
    {calls : List Call} (hcalls : ∀ c ∈ calls, start.Permits c) :
    Follows start (d.run calls).1 ∧ (d.run calls).2 = calls.map (Call.answer start.complete.text) ∧
      d.requested ⊆ (d.run calls).1.requested := by
  induction calls generalizing d with
  | nil => exact ⟨h, rfl, List.Subset.refl _⟩
  | cons c calls ih =>
    obtain ⟨hfirst, hanswer, hgrown⟩ := follows_perform h hstart hnone (hcalls c List.mem_cons_self)
    obtain ⟨hrest, hanswers, hmore⟩ := ih hfirst fun c' hc' => hcalls c' (List.mem_cons_of_mem _ hc')
    refine ⟨hrest, ?_, List.Subset.trans hgrown hmore⟩
    rw [run, List.map_cons]
    exact congrArg₂ _ hanswer hanswers

/-- The draft after two lists of calls is the draft after both. -/
theorem run_append (d : Draft) (before after : List Call) :
    (d.run (before ++ after)).1 = ((d.run before).1.run after).1 := by
  induction before generalizing d with
  | nil => rfl
  | cons c before ih => exact ih (d.perform c).1

/-- **Sessions do not interfere.** On an accepted module with declarations, every call answers what
it would answer alone: a fragment its lines, and a request for the text the module's expansion. The
requested imports never become fewer. -/
theorem answers_run {source filename : String} {d : Draft} (haccepted : ofSource source filename = .ok d)
    (hdeclares : d.hasExpansions = true) {before after : List Call}
    (hcalls : ∀ c ∈ before ++ after, d.Permits c) :
    ∃ text, expand source filename = .ok (some text) ∧
      (d.run (before ++ after)).2 = (before ++ after).map (Call.answer text) ∧
      (d.run before).1.requested ⊆ (d.run (before ++ after)).1.requested := by
  obtain ⟨declared, hdeclared, hd⟩ := exists_of_bind haccepted
  have hd : d = ⟨declared, Text.splitLines source, filename, [], none⟩ := (Except.ok.inj hd).symm
  have hstart : d.edits = none := by rw [hd]
  have hnone : d.requested = [] := by rw [hd]
  have hfollows := Follows.refl hstart hnone
  refine ⟨d.complete.text, ?_, (follows_run hfollows hstart hnone hcalls).2.1, ?_⟩
  · rw [expand, haccepted]
    show Except.ok (if d.hasExpansions then some d.complete.text else none) = _
    rw [if_pos hdeclares]
  · rw [run_append]
    have hbefore := follows_run hfollows hstart hnone fun c hc => hcalls c (List.mem_append_left _ hc)
    exact (follows_run hbefore.1 hstart hnone fun c hc => hcalls c (List.mem_append_right _ hc)).2.2

/-- A session that asks for the text between two fragments and again at the end. -/
theorem answers_run_call :
    ∃ d s, ofSource callSource "a.py" = .ok d ∧ d.hasExpansions = true ∧ s ∈ d.declared.services ∧
      ∃ text, expand callSource "a.py" = .ok (some text) ∧
        (d.run ([.emit (.factory s), .text] ++ [.emit (.client s), .complete, .text])).2 =
          [.lines (factory s).lines, .text text, .lines (client s).lines, .done, .text text] ∧
        (d.run [.emit (.factory s), .text]).1.requested ⊆
          (d.run ([.emit (.factory s), .text] ++ [.emit (.client s), .complete, .text])).1.requested := by
  have hread : (ofSource callSource "a.py").toOption.map
      (fun d => (d.hasExpansions, d.declared.services.isEmpty)) = some (true, false) := by
    rw [Draft.ofSource_eq (show callSource.toList = _ from String.toList_ofList)]
    decide +kernel
  obtain ⟨d, hd, hdeclared⟩ := exists_of_toOption_map hread
  obtain ⟨hdeclares, hservices⟩ := Prod.mk.inj hdeclared
  obtain ⟨s, hs⟩ := List.isEmpty_eq_false_iff_exists_mem.1 hservices
  refine ⟨d, s, hd, hdeclares, hs, answers_run hd hdeclares fun c hc => ?_⟩
  simp only [List.cons_append, List.nil_append, List.mem_cons, List.not_mem_nil, or_false] at hc
  rcases hc with rfl | rfl | rfl | rfl | rfl
  · exact hs
  · trivial
  · exact hs
  · trivial
  · trivial

end Draft

end Expansion

end ServiceStubs
