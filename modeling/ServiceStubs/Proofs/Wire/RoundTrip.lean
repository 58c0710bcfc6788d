import ServiceStubs.Proofs.Wire.Filled
import ServiceStubs.Proofs.Wire.Length

/-!
# What is written is read again

A value is written as a message, and from the message a value is read that is alike: its objects
are of the same kinds and hold the same, in the same order.

## Main statements

* `pushes_object`: the machine that follows the writer of a value comes to a copy of it
* `deserialize_serialize`: what is written is read again
-/

namespace ServiceStubs

namespace Wire

variable {g : Registry} {s : Store} {pending : Pending} {sub : Ref → Write} {r : Ref} {o : Object}

/-- An object is written, when it has no number yet, so that the machine comes to a copy. -/
theorem Writing.copies_body (h : Writing g s pending sub r o) (hclass : ∀ c, o ≠ .ofClass c) :
    Copies g s pending r o (Writer.body g s sub r o) := by
  cases o with
  | none | bool | int | float => exact h.copies_atom rfl rfl rfl rfl
  | text | bytes | byteArray => exact h.copies_kept (h.copies_atom rfl rfl rfl rfl)
  | tuple => exact h.copies_tuple
  | list => exact h.copies_list
  | dict => exact h.copies_dict
  | set => exact h.copies_set
  | frozenSet => exact h.copies_frozenSet
  | complex => exact h.copies_complex
  | range => exact h.copies_range
  | slice => exact h.copies_slice
  | orderedDict => exact h.copies_orderedDict
  | deque => exact h.copies_deque
  | date => exact h.copies_date
  | datetime => exact h.copies_datetime
  | time => exact h.copies_time
  | timedelta => exact h.copies_timedelta
  | utc => exact h.copies_utc
  | timezone => exact h.copies_timezone
  | decimal => exact h.copies_decimal
  | uuid => exact h.copies_uuid
  | ofClass c => exact (hclass c rfl).elim
  | «instance» => exact h.copies_instance
  | view | locked => exact h.proper.elim

/-- No part of a value is one with it. -/
theorem Store.Built.identity_ne {a x : Ref} {o' : Object} (h : s.Built g r) (ho : s.get? r = some o)
    (ha : a ∈ o.parts) (hx : s.Leads a x) (ho' : s.get? x = some o') :
    o'.identity x ≠ o.identity r := by
  intro heq
  rcases Object.identity_eq heq with rfl | ⟨rfl, hone⟩
  · exact h.not_leads ho ha hx
  · rcases hone with ⟨t, rfl⟩ | ⟨bs, rfl⟩ | rfl | ⟨c, rfl⟩ <;> cases ha

/-- **The machine that follows the writer of a value comes to a copy of it.** The value must not be
a part of what the writer is in the middle of. -/
theorem pushes_object (hplain : g.IsPlain) (hg : g.KeepsSafeNames) {fuel : Nat} (hr : s.Built g r)
    (hfuel : s.Shallow fuel r)
    (hpending : ∀ b ∈ pending, ∀ x o, s.Leads r x → s.get? x = some o → o.identity x ≠ b.1) :
    Pushes g s pending (Writer.object g s fuel r) [Sign.copy s r] := by
  induction fuel generalizing r pending with
  | zero => exact hfuel.elim
  | succ fuel ih =>
    obtain ⟨o, ho, hparts⟩ := hfuel
    by_cases hclass : ∃ c, o = .ofClass c
    · obtain ⟨c, rfl⟩ := hclass
      simp only [Writer.object, ho]
      exact (Pushes.class_ hg (hr.proper ho)).mono fun w x hx => (World.names_iff_copy ho).1 hx
    rw [Writer.object_succ fuel ho fun c hc => hclass ⟨c, hc⟩]
    have hfresh (x : Option Ref) : (o.identity r, x) ∉ pending := fun hmem =>
      hpending _ hmem r o .refl ho rfl
    have hwriting : Writing g s pending (Writer.object g s fuel) r o := {
      plain := hplain
      safe := hg
      there := ho
      built := hr
      fresh := hfresh
      parts := by
        intro a ha x
        exact ih (hr.part ho ha) (hparts a ha) (List.forall_mem_cons.2
          ⟨fun y o' hy ho' => hr.identity_ne ho ha hy ho',
            fun b hb y o' hy => hpending b hb y o' (hy.of_part ho ha)⟩) }
    refine (Pushes.fetchOr (fun x => hfresh (some x)) fun S hS hnew => ?_).begin_.mono
      fun w x hx => (World.names_iff_copy ho).1 hx
    refine (hwriting.copies_body (fun c hc => hclass ⟨c, hc⟩) S hS hnew).mono fun S' hS' => ?_
    obtain ⟨x, hpushed, -, hx⟩ := hS'.single
    exact hpushed.stacked ((World.names_iff_copy ho).2 hx)

/-! ### Messages -/

/-- **What is written is read again.** A value that is not too deep is written if the format has
room for its pieces, which it has for a modest one, and is read again as a value that is alike,
whatever is there already. -/
theorem deserialize_serialize (hplain : g.IsPlain) (hg : g.KeepsSafeNames) (hr : s.Built g r)
    (hdepth : s.Shallow g.depth r) :
    ∃ ps w, (Writer.object g s g.depth r).run .empty = .ok (ps, w) ∧
      ((∃ message, serialize g s r [] = .ok message) ↔ Fits ps) ∧ (s.Modest g r → Fits ps) ∧
      ∀ message, serialize g s r [] = .ok message → ∀ t, ∃ r' t',
        deserialize g t message = .ok (r', t') ∧ s.Alike t' r r' := by
  have hstart (t : Store) : Scene.InStep s [] ⟨.empty, .start t, fun _ => none⟩ := by
    refine ⟨?_, ?_, ?_, by simp, by simp⟩
    · simp [Machine.start, Writer.empty]
    · simp [Machine.start]
    · simp [Writer.empty]
  have hpushes : Pushes g s [] (Writer.object g s g.depth r) [Sign.copy s r] :=
    pushes_object hplain hg hr hdepth (by simp)
  have hwrites (t : Store) := hpushes _ (hstart t)
  obtain ⟨ps, S, hw, -⟩ := hwrites .empty
  have hserialize := serialize_eq hw
  refine ⟨ps, S.writer, hw, ?_,
    fun hmodest => fits_of_modest hmodest hr hw, fun message hmessage t => ?_⟩
  · simp only [hserialize, exists_and_left, exists_eq, and_true]
  · obtain ⟨hfits, rfl⟩ := (hserialize message).1 hmessage
    obtain ⟨qs, S', hw', hdoes, hstacked⟩ := hwrites t
    obtain ⟨x, -, htop, hcopy⟩ := hstacked.single
    obtain ⟨rfl, -⟩ := Prod.mk.inj (Except.ok.inj (hw.symm.trans hw'))
    exact ⟨x, S'.machine.store, run_message hfits hdoes htop, hcopy.alike⟩

/-- The class of points is defined in a module and registered. -/
def pointRegistry : Registry := ((Registry.empty 100).define ("app", "Point") true).2.register 0

/-- A point both coordinates of which are one and the same list. -/
def pointStore : Store :=
  ⟨#[.text "x" false, .text "y" false, .int (-7), .list [2, 2], .instance 0 [(0, 3), (1, 3)]]⟩

theorem deserialize_serialize_point : pointRegistry.IsPlain ∧ pointRegistry.KeepsSafeNames ∧
    pointStore.Built pointRegistry 4 ∧ pointStore.Shallow pointRegistry.depth 4 ∧
    ∃ message, serialize pointRegistry pointStore 4 [] = .ok message ∧ ∀ t, ∃ r' t',
      deserialize pointRegistry t message = .ok (r', t') ∧ pointStore.Alike t' 4 r' := by
  have hplain : pointRegistry.IsPlain := fun _ => rfl
  have hsafe : pointRegistry.KeepsSafeNames := by
    intro c
    cases c <;> exact ⟨by decide, by decide⟩
  have hclass : pointRegistry.Carries (.defined 0) := ⟨by decide, by decide⟩
  have hx : pointStore.Built pointRegistry 0 :=
    .intro (o := .text "x" false) rfl trivial (by simp [Object.parts])
  have hy : pointStore.Built pointRegistry 1 :=
    .intro (o := .text "y" false) rfl trivial (by simp [Object.parts])
  have hnumber : pointStore.Built pointRegistry 2 :=
    .intro (o := .int (-7)) rfl trivial (by simp [Object.parts])
  have hlist : pointStore.Built pointRegistry 3 :=
    .intro (o := .list [2, 2]) rfl trivial (by simp [Object.parts, hnumber])
  have hattributes : pointStore.Attributes [(0, 3), (1, 3)] := by
    refine ⟨fun a ha => ?_, by decide⟩
    rcases List.mem_pair.1 ha with rfl | rfl
    · exact ⟨"x", false, rfl, by decide⟩
    · exact ⟨"y", false, rfl, by decide⟩
  have hpoint : pointStore.Built pointRegistry 4 :=
    .intro (o := .instance 0 [(0, 3), (1, 3)]) rfl ⟨hclass, hattributes⟩
      (by simp [Object.parts, hx, hy, hlist])
  have hmodest : pointStore.Modest pointRegistry 4 := hpoint.modest (by decide) (by decide)
  have hdepth : pointStore.Shallow pointRegistry.depth 4 := hpoint.shallow.mono (by decide)
  obtain ⟨ps, w, -, hwritten, hfits, hread⟩ := deserialize_serialize hplain hsafe hpoint hdepth
  obtain ⟨message, hmessage⟩ := hwritten.2 (hfits hmodest)
  exact ⟨hplain, hsafe, hpoint, hdepth, message, hmessage, hread message hmessage⟩

end Wire

end ServiceStubs
