import ServiceStubs.Proofs.Wire.Performing
import ServiceStubs.Proofs.Wire.Weight
import ServiceStubs.Wire.Codec

/-!
# Messages

A message is a version and pieces in frames. The machine reads it to its end if the format has room
for its pieces: integers of less than 2^31 bytes, numbers of objects below 2^32, and less than 2^63
bytes in all.

## Main definitions

* `messageOf`: the bytes of a message
* `Fits`: pieces that the format has room for

## Main statements

* `length_messageOf_le`: a message is no longer than its pieces weigh, and its own frame
* `run_message`: a message that fits is read to its end
* `serialize_eq_ok`: a value has a message if and only if its pieces fit
-/

namespace ServiceStubs

namespace Wire

variable {g : Registry} {s : Store} {r : Ref}

/-- The bytes of a message that consists of the given pieces. -/
def messageOf (ps : List Piece) : List UInt8 :=
  (Instruction.protocol writtenVersion).form ++ framed (ps ++ Writer.one .stop)

/-- Pieces that the format has room for: integers of less than 2^31 bytes, numbers of objects below
2^32, and less than 2^63 bytes in all. -/
structure Fits (ps : List Piece) : Prop where
  writable : ∀ p ∈ ps, p.isWritable
  length : (messageOf ps).length < maxLength

theorem Instruction.payloadLength_le (i : Instruction) : i.payloadLength ≤ i.form.length := by
  have hcounted (short medium long : UInt8) (payload : List UInt8) :
      payload.length ≤ (counted short medium long payload).length := by
    simp only [counted]
    split
    · simp only [List.length_cons]
      omega
    · split <;> simp only [List.length_cons, List.length_append] <;> omega
  cases i with
  | text t => exact hcounted ..
  | bytes bs => exact hcounted ..
  | byteArray bs => simp [payloadLength, form]; omega
  | _ => exact Nat.zero_le _

theorem length_le_framedFrom {ps : List Piece} {f : OpenFrame} {is : List Instruction}
    (hf : f.Holds is) : f.length ≤ (framedFrom f ps).length := by
  induction ps generalizing f is with
  | nil => exact OpenFrame.length_le_close hf
  | cons p ps ih =>
    have hclose := OpenFrame.length_le_close hf
    cases p with
    | start =>
      simp only [framedFrom]
      split
      · simp only [List.length_append]
        omega
      · exact ih hf
    | instruction i =>
      simp only [framedFrom]
      split
      · simp only [List.length_append]
        omega
      · have hadd := ih (hf.add i)
        simp only [OpenFrame.add] at hadd ⊢
        omega

theorem length_framedFrom_le {ps : List Piece} {f : OpenFrame} {is : List Instruction}
    (hf : f.Holds is) : (framedFrom f ps).length ≤ f.length + 9 + weight ps := by
  have hclose {f : OpenFrame} {is : List Instruction} (hf : f.Holds is) :
      f.close.length ≤ f.length + 9 := by
    simp only [OpenFrame.close, hf.parts, hf.length]
    split <;> simp [Instruction.form]
    omega
  induction ps generalizing f is with
  | nil => exact hclose hf
  | cons p ps ih =>
    have hfirst := hclose hf
    have hrest := ih .empty
    cases p with
    | start =>
      simp only [framedFrom, weight_cons, Piece.weight]
      split
      · simp only [List.length_append, OpenFrame.empty] at hrest ⊢
        omega
      · have hmore := ih hf
        omega
    | instruction i =>
      simp only [framedFrom, weight_cons, Piece.weight]
      split
      · simp only [List.length_append, OpenFrame.empty] at hrest ⊢
        omega
      · have hmore := ih (hf.add i)
        simp only [OpenFrame.add] at hmore ⊢
        omega

/-- The form of each instruction stands in the message. -/
theorem length_form_le {i : Instruction} {ps : List Piece} (hi : i ∈ instructionsOf ps)
    {f : OpenFrame} {is : List Instruction} (hf : f.Holds is) :
    i.form.length ≤ (framedFrom f ps).length := by
  induction ps generalizing f is with
  | nil => cases hi
  | cons p ps ih =>
    cases p with
    | start =>
      simp only [framedFrom]
      split
      · have hrest := ih hi .empty
        simp only [List.length_append]
        omega
      · exact ih hi hf
    | instruction j =>
      simp only [framedFrom]
      rcases List.mem_cons.1 hi with rfl | hi
      · split
        · simp only [List.length_append]
          omega
        · have hadd : (f.add i.form).length ≤ (framedFrom (f.add i.form) ps).length :=
            length_le_framedFrom (hf.add i)
          simp only [OpenFrame.add] at hadd ⊢
          omega
      · split
        · have hrest := ih hi .empty
          simp only [List.length_append]
          omega
        · exact ih hi (hf.add j)

theorem Fits.readable {ps : List Piece} (hfits : Fits ps)
    (hemitted : ∀ i ∈ instructionsOf ps, i.isEmitted) :
    ∀ i ∈ instructionsOf (ps ++ Writer.one .stop), Input.Readable i := by
  intro i hi
  rcases List.mem_append.1 (instructionsOf_append .. ▸ hi) with hi' | hstop
  · refine Instruction.reads_form (hemitted i hi')
      (hfits.writable _ (mem_instructionsOf.1 hi')) ?_
    · have hform := length_form_le hi (f := .empty) .empty
      have hlength := hfits.length
      have hpayload := i.payloadLength_le
      have hmax : maxLength < 256 ^ 8 := by decide
      simp only [messageOf, framed, List.length_append] at hlength
      omega
  · obtain rfl : i = .stop := by simpa [instructionsOf, Writer.one] using hstop
    exact Instruction.reads_stop

/-- A message that fits is read as its version and its instructions. -/
theorem Fits.yields {ps : List Piece} (hfits : Fits ps)
    (hemitted : ∀ i ∈ instructionsOf ps, i.isEmitted) :
    ∃ n ≤ (messageOf ps).length, ∃ input,
      Instruction.read? (.ofBytes (messageOf ps)) = some (.protocol writtenVersion, input) ∧
        input.Yields n (instructionsOf ps ++ [.stop]) ⟨[], []⟩ := by
  have hreadable := hfits.readable hemitted
  have hlength := hfits.length
  have hmax : maxLength < 256 ^ 8 := by decide
  have hframed : (framed (ps ++ Writer.one .stop)).length < 256 ^ 8 := by
    simp only [messageOf, List.length_append] at hlength
    omega
  obtain ⟨n, hn, hyields⟩ : ∃ n ≤ (framed (ps ++ Writer.one .stop)).length,
      Input.Yields n ⟨[], framed (ps ++ Writer.one .stop) ++ []⟩
        (instructionsOf (ps ++ Writer.one .stop)) ⟨[], []⟩ :=
    yields_framedFrom hreadable [] .empty (by simp) hframed
  rw [instructionsOf_append] at hyields
  refine ⟨n, ?_, _, ?_, hyields⟩
  · simp only [messageOf, List.length_append]
    omega
  · refine Instruction.reads_protocol writtenVersion _ _ (.inr ⟨rfl, rfl, ?_⟩)
    rw [List.append_nil]
    rfl

/-- **A message that fits is read to the end**, by the machine that followed its writer. -/
theorem run_message {ps : List Piece} {t : Store} {m : Machine} {x : Ref} {st : List Ref}
    (hfits : Fits ps) (hdoes : Machine.Does g (instructionsOf ps) (.start t) m)
    (htop : m.stack = x :: st) : deserialize g t (messageOf ps) = .ok (x, m.store) := by
  obtain ⟨n, hn, input, hversion, hyields⟩ := hfits.yields hdoes.isEmitted
  have hprotocol : Machine.Performs g (.protocol writtenVersion) (.start t) (.start t) :=
    fun log => ⟨log, rfl⟩
  obtain ⟨log, hlog⟩ : ∃ log,
      Machine.run g ((messageOf ps).length + 1) (.ofBytes (messageOf ps)) (.start t) [] =
        Machine.run g (messageOf ps).length input (.start t) log :=
    Machine.run_performs hversion (by simp) hprotocol []
  obtain ⟨log', hrun⟩ := Machine.run_yields hyields hdoes hn htop log
  rw [deserialize, deserializeLogged, hlog, hrun]
  rfl

/-- **A message is no longer than its pieces weigh**, apart from what stands around them. -/
theorem length_messageOf_le (ps : List Piece) : (messageOf ps).length ≤ weight ps + 21 := by
  have hframed : (framedFrom .empty (ps ++ Writer.one .stop)).length ≤ _ := length_framedFrom_le .empty
  simp only [messageOf, List.length_append, framed, Instruction.form] at hframed ⊢
  simp only [weight_append, Writer.one, weight_cons, weight_nil, Piece.weight, Instruction.form,
    OpenFrame.empty, List.length_cons, List.length_nil] at hframed ⊢
  omega

/-- **A value has a message if and only if its pieces fit.** -/
theorem serialize_eq {ps : List Piece} {w : Writer}
    (h : (Writer.object g s g.depth r).run .empty = .ok (ps, w)) (message : List UInt8) :
    serialize g s r [] = .ok message ↔ Fits ps ∧ message = messageOf ps := by
  have hmessage : s.message g r =
      if ps.all Piece.isWritable && (messageOf ps).length < maxLength then .ok (messageOf ps)
      else .error .unwritable := by
    simp only [Store.message, h, Bind.bind, Except.bind]
    rfl
  have hfits : (ps.all Piece.isWritable && decide ((messageOf ps).length < maxLength)) = true ↔
      Fits ps := by
    rw [Bool.and_eq_true, List.all_eq_true, decide_eq_true_eq]
    exact ⟨fun hand => ⟨hand.1, hand.2⟩, fun hfits => ⟨hfits.writable, hfits.length⟩⟩
  have hempty : (!([] : List UInt8).isEmpty) = false := rfl
  by_cases hps : Fits ps
  · rw [if_pos (hfits.2 hps)] at hmessage
    simp only [serialize, hempty, hmessage, Bool.false_eq_true, if_false, Except.ok.injEq, hps,
      true_and]
    exact eq_comm
  · rw [if_neg (mt hfits.1 hps)] at hmessage
    simp only [serialize, hempty, hmessage, Bool.false_eq_true, if_false, hps, false_and]
    exact ⟨nofun, nofun⟩

end Wire

end ServiceStubs
