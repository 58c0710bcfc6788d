import ServiceStubs.Proofs.Text.CodePoint
import ServiceStubs.Proofs.Wire.Numbers
import ServiceStubs.Wire.Frame
import ServiceStubs.Wire.Instruction.Reader

/-!
# Reading what was written

An instruction is read from its form, whether that stands in a frame or outside of frames, and a
message in frames is read as the instructions that were written.

## Main definitions

* `Input.Begins`: an input starts with some bytes
* `Reader.Reads`: a reader takes some bytes for a result, wherever they stand
* `Input.Yields`: the instructions that an input is read as

## Main statements

* `Instruction.reads_form`: an instruction is read from its form
* `yields_framed`: pieces in frames are read as their instructions
-/

namespace ServiceStubs

namespace Wire

/-- An input that starts with some bytes, in its frame or outside of frames; the rest follows. -/
def Input.Begins (input : Input) (bs : List UInt8) (rest : Input) : Prop :=
  (input.frame = bs ++ rest.frame ∧ input.rest = rest.rest) ∨
    (input.frame = [] ∧ rest.frame = [] ∧ input.rest = bs ++ rest.rest)

/-- A reader that takes some bytes for a result, wherever they stand. -/
def Reader.Reads {α : Type} (p : Reader α) (bs : List UInt8) (a : α) : Prop :=
  ∀ input rest, input.Begins bs rest → p input = some (a, rest)

theorem Input.begins_nil {input rest : Input} (h : input.Begins [] rest) : input = rest := by
  obtain ⟨frame, bytes⟩ := input
  obtain ⟨frame', bytes'⟩ := rest
  rcases h with ⟨hframe, hrest⟩ | ⟨hframe, hframe', hrest⟩
  · simp_all
  · simp_all

theorem Input.begins_append {input rest : Input} {bs bs' : List UInt8}
    (h : input.Begins (bs ++ bs') rest) : ∃ mid, input.Begins bs mid ∧ mid.Begins bs' rest := by
  rcases h with ⟨hframe, hrest⟩ | ⟨hframe, hframe', hrest⟩
  · refine ⟨⟨bs' ++ rest.frame, rest.rest⟩, .inl ⟨?_, hrest⟩, .inl ⟨rfl, rfl⟩⟩
    rw [hframe, List.append_assoc]
  · refine ⟨⟨[], bs' ++ rest.rest⟩, .inr ⟨hframe, rfl, ?_⟩, .inr ⟨rfl, hframe', rfl⟩⟩
    rw [hrest, List.append_assoc]

theorem splitExactly_append {α : Type} {n : Nat} {xs : List α} (ys : List α) (h : xs.length = n) :
    splitExactly n (xs ++ ys) = some (xs, ys) := by
  subst h
  simp [splitExactly]

theorem splitExactly_nil {α : Type} {n : Nat} (h : n ≠ 0) :
    splitExactly n ([] : List α) = none := by
  simp [splitExactly, h.symm]

namespace Reader.Reads

variable {α β : Type}

theorem pure (a : α) : Reads (Pure.pure a) [] a := by
  intro input rest h
  rw [Input.begins_nil h]
  rfl

theorem bind {p : Reader α} {f : α → Reader β} {bs bs' : List UInt8} {a : α} {b : β}
    (hp : Reads p bs a) (hf : Reads (f a) bs' b) : Reads (p >>= f) (bs ++ bs') b := by
  intro input rest h
  obtain ⟨mid, hmid, hrest⟩ := Input.begins_append h
  simp only [Bind.bind, StateT.bind, hp input mid hmid, Option.bind_some]
  exact hf mid rest hrest

theorem map {p : Reader α} {bs : List UInt8} {a : α} (f : α → β) (hp : Reads p bs a) :
    Reads (do return f (← p)) bs (f a) := by
  have h := bind (f := fun a => Pure.pure (f a)) hp (pure (f a))
  rwa [List.append_nil] at h

theorem take {n : Nat} {bs : List UInt8} (h : bs.length = n) : Reads (Input.take n) bs bs := by
  intro input rest hbegins
  obtain ⟨frame, bytes⟩ := input
  obtain ⟨frame', bytes'⟩ := rest
  rcases hbegins with ⟨hframe, hrest⟩ | ⟨hframe, hframe', hrest⟩ <;> simp only at hframe hrest
  · subst hframe hrest
    simp only [Input.take, splitExactly_append frame' h]
  · subst hframe hframe' hrest
    by_cases hn : n = 0
    · obtain rfl : bs = [] := List.eq_nil_of_length_eq_zero (h.trans hn)
      subst hn
      rfl
    · simp only [Input.take, splitExactly_nil hn, splitExactly_append bytes' h, Option.map_some]

theorem takeAcross {n : Nat} {bs : List UInt8} (h : bs.length = n) :
    Reads (Input.takeAcross n) bs bs := by
  intro input rest hbegins
  obtain ⟨frame, bytes⟩ := input
  obtain ⟨frame', bytes'⟩ := rest
  rcases hbegins with ⟨hframe, hrest⟩ | ⟨hframe, hframe', hrest⟩ <;> simp only at hframe hrest
  · subst hframe hrest h
    simp [Input.takeAcross, splitExactly]
  · subst hframe hframe' hrest h
    simp [Input.takeAcross, splitExactly]

theorem number {width n : Nat} (h : n < 256 ^ width) :
    Reads (Input.number width) (littleEndian width n) n := by
  have hread := map ofLittleEndian (take (length_littleEndian width n))
  rwa [ofLittleEndian_littleEndian h] at hread

theorem payload {width : Nat} {bs : List UInt8} (h : bs.length < 256 ^ width) :
    Reads (Input.payload width) (littleEndian width bs.length ++ bs) bs :=
  bind (number h) (take rfl)

theorem payloadAcross {width : Nat} {bs : List UInt8} (h : bs.length < 256 ^ width) :
    Reads (Input.payloadAcross width) (littleEndian width bs.length ++ bs) bs :=
  bind (number h) (takeAcross rfl)

end Reader.Reads

namespace Instruction

open Reader

theorem reads_code {code : UInt8} {bs : List UInt8} {i : Instruction}
    (h : Reads (readBody code) bs i) : Reads read? (code :: bs) i :=
  Reads.bind (Reads.take rfl : Reads (Input.take 1) [code] [code]) h

/-- An instruction that a written message may hold. -/
def isEmitted : Instruction → Bool
  | tupleOf size => 1 ≤ size && size ≤ 3
  | protocol _ | frame _ | stop | global _ _ | newNamed _ _ | put _ => false
  | _ => true

theorem isEmitted_tupleOf {size : Nat} : (tupleOf size).isEmitted ↔ 1 ≤ size ∧ size ≤ 3 := by
  have hdef : (tupleOf size).isEmitted = (decide (1 ≤ size) && decide (size ≤ 3)) := rfl
  rw [hdef, Bool.and_eq_true, decide_eq_true_eq, decide_eq_true_eq]

theorem littleEndian_one (n : Nat) (h : n < 256) : littleEndian 1 n = [UInt8.ofNat n] := by
  simp [littleEndian, Nat.mod_eq_of_lt h]

/-- A payload is read behind its length, whichever form the length takes. -/
theorem reads_counted {short medium long : UInt8} {payload : List UInt8} {i : Instruction}
    (hshort : payload.length < 256 ^ 1 →
      Reads (readBody short) (littleEndian 1 payload.length ++ payload) i)
    (hmedium : payload.length < 256 ^ 4 →
      Reads (readBody medium) (littleEndian 4 payload.length ++ payload) i)
    (hlong : Reads (readBody long) (littleEndian 8 payload.length ++ payload) i) :
    Reads read? (counted short medium long payload) i := by
  simp only [counted]
  split
  · have h := hshort ‹_›
    rw [littleEndian_one _ ‹_›] at h
    exact reads_code h
  · split
    · exact reads_code (hmedium ‹_›)
    · exact reads_code hlong

theorem reads_text (s : WideText) (h : s.utf8ByteSize < 256 ^ 8) :
    Reads read? (form (text s)) (text s) := by
  have hread {code : UInt8} {width : Nat} (hlt : s.utf8Bytes.length < 256 ^ width)
      (hcode : readBody code = do return text (← liftM (WideText.ofUtf8? (← Input.payload width)))) :
      Reads (readBody code) (littleEndian width s.utf8Bytes.length ++ s.utf8Bytes) (text s) := by
    rw [hcode, ← List.append_nil (_ ++ _)]
    refine (Reads.payload hlt).bind ?_
    rw [WideText.ofUtf8?_utf8Bytes]
    exact Reads.pure (text s)
  exact reads_counted (fun h => hread h rfl) (fun h => hread h rfl) (hread h rfl)

theorem reads_bytes (bs : List UInt8) (h : bs.length < 256 ^ 8) :
    Reads read? (form (bytes bs)) (bytes bs) :=
  reads_counted (fun h => (Reads.payloadAcross h).map bytes)
    (fun h => (Reads.payloadAcross h).map bytes) ((Reads.payloadAcross h).map bytes)

theorem reads_signed {width : Nat} {n : Int} (h : FitsSigned width n) :
    Reads (do return int (ofSigned (← Input.take width))) (signedBytes width n) (int n) := by
  have hread := (Reads.take (length_signedBytes width n)).map fun bs => int (ofSigned bs)
  rwa [ofSigned_signedBytes h] at hread

/-- The two's complement of a natural number that fits without a sign. -/
theorem signedBytes_natCast {width n : Nat} (h : n < 256 ^ width) :
    signedBytes width n = littleEndian width n := by
  have hmod : ((n : Int) % 256 ^ width).toNat = n := by
    have hpow : (256 : Int) ^ width = ((256 ^ width : Nat) : Int) := by simp
    rw [hpow, Int.emod_eq_of_lt (by omega) (by omega), Int.toNat_natCast]
  rw [signedBytes, hmod]

theorem reads_int (n : Int) (h : signedWidth n < 2 ^ 31) :
    Reads read? (form (int n)) (int n) := by
  have hnat {code : UInt8} {width : Nat} (h₀ : 0 ≤ n) (hlt : n < ((256 ^ width : Nat) : Int))
      (hcode : readBody code = do return int (← Input.number width)) :
      Reads read? (code :: signedBytes width n) (int n) := by
    obtain ⟨m, rfl⟩ := Int.eq_ofNat_of_zero_le h₀
    have hm : m < 256 ^ width := by omega
    rw [signedBytes_natCast hm]
    refine reads_code ?_
    rw [hcode]
    exact Reads.map (fun m : Nat => int m) (Reads.number hm)
  simp only [form, intForm]
  split
  case isTrue hsmall =>
    simp only [Bool.and_eq_true, decide_eq_true_eq] at hsmall
    exact hnat hsmall.1 hsmall.2 rfl
  split
  case isTrue hsmall =>
    simp only [Bool.and_eq_true, decide_eq_true_eq] at hsmall
    exact hnat hsmall.1 hsmall.2 rfl
  split
  case isTrue hmiddle =>
    simp only [Bool.and_eq_true, decide_eq_true_eq] at hmiddle
    exact reads_code (reads_signed (by unfold FitsSigned; omega))
  split
  case isTrue hwidth =>
    have hlength : (signedBytes (signedWidth n) n).length < 256 ^ 1 := by simpa using hwidth
    have hread := (Reads.payload hlength).map fun bs => int (ofSigned bs)
    rw [ofSigned_signedBytes (signedWidth_fits n), length_signedBytes,
      littleEndian_one _ hwidth] at hread
    exact reads_code hread
  case isFalse hwidth =>
    refine reads_code ?_
    have hlt : signedWidth n < 256 ^ 4 := by omega
    refine (Reads.number hlt).bind (f := fun m => if m < 2 ^ 31 then
      do return int (ofSigned (← Input.take m)) else failure) ?_
    rw [if_pos h]
    exact reads_signed (signedWidth_fits n)

theorem reads_float (x : Binary64) : Reads read? (form (float x)) (float x) := by
  have hlt : x.bits.toNat < 256 ^ 8 := x.bits.toNat_lt
  have hread := (Reads.take (length_bigEndian 8 x.bits.toNat)).map fun bs =>
    float ⟨UInt64.ofNat (ofBigEndian bs)⟩
  rw [ofBigEndian_bigEndian hlt, UInt64.ofNat_toNat] at hread
  exact reads_code hread

theorem reads_index {short long : UInt8} {n : Nat} {i : Instruction}
    (hshort : n < 256 ^ 1 → Reads (readBody short) (littleEndian 1 n) i)
    (hlong : Reads (readBody long) (littleEndian 4 n) i) :
    Reads read? (indexForm short long n) i := by
  simp only [indexForm]
  split
  · rw [← littleEndian_one _ ‹_›]
    exact reads_code (hshort ‹_›)
  · exact reads_code hlong

theorem reads_extension (code : Nat) (h : code < 256 ^ 4) :
    Reads read? (form (extension code)) (extension code) := by
  simp only [form, extensionForm]
  split
  case isTrue hsmall =>
    rw [← littleEndian_one _ hsmall]
    exact reads_code ((Reads.number hsmall).map extension)
  split
  case isTrue hmiddle => exact reads_code ((Reads.number hmiddle).map extension)
  case isFalse => exact reads_code ((Reads.number h).map extension)

/-- **An instruction is read from its form.** -/
theorem reads_form {i : Instruction} (hi : i.isEmitted) (hwritable : i.isWritable)
    (hlength : i.payloadLength < 256 ^ 8) : Reads read? i.form i := by
  cases i with
  | int n => exact reads_int n (by simpa [isWritable] using hwritable)
  | float x => exact reads_float x
  | text s => exact reads_text s hlength
  | bytes bs => exact reads_bytes bs hlength
  | byteArray bs => exact reads_code ((Reads.payloadAcross hlength).map byteArray)
  | get index =>
    have hindex : index < 256 ^ 4 := by simpa [isWritable] using hwritable
    exact reads_index (fun h => (Reads.number h).map get) ((Reads.number hindex).map get)
  | extension code => exact reads_extension code (by simpa [isWritable] using hwritable)
  | tupleOf size =>
    have hsize := isEmitted_tupleOf.1 hi
    obtain rfl | rfl | rfl : size = 1 ∨ size = 2 ∨ size = 3 := by omega
    all_goals exact reads_code (Reads.pure _)
  | bool b => cases b <;> exact reads_code (Reads.pure _)
  | protocol | frame | stop | global | newNamed | put => cases hi
  | _ => exact reads_code (Reads.pure _)

/-- The version in front of a message is read. -/
theorem reads_protocol (version : UInt8) :
    Reads read? (form (protocol version)) (protocol version) := by
  have hlt : version.toNat < 256 ^ 1 := version.toNat_lt
  have hread := (Reads.number hlt).map fun n => protocol (UInt8.ofNat n)
  rw [littleEndian_one _ version.toNat_lt, UInt8.ofNat_toNat] at hread
  exact reads_code hread

theorem reads_stop : Reads read? (form stop) stop := reads_code (Reads.pure _)

theorem form_pos {i : Instruction} {bs : List UInt8} (h : Reads read? bs i) : 0 < bs.length := by
  rcases bs with _ | ⟨code, bs⟩
  · have hnone := h ⟨[], []⟩ ⟨[], []⟩ (.inl ⟨rfl, rfl⟩)
    cases hnone
  · simp

end Instruction

/-! ### Frames -/

/-- The instructions that an input is read as, up to where `out` is left, in so many steps. The
headers of frames do not count as instructions, but one always follows them. -/
inductive Input.Yields : Nat → Input → List Instruction → Input → Prop
  | nil (input : Input) : Yields 0 input [] input
  | header {n length : Nat} {input mid out : Input} {i : Instruction} {is : List Instruction}
    (h : Instruction.read? input = some (.frame length, mid)) (rest : Yields n mid (i :: is) out) :
    Yields (n + 1) input (i :: is) out
  | cons {n : Nat} {input mid out : Input} {i : Instruction} {is : List Instruction}
    (h : Instruction.read? input = some (i, mid)) (rest : Yields n mid is out) :
    Yields (n + 1) input (i :: is) out

namespace Input

open Instruction

theorem Yields.append {m n : Nat} {input mid out : Input} {is js : List Instruction}
    (h : Yields m input is mid) (h' : Yields n mid js out) :
    Yields (m + n) input (is ++ js) out := by
  induction h with
  | nil => simpa using h'
  | header hread _ ih =>
    rw [Nat.add_right_comm]
    exact .header hread (ih h')
  | cons hread _ ih =>
    rw [Nat.add_right_comm]
    exact .cons hread (ih h')

/-- An instruction that is read from its form, wherever that stands. -/
def Readable (i : Instruction) : Prop := Reader.Reads read? i.form i

theorem yields_forms {is : List Instruction} (his : ∀ i ∈ is, Readable i) :
    ∀ {input out : Input}, input.Begins (is.flatMap form) out →
      input.Yields is.length is out := by
  induction is with
  | nil =>
    intro input out h
    rw [begins_nil h]
    exact .nil out
  | cons i is ih =>
    intro input out h
    rw [List.flatMap_cons] at h
    obtain ⟨mid, hmid, hrest⟩ := begins_append h
    exact .cons (his i List.mem_cons_self _ _ hmid)
      (ih (fun j hj => his j (List.mem_cons_of_mem _ hj)) hrest)

theorem length_le_forms {is : List Instruction} (his : ∀ i ∈ is, Readable i) :
    is.length ≤ (is.flatMap form).length := by
  induction is with
  | nil => simp
  | cons i is ih =>
    have := form_pos (his i List.mem_cons_self)
    have := ih fun j hj => his j (List.mem_cons_of_mem _ hj)
    simp only [List.flatMap_cons, List.length_append, List.length_cons]
    omega

theorem readBody_frame : readBody 0x95 = (do
    let n ← Input.number 8
    enter n
    return .frame n) := rfl

/-- The header of a frame makes the bytes behind it the frame. -/
theorem reads_header {body tail : List UInt8} (hlow : frameMinimum ≤ body.length)
    (hhigh : body.length < 256 ^ 8) :
    read? ⟨[], (Instruction.frame body.length).form ++ (body ++ tail)⟩ =
      some (.frame body.length, ⟨body, tail⟩) := by
  have htake : Reader.Reads (Input.take 1) [0x95] [0x95] := Reader.Reads.take rfl
  have hcode := htake ⟨[], (Instruction.frame body.length).form ++ (body ++ tail)⟩
    ⟨[], littleEndian 8 body.length ++ (body ++ tail)⟩ (.inr ⟨rfl, rfl, rfl⟩)
  have hnumber := Reader.Reads.number hhigh ⟨[], littleEndian 8 body.length ++ (body ++ tail)⟩
    ⟨[], body ++ tail⟩ (.inr ⟨rfl, rfl, rfl⟩)
  have henter : enter body.length ⟨[], body ++ tail⟩ = some ((), ⟨body, tail⟩) := by
    have hne : body.length ≠ 0 := by
      unfold frameMinimum at hlow
      omega
    simp only [enter, splitExactly_nil hne, splitExactly_append tail rfl, Option.map_some]
  have hbody : readBody 0x95 ⟨[], littleEndian 8 body.length ++ (body ++ tail)⟩ =
      some (.frame body.length, ⟨body, tail⟩) := by
    rw [readBody_frame]
    simp only [Bind.bind, StateT.bind, hnumber, henter, Option.bind_some]
    rfl
  simp only [read?, Bind.bind, StateT.bind, hcode, Option.bind_some, hbody]

end Input

/-- The bytes of an open frame are the forms of instructions. -/
structure OpenFrame.Holds (f : OpenFrame) (is : List Instruction) :
    Prop where
  parts : f.parts.reverse.flatten = is.flatMap Instruction.form
  length : f.length = (is.flatMap Instruction.form).length

namespace OpenFrame

open Input

variable {f : OpenFrame} {is : List Instruction}

theorem Holds.empty : Holds .empty [] := ⟨rfl, rfl⟩

theorem Holds.add (h : f.Holds is) (i : Instruction) : (f.add i.form).Holds (is ++ [i]) := by
  refine ⟨?_, ?_⟩
  · simp [OpenFrame.add, h.parts]
  · simp [OpenFrame.add, h.length]

theorem length_le_close (h : f.Holds is) : f.length ≤ f.close.length := by
  simp only [close, h.parts, h.length]
  split <;> simp

/-- A closed frame is read as its instructions. -/
theorem yields_close (h : f.Holds is) (his : ∀ i ∈ is, Readable i) (tail : List UInt8)
    (hlength : f.length < 256 ^ 8) :
    ∃ n ≤ f.close.length, Yields n ⟨[], f.close ++ tail⟩ is ⟨[], tail⟩ := by
  have hcount := length_le_forms his
  simp only [close, h.parts, h.length]
  split
  case isTrue => exact ⟨is.length, hcount, yields_forms his (.inr ⟨rfl, rfl, rfl⟩)⟩
  case isFalse hlow =>
    cases is with
    | nil => exact absurd (by decide) hlow
    | cons i is =>
      refine ⟨(i :: is).length + 1, ?_, ?_⟩
      · simp only [List.length_append, Instruction.form, List.length_cons] at hcount ⊢
        omega
      · rw [List.append_assoc]
        refine .header (reads_header (by omega) (h.length ▸ hlength)) ?_
        exact yields_forms his (.inl ⟨by simp, rfl⟩)

end OpenFrame

/-- The instructions among pieces. -/
def instructionsOf (ps : List Piece) : List Instruction :=
  ps.flatMap fun
    | .start => []
    | .instruction i => [i]

@[simp] theorem instructionsOf_start (ps : List Piece) :
    instructionsOf (.start :: ps) = instructionsOf ps := rfl

@[simp] theorem instructionsOf_instruction (i : Instruction) (ps : List Piece) :
    instructionsOf (.instruction i :: ps) = i :: instructionsOf ps := rfl

@[simp] theorem instructionsOf_append (ps qs : List Piece) :
    instructionsOf (ps ++ qs) = instructionsOf ps ++ instructionsOf qs := by
  simp [instructionsOf]

theorem mem_instructionsOf {i : Instruction} {ps : List Piece} :
    i ∈ instructionsOf ps ↔ .instruction i ∈ ps := by
  simp only [instructionsOf, List.mem_flatMap]
  constructor
  · rintro ⟨p, hp, hi⟩
    cases p with
    | start => cases hi
    | instruction j =>
      obtain rfl := List.mem_singleton.1 hi
      exact hp
  · exact fun hi => ⟨_, hi, List.mem_singleton.2 rfl⟩

open Input in
/-- **Pieces in frames are read as their instructions.** -/
theorem yields_framedFrom {ps : List Piece} (hps : ∀ i ∈ instructionsOf ps, Readable i) :
    ∀ {f : OpenFrame} {is : List Instruction} (tail : List UInt8), f.Holds is →
      (∀ i ∈ is, Readable i) → (framedFrom f ps).length < 256 ^ 8 →
      ∃ n ≤ (framedFrom f ps).length,
        Yields n ⟨[], framedFrom f ps ++ tail⟩ (is ++ instructionsOf ps) ⟨[], tail⟩ := by
  induction ps with
  | nil =>
    intro f is tail h his hlength
    have hle : f.length < 256 ^ 8 := by
      have := OpenFrame.length_le_close h
      simp only [framedFrom] at hlength
      omega
    simpa [framedFrom, instructionsOf] using OpenFrame.yields_close h his tail hle
  | cons p ps ih =>
    intro f is tail h his hlength
    have hrest : ∀ i ∈ instructionsOf ps, Readable i := fun i hi => hps i (by
      cases p with
      | start => exact hi
      | instruction j => exact List.mem_cons_of_mem _ hi)
    -- A frame that is closed is read first, then what stands outside frames, then the others.
    have hclosed (out : List Instruction) (outside : List UInt8) (hout : ∀ i ∈ out, Readable i)
        (hform : outside = out.flatMap Instruction.form)
        (hlt : (f.close ++ (outside ++ framedFrom .empty ps)).length < 256 ^ 8) :
        ∃ n ≤ (f.close ++ (outside ++ framedFrom .empty ps)).length,
          Yields n ⟨[], f.close ++ (outside ++ framedFrom .empty ps) ++ tail⟩
            (is ++ (out ++ instructionsOf ps)) ⟨[], tail⟩ := by
      simp only [List.length_append] at hlt
      have hle := OpenFrame.length_le_close h
      obtain ⟨m, hm, hfirst⟩ := OpenFrame.yields_close h his
        (outside ++ (framedFrom .empty ps ++ tail)) (by omega)
      obtain ⟨n, hn, hothers⟩ := ih hrest (f := .empty) tail .empty (by simp) (by omega)
      have hmiddle : Yields out.length ⟨[], outside ++ (framedFrom .empty ps ++ tail)⟩ out
          ⟨[], framedFrom .empty ps ++ tail⟩ := yields_forms hout (.inr ⟨rfl, rfl, by rw [hform]⟩)
      have hcount := length_le_forms hout
      refine ⟨m + (out.length + n), ?_, ?_⟩
      · simp only [List.length_append, hform]
        omega
      · simp only [List.append_assoc]
        exact hfirst.append (hmiddle.append hothers)
    cases p with
    | start =>
      simp only [framedFrom] at hlength ⊢
      split at hlength
      · rw [if_pos ‹_›]
        simpa using hclosed [] [] (by simp) rfl (by simpa using hlength)
      · rw [if_neg ‹_›]
        exact ih hrest tail h his hlength
    | instruction i =>
      have hi : Readable i := hps i (by simp)
      simp only [framedFrom] at hlength ⊢
      split at hlength
      · rw [if_pos ‹_›]
        exact hclosed [i] i.form (by simpa using hi) (by simp) hlength
      · rw [if_neg ‹_›]
        have his' : ∀ j ∈ is ++ [i], Readable j := by
          simpa [or_imp, forall_and] using ⟨his, hi⟩
        simpa using ih hrest tail (h.add i) his' hlength

end Wire

end ServiceStubs
