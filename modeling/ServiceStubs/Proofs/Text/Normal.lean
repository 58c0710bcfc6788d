import ServiceStubs.Text.Normal

/-!
# Normal forms of names

The names that are derived from others take ASCII characters behind them. None of these stands for
other characters, and none is a mark. So a derived name is in normal form if the other one is, and
the reader finds it as it was written.

## Main statements

* `Text.normalForm_append_ascii`: what ASCII characters behind a text do to its normal form
-/

namespace ServiceStubs

namespace Text

variable {c : Char} {cs t : List Char}

theorem combiningClass_of_isAscii (h : isAscii c = true) : combiningClass c = 0 := by
  have hc : c.toNat < 128 := of_decide_eq_true h
  rw [combiningClass, if_pos (by omega)]

theorem standsFor?_of_isAscii (h : isAscii c = true) : standsFor? c = none := by
  have hc : c.toNat < 128 := of_decide_eq_true h
  rw [standsFor?, if_pos hc]

theorem composed?_of_isAscii (h : isAscii c = true) (letter : Char) : composed? letter c = none := by
  have hc : c.toNat < 128 := of_decide_eq_true h
  rw [composed?, if_pos (by omega)]

/-! ### Taking apart -/

theorem takeApart_append (cs t : List Char) : takeApart (cs ++ t) = takeApart cs ++ takeApart t :=
  List.flatMap_append

theorem takeApart_of_ascii (h : t.all isAscii = true) : takeApart t = t := by
  induction t with
  | nil => rfl
  | cons c t ih =>
    rw [List.all_cons, Bool.and_eq_true] at h
    rw [takeApart, List.flatMap_cons, standsFor?_of_isAscii h.1, ← takeApart, ih h.2]
    rfl

theorem decompose_append_ascii (h : t.all isAscii = true) : decompose (cs ++ t) = decompose cs ++ t := by
  rw [decompose, takeApart_append, takeApart_append, takeApart_append, takeApart_of_ascii h,
    takeApart_of_ascii h, takeApart_of_ascii h, decompose]

/-! ### Ordering -/

theorem insertMark_of_class_eq_zero (h : combiningClass c = 0) (ds : List Char) :
    insertMark c ds = c :: ds := by
  cases ds with
  | nil => rfl
  | cons d ds => simp [insertMark, h]

/-- A mark is not moved behind ASCII characters. -/
theorem insertMark_append_ascii (ht : t.all isAscii = true) (c : Char) (ds : List Char) :
    insertMark c (ds ++ t) = insertMark c ds ++ t := by
  induction ds with
  | nil =>
    cases t with
    | nil => rfl
    | cons d t =>
      rw [List.all_cons, Bool.and_eq_true] at ht
      simp [insertMark, combiningClass_of_isAscii ht.1]
  | cons d ds ih =>
    rw [List.cons_append, insertMark, insertMark]
    split
    · rw [ih, List.cons_append]
    · rfl

theorem orderMarks_of_ascii (h : t.all isAscii = true) : orderMarks t = t := by
  induction t with
  | nil => rfl
  | cons c t ih =>
    rw [List.all_cons, Bool.and_eq_true] at h
    rw [orderMarks, List.foldr_cons, ← orderMarks, ih h.2,
      insertMark_of_class_eq_zero (combiningClass_of_isAscii h.1)]

theorem orderMarks_append_ascii (h : t.all isAscii = true) :
    orderMarks (cs ++ t) = orderMarks cs ++ t := by
  induction cs with
  | nil => exact orderMarks_of_ascii h
  | cons c cs ih =>
    rw [List.cons_append, orderMarks, List.foldr_cons, ← orderMarks, ih, insertMark_append_ascii h]
    rfl

/-! ### Composing -/

/-- Nothing is joined to the letter across an ASCII character. -/
theorem composeBehind_of_ascii (h : t.all isAscii = true) (letter : Char) (marks : List Char) :
    composeBehind letter marks t = letter :: marks ++ t := by
  induction t generalizing letter marks with
  | nil => simp [composeBehind]
  | cons c t ih =>
    rw [List.all_cons, Bool.and_eq_true] at h
    simp [composeBehind, composed?_of_isAscii h.1, combiningClass_of_isAscii h.1, ih h.2]

theorem composeBehind_append_ascii (h : t.all isAscii = true) (letter : Char) (marks cs : List Char) :
    composeBehind letter marks (cs ++ t) = composeBehind letter marks cs ++ t := by
  induction cs generalizing letter marks with
  | nil => rw [List.nil_append, composeBehind_of_ascii h, composeBehind]
  | cons c cs ih =>
    rw [List.cons_append, composeBehind, composeBehind]
    split
    · exact ih _ _
    · split
      · rw [ih, List.append_assoc]
      · exact ih _ _

theorem compose_of_ascii (h : t.all isAscii = true) : compose t = t := by
  cases t with
  | nil => rfl
  | cons c t =>
    rw [List.all_cons, Bool.and_eq_true] at h
    rw [compose, combiningClass_of_isAscii h.1, if_pos (beq_self_eq_true 0), composeBehind_of_ascii h.2]
    rfl

theorem compose_append_ascii (h : t.all isAscii = true) : compose (cs ++ t) = compose cs ++ t := by
  induction cs with
  | nil => exact compose_of_ascii h
  | cons c cs ih =>
    rw [List.cons_append, compose, compose]
    split
    · exact composeBehind_append_ascii h c [] cs
    · rw [ih, List.cons_append]

/-! ### Normal forms -/

/-- **ASCII characters behind a text** stand behind its normal form. -/
theorem normalForm_append_ascii (h : t.all isAscii = true) :
    normalForm (cs ++ t) = normalForm cs ++ t := by
  rw [normalForm, normalForm, List.all_append, h, Bool.and_true]
  split
  · rfl
  · rw [decompose_append_ascii h, orderMarks_append_ascii h, compose_append_ascii h]

end Text

end ServiceStubs
