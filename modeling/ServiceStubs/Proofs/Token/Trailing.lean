import ServiceStubs.Grammar.Reader
import ServiceStubs.Proofs.Token.Ordering

/-!
# A line end at the end of a text

A scanner looks ahead only as far as the line end behind what it takes. So one more line end at the
end of a text of whole lines changes nothing but the places of the tokens that mark the end. There
is one exception: a backslash at the end of the last line joins it to a line that is not there,
unless another line end follows.

## Main definitions

* `Token.Whole`: a text of whole lines
* `Token.Passes`: what a step of the scanner leaves

## Main statements

* `Token.scanLexeme_append_newline`: one token
* `Token.scanStep_append_newline`: one step of the scanner
* `Token.scanPrepared_append_newline`: the tokens of a text
-/

namespace ServiceStubs

namespace Token

/-! ### Single tokens -/

/-- A line end is behind what is left of a text. -/
def ended {α : Type} (p : α × List Char) : α × List Char := (p.1, p.2 ++ ['\n'])

theorem isPrefixOf_append_newline {w : List Char} (hw : '\n' ∉ w) (cs : List Char) :
    w.isPrefixOf (cs ++ ['\n']) = w.isPrefixOf cs := by
  induction w generalizing cs with
  | nil => simp
  | cons d w ih =>
    simp only [List.mem_cons, not_or] at hw
    cases cs with
    | nil => simp [List.isPrefixOf, Ne.symm hw.1]
    | cons c cs => simp [List.isPrefixOf, ih hw.2]

theorem head?_append_newline {p : Char → Bool} (hp : p '\n' = false) (cs : List Char) :
    ((cs ++ ['\n']).head?.map p).getD false = (cs.head?.map p).getD false := by
  cases cs with
  | nil => simp [hp]
  | cons c cs => simp

section Numbers

variable {isDigit : Char → Bool}

theorem digitRun_append_newline (h : isDigit '\n' = false) (cs : List Char) :
    digitRun isDigit (cs ++ ['\n']) = (digitRun isDigit cs).map ended := by
  induction cs with
  | nil => simp [digitRun, h, ended]
  | cons c cs ih =>
    rw [List.cons_append, digitRun.eq_def, digitRun.eq_def isDigit (c :: cs)]
    dsimp only
    by_cases hc : isDigit c = true
    · rw [if_pos hc, if_pos hc, ih]
      cases digitRun isDigit cs <;> rfl
    · rw [if_neg hc, if_neg hc]
      by_cases hunderscore : (c == '_') = true
      · rw [if_pos hunderscore, if_pos hunderscore]
        cases cs with
        | nil => simp [h]
        | cons d cs =>
          simp only [List.cons_append] at ih ⊢
          by_cases hd : isDigit d = true
          · rw [if_pos hd, if_pos hd, ih]
          · rw [if_neg hd, if_neg hd]
            rfl
      · rw [if_neg hunderscore, if_neg hunderscore]
        rfl

theorem endsNumber_append_newline (cs : List Char) : endsNumber (cs ++ ['\n']) = endsNumber cs := by
  have hwords : wordsAfterNumber.any (·.isPrefixOf (cs ++ ['\n'])) =
      wordsAfterNumber.any (·.isPrefixOf cs) := by
    have hnone : ∀ w ∈ wordsAfterNumber, '\n' ∉ w := by decide +kernel
    rw [Bool.eq_iff_iff, List.any_eq_true, List.any_eq_true]
    exact exists_congr fun w => and_congr_right fun hw => by
      rw [isPrefixOf_append_newline (hnone w hw)]
  rw [endsNumber, hwords, head?_append_newline rfl, endsNumber]

theorem scanBased_append_newline (h : isDigit '\n' = false) (base : ℕ) (cs : List Char) :
    scanBased base isDigit (cs ++ ['\n']) = (scanBased base isDigit cs).map ended := by
  simp only [scanBased, digitRun_append_newline h]
  cases digitRun isDigit cs with
  | none => rfl
  | some p =>
    obtain ⟨ds, rest⟩ := p
    simp only [Option.map_some, ended, Option.bind_eq_bind, Option.bind_some,
      head?_append_newline isDigit_newline, endsNumber_append_newline]
    split <;> rfl

theorem scanExponent_append_newline (cs : List Char) :
    scanExponent (cs ++ ['\n']) = (scanExponent cs).map ended := by
  cases cs with
  | nil => rfl
  | cons e rest =>
    simp only [List.cons_append, scanExponent]
    by_cases he : (e == 'e' || e == 'E') = true
    · rw [if_pos he, if_pos he]
      cases rest with
      | nil => rfl
      | cons sign rest =>
        cases rest with
        | nil =>
          -- a lone character behind the letter has a branch of its own
          by_cases hdigit : sign.isDigit = true
          · have hsign : (sign == '+' || sign == '-') = false := by
              rw [Bool.or_eq_false_iff]
              constructor <;> rw [beq_eq_false_iff_ne] <;> rintro rfl <;> cases hdigit
            simp [hsign, hdigit, digitRun, ended, valueIn, isDigit_newline]
          · by_cases hsign : (sign == '+' || sign == '-') = true
            · simp [hsign, hdigit, isDigit_newline]
            · simp [hsign, hdigit, ended]
        | cons d rest =>
          simp only [List.cons_append]
          have hrun (cs : List Char) := digitRun_append_newline isDigit_newline cs
          by_cases hsign : (sign == '+' || sign == '-') = true
          · rw [if_pos hsign, if_pos hsign]
            by_cases hd : d.isDigit = true
            · rw [if_pos hd, if_pos hd, ← List.cons_append, hrun]
              cases digitRun Char.isDigit (d :: rest) <;> rfl
            · rw [if_neg hd, if_neg hd]
              rfl
          · rw [if_neg hsign, if_neg hsign]
            by_cases hdigit : sign.isDigit = true
            · rw [if_pos hdigit, if_pos hdigit, ← List.cons_append, ← List.cons_append, hrun]
              cases digitRun Char.isDigit (sign :: d :: rest) <;> rfl
            · rw [if_neg hdigit, if_neg hdigit]
              rfl
    · rw [if_neg he, if_neg he]
      rfl

/-- What ends a decimal number may be a letter, and a name may not follow. -/
theorem decimalEnd_append_newline {imaginary other whole : Tree.Constant} {isOther isFaulty : Bool}
    (cs : List Char) :
    (match cs ++ ['\n'] with
      | c :: rest =>
        if c == 'j' || c == 'J' then if endsNumber rest then some (imaginary, rest) else none
        else if !endsNumber (cs ++ ['\n']) then none
        else if isOther then some (other, cs ++ ['\n'])
        else if isFaulty then none
        else some (whole, cs ++ ['\n'])
      | [] =>
        if isOther then some (other, [])
        else if isFaulty then none
        else some (whole, [])) =
    (match cs with
      | c :: rest =>
        if c == 'j' || c == 'J' then if endsNumber rest then some (imaginary, rest) else none
        else if !endsNumber cs then none
        else if isOther then some (other, cs)
        else if isFaulty then none
        else some (whole, cs)
      | [] =>
        if isOther then some (other, [])
        else if isFaulty then none
        else some (whole, [])).map ended := by
  rw [endsNumber_append_newline]
  cases cs with
  | nil =>
    show (if isOther then some (other, ['\n']) else if isFaulty then none else some (whole, ['\n'])) = _
    repeat' split
    all_goals first | rfl | contradiction
  | cons c cs =>
    simp only [List.cons_append, endsNumber_append_newline]
    repeat' split
    all_goals rfl

theorem scanDecimalTail_append_newline (whole : List Char) (hasPoint isZeroLed : Bool)
    (cs : List Char) : scanDecimalTail whole hasPoint isZeroLed (cs ++ ['\n']) =
      (scanDecimalTail whole hasPoint isZeroLed cs).map ended := by
  unfold scanDecimalTail
  rw [head?_append_newline isDigit_newline]
  by_cases hpoint : (hasPoint && (cs.head?.map Char.isDigit).getD false) = true
  · rw [if_pos hpoint, if_pos hpoint, digitRun_append_newline isDigit_newline]
    cases digitRun Char.isDigit cs with
    | none => rfl
    | some p =>
      simp only [Option.map_some, ended, Option.bind_eq_bind, Option.bind_some,
        scanExponent_append_newline]
      cases scanExponent p.2 with
      | none => rfl
      | some q =>
        simp only [Option.map_some, ended, Option.bind_some]
        exact decimalEnd_append_newline q.2
  · rw [if_neg hpoint, if_neg hpoint]
    simp only [Option.bind_eq_bind, Option.bind_some, scanExponent_append_newline]
    cases scanExponent cs with
    | none => rfl
    | some q =>
      simp only [Option.map_some, ended, Option.bind_some]
      exact decimalEnd_append_newline q.2

theorem scanDecimal_append_newline (cs : List Char) :
    scanDecimal (cs ++ ['\n']) = (scanDecimal cs).map ended := by
  unfold scanDecimal
  rw [digitRun_append_newline isDigit_newline]
  cases digitRun Char.isDigit cs with
  | none => rfl
  | some p =>
    obtain ⟨whole, rest⟩ := p
    simp only [Option.map_some, ended, Option.bind_eq_bind, Option.bind_some]
    split
    next r hr =>
      cases rest with
      | nil => cases hr
      | cons c rest =>
        obtain ⟨rfl, rfl⟩ := List.cons.inj hr
        exact scanDecimalTail_append_newline whole true _ rest
    next hnot =>
      rw [scanDecimalTail_append_newline]
      split
      next r => exact absurd rfl (hnot (r ++ ['\n']))
      next => rfl

/-- A number ends in front of a line end. -/
theorem scanNumber_append_newline (cs : List Char) :
    scanNumber (cs ++ ['\n']) = (scanNumber cs).map ended := by
  have hdecimal := scanDecimal_append_newline cs
  rcases cs with _ | ⟨z, cs⟩
  · exact hdecimal
  by_cases hpoint : z = '.'
  · subst hpoint
    exact scanDecimalTail_append_newline [] true false cs
  by_cases hzero : z = '0'
  · subst hzero
    rcases cs with _ | ⟨c, cs⟩
    · exact hdecimal
    · simp only [List.cons_append, scanNumber] at hdecimal ⊢
      repeat' split
      · exact scanBased_append_newline rfl 16 cs
      · exact scanBased_append_newline rfl 8 cs
      · exact scanBased_append_newline rfl 2 cs
      · exact hdecimal
  · have hplain (cs : List Char) : scanNumber (z :: cs) = scanDecimal (z :: cs) := by
      unfold scanNumber
      split
      next h => exact absurd (List.cons.inj h).1 hpoint
      next h => exact absurd (List.cons.inj h).1 hzero
      next => rfl
    rw [List.cons_append, hplain, hplain]
    exact hdecimal

end Numbers

/-! ### Literals -/

section Literals

variable {quote : Char}

theorem scanQuoted_append_newline (hquote : quote ≠ '\n') (hback : quote ≠ '\\')
    (cs : List Char) : scanQuoted quote (cs ++ ['\n']) = (scanQuoted quote cs).map ended := by
  induction cs using scanQuoted.induct quote with
  | case1 => simp [scanQuoted, hquote.symm]
  | case2 c rest ih =>
    simp only [List.cons_append, scanQuoted, ih]
    cases scanQuoted quote rest <;> rfl
  | case3 c rest hnot hc =>
    have hnot' : ∀ d r, c = '\\' → rest ++ ['\n'] = d :: r → False := fun d r hd _ =>
      hback ((eq_of_beq hc).symm.trans hd)
    rw [List.cons_append, scanQuoted.eq_3 _ _ _ hnot', scanQuoted.eq_3 _ _ _ hnot, if_pos hc, if_pos hc]
    rfl
  | case4 c rest hnot hc hnewline =>
    have hnot' : ∀ d r, c = '\\' → rest ++ ['\n'] = d :: r → False := fun d r hd _ =>
      absurd ((eq_of_beq hnewline).symm.trans hd) (by decide)
    rw [List.cons_append, scanQuoted.eq_3 _ _ _ hnot', scanQuoted.eq_3 _ _ _ hnot, if_neg hc, if_neg hc,
      if_pos hnewline, if_pos hnewline]
    rfl
  | case5 c rest hnot hc hnewline ih =>
    rw [List.cons_append, scanQuoted.eq_3 _ _ _ hnot, if_neg hc, if_neg hnewline]
    by_cases hd : ∃ d r, c = '\\' ∧ rest ++ ['\n'] = d :: r
    · -- a backslash at the end takes the line end, and no quote is left behind it
      obtain ⟨d, r, rfl, hr⟩ := hd
      cases rest with
      | nil => simp [scanQuoted]
      | cons d rest => exact (hnot d rest rfl rfl).elim
    · have hnot' : ∀ d r, c = '\\' → rest ++ ['\n'] = d :: r → False := fun d r hback hr =>
        hd ⟨d, r, hback, hr⟩
      rw [scanQuoted.eq_3 _ _ _ hnot', if_neg hc, if_neg hnewline, ih]
      cases scanQuoted quote rest <;> rfl

theorem scanTripled_append_newline (hquote : quote ≠ '\n') (hback : quote ≠ '\\')
    (cs : List Char) : scanTripled quote (cs ++ ['\n']) = (scanTripled quote cs).map ended := by
  have hmark : '\n' ∉ [quote, quote] := by simp [hquote.symm]
  induction cs using scanTripled.induct quote with
  | case1 => simp [scanTripled]
  | case2 c rest ih =>
    simp only [List.cons_append, scanTripled, ih]
    cases scanTripled quote rest <;> rfl
  | case3 c rest hnot hc =>
    obtain ⟨hfirst, hprefix⟩ := Bool.and_eq_true_iff.mp hc
    have hnot' : ∀ d r, c = '\\' → rest ++ ['\n'] = d :: r → False := fun d r hd _ =>
      hback ((eq_of_beq hfirst).symm.trans hd)
    obtain ⟨tail, rfl⟩ := List.isPrefixOf_iff_prefix.mp hprefix
    rw [List.cons_append, scanTripled.eq_3 _ _ _ hnot', scanTripled.eq_3 _ _ _ hnot,
      isPrefixOf_append_newline hmark, if_pos hc, if_pos hc]
    rfl
  | case4 c rest hnot hc ih =>
    rw [List.cons_append, scanTripled.eq_3 _ _ _ hnot, if_neg hc]
    by_cases hd : ∃ d r, c = '\\' ∧ rest ++ ['\n'] = d :: r
    · obtain ⟨d, r, rfl, hr⟩ := hd
      cases rest with
      | nil => simp [scanTripled]
      | cons d rest => exact (hnot d rest rfl rfl).elim
    · have hnot' : ∀ d r, c = '\\' → rest ++ ['\n'] = d :: r → False := fun d r hback hr =>
        hd ⟨d, r, hback, hr⟩
      rw [scanTripled.eq_3 _ _ _ hnot', isPrefixOf_append_newline hmark, if_neg hc, ih]
      cases scanTripled quote rest <;> rfl

theorem scanString_append_newline (hquote : quote ≠ '\n') (hback : quote ≠ '\\') (cs : List Char) :
    scanString (quote :: cs ++ ['\n']) =
      (scanString (quote :: cs)).map fun p => (p.1, p.2.1, p.2.2 ++ ['\n']) := by
  have hmark : '\n' ∉ [quote, quote] := by simp [hquote.symm]
  rw [List.cons_append, scanString, scanString, isPrefixOf_append_newline hmark]
  dsimp only
  split
  next hprefix =>
    obtain ⟨tail, rfl⟩ := List.isPrefixOf_iff_prefix.mp hprefix
    simp only [List.cons_append, List.nil_append, List.drop_succ_cons, List.drop_zero,
      scanTripled_append_newline hquote hback]
    cases scanTripled quote tail <;> rfl
  next =>
    rw [scanQuoted_append_newline hquote hback]
    cases scanQuoted quote cs <;> rfl

end Literals

/-! ### One token -/

/-- A line end is behind the text that a token leaves. -/
def Lexeme.ended (l : Lexeme) : Lexeme := { l with rest := l.rest ++ ['\n'] }

theorem takeWhile_append_newline {p : Char → Bool} (hp : p '\n' = false) (cs : List Char) :
    (cs ++ ['\n']).takeWhile p = cs.takeWhile p ∧
      (cs ++ ['\n']).dropWhile p = cs.dropWhile p ++ ['\n'] := by
  induction cs with
  | nil => simp [hp]
  | cons c cs ih =>
    rw [List.cons_append, List.takeWhile_cons, List.takeWhile_cons, List.dropWhile_cons,
      List.dropWhile_cons, ih.1, ih.2]
    split <;> simp

theorem head?_beq_append_newline {quote : Char} (hquote : quote ≠ '\n') (cs : List Char) :
    ((cs ++ ['\n']).head? == some quote) = (cs.head? == some quote) := by
  cases cs with
  | nil => simpa using hquote.symm
  | cons c cs => rfl

theorem find?_signs_append_newline (cs : List Char) :
    signs.find? (·.isPrefixOf (cs ++ ['\n'])) = signs.find? (·.isPrefixOf cs) :=
  List.find?_congr fun sign hsign =>
    isPrefixOf_append_newline (newline_notMem_of_mem_signs sign hsign) cs

/-- A token ends in front of a line end. -/
theorem scanLexeme_append_newline (c : Char) (cs : List Char) :
    scanLexeme (c :: cs ++ ['\n']) = (scanLexeme (c :: cs)).map Lexeme.ended := by
  obtain ⟨htake, hdrop⟩ := takeWhile_append_newline (p := isNameChar) rfl (c :: cs)
  have hliteral (letters : List Char) {quote : Char} {after : List Char}
      (hafter : after.head? = some quote) (hquote : quote = '"' ∨ quote = '\'') :
      ((stringMarks? letters).bind fun make => (scanString (after ++ ['\n'])).bind fun p =>
        some (Lexeme.mk (.string (make p.1)) (letters ++ p.2.1) p.2.2)) =
      ((stringMarks? letters).bind fun make => (scanString after).bind fun p =>
        some (Lexeme.mk (.string (make p.1)) (letters ++ p.2.1) p.2.2)).map Lexeme.ended := by
    obtain ⟨rest, rfl⟩ := List.head?_eq_some_iff.mp hafter
    rw [scanString_append_newline (by rcases hquote with rfl | rfl <;> decide)
      (by rcases hquote with rfl | rfl <;> decide)]
    cases stringMarks? letters with
    | none => rfl
    | some make => cases scanString (quote :: rest) <;> rfl
  unfold scanLexeme
  rw [List.cons_append] at htake hdrop ⊢
  simp only [htake, hdrop]
  by_cases hquote : (c == '"' || c == '\'') = true
  · rw [if_pos hquote, if_pos hquote]
    exact hliteral [] (rfl : (c :: cs).head? = some c) (by simpa using hquote)
  rw [if_neg hquote, if_neg hquote]
  by_cases hnumber : (c.isDigit || (c == '.' && (cs.head?.map Char.isDigit).getD false)) = true
  · rw [head?_append_newline isDigit_newline, if_pos hnumber, if_pos hnumber, ← List.cons_append,
      scanNumber_append_newline]
    cases scanNumber (c :: cs) with
    | none => rfl
    | some p =>
      have hchars : (c :: cs ++ ['\n']).take ((c :: cs ++ ['\n']).length - (p.2 ++ ['\n']).length) =
          (c :: cs).take ((c :: cs).length - p.2.length) := by
        rw [List.length_append, List.length_append, Nat.add_sub_add_right,
          List.take_append_of_le_length (Nat.sub_le _ _)]
      show some (Lexeme.mk _ _ _) = some (Lexeme.mk _ _ _)
      rw [← hchars]
      rfl
  rw [head?_append_newline isDigit_newline, if_neg hnumber, if_neg hnumber]
  by_cases hname : isNameChar c = true
  · rw [if_pos hname, if_pos hname, head?_beq_append_newline (by decide),
      head?_beq_append_newline (by decide)]
    split
    next hquoted =>
      obtain ⟨hhead, -⟩ := Bool.and_eq_true_iff.mp hquoted
      rcases Bool.or_eq_true_iff.mp hhead with hhead | hhead
      · exact hliteral _ (eq_of_beq hhead) (.inl rfl)
      · exact hliteral _ (eq_of_beq hhead) (.inr rfl)
    next =>
      cases wordKind ((c :: cs).takeWhile isNameChar) <;> rfl
  · rw [if_neg hname, if_neg hname, ← List.cons_append, find?_signs_append_newline]
    cases hfind : signs.find? (·.isPrefixOf (c :: cs)) with
    | none => rfl
    | some sign =>
      have hprefix := List.find?_some hfind
      have hle := (List.isPrefixOf_iff_prefix.mp hprefix).length_le
      show some (Lexeme.mk _ _ _) = some (Lexeme.mk _ _ _)
      rw [← List.drop_append_of_le_length hle]

/-! ### One step of the scanner -/

/-- Lines that are ended, or no line. -/
def Whole (cs : List Char) : Prop := cs.getLast?.all (· == '\n') = true

theorem Whole.behind (pre : List Char) {cs : List Char} (h : Whole (pre ++ cs)) : Whole cs := by
  unfold Whole at h ⊢
  rw [List.getLast?_append] at h
  cases hlast : cs.getLast? with
  | none => rfl
  | some c => simpa [hlast] using h

theorem Whole.getLast {cs : List Char} (h : Whole cs) (hcs : cs ≠ []) : cs.getLast hcs = '\n' := by
  simpa [Whole, List.getLast?_eq_some_getLast hcs] using h

theorem Whole.tail {c : Char} {cs : List Char} (h : Whole (c :: cs)) (hc : c ≠ '\n') :
    cs ≠ [] ∧ Whole cs := by
  refine ⟨?_, Whole.behind [c] h⟩
  rintro rfl
  exact hc (by simpa [Whole] using h)

/-- The text ends in a line that is joined to the next one. -/
def EndsJoined (cs : List Char) : Prop := ['\\', '\n'] <:+ cs

/-- What a text gives, and what it gives with one more line end behind it: the same apart from what
is left, or nothing. A text whose last line is joined to the next one may give something only then.
-/
inductive Extended {β : Type} (cs : List Char) (f : β → β) (P : β → Prop) :
    Option β → Option β → Prop
  | some (b : β) (h : P b) : Extended cs f P (some b) (some (f b))
  | none : Extended cs f P none none
  | joined (h : EndsJoined cs) (o : Option β) : Extended cs f P none o

theorem Extended.mono {β : Type} (pre : List Char) {cs : List Char} {f : β → β} {P : β → Prop}
    {o o' : Option β} (h : Extended cs f P o o') : Extended (pre ++ cs) f P o o' := by
  cases h with
  | some b hb => exact .some b hb
  | none => exact .none
  | joined hjoined => exact .joined (hjoined.trans (List.suffix_append _ _)) _

/-- A line that is ended has more in it than its indentation. -/
theorem measureIndent_append_newline (wide narrow joined : ℕ) {cs : List Char} (hcs : cs ≠ [])
    (hwhole : Whole cs) : Extended cs ended (·.2 ≠ []) (measureIndent wide narrow joined cs)
      (measureIndent wide narrow joined (cs ++ ['\n'])) := by
  induction wide, narrow, joined, cs using measureIndent.induct with
  | case1 => exact absurd rfl hcs
  | case2 wide narrow joined cs ih | case3 wide narrow joined cs ih | case4 wide narrow joined cs ih =>
    obtain ⟨hne, htail⟩ := hwhole.tail (by decide)
    exact (ih hne htail).mono [_]
  | case5 wide narrow joined cs hempty =>
    obtain rfl := List.isEmpty_iff.mp hempty
    exact .joined (List.suffix_refl _) _
  | case6 wide narrow joined cs hempty ih =>
    have hne : cs ≠ [] := fun h => hempty (List.isEmpty_iff.mpr h)
    have hne' : ¬(cs ++ ['\n']).isEmpty = true := by simp
    rw [List.cons_append, List.cons_append, measureIndent, measureIndent, if_neg hempty, if_neg hne']
    exact (ih hne (Whole.behind ['\\', '\n'] hwhole)).mono ['\\', '\n']
  | case7 wide narrow joined c cs h₁ h₂ h₃ h₄ hc =>
    obtain ⟨hne, -⟩ := hwhole.tail (by rintro rfl; cases hc)
    have h₄' : ∀ r, c = '\\' → cs ++ ['\n'] = '\n' :: r → False := fun r hback hr => by
      obtain ⟨d, cs, rfl⟩ := List.exists_cons_of_ne_nil hne
      exact h₄ cs hback (by rw [(List.cons.inj hr).1])
    rw [List.cons_append, measureIndent.eq_6 _ _ _ _ _ h₁ h₂ h₃ h₄', if_pos hc,
      measureIndent.eq_6 _ _ _ _ _ h₁ h₂ h₃ h₄, if_pos hc]
    exact .none
  | case8 wide narrow joined c cs h₁ h₂ h₃ h₄ hc =>
    have h₄' : ∀ r, c = '\\' → cs ++ ['\n'] = '\n' :: r → False := fun r hback _ =>
      hc (beq_iff_eq.mpr hback)
    rw [List.cons_append, measureIndent.eq_6 _ _ _ _ _ h₁ h₂ h₃ h₄', if_neg hc,
      measureIndent.eq_6 _ _ _ _ _ h₁ h₂ h₃ h₄, if_neg hc]
    exact .some _ (List.cons_ne_nil _ _)

/-- How much of a text is left for a scanner. -/
def Scan.size (s : Scan) (cs : List Char) : ℕ := 2 * cs.length + if s.atLineStart then 1 else 0

/-- What a step of the scanner leaves of a text: less than there was, and nothing only if the line
is over or a bracket is open. -/
structure Passes (s : Scan) (cs : List Char) (next : Scan) (rest : List Char) : Prop where
  piece : ∃ pre, cs = pre ++ rest
  less : next.size rest < s.size cs
  ends : rest = [] → next.atLineStart = true ∨ next.brackets ≠ []

theorem Passes.of_cons {s next : Scan} {c : Char} (pre : List Char) {rest : List Char}
    (hends : rest = [] → next.atLineStart = true ∨ next.brackets ≠ []) :
    Passes s (c :: pre ++ rest) next rest := by
  refine ⟨⟨c :: pre, rfl⟩, ?_, hends⟩
  simp only [Scan.size, List.length_append, List.length_cons]
  split <;> split <;> omega

/-- The text behind a comment starts with the end of its line. -/
theorem exists_drop_restOfLine {cs : List Char} (hcs : cs ≠ []) (hwhole : Whole cs) :
    ∃ rest, cs = restOfLine cs ++ '\n' :: rest ∧ cs.drop (restOfLine cs).length = '\n' :: rest := by
  have hsplit := restOfLine_append_drop cs
  have hhead := List.head?_dropWhile_not (· != '\n') cs
  rw [drop_restOfLine] at hsplit ⊢
  cases hrest : cs.dropWhile (· != '\n') with
  | nil =>
    -- the last character would not be the end of a line
    have hlast := List.getLast_mem hcs
    have hall := List.dropWhile_eq_nil_iff.mp hrest _ hlast
    rw [hwhole.getLast hcs] at hall
    cases hall
  | cons c rest =>
    rw [hrest] at hsplit hhead
    obtain rfl : c = '\n' := by simpa using hhead
    exact ⟨rest, hsplit.symm, rfl⟩

theorem restOfLine_append_newline (cs : List Char) : restOfLine (cs ++ ['\n']) = restOfLine cs :=
  (takeWhile_append_newline rfl cs).1

/-- A token takes some of the text, but not the end of the last line. -/
theorem Lexed.passes {s next : Scan} {c : Char} {cs : List Char} {lexeme : Lexeme}
    (h : Lexed (c :: cs) lexeme) (hwhole : Whole (c :: cs)) :
    Passes s (c :: cs) next lexeme.rest := by
  have hpiece := h.piece
  obtain ⟨d, chars, hchars⟩ := List.exists_cons_of_ne_nil h.nonempty
  have hrest : lexeme.rest ≠ [] := fun hnil => by
    obtain ⟨pre, d, tail, hsplit, hd, hcount⟩ := h.stop
    rw [hnil, List.append_nil] at hpiece
    rw [← hpiece, hsplit, List.count_append] at hcount
    have hlast : '\n' ∈ d :: tail := by
      have htail := Whole.behind pre (hsplit ▸ hwhole)
      exact htail.getLast (List.cons_ne_nil d tail) ▸ List.getLast_mem (List.cons_ne_nil d tail)
    have := List.count_pos_iff.mpr hlast
    omega
  rw [hchars] at hpiece
  rw [hpiece]
  exact .of_cons chars fun hnil => absurd hnil hrest

/-- A line end is behind what a step of the scanner leaves. -/
def passOn (p : List Token × Scan × List Char) : List Token × Scan × List Char :=
  (p.1, p.2.1, p.2.2 ++ ['\n'])

theorem lineStart_append_newline {s : Scan} {cs : List Char} (hcs : cs ≠ []) (hwhole : Whole cs)
    (hstart : (s.atLineStart && s.brackets.isEmpty) = true) :
    Extended cs passOn (fun p => Passes s cs p.2.1 p.2.2) (scanStep s cs)
      (scanStep s (cs ++ ['\n'])) := by
  have hindent := measureIndent_append_newline 0 0 0 hcs hwhole
  have hat : s.atLineStart = true := (Bool.and_eq_true_iff.mp hstart).1
  unfold scanStep
  rw [if_pos hstart, if_pos hstart]
  generalize hmeasure : measureIndent 0 0 0 cs = o at hindent ⊢
  generalize measureIndent 0 0 0 (cs ++ ['\n']) = o' at hindent ⊢
  cases hindent with
  | none => exact .none
  | joined h => exact .joined h _
  | some b hb =>
    obtain ⟨i, rest⟩ := b
    obtain ⟨pre, rfl⟩ := exists_of_measureIndent hmeasure
    have htake : (pre ++ rest).take ((pre ++ rest).length - rest.length) = pre := by
      rw [List.length_append, Nat.add_sub_cancel, List.take_left]
    have htake' : (pre ++ rest ++ ['\n']).take
        ((pre ++ rest ++ ['\n']).length - (rest ++ ['\n']).length) = pre := by
      rw [List.append_assoc, List.length_append, Nat.add_sub_cancel, List.take_left]
    simp only [ended, Option.bind_eq_bind, Option.bind_some, htake, htake']
    split
    next after =>
      refine .some (_, _, after) ⟨⟨pre ++ ['\n'], by simp⟩, ?_, fun _ => .inl hat⟩
      simp only [Scan.size, List.length_append, List.length_cons]
      omega
    next after =>
      obtain ⟨tail, hsplit, hdrop⟩ := exists_drop_restOfLine hb (Whole.behind pre hwhole)
      have hle : (restOfLine ('#' :: after)).length ≤ ('#' :: after).length :=
        (List.takeWhile_prefix _).length_le
      have hcomment : restOfLine ('#' :: (after ++ ['\n'])) = restOfLine ('#' :: after) :=
        restOfLine_append_newline ('#' :: after)
      have hdrop' : ('#' :: (after ++ ['\n'])).drop (restOfLine ('#' :: after)).length =
          '\n' :: (tail ++ ['\n']) := by
        rw [← List.cons_append, List.drop_append_of_le_length hle, hdrop, List.cons_append]
      have hlength := congrArg List.length hsplit
      simp only [List.cons_append, hcomment, hdrop, hdrop', List.drop_succ_cons, List.drop_zero]
      refine .some (_, _, tail) ⟨⟨pre ++ (restOfLine ('#' :: after) ++ ['\n']), ?_⟩, ?_,
        fun _ => .inl hat⟩
      · simpa using hsplit
      · simp only [List.length_append, List.length_cons] at hlength
        simp only [Scan.size, List.length_append, List.length_cons]
        omega
    next hnewline hcomment =>
      obtain ⟨c, rest, rfl⟩ := List.exists_cons_of_ne_nil hb
      have hc : c ≠ '\n' ∧ c ≠ '#' :=
        ⟨fun h => hnewline rest (h ▸ rfl), fun h => hcomment rest (h ▸ rfl)⟩
      split
      next heq => exact absurd (List.cons.inj heq).1 hc.1
      next heq => exact absurd (List.cons.inj heq).1 hc.2
      next =>
        cases hblocks : changeBlocks i s.blocks with
        | none => exact .none
        | some p =>
          refine .some (_, _, c :: rest) ⟨⟨pre, rfl⟩, ?_, fun h => absurd h (List.cons_ne_nil _ _)⟩
          simp only [Scan.size, List.length_append, List.length_cons, hat]
          simp only [Bool.false_eq_true, if_false, if_true]
          omega

theorem inLine_append_newline {s : Scan} {cs : List Char} (hcs : cs ≠ []) (hwhole : Whole cs)
    (hstart : ¬(s.atLineStart && s.brackets.isEmpty) = true) :
    Extended cs passOn (fun p => Passes s cs p.2.1 p.2.2) (scanStep s cs)
      (scanStep s (cs ++ ['\n'])) := by
  unfold scanStep
  rw [if_neg hstart, if_neg hstart]
  obtain ⟨c, cs, rfl⟩ := List.exists_cons_of_ne_nil hcs
  rw [List.cons_append]
  dsimp only
  by_cases hblank : (c == ' ' || c == '\t' || c == '\x0c') = true
  · rw [if_pos hblank, if_pos hblank]
    refine .some (_, _, cs) (.of_cons [] fun h => ?_)
    refine absurd h (hwhole.tail ?_).1
    rintro rfl
    cases hblank
  rw [if_neg hblank, if_neg hblank]
  by_cases hcomment : (c == '#') = true
  · rw [if_pos hcomment, if_pos hcomment]
    obtain rfl := eq_of_beq hcomment
    obtain ⟨rest, hsplit, hdrop⟩ := exists_drop_restOfLine hcs hwhole
    have hle : (restOfLine ('#' :: cs)).length ≤ ('#' :: cs).length :=
      (List.takeWhile_prefix _).length_le
    rw [← List.cons_append, restOfLine_append_newline, List.drop_append_of_le_length hle, hdrop]
    have hpasses : Passes s ('#' :: cs) { s with place := s.place.after (restOfLine ('#' :: cs)) }
        ('\n' :: rest) := by
      have hfirst : restOfLine ('#' :: cs) = '#' :: restOfLine cs := rfl
      rw [hfirst] at hsplit
      nth_rewrite 1 [hsplit]
      exact .of_cons _ fun h => absurd h (List.cons_ne_nil _ _)
    exact .some (_, _, '\n' :: rest) hpasses
  rw [if_neg hcomment, if_neg hcomment]
  by_cases hnewline : (c == '\n') = true
  · rw [if_pos hnewline, if_pos hnewline]
    split
    next hbrackets =>
      exact .some (_, _, cs) (.of_cons [] fun _ => .inl rfl)
    next hbrackets =>
      exact .some (_, _, cs) (.of_cons [] fun _ => .inr (by simpa using hbrackets))
  rw [if_neg hnewline, if_neg hnewline]
  obtain ⟨hne, htail⟩ := hwhole.tail (by simpa using hnewline)
  by_cases hback : (c == '\\') = true
  · rw [if_pos hback, if_pos hback]
    obtain rfl := eq_of_beq hback
    obtain ⟨d, cs, rfl⟩ := List.exists_cons_of_ne_nil hne
    by_cases hd : d = '\n'
    · subst hd
      by_cases hafter : cs = []
      · subst hafter
        exact .joined (List.suffix_refl _) _
      · have hempty : ¬cs.isEmpty = true := fun h => hafter (List.isEmpty_iff.mp h)
        have hempty' : ¬(cs ++ ['\n']).isEmpty = true := by simp
        simp only [List.cons_append]
        rw [if_neg hempty, if_neg hempty']
        exact .some (_, _, cs) (.of_cons ['\n'] fun h => absurd h hafter)
    · simp only [List.cons_append]
      split
      next heq => exact absurd (List.cons.inj heq).1 hd
      next =>
        split
        next heq => exact absurd (List.cons.inj heq).1 hd
        next => exact .none
  · rw [if_neg hback, if_neg hback, ← List.cons_append, scanLexeme_append_newline]
    cases hlexeme : scanLexeme (c :: cs) with
    | none => exact .none
    | some lexeme =>
      have hlexed := exists_of_scanLexeme (by simpa using hnewline) hlexeme
      simp only [Option.map_some, Lexeme.ended, Option.bind_eq_bind, Option.bind_some]
      cases changeBrackets s.brackets lexeme.kind with
      | none => exact .none
      | some brackets => exact .some (_, _, lexeme.rest) (hlexed.passes hwhole)

/-- **One step of the scanner** takes the same from a text with one more line end. -/
theorem scanStep_append_newline (s : Scan) {cs : List Char} (hcs : cs ≠ []) (hwhole : Whole cs) :
    Extended cs passOn (fun p => Passes s cs p.2.1 p.2.2) (scanStep s cs)
      (scanStep s (cs ++ ['\n'])) := by
  by_cases hstart : (s.atLineStart && s.brackets.isEmpty) = true
  · exact lineStart_append_newline hcs hwhole hstart
  · exact inLine_append_newline hcs hwhole hstart

/-! ### All tokens -/

/-- The first of two texts has the same tokens as the second one, apart from the places of those
that mark the end, and it is at fault if the second one is. The other way round, `P` may be to
blame. -/
structure Similar (P : Prop) (scanned scanned' : Scanned) : Prop where
  forth : scanned.isComplete = true → scanned'.isComplete = true ∧
    scanned.tokens.map Token.unplaced = scanned'.tokens.map Token.unplaced
  back : scanned'.isComplete = true → scanned.isComplete = true ∨ P

theorem Similar.of_faulty {P : Prop} {scanned scanned' : Scanned}
    (h : scanned.isComplete = false) (h' : scanned'.isComplete = true → P) :
    Similar P scanned scanned' :=
  ⟨fun hcomplete => by simp [h] at hcomplete, fun hcomplete => .inr (h' hcomplete)⟩

theorem scanFrom_nil_of_brackets {fuel : ℕ} {s : Scan} (h : s.brackets ≠ []) :
    (scanFrom fuel s []).isComplete = false := by
  have hempty : ¬s.brackets.isEmpty = true := by simpa using h
  have hstep : scanStep s [] = none := by simp [scanStep, hempty]
  cases fuel with
  | zero => rfl
  | succ fuel =>
    rw [scanFrom, hstep, if_neg hempty]
    split <;> rfl

/-- At the end of a text that is over, one more line end is a blank line. -/
theorem similar_nil {P : Prop} {fuel : ℕ} {s : Scan}
    (hends : s.atLineStart = true ∨ s.brackets ≠ []) :
    Similar P (scanFrom (fuel + 1) s []) (scanFrom (fuel + 3) s ['\n']) := by
  by_cases hbrackets : s.brackets = []
  · have hat := hends.resolve_right fun h => h hbrackets
    have hstep : scanStep s ['\n'] = some ([], { s with place := s.place.afterChar '\n' }, []) := by
      simp [scanStep, hat, hbrackets, measureIndent, Position.after]
    have hend (fuel : ℕ) (p : Position) : scanFrom (fuel + 1) { s with place := p } [] =
        ⟨List.replicate (s.blocks.length - 1) (layoutToken p .dedent) ++ [layoutToken p .endOfText],
          true⟩ := by
      rw [scanFrom, if_pos (by simp [hat]), if_pos (by simp [hbrackets])]
    have hmore : scanFrom (fuel + 3) s ['\n'] =
        scanFrom (fuel + 2) { s with place := s.place.afterChar '\n' } [] := by
      rw [scanFrom, if_neg (by simp), hstep]
      rfl
    rw [hmore, hend, hend (fuel + 1)]
    exact ⟨fun _ => ⟨rfl, by simp [layoutToken, Token.unplaced, isVisible]⟩, fun _ => .inl rfl⟩
  · have hempty : ¬s.brackets.isEmpty = true := by simpa using hbrackets
    have hstep : scanStep s ['\n'] = some ([], { s with place := s.place.afterChar '\n' }, []) := by
      simp [scanStep, hempty]
    have hfaulty : (scanFrom (fuel + 3) s ['\n']).isComplete = false := by
      rw [scanFrom, if_neg (by simp), hstep]
      exact scanFrom_nil_of_brackets hbrackets
    exact .of_faulty (scanFrom_nil_of_brackets hbrackets) fun h => by simp [hfaulty] at h

theorem scanFrom_append_newline {fuel : ℕ} {s : Scan} {cs : List Char} (hfuel : s.size cs < fuel)
    (hwhole : Whole cs) (hends : cs = [] → s.atLineStart = true ∨ s.brackets ≠ []) :
    Similar (EndsJoined cs) (scanFrom fuel s cs) (scanFrom (fuel + 2) s (cs ++ ['\n'])) := by
  induction fuel generalizing s cs with
  | zero => omega
  | succ fuel ih =>
    by_cases hcs : cs = []
    · subst hcs
      exact similar_nil (hends rfl)
    have hempty : ¬(cs.isEmpty && s.atLineStart) = true := by simp [hcs]
    have hempty' : ¬((cs ++ ['\n']).isEmpty && s.atLineStart) = true := by simp
    rw [scanFrom, scanFrom, if_neg hempty, if_neg hempty']
    have hstep := scanStep_append_newline s hcs hwhole
    generalize scanStep s cs = o at hstep ⊢
    generalize scanStep s (cs ++ ['\n']) = o' at hstep ⊢
    cases hstep with
    | none => exact .of_faulty rfl fun h => by cases h
    | joined hjoined => exact .of_faulty rfl fun _ => hjoined
    | some b hb =>
      obtain ⟨tokens, next, rest⟩ := b
      have hpasses : Passes s cs next rest := hb
      obtain ⟨⟨pre, rfl⟩, hless, hrest⟩ := hpasses
      have hsimilar := @ih next rest (by omega) (Whole.behind pre hwhole) hrest
      refine ⟨fun h => ?_, fun h => ?_⟩
      · obtain ⟨hcomplete, htokens⟩ := hsimilar.forth h
        exact ⟨hcomplete, by simp [passOn, htokens]⟩
      · exact (hsimilar.back h).imp_right fun hjoined => hjoined.trans (List.suffix_append _ _)

/-- **One more line end at the end of a text** changes nothing but the places of the tokens that
mark the end, unless the last line is joined to the next one. -/
theorem scanPrepared_append_newline {cs : List Char} (hwhole : Whole cs) :
    Similar (EndsJoined cs) (scanPrepared cs) (scanPrepared (cs ++ ['\n'])) := by
  have hsize : 2 * (cs ++ ['\n']).length + 2 = 2 * cs.length + 2 + 2 := by
    simp only [List.length_append, List.length_singleton]
    omega
  rw [scanPrepared, scanPrepared, hsize]
  exact scanFrom_append_newline (by simp [Scan.size, Scan.initial]) hwhole fun _ => .inl rfl

end Token

end ServiceStubs
