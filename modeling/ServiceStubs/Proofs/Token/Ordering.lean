import ServiceStubs.Proofs.Text.Literal
import ServiceStubs.Token.Scanner

/-!
# Where the tokens of a text stand

Tokens stand one behind the other, from the first line of the text to its last one. Behind the end
of a line, the next token stands further down. White space at the end of the text adds no line that
a token could stand on, so all of them stand on lines that the text has when it is cut into lines.

The scanner knows its own place and the text that is left. What is kept along its steps is that no
character is left that stands behind the last line, other than ends of lines (`Token.Room`).

## Main definitions

* `Token.InOrder`: tokens that stand one behind the other, up to some line
* `Token.Room`: the lines that are left for a text

## Main statements

* `Token.exists_of_scanLexeme`: one token is a piece of the text that does not end in a line end
* `Token.step_of_scanStep`: one step of the scanner
* `Token.inOrder_scanAll`, `Token.inOrder_scanAll_of_comment`: the tokens of a text
-/

namespace ServiceStubs

namespace Token

/-! ### Tokens in order -/

/-- Tokens that stand one behind the other, on the line `line` or further down, up to the line `n`.
If `fresh`, the line `line` is over. -/
def InOrder (n : ℕ) : Bool → ℕ → List Token → Prop
  | _, _, [] => True
  | fresh, line, t :: ts =>
    if t.isVisible then
      line ≤ t.span.start.line ∧ (fresh = true → line < t.span.start.line) ∧
        t.span.start.line ≤ t.span.endLine ∧ t.span.endLine ≤ n ∧ InOrder n false t.span.endLine ts
    else InOrder n (fresh || t.kind == .newline) line ts

variable {n line : ℕ} {fresh : Bool} {ts : List Token}

/-- What stands on later lines stands there if the line is not over, too. -/
theorem InOrder.relax (h : InOrder n true line ts) (fresh : Bool) : InOrder n fresh line ts := by
  induction ts generalizing fresh with
  | nil => trivial
  | cons t ts ih =>
    simp only [InOrder] at h ⊢
    split at h
    · rw [if_pos ‹_›]
      exact ⟨h.1, fun _ => h.2.1 trivial, h.2.2⟩
    · rw [if_neg ‹_›]
      exact ih h _

/-- Changes of the indentation make no difference. -/
theorem InOrder.append_layout {layout : List Token} (h : InOrder n fresh line ts)
    (hlayout : ∀ t ∈ layout, t.isVisible = false ∧ t.kind ≠ .newline) :
    InOrder n fresh line (layout ++ ts) := by
  induction layout with
  | nil => exact h
  | cons t layout ih =>
    obtain ⟨⟨hvisible, hkind⟩, hlayout⟩ := List.forall_mem_cons.mp hlayout
    have hnot : (t.kind == .newline) = false := beq_eq_false_iff_ne.mpr hkind
    rw [List.cons_append, InOrder, hvisible, hnot, Bool.or_false]
    exact ih hlayout

/-! ### Lines and ends of lines -/

theorem line_afterChar (p : Position) (c : Char) :
    (p.afterChar c).line = p.line + [c].count '\n' := by
  unfold Position.afterChar
  split <;> simp_all

/-- The place behind a stretch of text is as many lines down as lines end in it. -/
theorem line_after (p : Position) (cs : List Char) :
    (p.after cs).line = p.line + cs.count '\n' := by
  induction cs generalizing p with
  | nil => rfl
  | cons c cs ih =>
    show ((p.afterChar c).after cs).line = _
    have hcount : ([c] ++ cs).count '\n' = [c].count '\n' + cs.count '\n' := List.count_append
    rw [List.singleton_append] at hcount
    rw [ih, line_afterChar, hcount, Nat.add_assoc]

/-- If the text starts on the line `line`, no character of it but ends of lines stands behind the
line `n`. -/
def Room (n line : ℕ) (cs : List Char) : Prop :=
  ∀ pre c rest, cs = pre ++ c :: rest → c ≠ '\n' → line + pre.count '\n' ≤ n

theorem room_nil : Room n line [] := by
  intro pre c rest h
  simp at h

theorem Room.behind {chars rest : List Char} (h : Room n line (chars ++ rest)) :
    Room n (line + chars.count '\n') rest := by
  rintro pre c tail rfl hc
  have := h (chars ++ pre) c tail (by simp) hc
  rwa [List.count_append, ← Nat.add_assoc] at this

/-- The text that is left when some characters are passed. -/
theorem Room.after {p : Position} {chars rest : List Char} (h : Room n p.line (chars ++ rest)) :
    Room n (p.after chars).line rest := by
  rw [line_after]
  exact h.behind

/-- One more line in front of a text is one more line for it. -/
theorem Room.cons_newline {cs : List Char} (h : Room n line cs) :
    Room (n + 1) line ('\n' :: cs) := by
  intro pre c rest hcs hc
  cases pre with
  | nil => exact absurd (List.cons.inj hcs).1.symm hc
  | cons d pre =>
    obtain ⟨rfl, hrest⟩ := List.cons.inj hcs
    have := h pre c rest hrest hc
    simp only [List.count_cons_self]
    omega

theorem Room.cons {cs : List Char} {d : Char} (h : Room n line cs) (hd : d ≠ '\n')
    (hline : line ≤ n) : Room n line (d :: cs) := by
  intro pre c rest hcs hc
  cases pre with
  | nil => simpa using hline
  | cons d' pre =>
    obtain ⟨rfl, hrest⟩ := List.cons.inj hcs
    rw [List.count_cons_of_ne hd]
    exact h pre c rest hrest hc

theorem Room.mono {m : ℕ} {cs : List Char} (h : Room m line cs) (hmn : m ≤ n) : Room n line cs :=
  fun pre c rest hcs hc => Nat.le_trans (h pre c rest hcs hc) hmn

/-- Ends of lines at the end of a text make no difference. -/
theorem Room.append_newline {cs : List Char} (h : Room n line cs) : Room n line (cs ++ ['\n']) := by
  intro pre c rest hcs hc
  rcases List.eq_nil_or_concat rest with rfl | ⟨init, last, rfl⟩
  · have hlast := (List.append_inj' hcs (by simp)).2
    exact absurd (List.cons.inj hlast).1.symm hc
  · have hinit : cs = pre ++ c :: init := by
      have : cs ++ ['\n'] = (pre ++ c :: init) ++ [last] := by simpa using hcs
      exact (List.append_inj' this (by simp)).1
    exact h pre c init hinit hc

/-! ### Literals -/

theorem eq_append_of_scanQuoted {quote : Char} {cs body r : List Char}
    (h : scanQuoted quote cs = some (body, r)) : cs = body ++ quote :: r := by
  induction cs using scanQuoted.induct quote generalizing body r with
  | case1 => simp [scanQuoted] at h
  | case2 c rest ih =>
    simp only [scanQuoted, Option.map_eq_some_iff] at h
    obtain ⟨⟨body', r'⟩, hrest, heq⟩ := h
    obtain ⟨rfl, rfl⟩ := Prod.mk.inj heq
    rw [ih hrest]
    simp
  | case3 c rest hnot hquote =>
    rw [scanQuoted.eq_3 _ _ _ hnot, if_pos hquote] at h
    obtain ⟨rfl, rfl⟩ := Prod.mk.inj (Option.some.inj h)
    rw [List.nil_append, eq_of_beq hquote]
  | case4 c rest hnot hquote hnewline =>
    rw [scanQuoted.eq_3 _ _ _ hnot, if_neg hquote, if_pos hnewline] at h
    cases h
  | case5 c rest hnot hquote hnewline ih =>
    rw [scanQuoted.eq_3 _ _ _ hnot, if_neg hquote, if_neg hnewline, Option.map_eq_some_iff] at h
    obtain ⟨⟨body', r'⟩, hrest, heq⟩ := h
    obtain ⟨rfl, rfl⟩ := Prod.mk.inj heq
    rw [ih hrest, List.cons_append]

theorem eq_append_of_scanTripled {quote : Char} {cs body r : List Char}
    (h : scanTripled quote cs = some (body, r)) :
    cs = body ++ quote :: quote :: quote :: r := by
  induction cs using scanTripled.induct quote generalizing body r with
  | case1 => simp [scanTripled] at h
  | case2 c rest ih =>
    simp only [scanTripled, Option.map_eq_some_iff] at h
    obtain ⟨⟨body', r'⟩, hrest, heq⟩ := h
    obtain ⟨rfl, rfl⟩ := Prod.mk.inj heq
    rw [ih hrest]
    simp
  | case3 c rest hnot hquote =>
    rw [scanTripled.eq_3 _ _ _ hnot, if_pos hquote] at h
    obtain ⟨rfl, rfl⟩ := Prod.mk.inj (Option.some.inj h)
    obtain ⟨hc, hprefix⟩ := Bool.and_eq_true_iff.mp hquote
    obtain ⟨tail, htail⟩ := List.isPrefixOf_iff_prefix.mp hprefix
    rw [List.nil_append, eq_of_beq hc, ← htail]
    rfl
  | case4 c rest hnot hquote ih =>
    rw [scanTripled.eq_3 _ _ _ hnot, if_neg hquote, Option.map_eq_some_iff] at h
    obtain ⟨⟨body', r'⟩, hrest, heq⟩ := h
    obtain ⟨rfl, rfl⟩ := Prod.mk.inj heq
    rw [ih hrest, List.cons_append]

/-- A literal is a piece of the text, which ends in the quote that it starts with. -/
theorem exists_of_scanString {quote : Char} {cs body chars r : List Char}
    (h : scanString (quote :: cs) = some (body, chars, r)) :
    ∃ pre, chars = pre ++ [quote] ∧ quote :: cs = chars ++ r := by
  unfold scanString at h
  dsimp only at h
  split at h
  · next hprefix =>
    obtain ⟨⟨body', r'⟩, hscan, heq⟩ := Option.map_eq_some_iff.mp h
    obtain ⟨rfl, rfl, rfl⟩ : body' = body ∧ _ ∧ r' = r := by simpa using heq
    obtain ⟨tail, rfl⟩ := List.isPrefixOf_iff_prefix.mp hprefix
    have htail : tail = body' ++ quote :: quote :: quote :: r' := eq_append_of_scanTripled hscan
    exact ⟨[quote, quote, quote] ++ body' ++ [quote, quote], by simp, by simp [htail]⟩
  · obtain ⟨⟨body', r'⟩, hscan, heq⟩ := Option.map_eq_some_iff.mp h
    obtain ⟨rfl, rfl, rfl⟩ : body' = body ∧ _ ∧ r' = r := by simpa using heq
    exact ⟨quote :: body', by simp, by simp [eq_append_of_scanQuoted hscan]⟩

/-! ### Numbers -/

/-- The second text is what is left of the first one behind some characters, and no line ends among
those. -/
def Skips (cs r : List Char) : Prop := ∃ pre, cs = pre ++ r ∧ '\n' ∉ pre

theorem Skips.refl (cs : List Char) : Skips cs cs := ⟨[], rfl, by simp⟩

theorem Skips.cons {c : Char} {cs r : List Char} (hc : c ≠ '\n') (h : Skips cs r) :
    Skips (c :: cs) r := by
  obtain ⟨pre, rfl, hpre⟩ := h
  exact ⟨c :: pre, rfl, by simp [hc.symm, hpre]⟩

theorem Skips.trans {cs mid r : List Char} (h : Skips cs mid) (h' : Skips mid r) : Skips cs r := by
  obtain ⟨pre, rfl, hpre⟩ := h
  obtain ⟨pre', rfl, hpre'⟩ := h'
  exact ⟨pre ++ pre', by simp, by simp [hpre, hpre']⟩

theorem ne_newline_of {c : Char} {p : Char → Bool} (hp : p '\n' = false) (h : p c = true) :
    c ≠ '\n' := by
  rintro rfl
  simp [hp] at h

theorem skips_digitRun {isDigit : Char → Bool} (hdigit : isDigit '\n' = false)
    {cs ds r : List Char} (h : digitRun isDigit cs = some (ds, r)) : Skips cs r := by
  induction cs generalizing ds r with
  | nil =>
    obtain ⟨-, rfl⟩ : [] = ds ∧ [] = r := by simpa [digitRun] using h
    exact .refl _
  | cons c rest ih =>
    rw [digitRun.eq_def] at h
    dsimp only at h
    split at h
    next hc =>
      obtain ⟨⟨ds', r'⟩, hrest, heq⟩ := Option.map_eq_some_iff.mp h
      obtain ⟨-, rfl⟩ := Prod.mk.inj heq
      exact (ih hrest).cons (ne_newline_of hdigit hc)
    next =>
      split at h
      next hc =>
        have hc : c ≠ '\n' := ne_newline_of (p := (· == '_')) rfl hc
        split at h
        · split at h
          · exact (ih h).cons hc
          · cases h
        · cases h
      next =>
        obtain ⟨-, rfl⟩ := Prod.mk.inj (Option.some.inj h)
        exact .refl _

theorem skips_scanBased {base : ℕ} {isDigit : Char → Bool} (hdigit : isDigit '\n' = false)
    {cs r : List Char} {value : Tree.Constant} (h : scanBased base isDigit cs = some (value, r)) :
    Skips cs r := by
  simp only [scanBased, Option.bind_eq_bind, Option.bind_eq_some_iff] at h
  obtain ⟨⟨ds, rest⟩, hrun, h⟩ := h
  split at h
  · cases h
  · obtain ⟨-, rfl⟩ := Prod.mk.inj (Option.some.inj h)
    exact skips_digitRun hdigit hrun

theorem isDigit_newline : Char.isDigit '\n' = false := rfl

theorem skips_scanExponent {cs r : List Char} {exponent : Option Int}
    (h : scanExponent cs = some (exponent, r)) : Skips cs r := by
  unfold scanExponent at h
  split at h
  next e rest =>
    split at h
    next he =>
      have he : e ≠ '\n' := ne_newline_of (p := fun e => e == 'e' || e == 'E') rfl he
      split at h
      next sign d tail =>
        split at h
        next hsign =>
          have hsign : sign ≠ '\n' := ne_newline_of (p := fun s => s == '+' || s == '-') rfl hsign
          split at h
          next =>
            obtain ⟨⟨ds, r'⟩, hrun, heq⟩ := Option.map_eq_some_iff.mp h
            obtain ⟨-, rfl⟩ := Prod.mk.inj heq
            exact ((skips_digitRun isDigit_newline hrun).cons hsign).cons he
          next => cases h
        next =>
          split at h
          next =>
            obtain ⟨⟨ds, r'⟩, hrun, heq⟩ := Option.map_eq_some_iff.mp h
            obtain ⟨-, rfl⟩ := Prod.mk.inj heq
            exact (skips_digitRun isDigit_newline hrun).cons he
          next =>
            obtain ⟨-, rfl⟩ := Prod.mk.inj (Option.some.inj h)
            exact .refl _
      next d =>
        split at h
        next hd =>
          obtain ⟨-, rfl⟩ := Prod.mk.inj (Option.some.inj h)
          exact ((Skips.refl []).cons (ne_newline_of isDigit_newline hd)).cons he
        next =>
          split at h
          · cases h
          · obtain ⟨-, rfl⟩ := Prod.mk.inj (Option.some.inj h)
            exact .refl _
      next =>
        obtain ⟨-, rfl⟩ := Prod.mk.inj (Option.some.inj h)
        exact .refl _
    next =>
      obtain ⟨-, rfl⟩ := Prod.mk.inj (Option.some.inj h)
      exact .refl _
  next =>
    obtain ⟨-, rfl⟩ := Prod.mk.inj (Option.some.inj h)
    exact .refl _

/-- What ends a decimal number is one of the letters for imaginary numbers or nothing. -/
theorem skips_decimalEnd {cs r : List Char} {value imaginary other : Tree.Constant}
    {ends : List Char → Bool} {isOther isFaulty : Bool} {whole : Tree.Constant}
    (h : (match cs with
      | c :: rest =>
        if c == 'j' || c == 'J' then if ends rest then some (imaginary, rest) else none
        else if !ends cs then none
        else if isOther then some (other, cs)
        else if isFaulty then none
        else some (whole, cs)
      | [] =>
        if isOther then some (other, [])
        else if isFaulty then none
        else some (whole, [])) = some (value, r)) : Skips cs r := by
  split at h
  next c rest =>
    split at h
    next hc =>
      split at h
      · obtain ⟨-, rfl⟩ := Prod.mk.inj (Option.some.inj h)
        exact (Skips.refl _).cons (ne_newline_of (p := fun c => c == 'j' || c == 'J') rfl hc)
      · cases h
    next =>
      repeat' split at h
      all_goals first
        | cases h; done
        | obtain ⟨-, rfl⟩ := Prod.mk.inj (Option.some.inj h)
          exact .refl _
  next =>
    repeat' split at h
    all_goals first
      | cases h; done
      | obtain ⟨-, rfl⟩ := Prod.mk.inj (Option.some.inj h)
        exact .refl _

theorem skips_scanDecimalTail {whole cs r : List Char} {hasPoint isZeroLed : Bool}
    {value : Tree.Constant} (h : scanDecimalTail whole hasPoint isZeroLed cs = some (value, r)) :
    Skips cs r := by
  unfold scanDecimalTail at h
  by_cases hpoint : (hasPoint && (cs.head?.map Char.isDigit).getD false) = true
  · rw [if_pos hpoint] at h
    simp only [Option.bind_eq_bind, Option.bind_eq_some_iff] at h
    obtain ⟨⟨fraction, rest⟩, hfraction, ⟨exponent, rest'⟩, hexponent, h⟩ := h
    exact (skips_digitRun isDigit_newline hfraction).trans
      ((skips_scanExponent hexponent).trans (skips_decimalEnd h))
  · rw [if_neg hpoint] at h
    simp only [Option.bind_eq_bind, Option.bind_eq_some_iff] at h
    obtain ⟨⟨fraction, rest⟩, hfraction, ⟨exponent, rest'⟩, hexponent, h⟩ := h
    obtain ⟨-, rfl⟩ := Prod.mk.inj (Option.some.inj hfraction)
    exact (skips_scanExponent hexponent).trans (skips_decimalEnd h)

theorem skips_scanDecimal {c : Char} {cs r : List Char} {value : Tree.Constant}
    (hc : c.isDigit = true) (h : scanDecimal (c :: cs) = some (value, r)) : Skips cs r := by
  simp only [scanDecimal, Option.bind_eq_bind, Option.bind_eq_some_iff] at h
  obtain ⟨⟨whole, rest⟩, hwhole, h⟩ := h
  rw [digitRun.eq_def] at hwhole
  dsimp only at hwhole
  rw [if_pos hc, Option.map_eq_some_iff] at hwhole
  obtain ⟨⟨digits, rest'⟩, hdigits, heq⟩ := hwhole
  obtain ⟨-, rfl⟩ := Prod.mk.inj heq
  refine (skips_digitRun isDigit_newline hdigits).trans ?_
  dsimp only at h
  split at h
  · exact (skips_scanDecimalTail h).cons (by decide)
  · exact skips_scanDecimalTail h

/-- No line ends inside a number, which starts with a digit or a point. -/
theorem skips_scanNumber {c : Char} {cs r : List Char} {value : Tree.Constant}
    (hc : c.isDigit = true ∨ c = '.') (h : scanNumber (c :: cs) = some (value, r)) :
    Skips cs r := by
  have hdecimal (h : scanDecimal (c :: cs) = some (value, r)) (hpoint : c ≠ '.') : Skips cs r :=
    skips_scanDecimal (hc.resolve_right hpoint) h
  by_cases hpoint : c = '.'
  · subst hpoint
    exact skips_scanDecimalTail h
  unfold scanNumber at h
  split at h
  next heq => exact absurd (List.cons.inj heq).1 hpoint
  next d rest heq =>
    obtain ⟨-, rfl⟩ := List.cons.inj heq
    have hbased {base : ℕ} {isDigit : Char → Bool} (mark : Char → Bool)
        (hmark : mark '\n' = false) (hd : mark d = true) (hdigit : isDigit '\n' = false)
        (h : scanBased base isDigit rest = some (value, r)) : Skips (d :: rest) r :=
      (skips_scanBased hdigit h).cons (ne_newline_of hmark hd)
    split at h
    next hd => exact hbased (fun d => d == 'x' || d == 'X') rfl hd rfl h
    next =>
      split at h
      next hd => exact hbased (fun d => d == 'o' || d == 'O') rfl hd rfl h
      next =>
        split at h
        next hd => exact hbased (fun d => d == 'b' || d == 'B') rfl hd rfl h
        next => exact hdecimal h hpoint
  next => exact hdecimal h hpoint

/-! ### One token -/

/-- What is known of a token at the start of a text. It is a piece of the text. As many lines end
in it as in front of some character that ends no line. -/
structure Lexed (cs : List Char) (lexeme : Lexeme) : Prop where
  visible : ∀ span, (Token.mk lexeme.kind span).isVisible = true
  piece : cs = lexeme.chars ++ lexeme.rest
  nonempty : lexeme.chars ≠ []
  stop : ∃ pre c rest, cs = pre ++ c :: rest ∧ c ≠ '\n' ∧
    pre.count '\n' = lexeme.chars.count '\n'

/-- A piece in which no line ends. -/
theorem Lexed.of_skips {c : Char} {cs chars rest : List Char} {kind : Kind}
    (hkind : ∀ span, (Token.mk kind span).isVisible = true) (hc : c ≠ '\n')
    (hpiece : c :: cs = chars ++ rest) (hnonempty : chars ≠ []) (hchars : '\n' ∉ chars) :
    Lexed (c :: cs) ⟨kind, chars, rest⟩ :=
  ⟨hkind, hpiece, hnonempty, [], c, cs, rfl, hc, by simp [List.count_eq_zero.mpr hchars]⟩

theorem isVisible_of_wordKind {word : List Char} {kind : Kind} (h : wordKind word = some kind)
    (span : Span) : (Token.mk kind span).isVisible = true := by
  unfold wordKind at h
  dsimp only at h
  split at h
  · rw [← Option.some.inj h]
    rfl
  · split at h
    · cases h
    · split at h
      · rw [← Option.some.inj h]
        rfl
      · cases h

/-- A literal, with its letters in front of it. -/
theorem lexed_literal (letters : List Char) (make : List Char → StringLiteral) {quote : Char}
    {after rest body chars r : List Char} (hafter : after = quote :: rest) (hquote : quote ≠ '\n')
    (h : scanString after = some (body, chars, r)) :
    Lexed (letters ++ after) ⟨.string (make body), letters ++ chars, r⟩ := by
  subst hafter
  obtain ⟨pre, rfl, hpiece⟩ := exists_of_scanString h
  refine ⟨fun _ => rfl, by simp [hpiece], by simp, letters ++ pre, quote, r, by simp [hpiece], hquote, ?_⟩
  simp [List.count_append, hquote]

theorem ne_nil_of_mem_signs : ∀ sign ∈ signs, sign ≠ [] := by decide +kernel

theorem newline_notMem_of_mem_signs : ∀ sign ∈ signs, '\n' ∉ sign := by decide +kernel

theorem exists_of_scanLexeme {c : Char} {cs : List Char} {lexeme : Lexeme} (hc : c ≠ '\n')
    (h : scanLexeme (c :: cs) = some lexeme) : Lexed (c :: cs) lexeme := by
  unfold scanLexeme at h
  dsimp only at h
  split at h
  next hquote =>
    simp only [Option.bind_eq_bind, Option.bind_eq_some_iff] at h
    obtain ⟨make, -, ⟨body, chars, r⟩, hscan, heq⟩ := h
    rw [← Option.some.inj heq]
    exact lexed_literal [] make rfl hc hscan
  next =>
    split at h
    next hnumber =>
      simp only [Option.bind_eq_bind, Option.bind_eq_some_iff] at h
      obtain ⟨⟨value, r⟩, hscan, heq⟩ := h
      have hfirst : c.isDigit = true ∨ c = '.' := by
        rcases Bool.or_eq_true_iff.mp hnumber with hdigit | hpoint
        · exact .inl hdigit
        · exact .inr (eq_of_beq (Bool.and_eq_true_iff.mp hpoint).1)
      obtain ⟨pre, rfl, hpre⟩ := skips_scanNumber hfirst hscan
      have htake : (c :: pre ++ r).take ((c :: pre ++ r).length - r.length) = c :: pre := by
        rw [List.length_append, Nat.add_sub_cancel, List.take_left]
      rw [← List.cons_append] at heq ⊢
      rw [← Option.some.inj heq, htake]
      exact .of_skips (fun _ => rfl) hc rfl (by simp) (by simp [hc.symm, hpre])
    next =>
      split at h
      next hname =>
        split at h
        next hquoted =>
          simp only [Option.bind_eq_bind, Option.bind_eq_some_iff] at h
          obtain ⟨make, -, ⟨body, chars, r⟩, hscan, heq⟩ := h
          have hsplit := List.takeWhile_append_dropWhile (p := isNameChar) (l := c :: cs)
          have hhead := (Bool.and_eq_true_iff.mp hquoted).1
          rw [Bool.or_eq_true, beq_iff_eq, beq_iff_eq] at hhead
          have hlexed : Lexed (c :: cs)
              ⟨.string (make body), (c :: cs).takeWhile isNameChar ++ chars, r⟩ := by
            rcases hhead with hhead | hhead
            all_goals
              obtain ⟨rest, hafter⟩ := List.head?_eq_some_iff.mp hhead
              have hlexed := lexed_literal ((c :: cs).takeWhile isNameChar) make hafter
                (by decide) hscan
              rwa [hsplit] at hlexed
          rw [← Option.some.inj heq]
          exact hlexed
        next =>
          obtain ⟨kind, hkind, heq⟩ := Option.map_eq_some_iff.mp h
          rw [← heq]
          refine .of_skips (isVisible_of_wordKind hkind) hc
            List.takeWhile_append_dropWhile.symm (by simp [hname])
            fun hmem => ?_
          exact absurd (List.mem_takeWhile_imp hmem) (by decide)
      next =>
        obtain ⟨sign, hsign, heq⟩ := Option.map_eq_some_iff.mp h
        rw [← heq]
        have hprefix := List.find?_some hsign
        obtain ⟨tail, htail⟩ := List.isPrefixOf_iff_prefix.mp hprefix
        have hmem := List.mem_of_find?_eq_some hsign
        refine .of_skips (fun _ => rfl) hc ?_ (ne_nil_of_mem_signs sign hmem)
          (newline_notMem_of_mem_signs sign hmem)
        rw [← htail, List.drop_left]

/-! ### One step of the scanner -/

theorem exists_of_measureIndent {wide narrow joined : ℕ} {cs rest : List Char} {i : Indent}
    (h : measureIndent wide narrow joined cs = some (i, rest)) : ∃ pre, cs = pre ++ rest := by
  induction wide, narrow, joined, cs using measureIndent.induct with
  | case1 =>
    obtain ⟨-, rfl⟩ : _ ∧ [] = rest := by simpa [measureIndent] using h
    exact ⟨[], rfl⟩
  | case2 wide narrow joined cs ih =>
    obtain ⟨pre, rfl⟩ := ih (by simpa only [measureIndent] using h)
    exact ⟨' ' :: pre, rfl⟩
  | case3 wide narrow joined cs ih =>
    obtain ⟨pre, rfl⟩ := ih (by simpa only [measureIndent] using h)
    exact ⟨'\t' :: pre, rfl⟩
  | case4 wide narrow joined cs ih =>
    obtain ⟨pre, rfl⟩ := ih (by simpa only [measureIndent] using h)
    exact ⟨'\x0c' :: pre, rfl⟩
  | case5 wide narrow joined cs hempty =>
    rw [measureIndent, if_pos hempty] at h
    cases h
  | case6 wide narrow joined cs hempty ih =>
    rw [measureIndent, if_neg hempty] at h
    obtain ⟨pre, rfl⟩ := ih h
    exact ⟨'\\' :: '\n' :: pre, rfl⟩
  | case7 wide narrow joined c cs h₁ h₂ h₃ h₄ hc =>
    rw [measureIndent.eq_6 _ _ _ _ _ h₁ h₂ h₃ h₄, if_pos hc] at h
    cases h
  | case8 wide narrow joined c cs h₁ h₂ h₃ h₄ hc =>
    rw [measureIndent.eq_6 _ _ _ _ _ h₁ h₂ h₃ h₄, if_neg hc] at h
    obtain ⟨-, rfl⟩ := Prod.mk.inj (Option.some.inj h)
    exact ⟨[], rfl⟩

/-- What one step of the scanner does: it moves on in the text, and adds changes of the indentation,
the end of a line, or one token that starts at the place of the scanner and ends at its next one. -/
structure Stepped (n : ℕ) (s : Scan) (tokens : List Token) (next : Scan) (rest : List Char) :
    Prop where
  line : s.place.line ≤ next.place.line
  room : Room n next.place.line rest
  tokens : (∀ t ∈ tokens, t.isVisible = false ∧ t.kind ≠ .newline) ∨
    (∃ p, tokens = [layoutToken p .newline] ∧ s.place.line < next.place.line) ∨
    ∃ kind, tokens = [⟨kind, ⟨s.place, next.place.line⟩⟩] ∧
      (∀ span, (Token.mk kind span).isVisible = true) ∧ next.place.line ≤ n

theorem line_le_after (p : Position) (cs : List Char) : p.line ≤ (p.after cs).line := by
  rw [line_after]
  omega

/-- A step that adds no token. -/
theorem Stepped.of_skip {s next : Scan} {chars rest : List Char}
    (hroom : Room n s.place.line (chars ++ rest)) (hnext : next.place = s.place.after chars) :
    Stepped n s [] next rest :=
  ⟨hnext ▸ line_le_after _ _, hnext ▸ hroom.after, .inl (by simp)⟩

theorem drop_restOfLine (cs : List Char) :
    cs.drop (restOfLine cs).length = cs.dropWhile (· != '\n') := by
  have hsplit := List.takeWhile_append_dropWhile (p := (· != '\n')) (l := cs)
  have hdrop : (cs.takeWhile (· != '\n') ++ cs.dropWhile (· != '\n')).drop
      (cs.takeWhile (· != '\n')).length = cs.dropWhile (· != '\n') := List.drop_left
  rwa [hsplit] at hdrop

theorem restOfLine_append_drop (cs : List Char) :
    restOfLine cs ++ cs.drop (restOfLine cs).length = cs := by
  rw [drop_restOfLine]
  exact List.takeWhile_append_dropWhile

/-- The text behind a comment, which takes the rest of its line. -/
theorem Room.behind_comment {cs : List Char} (h : Room n line cs) :
    Room n (line + 1) ((cs.drop (restOfLine cs).length).drop 1) := by
  have hsplit := restOfLine_append_drop cs
  have hhead := List.head?_dropWhile_not (· != '\n') cs
  rw [drop_restOfLine] at hsplit ⊢
  cases hrest : cs.dropWhile (· != '\n') with
  | nil => exact room_nil
  | cons c rest =>
    rw [hrest] at hsplit hhead
    obtain rfl : c = '\n' := by simpa using hhead
    have hcount : (restOfLine cs ++ ['\n']).count '\n' = 1 := by
      have hnone : (restOfLine cs).count '\n' = 0 :=
        List.count_eq_zero.mpr fun hmem => absurd (List.mem_takeWhile_imp hmem) (by decide)
      simp [List.count_append, hnone]
    rw [← hsplit, List.append_cons] at h
    have := h.behind
    rwa [hcount] at this

theorem isLayout_of_changeBlocks {i : Indent} {blocks open_ : List Indent} {kinds : List Kind}
    (h : changeBlocks i blocks = some (open_, kinds)) :
    ∀ kind ∈ kinds, kind = .indent ∨ kind = .dedent := by
  unfold changeBlocks at h
  split at h
  · cases h
  · split at h
    · split at h
      · obtain ⟨-, rfl⟩ := Prod.mk.inj (Option.some.inj h)
        simp
      · cases h
    · obtain ⟨⟨open', k⟩, -, heq⟩ := Option.map_eq_some_iff.mp h
      obtain ⟨-, rfl⟩ := Prod.mk.inj heq
      intro kind hkind
      exact .inr (List.eq_of_mem_replicate hkind)

/-- A step at the start of a line. -/
theorem stepped_lineStart {s next : Scan} {cs rest : List Char} {tokens : List Token}
    (hroom : Room n s.place.line cs) (hstart : (s.atLineStart && s.brackets.isEmpty) = true)
    (h : scanStep s cs = some (tokens, next, rest)) : Stepped n s tokens next rest := by
  unfold scanStep at h
  rw [if_pos hstart] at h
  simp only [Option.bind_eq_bind, Option.bind_eq_some_iff] at h
  obtain ⟨⟨i, behind⟩, hmeasure, h⟩ := h
  obtain ⟨pre, rfl⟩ := exists_of_measureIndent hmeasure
  have htake : (pre ++ behind).take ((pre ++ behind).length - behind.length) = pre := by
    rw [List.length_append, Nat.add_sub_cancel, List.take_left]
  dsimp only at h
  rw [htake] at h
  have hbehind := hroom.after
  split at h
  next after =>
    obtain ⟨rfl, rfl, rfl⟩ : [] = tokens ∧ _ = next ∧ after = rest := by simpa using h
    have hroom' : Room n s.place.line ((pre ++ ['\n']) ++ after) := by simpa using hroom
    refine .of_skip hroom' ?_
    simp [Position.after]
  next after =>
    obtain ⟨rfl, hnext⟩ := Prod.mk.inj (Option.some.inj h)
    obtain ⟨rfl, rfl⟩ := Prod.mk.inj hnext
    exact ⟨Nat.le_succ_of_le (line_le_after _ _), hbehind.behind_comment, .inl (by simp)⟩
  next =>
    simp only [Option.bind_eq_some_iff] at h
    obtain ⟨⟨blocks, kinds⟩, hblocks, h⟩ := h
    obtain ⟨rfl, rfl, rfl⟩ : _ = tokens ∧ _ = next ∧ behind = rest := by simpa using h
    refine ⟨line_le_after _ _, hbehind, .inl fun t ht => ?_⟩
    obtain ⟨kind, hkind, rfl⟩ := List.mem_map.mp ht
    rcases isLayout_of_changeBlocks hblocks kind hkind with rfl | rfl
    all_goals exact ⟨rfl, by simp [layoutToken]⟩

theorem stepped_inLine {s next : Scan} {cs rest : List Char} {tokens : List Token}
    (hroom : Room n s.place.line cs) (hstart : ¬(s.atLineStart && s.brackets.isEmpty) = true)
    (h : scanStep s cs = some (tokens, next, rest)) : Stepped n s tokens next rest := by
  unfold scanStep at h
  rw [if_neg hstart] at h
  split at h
  next => cases h
  next c cs =>
    dsimp only at h
    split at h
    next hblank =>
      obtain ⟨rfl, rfl, rfl⟩ : [] = tokens ∧ _ = next ∧ cs = rest := by simpa using h
      have hroom : Room n s.place.line ([c] ++ cs) := hroom
      exact .of_skip hroom rfl
    next =>
      split at h
      next hcomment =>
        obtain ⟨rfl, rfl, rfl⟩ : [] = tokens ∧ _ = next ∧ _ = rest := by simpa using h
        rw [← restOfLine_append_drop (c :: cs)] at hroom
        exact .of_skip hroom rfl
      next =>
        split at h
        next hnewline =>
          obtain rfl := eq_of_beq hnewline
          split at h
          next =>
            obtain ⟨rfl, rfl, rfl⟩ : _ = tokens ∧ _ = next ∧ cs = rest := by simpa using h
            have hroom : Room n s.place.line (['\n'] ++ cs) := hroom
            exact ⟨line_le_after _ ['\n'], hroom.after,
              .inr (.inl ⟨_, rfl, by simp [Position.afterChar]⟩)⟩
          next =>
            obtain ⟨rfl, rfl, rfl⟩ : [] = tokens ∧ _ = next ∧ cs = rest := by simpa using h
            have hroom : Room n s.place.line (['\n'] ++ cs) := hroom
            exact .of_skip hroom rfl
        next hnewline =>
          split at h
          next =>
            split at h
            next after =>
              split at h
              next => cases h
              next =>
                obtain ⟨rfl, rfl, rfl⟩ : [] = tokens ∧ _ = next ∧ after = rest := by
                  simpa using h
                have hroom : Room n s.place.line ([c, '\n'] ++ after) := hroom
                exact .of_skip hroom rfl
            next => cases h
          next =>
            simp only [Option.bind_eq_bind, Option.bind_eq_some_iff] at h
            obtain ⟨lexeme, hlexeme, brackets, hbrackets, h⟩ := h
            obtain ⟨rfl, rfl, rfl⟩ : _ = tokens ∧ _ = next ∧ lexeme.rest = rest := by
              simpa using h
            have hlexed := exists_of_scanLexeme (by simpa using hnewline) hlexeme
            obtain ⟨pre, d, tail, hpiece, hd, hcount⟩ := hlexed.stop
            refine ⟨line_le_after _ _, (hlexed.piece ▸ hroom).after,
              .inr (.inr ⟨lexeme.kind, rfl, hlexed.visible, ?_⟩)⟩
            rw [line_after, ← hcount]
            exact hroom pre d tail hpiece hd

/-! ### All tokens -/

/-- The tokens that are scanned from a place on, if all earlier tokens stand on the line `line` or
further up. -/
theorem inOrder_scanFrom {fuel : ℕ} {s : Scan} {cs : List Char} (hroom : Room n s.place.line cs)
    (hline : line ≤ s.place.line) (hfresh : fresh = true → line < s.place.line) :
    InOrder n fresh line (scanFrom fuel s cs).tokens := by
  induction fuel generalizing s cs line fresh with
  | zero => trivial
  | succ fuel ih =>
    rw [scanFrom]
    split
    · split
      · refine InOrder.append_layout (by trivial) fun t ht => ?_
        rw [List.eq_of_mem_replicate ht]
        exact ⟨rfl, by simp [layoutToken]⟩
      · trivial
    · split
      · trivial
      next tokens next rest hstep =>
        dsimp only
        have h : Stepped n s tokens next rest := by
          by_cases hstart : (s.atLineStart && s.brackets.isEmpty) = true
          · exact stepped_lineStart hroom hstart hstep
          · exact stepped_inLine hroom hstart hstep
        rcases h.tokens with hlayout | ⟨p, rfl, hlt⟩ | ⟨kind, rfl, hvisible, hn⟩
        · exact (ih h.room (Nat.le_trans hline h.line)
            fun hf => Nat.lt_of_lt_of_le (hfresh hf) h.line).append_layout hlayout
        · -- the line is over, and the scanner stands on the next one
          have hlater : line < next.place.line := Nat.lt_of_le_of_lt hline hlt
          have hrest : InOrder n true line (scanFrom fuel next rest).tokens :=
            ih h.room (Nat.le_of_lt hlater) fun _ => hlater
          rw [List.singleton_append, InOrder]
          show InOrder n (fresh || true) line _
          rwa [Bool.or_true]
        · rw [List.singleton_append, InOrder, hvisible, if_pos rfl]
          exact ⟨hline, hfresh, h.line, hn, ih h.room (Nat.le_refl _) (by simp)⟩

/-- Every character stands on one of the lines that the text is cut into. -/
theorem room_withLineFeeds (cs : List Char) :
    Room (Text.lines cs).length 1 (Text.withLineFeeds cs) := by
  induction cs using Text.withLineFeeds.induct with
  | case1 => exact room_nil
  | case2 rest ih =>
    rw [Text.withLineFeeds, Text.lines_cons_of_isBoundary (by decide), List.length_cons]
    exact ih.cons_newline
  | case3 c rest hnot ih =>
    rw [Text.withLineFeeds.eq_3 _ _ hnot]
    by_cases hboundary : Text.isBoundary c = true
    · have hsplit : ¬(c = '\r' ∧ rest.head? = some '\n') := by
        rintro ⟨hreturn, hhead⟩
        obtain ⟨tail, htail⟩ := List.head?_eq_some_iff.mp hhead
        exact hnot tail hreturn htail
      rw [Text.lines_cons_of_isBoundary hboundary, if_neg hsplit, List.length_cons]
      by_cases hfeed : (if c == '\r' then '\n' else c) = '\n'
      · rw [hfeed]
        exact ih.cons_newline
      · exact (ih.mono (Nat.le_succ _)).cons hfeed (Nat.le_add_left _ _)
    · have hplain : Text.isBoundary c = false := by simpa using hboundary
      have hne : c ≠ '\r' ∧ c ≠ '\n' := by
        constructor <;> rintro rfl <;> simp [Text.isBoundary] at hplain
      rw [if_neg (by simpa using hne.1), Text.lines_cons_of_not_isBoundary hplain]
      refine (ih.mono ?_).cons hne.2 ?_
      all_goals cases Text.lines rest <;> simp [Text.consLine]

theorem room_preparedText (source : List Char) :
    Room (Text.lines source).length 1 (preparedText source) := by
  have hends : Room (Text.lines source).length 1 (endLastLine (Text.withLineFeeds source)) := by
    unfold endLastLine
    split
    · exact room_withLineFeeds source
    · exact (room_withLineFeeds source).append_newline
  unfold preparedText
  dsimp only
  split
  · exact hends.append_newline
  · exact hends

/-- **The tokens of a text stand one behind the other** on the lines that the text is cut into. -/
theorem inOrder_scanAll (source : List Char) :
    InOrder (Text.lines source).length true 0 (scanAll source).tokens :=
  inOrder_scanFrom (room_preparedText source) (Nat.zero_le 1) fun _ => Nat.zero_lt_one

theorem exists_preparedText_comment (rest : List Char) :
    ∃ tail, preparedText ('#' :: rest) = '#' :: tail := by
  have hfeeds : Text.withLineFeeds ('#' :: rest) = '#' :: Text.withLineFeeds rest := by
    simp [Text.withLineFeeds]
  have hends : ∃ tail, endLastLine (Text.withLineFeeds ('#' :: rest)) = '#' :: tail := by
    unfold endLastLine
    split
    · exact ⟨_, hfeeds⟩
    · exact ⟨Text.withLineFeeds rest ++ ['\n'], by rw [hfeeds, List.cons_append]⟩
  obtain ⟨tail, htail⟩ := hends
  unfold preparedText
  dsimp only
  split
  · exact ⟨tail ++ ['\n'], by rw [htail, List.cons_append]⟩
  · exact ⟨tail, htail⟩

/-- If the text starts with a comment, its first line is over before the first token. -/
theorem inOrder_scanAll_of_comment (rest : List Char) :
    InOrder (Text.lines ('#' :: rest)).length true 1 (scanAll ('#' :: rest)).tokens := by
  have hroom := room_preparedText ('#' :: rest)
  obtain ⟨tail, htail⟩ := exists_preparedText_comment rest
  rw [htail] at hroom
  have hstep : scanStep Scan.initial ('#' :: tail) = some ([],
      { Scan.initial with place := ⟨2, 0⟩ },
        (('#' :: tail).drop (restOfLine ('#' :: tail)).length).drop 1) := by
    simp [scanStep, Scan.initial, measureIndent, Position.after]
  obtain ⟨fuel, hfuel⟩ : ∃ fuel, 2 * ('#' :: tail).length + 2 = fuel + 1 := ⟨_, rfl⟩
  rw [scanAll, htail, scanPrepared, hfuel, scanFrom, if_neg (by simp)]
  simp only [hstep]
  exact inOrder_scanFrom hroom.behind_comment (by decide) fun _ => by decide

end Token

end ServiceStubs
