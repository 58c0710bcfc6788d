import ServiceStubs.Proofs.Except
import ServiceStubs.Proofs.Expansion.Characters
import ServiceStubs.Proofs.Text.Literal
import ServiceStubs.Proofs.Token.Scanning
import ServiceStubs.Proofs.Token.Trailing

/-!
# Ways to write a newline

A newline may be a line feed, a carriage return or the two together. A module is read with line
feeds only, and its lines are cut at all three, so which of them a source text uses makes no
difference, with one exception. Behind a carriage return and a line feed at the end of a text stands
one more line end when it is read. So a backslash in front of them joins the last line to an empty
one, while in front of a single line feed it joins the last line to nothing, and the text is
rejected.

## Main definitions

* `Text.withReturns`, `Text.withReturnFeeds`: a text with other newlines
* `Expansion.IsUngrammatical`: a source text that is rejected for its grammar

## Main statements

* `Grammar.readModule_withReturns`, `Grammar.readModule_withReturnFeeds`: reading a module
* `Expansion.expand_newlines`: expanding it
-/

namespace ServiceStubs

/-! ### Texts -/

namespace Text

/-- Every line feed as a carriage return. -/
def withReturns (cs : List Char) : List Char := cs.map fun c => if c = '\n' then '\r' else c

/-- Every line feed with a carriage return in front of it. -/
def withReturnFeeds (cs : List Char) : List Char :=
  cs.flatMap fun c => if c = '\n' then ['\r', '\n'] else [c]

variable {cs : List Char}

theorem withReturns_cons (c : Char) (cs : List Char) :
    withReturns (c :: cs) = (if c = '\n' then '\r' else c) :: withReturns cs := rfl

theorem withReturnFeeds_cons (c : Char) (cs : List Char) :
    withReturnFeeds (c :: cs) = (if c = '\n' then ['\r', '\n'] else [c]) ++ withReturnFeeds cs := rfl

theorem notMem_withReturns (cs : List Char) : '\n' ∉ withReturns cs := by
  intro h
  obtain ⟨c, -, hc⟩ := List.mem_map.mp h
  split at hc
  · cases hc
  · contradiction

theorem withLineFeeds_cons_of_ne {c : Char} (hc : c ≠ '\r') (cs : List Char) :
    withLineFeeds (c :: cs) = c :: withLineFeeds cs := by
  rw [withLineFeeds, if_neg (by simpa using hc)]
  rintro rest rfl -
  exact hc rfl

theorem withLineFeeds_withReturns (h : '\r' ∉ cs) : withLineFeeds (withReturns cs) = cs := by
  induction cs with
  | nil => rfl
  | cons c cs ih =>
    simp only [List.mem_cons, not_or] at h
    rw [withReturns_cons]
    split
    next hc =>
      rw [withLineFeeds, ih h.2, hc]
      · rfl
      · rintro rest - hrest
        exact notMem_withReturns cs (hrest ▸ List.mem_cons_self)
    next => rw [withLineFeeds_cons_of_ne (Ne.symm h.1), ih h.2]

theorem withLineFeeds_withReturnFeeds (h : '\r' ∉ cs) : withLineFeeds (withReturnFeeds cs) = cs := by
  induction cs with
  | nil => rfl
  | cons c cs ih =>
    simp only [List.mem_cons, not_or] at h
    rw [withReturnFeeds_cons]
    split
    next hc =>
      show withLineFeeds ('\r' :: '\n' :: withReturnFeeds cs) = _
      rw [withLineFeeds, ih h.2, hc]
    next =>
      rw [List.singleton_append, withLineFeeds_cons_of_ne (Ne.symm h.1), ih h.2]

theorem lines_withReturns (h : '\r' ∉ cs) : lines (withReturns cs) = lines cs := by
  induction cs with
  | nil => rfl
  | cons c cs ih =>
    simp only [List.mem_cons, not_or] at h
    have hhead : (withReturns cs).head? ≠ some '\n' := fun hhead =>
      notMem_withReturns cs (List.mem_of_mem_head? hhead)
    rw [withReturns_cons, lines_cons fun hsplit => hhead hsplit.2,
      lines_cons fun hsplit => h.1 hsplit.1.symm, ih h.2]
    split
    next hc =>
      subst hc
      rfl
    next => rfl

theorem lines_withReturnFeeds (h : '\r' ∉ cs) : lines (withReturnFeeds cs) = lines cs := by
  induction cs with
  | nil => rfl
  | cons c cs ih =>
    simp only [List.mem_cons, not_or] at h
    have hline : lines (c :: cs) = _ := lines_cons fun hsplit => h.1 hsplit.1.symm
    rw [withReturnFeeds_cons, hline]
    split
    next hc =>
      subst hc
      show lines ('\r' :: '\n' :: withReturnFeeds cs) = _
      rw [lines_returnFeed, ih h.2]
      rfl
    next =>
      rw [List.singleton_append, lines_cons fun hsplit => h.1 hsplit.1.symm, ih h.2]

theorem mem_withReturns {c : Char} (hc : c ≠ '\n' ∧ c ≠ '\r') : c ∈ withReturns cs ↔ c ∈ cs := by
  simp only [withReturns, List.mem_map]
  constructor
  · rintro ⟨d, hd, heq⟩
    split at heq
    · exact absurd heq.symm hc.2
    · exact heq ▸ hd
  · exact fun h => ⟨c, h, if_neg hc.1⟩

theorem mem_withReturnFeeds {c : Char} (hc : c ≠ '\n' ∧ c ≠ '\r') :
    c ∈ withReturnFeeds cs ↔ c ∈ cs := by
  simp only [withReturnFeeds, List.mem_flatMap]
  constructor
  · rintro ⟨d, hd, hmem⟩
    split at hmem
    · simp [hc.1, hc.2] at hmem
    · exact List.mem_singleton.mp hmem ▸ hd
  · exact fun h => ⟨c, h, by simp [hc.1]⟩

/-- The text ends in both characters if it ended in a line feed. -/
theorem isSuffixOf_withReturnFeeds (cs : List Char) :
    ['\r', '\n'].isSuffixOf (withReturnFeeds cs) = (cs.getLast? == some '\n') := by
  rcases List.eq_nil_or_concat cs with rfl | ⟨init, c, rfl⟩
  · rfl
  · have hsplit : withReturnFeeds (init ++ [c]) =
        withReturnFeeds init ++ if c = '\n' then ['\r', '\n'] else [c] := by
      simp [withReturnFeeds]
    rw [List.concat_eq_append, hsplit, List.getLast?_concat, Bool.eq_iff_iff,
      List.isSuffixOf_iff_suffix, beq_iff_eq, Option.some.injEq]
    constructor
    · rintro ⟨pre, hpre⟩
      by_contra hc
      rw [if_neg hc, List.append_cons] at hpre
      exact hc (List.singleton_inj.mp (List.append_inj' hpre rfl).2).symm
    · rintro rfl
      exact List.suffix_append _ _

end Text

/-! ### Reading a module -/

namespace Token

open Text

variable {cs : List Char}

theorem preparedText_withReturns (h : '\r' ∉ cs) : preparedText (withReturns cs) = preparedText cs := by
  rw [preparedText_eq h, preparedText, withLineFeeds_withReturns h, if_neg]
  intro hsuffix
  exact notMem_withReturns cs ((List.isSuffixOf_iff_suffix.mp hsuffix).subset (by simp))

theorem preparedText_withReturnFeeds (h : '\r' ∉ cs) : preparedText (withReturnFeeds cs) =
    if cs.getLast? = some '\n' then preparedText cs ++ ['\n'] else preparedText cs := by
  rw [preparedText_eq h, preparedText, withLineFeeds_withReturnFeeds h, isSuffixOf_withReturnFeeds]
  simp

/-- What is prepared consists of whole lines. -/
theorem whole_preparedText (h : '\r' ∉ cs) : Whole (preparedText cs) := by
  rw [preparedText_eq h, endLastLine]
  split
  next hlast =>
    rw [Whole, eq_of_beq hlast]
    rfl
  next => simp [Whole]

end Token

namespace Grammar

open ServiceStubs.Tree Reader Text

variable {cs : List Char}

/-- A module is read from what the scanner makes of its text. -/
theorem readModule_congr {source source' : List Char}
    (hnull : source.contains '\x00' = source'.contains '\x00')
    (hlength : (withLineFeeds source).length = (withLineFeeds source').length)
    (htext : Token.preparedText source = Token.preparedText source') :
    readModule source = readModule source' := by
  unfold readModule Token.scanAll
  rw [hnull, hlength, htext]

/-- A text that is not cut into tokens is not read. -/
theorem exists_error_of_incomplete {source : List Char}
    (h : (Token.scanAll source).isComplete = false) : ∃ p, readModule source = .error p := by
  unfold readModule
  split
  · exact ⟨_, rfl⟩
  · simp only [h, Bool.and_false, Bool.false_eq_true, if_false]
    cases (statements _ _).run _ with
    | error p => exact ⟨p, rfl⟩
    | ok p =>
      refine ⟨p.2.place, ?_⟩
      dsimp only [bind, Except.bind]
      split <;> rfl

/-- Texts of the same tokens are read alike. A module that is not read is not read from the other
text either, apart from what `P` is to blame for. -/
theorem readModule_similar {P : Prop} {source source' : List Char}
    (hnull : source.contains '\x00' = source'.contains '\x00')
    (hlength : (withLineFeeds source).length = (withLineFeeds source').length)
    (h : Token.Similar P (Token.scanAll source) (Token.scanAll source')) :
    readModule source = readModule source' ∨
      ∃ p, readModule source = .error p ∧ ((∃ q, readModule source' = .error q) ∨ P) := by
  cases hcomplete : (Token.scanAll source).isComplete with
  | false =>
    obtain ⟨p, hp⟩ := exists_error_of_incomplete hcomplete
    refine .inr ⟨p, hp, ?_⟩
    cases hcomplete' : (Token.scanAll source').isComplete with
    | false => exact .inl (exists_error_of_incomplete hcomplete')
    | true => exact .inr ((h.back hcomplete').resolve_left (by simp [hcomplete]))
  | true =>
    obtain ⟨hcomplete', htokens⟩ := h.forth hcomplete
    have hcount : (Token.scanAll source).tokens.length = (Token.scanAll source').tokens.length := by
      simpa using congrArg List.length htokens
    unfold readModule
    rw [← hnull]
    split
    · left
      dsimp only [throw, throwThe, MonadExceptOf.throw, bind, Except.bind]
    · have halike : Input.Alike ⟨(Token.scanAll source).tokens, 0⟩ ⟨(Token.scanAll source').tokens, 0⟩ :=
        ⟨htokens, rfl⟩
      have hagree := (statements (.ofDepth
        ((withLineFeeds source).length + (Token.scanAll source).tokens.length + 2)
        ((withLineFeeds source).length + (Token.scanAll source).tokens.length + 2))
        (Token.maxBlocks + 1)).blind halike
      simp only [hcomplete, hcomplete', ← hcount, ← hlength, Bool.and_true]
      generalize (statements _ _).run ⟨(Token.scanAll source).tokens, 0⟩ = o at hagree ⊢
      generalize (statements _ _).run ⟨(Token.scanAll source').tokens, 0⟩ = o' at hagree ⊢
      cases hagree with
      | error p q => exact .inr ⟨p, rfl, .inl ⟨q, rfl⟩⟩
      | @ok body rest rest' hrest =>
        have htokens := hrest.tokens
        obtain ⟨_ | ⟨t, _ | ⟨u, ts⟩⟩, line⟩ := rest <;>
          obtain ⟨_ | ⟨t', _ | ⟨u', ts'⟩⟩, line'⟩ := rest' <;>
          simp only [List.map_nil, List.map_cons, List.cons.injEq, reduceCtorEq, and_false] at htokens
        · exact .inr ⟨_, rfl, .inl ⟨_, rfl⟩⟩
        · -- the last token is the end of the text in both, or in none
          dsimp only [bind, Except.bind]
          rw [Token.kind_eq_of_unplaced htokens.1]
          split
          · exact .inl rfl
          · exact .inr ⟨_, rfl, .inl ⟨_, rfl⟩⟩
        · exact .inr ⟨_, rfl, .inl ⟨_, rfl⟩⟩

theorem contains_withReturns (cs : List Char) :
    (withReturns cs).contains '\x00' = cs.contains '\x00' := by
  rw [Bool.eq_iff_iff, List.contains_iff_mem, List.contains_iff_mem]
  exact mem_withReturns (by decide)

theorem contains_withReturnFeeds (cs : List Char) :
    (withReturnFeeds cs).contains '\x00' = cs.contains '\x00' := by
  rw [Bool.eq_iff_iff, List.contains_iff_mem, List.contains_iff_mem]
  exact mem_withReturnFeeds (by decide)

/-- **Carriage returns are read like line feeds.** -/
theorem readModule_withReturns (h : '\r' ∉ cs) : readModule (withReturns cs) = readModule cs := by
  refine readModule_congr (contains_withReturns cs) ?_ (Token.preparedText_withReturns h)
  rw [withLineFeeds_withReturns h, Token.withLineFeeds_eq h]

/-- **The two together are read like line feeds**, but for the end of a text that ends in a line
which is joined to the next one. -/
theorem readModule_withReturnFeeds (h : '\r' ∉ cs) :
    readModule (withReturnFeeds cs) = readModule cs ∨ ∃ p, readModule cs = .error p ∧
      ((∃ q, readModule (withReturnFeeds cs) = .error q) ∨ Token.EndsJoined cs) := by
  have hnull := contains_withReturnFeeds cs
  have hlength : (withLineFeeds (withReturnFeeds cs)).length = (withLineFeeds cs).length := by
    rw [withLineFeeds_withReturnFeeds h, Token.withLineFeeds_eq h]
  have htext := Token.preparedText_withReturnFeeds h
  split at htext
  next hlast =>
    have hprepared : Token.preparedText cs = cs := by
      rw [Token.preparedText_eq h, Token.endLastLine, hlast]
      rfl
    have hsimilar := Token.scanPrepared_append_newline (Token.whole_preparedText h)
    rw [← htext, hprepared] at hsimilar
    have hscan : Token.scanAll cs = Token.scanPrepared cs := by
      rw [Token.scanAll, hprepared]
    rcases readModule_similar hnull.symm hlength.symm (hscan ▸ hsimilar) with heq | hfaulty
    · exact .inl heq.symm
    · exact .inr hfaulty
  next => exact .inl (readModule_congr hnull hlength htext)

end Grammar

/-! ### Expanding a module -/

namespace Expansion

open Schema

/-- A source text with every line feed as a carriage return. -/
def returns (source : String) : String := .ofList (Text.withReturns source.toList)

/-- A source text with a carriage return in front of every line feed. -/
def returnFeeds (source : String) : String := .ofList (Text.withReturnFeeds source.toList)

/-- The source text is rejected, as it breaks the grammar. -/
def IsUngrammatical (source filename : String) : Prop :=
  ∃ anchor, expand source filename = .error (.rejected ⟨.ungrammatical, anchor⟩)

theorem isUngrammatical_of_readModule {source filename : String} {p : Position}
    (h : Grammar.readModule source.toList = .error p) : IsUngrammatical source filename := by
  refine ⟨.ofPosition p, ?_⟩
  rw [expand, Draft.ofSource, Module.ofSource, h]
  rfl

theorem expand_congr {source source' : String} (filename : String)
    (hread : Grammar.readModule source.toList = Grammar.readModule source'.toList)
    (hlines : Text.lines source.toList = Text.lines source'.toList) :
    expand source filename = expand source' filename := by
  have hsplit : Text.splitLines source = Text.splitLines source' := by
    rw [Text.splitLines, hlines, Text.splitLines]
  have hdeclared : Module.ofSource source = Module.ofSource source' := by
    rw [Module.ofSource, hread, hsplit, Module.ofSource]
  rw [expand, Draft.ofSource, hdeclared, hsplit, expand, Draft.ofSource]

/-- **The newlines of a source text make no difference.** With carriage returns for its line feeds,
it expands to the same text or is rejected for the same fault at the same place. With the two
together, that holds unless it breaks the grammar: then it breaks the grammar with those newlines,
too, or it ends in a backslash and a line feed. -/
theorem expand_newlines {source : String} (filename : String) (h : '\r' ∉ source.toList) :
    expand (returns source) filename = expand source filename ∧
      (expand (returnFeeds source) filename = expand source filename ∨
        IsUngrammatical source filename ∧
          (IsUngrammatical (returnFeeds source) filename ∨ Token.EndsJoined source.toList)) := by
  have hlist (cs : List Char) : (String.ofList cs).toList = cs := String.toList_ofList
  constructor
  · refine expand_congr filename ?_ ?_
    · rw [returns, hlist, Grammar.readModule_withReturns h]
    · rw [returns, hlist, Text.lines_withReturns h]
  · rcases Grammar.readModule_withReturnFeeds h with hread | ⟨p, hp, hbehind⟩
    · refine .inl (expand_congr filename ?_ ?_)
      · rw [returnFeeds, hlist, hread]
      · rw [returnFeeds, hlist, Text.lines_withReturnFeeds h]
    · refine .inr ⟨isUngrammatical_of_readModule hp, hbehind.imp_left ?_⟩
      rintro ⟨q, hq⟩
      exact isUngrammatical_of_readModule (by rwa [returnFeeds, hlist])

/-- What is read and declares something has an expansion. -/
theorem exists_expand {source filename : String} {cs : List Char} (hcs : source.toList = cs)
    (h : (Module.ofChars cs).toOption.map Module.isEmpty = some false) :
    ∃ text, expand source filename = .ok (some text) := by
  obtain ⟨m, hm, hempty⟩ := exists_of_toOption_map h
  subst hcs
  have hdeclared : Module.ofSource source = .ok m := hm
  rw [expand, Draft.ofSource, hdeclared]
  refine ⟨_, congrArg Except.ok (if_pos ?_)⟩
  show (!m.isEmpty) = true
  rw [hempty]
  rfl

theorem expand_of_error {source filename : String} {cs : List Char} {e : Failure}
    (hcs : source.toList = cs) (h : (Module.ofChars cs).map (fun _ => ()) = .error e) :
    expand source filename = .error e := by
  subst hcs
  have hdeclared : Module.ofSource source = .error e := by
    show Module.ofChars source.toList = _
    cases hm : Module.ofChars source.toList with
    | error e' =>
      rw [hm] at h
      exact congrArg Except.error (Except.error.inj h)
    | ok m =>
      rw [hm] at h
      cases h
  rw [expand, Draft.ofSource, hdeclared]
  rfl

/-- A service at the end of a text. -/
def lastSource : String := "from grpc_stub_generator import service\n@service\nclass A: pass\n"

theorem expand_newlines_last : ∃ text, expand lastSource "a.py" = .ok (some text) ∧
    expand (returns lastSource) "a.py" = .ok (some text) ∧
      expand (returnFeeds lastSource) "a.py" = .ok (some text) := by
  have hlist : lastSource.toList = _ := String.toList_ofList
  obtain ⟨text, htext⟩ : ∃ text, expand lastSource "a.py" = .ok (some text) :=
    exists_expand hlist (by decide +kernel)
  have hfree : '\r' ∉ lastSource.toList := by
    rw [hlist]
    decide
  obtain ⟨hreturns, hfeeds⟩ := expand_newlines "a.py" hfree
  refine ⟨text, htext, hreturns.trans htext, ?_⟩
  rcases hfeeds with heq | ⟨⟨anchor, herror⟩, -⟩
  · exact heq.trans htext
  · cases htext.symm.trans herror

/-- The last line is joined to the next one. -/
def joinedSource : String :=
  "from grpc_stub_generator import service\n@service\nclass A: pass\nx = 1\\\n"

/-- A block is missing at the end of the text. -/
def blockSource : String := "if x:\n"

/-- The two together do make a difference for a text that breaks the grammar: it may be read with
them, or be rejected at another place. -/
theorem returnFeeds_ne :
    ('\r' ∉ joinedSource.toList ∧ IsUngrammatical joinedSource "m.py" ∧
      ∃ text, expand (returnFeeds joinedSource) "m.py" = .ok (some text)) ∧
    ('\r' ∉ blockSource.toList ∧ IsUngrammatical blockSource "m.py" ∧
      IsUngrammatical (returnFeeds blockSource) "m.py" ∧
        expand (returnFeeds blockSource) "m.py" ≠ expand blockSource "m.py") := by
  have hjoined : joinedSource.toList = _ := String.toList_ofList
  have hblock : blockSource.toList = _ := String.toList_ofList
  have hfeeds (source : String) : (returnFeeds source).toList = Text.withReturnFeeds source.toList :=
    String.toList_ofList
  have hfirst : expand joinedSource "m.py" = .error (.rejected ⟨.ungrammatical, ⟨4, 5⟩⟩) :=
    expand_of_error hjoined (by decide +kernel)
  have hsecond : expand blockSource "m.py" = .error (.rejected ⟨.ungrammatical, ⟨2, 0⟩⟩) :=
    expand_of_error hblock (by decide +kernel)
  have hthird : expand (returnFeeds blockSource) "m.py" =
      .error (.rejected ⟨.ungrammatical, ⟨3, 0⟩⟩) :=
    expand_of_error ((hfeeds _).trans (congrArg _ hblock)) (by decide +kernel)
  refine ⟨⟨by rw [hjoined]; decide, ⟨_, hfirst⟩,
    exists_expand ((hfeeds _).trans (congrArg _ hjoined)) (by decide +kernel)⟩,
    by rw [hblock]; decide, ⟨_, hsecond⟩, ⟨_, hthird⟩, ?_⟩
  rw [hsecond, hthird]
  decide

end Expansion

end ServiceStubs
