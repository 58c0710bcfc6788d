import ServiceStubs.Token.Basic

/-!
# Readers

A reader takes a construct off the front of a list of tokens, or fails and says how far it got.
Readers are combined as in every grammar: one after the other, one or else the other, and repeated.

Whatever a reader reads, it takes tokens one by one from the front, and where the tokens of the
layout stand makes no difference to it. Both come with every reader.

Repetition is bounded by a number that is at least the number of tokens, so it never ends early.

## Main definitions

* `Grammar.Input`: what there is to read
* `Grammar.Reader`: readers
* `Grammar.Input.Leads`, `Grammar.Agree`: what holds of every reader
-/

namespace ServiceStubs

/-- The token in no particular place, if it is part of the layout. -/
def Token.unplaced (t : Token) : Token := if t.isVisible then t else ⟨t.kind, ⟨⟨0, 0⟩, 0⟩⟩

namespace Token

theorem kind_unplaced (t : Token) : t.unplaced.kind = t.kind := by
  rw [unplaced]
  split <;> rfl

theorem kind_eq_of_unplaced {t t' : Token} (h : t.unplaced = t'.unplaced) : t.kind = t'.kind := by
  rw [← t.kind_unplaced, h, t'.kind_unplaced]

theorem isVisible_eq_of_unplaced {t t' : Token} (h : t.unplaced = t'.unplaced) :
    t.isVisible = t'.isVisible := by
  rw [isVisible, kind_eq_of_unplaced h, isVisible]

theorem eq_of_unplaced {t t' : Token} (h : t.unplaced = t'.unplaced) (ht : t.isVisible = true) :
    t = t' := by
  have ht' : t'.isVisible = true := isVisible_eq_of_unplaced h ▸ ht
  rwa [unplaced, unplaced, if_pos ht, if_pos ht'] at h

end Token

namespace Grammar

/-- The tokens still to be read, and the line on which the last visible one ended. -/
structure Input where
  tokens : List Token
  lastLine : Nat

namespace Input

/-- Where the next token starts. -/
def place (input : Input) : Position :=
  match input.tokens with
  | [] => ⟨input.lastLine, 0⟩
  | t :: _ => t.span.start

/-- The line on which the last visible token ended, behind one more token. -/
def lineBehind (line : Nat) (t : Token) : Nat := if t.isVisible then t.span.endLine else line

/-- The second input is what is left of the first one when some tokens are taken off its front. -/
inductive Leads : Input → Input → Prop
  | refl (input : Input) : Leads input input
  | tail {t : Token} {ts : List Token} {line : Nat} {rest : Input}
      (h : Leads ⟨ts, lineBehind line t⟩ rest) :
    Leads ⟨t :: ts, line⟩ rest

theorem Leads.trans {input mid rest : Input} (h : input.Leads mid) (h' : mid.Leads rest) :
    input.Leads rest := by
  induction h with
  | refl => exact h'
  | tail _ ih => exact .tail (ih h')

/-- The two inputs are the same apart from the places of the layout. -/
structure Alike (input input' : Input) : Prop where
  tokens : input.tokens.map Token.unplaced = input'.tokens.map Token.unplaced
  lastLine : input.lastLine = input'.lastLine

theorem Alike.refl (input : Input) : input.Alike input := ⟨rfl, rfl⟩

/-- The kind of the next token. -/
def firstKind (input : Input) : Token.Kind :=
  match input.tokens with
  | [] => .endOfText
  | t :: _ => t.kind

/-- The kind of the token after the next one. -/
def secondKind (input : Input) : Token.Kind :=
  match input.tokens with
  | _ :: t :: _ => t.kind
  | _ => .endOfText

/-- Where the next token starts, if it is visible. -/
def start? (input : Input) : Option Position :=
  match input.tokens with
  | [] => none
  | t :: _ => if t.isVisible then some t.span.start else none

namespace Alike

variable {input input' : Input}

theorem firstKind (h : input.Alike input') : input.firstKind = input'.firstKind := by
  obtain ⟨_ | ⟨t, ts⟩, line⟩ := input <;> obtain ⟨_ | ⟨t', ts'⟩, line'⟩ := input' <;>
    have h := h.tokens
  · rfl
  · cases h
  · cases h
  · exact Token.kind_eq_of_unplaced (List.cons.inj h).1

theorem secondKind (h : input.Alike input') : input.secondKind = input'.secondKind := by
  obtain ⟨_ | ⟨t, _ | ⟨u, ts⟩⟩, line⟩ := input <;> obtain ⟨_ | ⟨t', _ | ⟨u', ts'⟩⟩, line'⟩ := input' <;>
    have h := h.tokens
  · rfl
  · cases h
  · cases h
  · cases h
  · rfl
  · cases (List.cons.inj h).2
  · cases h
  · cases (List.cons.inj h).2
  · exact Token.kind_eq_of_unplaced (List.cons.inj (List.cons.inj h).2).1

theorem start? (h : input.Alike input') : input.start? = input'.start? := by
  obtain ⟨_ | ⟨t, ts⟩, line⟩ := input <;> obtain ⟨_ | ⟨t', ts'⟩, line'⟩ := input' <;>
    have h := h.tokens
  · rfl
  · cases h
  · cases h
  · have ht := (List.cons.inj h).1
    dsimp only [Input.start?]
    cases hvisible : t.isVisible with
    | true => rw [← Token.eq_of_unplaced ht hvisible, hvisible]
    | false =>
      rw [← Token.isVisible_eq_of_unplaced ht, hvisible]
      rfl

end Alike

end Input

/-- What came of reading is the same: both failed, or both yielded one value and left the same
tokens, apart from the places of the layout. -/
inductive Agree {α : Type} : Except Position (α × Input) → Except Position (α × Input) → Prop
  | error (p q : Position) : Agree (.error p) (.error q)
  | ok (a : α) {rest rest' : Input} (h : rest.Alike rest') : Agree (.ok (a, rest)) (.ok (a, rest'))

/-- Takes a construct off the front of the input, or fails at the place of the token that does not
fit. -/
@[ext]
structure Reader (α : Type) where
  run : Input → Except Position (α × Input)
  /-- It takes whole tokens. -/
  takes : ∀ {input : Input} {a : α} {rest : Input}, run input = .ok (a, rest) → input.Leads rest
  /-- The places of the layout make no difference. -/
  blind : ∀ {input input' : Input}, input.Alike input' → Agree (run input) (run input')

namespace Reader

variable {α β : Type}

/-- One reader after the other. -/
@[inline]
protected def bind (r : Reader α) (f : α → Reader β) : Reader β where
  run input :=
    match r.run input with
    | .error p => .error p
    | .ok (a, rest) => (f a).run rest
  takes {input b rest} h := by
    split at h
    · cases h
    · next a mid hr => exact (r.takes hr).trans ((f a).takes h)
  blind {input input'} h := by
    have hr := r.blind h
    generalize r.run input = out at hr
    generalize r.run input' = out' at hr
    cases hr with
    | error p q => exact .error p q
    | ok a hrest => exact (f a).blind hrest

@[inline]
instance : Monad Reader where
  pure a :=
    { run := fun input => .ok (a, input)
      takes := fun h => by
        cases h
        exact .refl _
      blind := fun h => .ok a h }
  bind := Reader.bind

theorem run_bind (r : Reader α) (f : α → Reader β) (input : Input) : (r >>= f).run input =
    match r.run input with
    | .error p => .error p
    | .ok (a, rest) => (f a).run rest := rfl

instance : LawfulMonad Reader := by
  refine LawfulMonad.mk' Reader (fun r => Reader.ext (funext fun input => ?_)) (fun _ _ => rfl)
    fun r f g => Reader.ext (funext fun input => ?_)
  · refine (run_bind r (fun a => pure (id a)) input).trans ?_
    cases r.run input <;> rfl
  · simp only [run_bind]
    cases r.run input <;> rfl

/-- Fails at the next token. -/
def fail : Reader α where
  run input := .error input.place
  takes h := by cases h
  blind _ := .error _ _

/-- Reads with the second reader where the first one fails. If both fail, the place is that of the
one that got further. -/
def orElse (first : Reader α) (second : Unit → Reader α) : Reader α where
  run input :=
    match first.run input with
    | .ok r => .ok r
    | .error p =>
      match (second ()).run input with
      | .ok r => .ok r
      | .error q => .error (if p.isBefore q then q else p)
  takes {input a rest} h := by
    split at h
    · next hfirst => exact first.takes (hfirst.trans h)
    · split at h
      · next hsecond => exact (second ()).takes (hsecond.trans h)
      · cases h
  blind {input input'} h := by
    have hfirst := first.blind h
    generalize first.run input = out at hfirst
    generalize first.run input' = out' at hfirst
    cases hfirst with
    | ok a hrest => exact .ok a hrest
    | error p q =>
      have hsecond := (second ()).blind h
      generalize (second ()).run input = out at hsecond
      generalize (second ()).run input' = out' at hsecond
      cases hsecond with
      | ok a hrest => exact .ok a hrest
      | error p q => exact .error _ _

instance : Alternative Reader where
  failure := fail
  orElse := orElse

/-! ### Single tokens -/

/-- Something that the input is known for, if it is there. All tokens stay in the input. -/
def look (f : Input → Option α)
    (hf : ∀ {input input' : Input}, input.Alike input' → f input = f input') :
    Reader α where
  run input :=
    match f input with
    | some a => .ok (a, input)
    | none => .error input.place
  takes {input a rest} h := by
    split at h
    · cases h
      exact .refl _
    · cases h
  blind {input input'} h := by
    rw [← hf h]
    split
    · exact .ok _ h
    · exact .error _ _

/-- The next token, which stays in the input. -/
def peek : Reader Token.Kind :=
  look (fun input => some input.firstKind) fun h => congrArg some h.firstKind

/-- The token after the next one, which stays in the input. -/
def peekSecond : Reader Token.Kind :=
  look (fun input => some input.secondKind) fun h => congrArg some h.secondKind

/-- Takes the next token. -/
def next : Reader Token.Kind where
  run input :=
    match input.tokens with
    | [] => .error input.place
    | t :: rest => .ok (t.kind, ⟨rest, Input.lineBehind input.lastLine t⟩)
  takes {input a rest} h := by
    obtain ⟨_ | ⟨t, ts⟩, line⟩ := input <;> cases h
    exact .tail (.refl _)
  blind {input input'} h := by
    obtain ⟨_ | ⟨t, ts⟩, line⟩ := input <;> obtain ⟨_ | ⟨t', ts'⟩, line'⟩ := input' <;>
      obtain ⟨htokens, hline⟩ := h
    · exact .error _ _
    · cases htokens
    · cases htokens
    · obtain ⟨ht, hts⟩ := List.cons.inj htokens
      dsimp only at hline
      have hbehind : Input.lineBehind line t = Input.lineBehind line' t' := by
        rw [Input.lineBehind, Input.lineBehind, hline]
        cases hvisible : t.isVisible with
        | true => rw [← Token.eq_of_unplaced ht hvisible, hvisible]
        | false =>
          rw [← Token.isVisible_eq_of_unplaced ht, hvisible]
          rfl
      show Agree (.ok (t.kind, _)) (.ok (t'.kind, _))
      rw [Token.kind_eq_of_unplaced ht]
      exact .ok _ ⟨hts, hbehind⟩

/-- Where the next token starts. What a reader reads from there on starts with a visible token. -/
def place : Reader Position := look Input.start? fun h => h.start?

/-- The line on which the last token taken ended. -/
def lastLine : Reader Nat := look (fun input => some input.lastLine) fun h => congrArg some h.lastLine

/-- Takes the next token if it is of the given kind. -/
def kind (k : Token.Kind) : Reader Unit := do
  if (← peek) == k then discard next else failure

/-- Whether the next token is of the given kind; it is taken if so. -/
def kind? (k : Token.Kind) : Reader Bool := do
  if (← peek) == k then
    discard next
    pure true
  else pure false

/-- Takes a sign. -/
def sign (s : String) : Reader Unit := kind (.sign s)

/-- Whether a sign stands here; it is taken if so. -/
def sign? (s : String) : Reader Bool := kind? (.sign s)

/-- Takes a reserved word. -/
def keyword (w : String) : Reader Unit := kind (.keyword w)

/-- Whether a reserved word stands here; it is taken if so. -/
def keyword? (w : String) : Reader Bool := kind? (.keyword w)

/-- Whether a sign stands here. -/
def atSign (s : String) : Reader Bool := do return (← peek) == .sign s

/-- Whether a reserved word stands here. -/
def atKeyword (w : String) : Reader Bool := do return (← peek) == .keyword w

/-- Takes a name. -/
def identifier : Reader Token.Name := do
  match ← peek with
  | .name id => do
    discard next
    pure id
  | _ => failure

/-- Takes a name, as a text. -/
def name : Reader String := (·.text) <$> identifier

/-- Whether the next token is a name that is written as the given word. -/
def atWord (w : String) : Reader Bool := do
  match ← peek with
  | .name id => return id.written == w
  | _ => return false

/-- Takes the given word. -/
def word (w : String) : Reader Unit := do
  if ← atWord w then discard next else failure

/-- Whether the given word stands here; it is taken if so. -/
def word? (w : String) : Reader Bool := do
  if ← atWord w then
    discard next
    pure true
  else pure false

/-- Reads as long as the reader yields something. -/
def repeated {α : Type} (bound : Nat) (step : Reader (Option α)) : Reader (List α) :=
  match bound with
  | 0 => pure []
  | bound + 1 => do
    match ← step with
    | none => pure []
    | some a => return a :: (← repeated bound step)

/-- At least one item, with the sign between two of them. -/
def separated {α : Type} (bound : Nat) (separator : String) (item : Reader α) :
    Reader (List α) := do
  let first ← item
  let others ← repeated bound do
    if ← sign? separator then some <$> item else pure none
  pure (first :: others)

/-- Items with commas between them and perhaps one more at the end, and whether that one is there.
The first item has been read. -/
def commaTail {α : Type} (bound : Nat) (item : Reader α) : Reader (List α × Bool) := do
  let others ← repeated bound do
    if ← atSign "," then optional (sign "," *> item) else pure none
  let comma ← sign? ","
  pure (others, comma)

/-- At least one item, with commas between them and perhaps one more at the end, and whether that
one is there. -/
def commaList {α : Type} (bound : Nat) (item : Reader α) : Reader (List α × Bool) := do
  let first ← item
  let (others, comma) ← commaTail bound item
  pure (first :: others, comma)

/-- What the reader yields, with the span it covers. -/
def located {α : Type} (r : Reader α) : Reader (α × Span) := do
  let start ← place
  let value ← r
  pure (value, ⟨start, ← lastLine⟩)

end Reader

end Grammar

end ServiceStubs
