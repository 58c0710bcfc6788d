import ServiceStubs.Expansion.Module
import ServiceStubs.Proofs.Text.Characters

/-!
# Reading generated code back

What a line of generated code says is read off its characters, by the sign or the word it starts
with and the sign that ends the name behind it. None of the readers knows how the line was made.

## Main definitions

* `Expansion.behind?`, `Expansion.behindBoth?`: the name, or the two names, behind the start of a
  line
* `Expansion.boundName?`: the name that a line at the left margin binds
* `Expansion.memberName?`: the function that a line in a class body defines
* `Expansion.constantsIn`, `Expansion.registrationsIn`, `Expansion.callsIn`: what the artifacts of a
  service say

## Main statements

* `Expansion.behind?_eq_some`, `Expansion.behind?_eq_none`: the two outcomes of a reader
-/

namespace ServiceStubs

namespace Expansion

open Schema

/-! ### Readers -/

/-- The characters behind the start of a line, up to the first that ends the name. -/
def behind? (start : String) (ends : Char → Bool) (line : String) : Option String :=
  if start.toList.isPrefixOf line.toList then
    some (String.ofList ((line.toList.drop start.toList.length).takeWhile (!ends ·)))
  else none

/-- The name behind the start of a line, and the name behind that and what stands between them. -/
def behindBoth? (start between : String) (ends ends' : Char → Bool) (line : String) :
    Option (String × String) := do
  let first ← behind? start ends line
  let second ← behind? (start ++ first ++ between) ends' line
  pure (first, second)

/-- The last word of a line. -/
def lastWord (line : String) : String :=
  String.ofList (line.toList.reverse.takeWhile (· != ' ')).reverse

/-- The function that a line at the left margin defines. -/
def functionName? (line : String) : Option String := behind? "def " (· == '(') line

/-- The name that a line at the left margin binds: the alias of an import, a class, a function, or
what stands in front of an annotation or an assignment. Lines that are indented, decorators and
lines that close a call bind none. -/
def boundName? (line : String) : Option String :=
  match line.toList.head? with
  | none | some ' ' | some '@' | some ')' => none
  | _ =>
    if "import ".toList.isPrefixOf line.toList || "from ".toList.isPrefixOf line.toList then
      some (lastWord line)
    else (behind? "class " (fun c => c == '(' || c == ':') line).or
      ((functionName? line).or (behind? "" (fun c => c == ':' || c == ' ') line))

/-- The function that a line in a class body defines. -/
def memberName? (line : String) : Option String := behind? "    def " (· == '(') line

/-- The wire name that a line of a descriptor gives. -/
def wireName? (line : String) : Option String := behind? "    name=\"" (· == '"') line

/-- The constants that are bound at the left margin, each with the first wire name behind it. -/
def constantsIn : List String → List (String × String)
  | [] => []
  | line :: rest =>
    match boundName? line, rest.findSome? wireName? with
    | some ident, some wireName => (ident, wireName) :: constantsIn rest
    | _, _ => constantsIn rest

/-- What a line of a factory starts with that registers a handler. -/
def registrationStart : String := "    builder = builder.add_unary_handler("

/-- The constant and the method that a line of a factory registers. -/
def registration? (line : String) : Option (String × String) :=
  behindBoth? registrationStart ", instance." (· == ',') (· == ')') line

/-- The constants and methods that a factory registers, in order. -/
def registrationsIn (lines : List String) : List (String × String) := lines.filterMap registration?

/-- What a line of a client starts with that calls the transport. -/
def callStart : String := "        return self.client."

/-- How a line of a client calls the transport, and the constant it calls it with. -/
def call? (line : String) : Option (String × String) :=
  behindBoth? callStart "(" (· == '(') (· == ',') line

/-- The functions of a client that call the transport, with how they do it and the constant. -/
def callsIn : List String → List (String × String × String)
  | [] => []
  | line :: rest =>
    match memberName? line, rest.head?.bind call? with
    | some name, some call => (name, call) :: callsIn rest
    | _, _ => callsIn rest

/-! ### The two outcomes of a reader -/

theorem behind?_eq_some {start name rest : String} {ends : Char → Bool}
    (hname : ∀ c ∈ name.toList, ends c = false) (hrest : (rest.toList.head?.map ends) = some true) :
    behind? start ends (start ++ (name ++ rest)) = some name := by
  obtain ⟨c, cs, hcs⟩ : ∃ c cs, rest.toList = c :: cs := by
    cases h : rest.toList with
    | nil => simp [h] at hrest
    | cons c cs => exact ⟨c, cs, rfl⟩
  have hc : ends c = true := by simpa [hcs] using hrest
  have htake : (name.toList ++ c :: cs).takeWhile (!ends ·) = name.toList := by
    rw [List.takeWhile_append_of_pos (by simpa using hname)]
    simp [hc]
  simp [behind?, hcs, htake]

/-- A line that starts otherwise. -/
theorem behind?_eq_none {start line : String} {ends : Char → Bool}
    (h : ¬ start.toList <+: line.toList) : behind? start ends line = none := by
  rw [behind?, if_neg]
  simpa using h

/-- A sign that the start of a line does not hold ends a name that the start would reach into. -/
theorem prefix_of_prefix_append {start name rest : List Char} {c : Char} (hc : c ∉ start)
    (h : start <+: name ++ c :: rest) : start <+: name := by
  rcases List.prefix_or_prefix_of_prefix h (List.prefix_append name (c :: rest)) with hs | hs
  · exact hs
  · obtain ⟨t, rfl⟩ := hs
    cases t with
    | nil => simp
    | cons d t =>
      have hd : d :: t <+: c :: rest := (List.prefix_append_right_inj name).mp h
      obtain rfl : d = c := (List.cons_prefix_cons.mp hd).1
      simp at hc

end Expansion

end ServiceStubs
