import ServiceStubs.Expansion.Module

/-!
# Source texts by their characters

What is read from a text depends on its characters alone. The characters of a text that is given as
a literal are known without decoding it, so what such a text declares is evaluated on its
characters.

## Main statements

* `Schema.Module.ofSource_eq`, `Expansion.Draft.ofSource_eq`: reading a text by its characters
-/

namespace ServiceStubs

open Schema

section Texts

variable {source : String} {cs : List Char}

theorem toList_append_eq {text : String} {ds : List Char} (h : source.toList = cs)
    (h' : text.toList = ds) :
    (source ++ text).toList = cs ++ ds := by
  rw [String.toList_append, h, h']

/-- The declarations of a text with the given characters. -/
def Schema.Module.ofChars (cs : List Char) : Except Failure Module :=
  match Grammar.readModule cs with
  | .error place => reject .ungrammatical place
  | .ok body => Module.ofBody ((Text.lines cs).map String.ofList) body

theorem Schema.Module.ofSource_eq (h : source.toList = cs) :
    Module.ofSource source = Module.ofChars cs := by
  subst h
  rfl

theorem Expansion.Draft.ofSource_eq (h : source.toList = cs) (filename : String) :
    Draft.ofSource source filename = (do
      let declared ← Module.ofChars cs
      pure { declared := declared, sourceLines :=
        (Text.lines cs).map String.ofList, filename := filename }) := by
  subst h
  rfl

end Texts

end ServiceStubs
