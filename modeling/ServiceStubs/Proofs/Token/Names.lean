import ServiceStubs.Proofs.Text.Characters
import ServiceStubs.Proofs.Text.Normal
import ServiceStubs.Token.Basic

/-!
# Names

What a name token holds is an identifier in normal form. It may be a reserved word: those are told
from names as they are written, and a word that is written in other characters is none even if its
normal form is. Such a name is read from a source, but where it is written again a reserved word is
read.

## Main definitions

* `Token.IsName`: the texts that name tokens hold
* `Token.IsValid`: the identifiers that are no reserved words
* `Token.IsFree`, `Token.FreeName`: the names that are read where they are written

## Main statements

* `Token.IsFree.exists_name`: the token that such a name is read as
* `Token.IsName.append`: names that others are derived to
-/

namespace ServiceStubs

namespace Token

/-- The text is an identifier in normal form. -/
def IsName (text : String) : Prop :=
  Text.isIdentifier text.toList = true ∧ Text.normalForm text.toList = text.toList

instance (text : String) : Decidable (IsName text) := inferInstanceAs (Decidable (_ ∧ _))

/-- The text is an identifier and no reserved word. -/
def IsValid (text : String) : Prop := Text.isIdentifier text.toList = true ∧ text ∉ keywords

instance (text : String) : Decidable (IsValid text) := inferInstanceAs (Decidable (_ ∧ _))

/-- The text is a name and no reserved word. -/
def IsFree (text : String) : Prop := IsName text ∧ text ∉ keywords

instance (text : String) : Decidable (IsFree text) := inferInstanceAs (Decidable (_ ∧ _))

/-- A name that is written in normal form and is no reserved word. -/
structure FreeName extends Name where
  isWritten : written = text
  isFree : text ∉ keywords

instance : Coe FreeName Name := ⟨FreeName.toName⟩

theorem Name.isName (id : Name) : IsName id.text := ⟨id.isIdentifier, id.isNormal⟩

/-- A free name is the name token of its text. -/
theorem IsFree.exists_name {text : String} (h : IsFree text) : ∃ id : FreeName, id.text = text :=
  ⟨{ text := text, isIdentifier := h.1.1, isNormal := h.1.2, written := text, isWritten := rfl,
     isFree := h.2 }, rfl⟩

theorem notMem_keywords_of_mem {text : String} {c : Char} (hc : c ∈ text.toList)
    (h : ∀ word ∈ keywords, c ∉ word.toList) : text ∉ keywords :=
  fun hmem => h text hmem hc

/-- No reserved word holds an underscore. -/
theorem notMem_keywords_of_underscore {text : String} (h : '_' ∈ text.toList) : text ∉ keywords :=
  notMem_keywords_of_mem h (by decide)

theorem IsValid.of_underscore {text : String} (h : Text.isIdentifier text.toList = true)
    (hmem : '_' ∈ text.toList) : IsValid text :=
  ⟨h, notMem_keywords_of_underscore hmem⟩

/-- **A name with ASCII letters behind it** is one. -/
theorem IsName.append {text ending : String} (h : IsName text)
    (hending : ending.toList.all fun c => Text.isAscii c && Text.isIdentifierPart c) :
    IsName (text ++ ending) := by
  have hall := List.all_eq_true.mp hending
  have hascii : ending.toList.all Text.isAscii = true :=
    List.all_eq_true.mpr fun c hc => (Bool.and_eq_true_iff.mp (hall c hc)).1
  rw [IsName, String.toList_append, Text.normalForm_append_ascii hascii, h.2]
  exact ⟨Text.isIdentifier_append h.1 fun c hc => (Bool.and_eq_true_iff.mp (hall c hc)).2, rfl⟩

end Token

end ServiceStubs
