import ServiceStubs.Expansion.Fragment
import ServiceStubs.Proofs.Text.Characters

/-!
# Names in generated code

The identifiers that generated code is made of hold no character that could end them early or be
taken for something else where they stand.

## Main definitions

* `Schema.Plain`: texts without signs, blanks and quotes

## Main statements

* `Schema.plain_constantName`, `Schema.plain_factoryName`: identifiers made of words
* `Schema.Plain.transportName`, `Schema.Plain.clientName`, `Schema.Plain.typeVariable`: identifiers
  made of identifiers
-/

namespace ServiceStubs

namespace Schema

/-- A text without characters that no identifier holds. -/
def Plain (name : String) : Prop := ∀ c ∈ name.toList, Text.isForeign c = false

instance (name : String) : Decidable (Plain name) :=
  decidable_of_iff (name.toList.all (!Text.isForeign ·) = true) (by simp [Plain])

namespace Plain

theorem of_isIdentifier {name : String} (h : Text.isIdentifier name.toList = true) :
    Plain name := by
  intro c hc
  by_contra hforeign
  exact Text.not_mem_of_isIdentifier h (by simpa using hforeign) hc

theorem of_isIdentifierPart {name : String}
    (h : ∀ c ∈ name.toList, Text.isIdentifierPart c = true) : Plain name := by
  intro c hc
  simp [Text.isForeign, h c hc]

theorem append {a b : String} (ha : Plain a) (hb : Plain b) : Plain (a ++ b) := by
  intro c hc
  rw [String.toList_append, List.mem_append] at hc
  exact hc.elim (ha c) (hb c)

/-- A class of foreign characters has none in a plain text. -/
theorem eq_false {name : String} (h : Plain name) {f : Char → Bool}
    (hf : ∀ c, f c = true → Text.isForeign c = true) : ∀ c ∈ name.toList, f c = false := by
  intro c hc
  by_contra htrue
  have hforeign := hf c (by simpa using htrue)
  simp [h c hc] at hforeign

theorem not_mem {name : String} (h : Plain name) {c : Char} (hc : Text.isForeign c = true) :
    c ∉ name.toList := by
  intro hmem
  simp [h c hmem] at hc

theorem transportName {m : Method} (h : Plain m.name) : Plain m.transportName :=
  h.append (by decide)

theorem clientName {s : Service} (h : Plain s.name) : Plain s.clientName :=
  h.append (by decide)

theorem typeVariable {s : Service} (h : Plain s.name) : Plain s.typeVariable := by
  refine (Plain.append (by decide) fun c hc => h c ?_).append (by decide)
  rw [String.toList_ofList] at hc
  exact (List.dropWhile_sublist _).subset hc

end Plain

theorem plain_lead (v : Visibility) : Plain v.lead := by
  cases v <;> decide

theorem plain_constantName (s : Service) (m : Method) : Plain (s.constantName m) := by
  have hwords (name : String) : Plain (Text.shoutyCase name) :=
    .of_isIdentifierPart fun _ => Text.isIdentifierPart_of_mem_shoutyCase
  exact (((plain_lead _).append (hwords _)).append (by decide)).append (hwords _)

theorem plain_factoryName (s : Service) : Plain s.factoryName := by
  have hwords : Plain (Text.snakeCase s.name) :=
    .of_isIdentifierPart fun _ => Text.isIdentifierPart_of_mem_snakeCase
  exact ((plain_lead _).append (by decide)).append hwords

end Schema

end ServiceStubs
