import ServiceStubs.Proofs.Expansion.Characters
import ServiceStubs.Proofs.Expansion.Namespace

/-!
# Generated names as names of the language

A statement can bind a text only if the text is an identifier that is no reserved word. The client,
the factory and the type variable of a service are such whatever the service is called. The
interface has the name of the service, and that is a reserved word if the source writes one in other
characters.

A constant is put together from words, and words keep only the letters and digits of ASCII. What is
left at the front of a name that starts with another letter may be a digit. The underscore that
leads the names of a private service hides it; a public service has nothing in front of its words.

## Main definitions

* `Schema.Service.StartsWithDigit`: the services whose constants start with a digit

## Main statements

* `Schema.isValid_constantName_iff`: which constants can be bound
* `Expansion.Draft.isValid_generatedNames`: which names of an expansion can be bound
-/

namespace ServiceStubs

namespace Schema

open Token

/-- The service is public and the first ASCII letter or digit of its name is a digit. -/
def Service.StartsWithDigit (s : Service) : Prop :=
  s.visibility = .isPublic ∧ ∃ c, s.name.toList.find? Text.isWordChar = some c ∧ c.isDigit = true

theorem isValid_clientName {s : Service} (h : Text.isIdentifier s.name.toList = true) :
    IsValid s.clientName := by
  have hsuffix : ∀ c ∈ "Client".toList, Text.isIdentifierPart c = true :=
    List.all_eq_true.mp (by decide)
  refine ⟨?_, fun hmem => ?_⟩
  · rw [Service.clientName, String.toList_append]
    exact Text.isIdentifier_append h hsuffix
  · have hends : ∀ word ∈ keywords, ¬ "Client".toList.isSuffixOf word.toList = true := by decide
    refine hends _ hmem (List.isSuffixOf_iff_suffix.mpr ?_)
    rw [Service.clientName, String.toList_append]
    exact List.suffix_append _ _

theorem isValid_factoryName (s : Service) : IsValid s.factoryName := by
  have hlead : Text.isIdentifier (s.visibility.lead ++ "create_").toList = true := by
    cases s.visibility <;> decide
  refine .of_underscore ?_ (by simp [Service.factoryName])
  rw [Service.factoryName, String.toList_append]
  exact Text.isIdentifier_append hlead fun _ => Text.isIdentifierPart_of_mem_snakeCase

theorem isValid_typeVariable {s : Service} (h : Text.isIdentifier s.name.toList = true) :
    IsValid s.typeVariable := by
  refine .of_underscore ?_ (by simp [Service.typeVariable])
  have hlead : Text.isIdentifier "_".toList = true := by decide
  have hsuffix : ∀ c ∈ "T".toList, Text.isIdentifierPart c = true :=
    List.all_eq_true.mp (by decide)
  rw [Service.typeVariable, String.toList_append, String.toList_append]
  refine Text.isIdentifier_append (Text.isIdentifier_append hlead fun c hc => ?_) hsuffix
  rw [String.toList_ofList] at hc
  exact Text.isIdentifierPart_of_mem h ((List.dropWhile_sublist _).subset hc)

theorem isIdentifierPart_of_mem_constantName (s : Service) (m : Method) :
    ∀ c ∈ (s.constantName m).toList, Text.isIdentifierPart c = true := by
  have hlead : ∀ c ∈ s.visibility.lead.toList, Text.isIdentifierPart c = true := by
    cases s.visibility <;> exact List.all_eq_true.mp (by decide)
  have hinfix : ∀ c ∈ "_METHOD_".toList, Text.isIdentifierPart c = true :=
    List.all_eq_true.mp (by decide)
  intro c hc
  rw [Service.constantName, Method.constantName] at hc
  simp only [String.toList_append, List.mem_append] at hc
  rcases hc with ((hc | hc) | hc) | hc
  · exact hlead c hc
  · exact Text.isIdentifierPart_of_mem_shoutyCase hc
  · exact hinfix c hc
  · exact Text.isIdentifierPart_of_mem_shoutyCase hc

/-- What a constant starts with: the underscore of a private service, or else the first letter or
digit of the service, or else the underscore behind its words. -/
theorem head?_constantName (s : Service) (m : Method) : (s.constantName m).toList.head? =
    match s.visibility with
    | .isPrivate => some '_'
    | .isPublic => some (((s.name.toList.find? Text.isWordChar).map Char.toUpper).getD '_') := by
  have hname : s.constantName m = s.visibility.lead ++ Text.shoutyCase s.name ++ "_METHOD_" ++
    Text.shoutyCase m.name := rfl
  rw [hname]
  cases s.visibility with
  | isPrivate => simp [Visibility.lead]
  | isPublic => simp [Visibility.lead, Text.head?_shoutyCase]

/-- **A constant can be bound** unless a digit of the service has come to its front. -/
theorem isValid_constantName_iff (s : Service) (m : Method) :
    IsValid (s.constantName m) ↔ ¬ s.StartsWithDigit := by
  have hunderscore : '_' ∈ (s.constantName m).toList := by
    simp [Service.constantName, Method.constantName]
  have hname : IsValid (s.constantName m) ↔
      ∃ c, (s.constantName m).toList.head? = some c ∧ Text.isIdentifierStart c = true := by
    rw [← Text.isIdentifier_iff_head? (isIdentifierPart_of_mem_constantName s m)]
    exact ⟨fun h => h.1, fun h => .of_underscore h hunderscore⟩
  have hstart : Text.isIdentifierStart '_' = true := by decide
  rw [hname, head?_constantName, Service.StartsWithDigit]
  cases s.visibility with
  | isPrivate => simp [hstart]
  | isPublic =>
    cases hfirst : s.name.toList.find? Text.isWordChar with
    | none => simp [hstart]
    | some c => simp [Text.isIdentifierStart_toUpper (List.find?_some hfirst)]

end Schema

namespace Expansion

open Schema Token

namespace Draft

/-- **The names that an expansion binds can be bound**, except the constants of services whose words
start with a digit and have nothing in front, and the interfaces of services that are called like
reserved words. -/
theorem isValid_generatedNames {source filename : String} {d : Draft}
    (h : Draft.ofSource source filename = .ok d) : ∀ n ∈ d.generatedNames,
      (IsValid n ↔ ¬ ((∃ s ∈ d.declared.services, s.StartsWithDigit ∧ n ∈ s.methods.map s.constantName) ∨
        n ∈ keywords ∧ ∃ s ∈ d.declared.services, n = s.name)) := by
  unfold Draft.ofSource at h
  obtain ⟨m, hm, h⟩ := exists_of_bind h
  obtain rfl := Except.ok.inj h
  intro n hn
  -- a name that is neither a constant starting with a digit nor the name of a service
  suffices hname : IsValid n ∨ (∃ s ∈ m.services, ∃ method ∈ s.methods, n = s.constantName method) ∨
      Text.isIdentifier n.toList = true ∧ ∃ s ∈ m.services, n = s.name by
    constructor
    · rintro hvalid (⟨s, -, hdigit, hmem⟩ | ⟨hreserved, -⟩)
      · obtain ⟨method, -, rfl⟩ := List.mem_map.mp hmem
        exact (isValid_constantName_iff s method).mp hvalid hdigit
      · exact hvalid.2 hreserved
    · intro hexcept
      obtain ⟨hdigit, hreserved⟩ := not_or.mp hexcept
      rcases hname with hname | ⟨s, hs, method, hmethod, rfl⟩ | ⟨hidentifier, hservice⟩
      · exact hname
      · refine (isValid_constantName_iff s method).mpr fun hstart => hdigit ⟨s, hs, hstart, ?_⟩
        exact List.mem_map_of_mem hmethod
      · exact ⟨hidentifier, fun hmem => hreserved ⟨hmem, hservice⟩⟩
  rcases List.mem_append.mp hn with hn | hn
  · have haliases : ∀ a ∈ importAliases, IsValid a := by decide +kernel
    exact .inl (haliases n ((importedNames_sublist _).subset hn))
  · obtain ⟨s, hs, hn⟩ := List.mem_flatMap.mp hn
    obtain ⟨body, marked, hread, hdeclares⟩ := exists_declares hm (isEmpty_eq_false_of_mem hs)
    have hnamed := Grammar.named_of_readModule hread
    have hservice := (hdeclares.isName_service hnamed hs).1
    rw [boundNames_service s (hdeclares.plain_service hnamed hs).1, List.mem_append] at hn
    rcases hn with hn | hn
    · obtain ⟨method, hmethod, rfl⟩ := List.mem_map.mp hn
      exact .inr (.inl ⟨s, hs, method, hmethod, rfl⟩)
    · simp only [List.mem_cons, List.not_mem_nil, or_false] at hn
      rcases hn with rfl | rfl | rfl | rfl
      · exact .inr (.inr ⟨hservice.1, s, hs, rfl⟩)
      · exact .inl (isValid_typeVariable hservice.1)
      · exact .inl (isValid_factoryName s)
      · exact .inl (isValid_clientName hservice.1)

theorem isValid_generatedNames_call :
    ∃ d, Draft.ofSource callSource "a.py" = .ok d ∧ "A_METHOD_F" ∈ d.generatedNames ∧
      ∀ n ∈ d.generatedNames, (IsValid n ↔
        ¬ ((∃ s ∈ d.declared.services, s.StartsWithDigit ∧ n ∈ s.methods.map s.constantName) ∨
          n ∈ keywords ∧ ∃ s ∈ d.declared.services, n = s.name)) := by
  have hread : (Draft.ofSource callSource "a.py").toOption.map
      (fun d => d.declared.services.flatMap Service.moduleNames) =
      some ["A", "AClient", "create_a", "_AT", "A_METHOD_F"] := by
    rw [Draft.ofSource_eq (show callSource.toList = _ from String.toList_ofList)]
    decide +kernel
  obtain ⟨d, hd, hnames⟩ := exists_of_toOption_map hread
  exact ⟨d, hd, mem_generatedNames hd (by simp [hnames]), isValid_generatedNames hd⟩

/-- A service whose name holds a digit behind a letter that words leave out, and one whose name is a
reserved word in wide letters. -/
def accentSource : String :=
  "from grpc_stub_generator import service\n@service\nclass é1:\n def f(self): ...\n" ++
    "@service\nclass ｄｅｆ: ...\n"

/-- A module is expanded to one that binds `1_METHOD_F` and `def`. -/
theorem generatedNames_start_with_digit :
    ∃ d, Draft.ofSource accentSource "a.py" = .ok d ∧ d.hasExpansions = true ∧
      "1_METHOD_F" ∈ d.generatedNames ∧ ¬ IsValid "1_METHOD_F" ∧
      "def" ∈ d.generatedNames ∧ ¬ IsValid "def" := by
  have hread : (Draft.ofSource accentSource "a.py").toOption.map
      (fun d => (d.hasExpansions, d.declared.services.flatMap Service.moduleNames)) =
      some (true, ["é1", "é1Client", "create_1", "_é1T", "1_METHOD_F",
        "def", "defClient", "create_def", "_defT"]) := by
    rw [Draft.ofSource_eq
      (show accentSource.toList = _ from toList_append_eq String.toList_ofList String.toList_ofList)]
    decide +kernel
  obtain ⟨d, hd, hnames⟩ := exists_of_toOption_map hread
  obtain ⟨hexpands, hnames⟩ := Prod.mk.inj hnames
  have hconstant : "1_METHOD_F" ∈ d.generatedNames := mem_generatedNames hd (by simp [hnames])
  have hinterface : "def" ∈ d.generatedNames := mem_generatedNames hd (by simp [hnames])
  exact ⟨d, hd, hexpands, hconstant, by decide, hinterface, by decide⟩

end Draft

end Expansion

end ServiceStubs
