import ServiceStubs.Proofs.Expansion.Names
import ServiceStubs.Proofs.Expansion.Reading
import ServiceStubs.Proofs.Text.Docstring

/-!
# What the artifacts of a service say

Each artifact is read back line by line: the constants and their wire names, the handlers that the
factory registers, the functions of the interface and the calls of the client.

## Main statements

* `Expansion.constantsIn_constants`, `Expansion.registrationsIn_factory`,
  `Expansion.memberNames_interface`, `Expansion.callsIn_client`: the four artifacts
* `Expansion.boundNames_service`: the names that they bind at module level
-/

namespace ServiceStubs

namespace Expansion

open Schema

/-! ### Pieces -/

/-- A function is its header and an indented body. -/
theorem function_eq (name : String) (parameters : List String) (returns : Option String)
    (body : List String) :
    ∃ rest, Code.function name parameters returns body =
      ("def " ++ (name ++ ("(" ++ rest))) :: Code.indent body := by
  unfold Code.function
  cases body with
  | nil =>
    refine ⟨Code.commaSeparated parameters ++ (") -> " ++ (returns.getD "None" ++ ": ...")), ?_⟩
    simp [String.append_assoc, Code.indent]
  | cons line body =>
    refine ⟨Code.commaSeparated parameters ++ (") -> " ++ (returns.getD "None" ++ ":")), ?_⟩
    simp [String.append_assoc]

theorem indent_append (ls ms : List String) :
    Code.indent (ls ++ ms) = Code.indent ls ++ Code.indent ms := List.map_append

/-- A reader that takes nothing from empty lines takes from indented code what it takes from the
lines behind their indentation. -/
theorem filterMap_indent {β : Type} {f g : String → Option β} (hempty : f "" = none)
    (hempty' : g "" = none) (h : ∀ line, f (Code.indentation ++ line) = g line)
    (ls : List String) : (Code.indent ls).filterMap f = ls.filterMap g := by
  rw [Code.indent, List.filterMap_map]
  congr 1
  funext line
  by_cases hline : line = ""
  · subst hline
    simp [hempty, hempty']
  · simp [hline, h]

/-- A sign that no identifier holds ends a name. -/
theorem behind?_plain {name : String} (hname : Plain name) {c : Char}
    (hc : Text.isForeign c = true) (start : String) {rest : String}
    (hrest : rest.toList.head? = some c) :
    behind? start (· == c) (start ++ (name ++ rest)) = some name := by
  refine behind?_eq_some (hname.eq_false fun d hd => ?_) (by simp [hrest])
  obtain rfl : d = c := by simpa using hd
  exact hc

theorem behindBoth?_plain {first second : String} (hfirst : Plain first) (hsecond : Plain second)
    {c d : Char} (hc : Text.isForeign c = true) (hd : Text.isForeign d = true) (start : String)
    {between rest : String} (hbetween : between.toList.head? = some c)
    (hrest : rest.toList.head? = some d) :
    behindBoth? start between (· == c) (· == d)
      (start ++ (first ++ (between ++ (second ++ rest)))) = some (first, second) := by
  have hread : behind? start (· == c) (start ++ (first ++ (between ++ (second ++ rest)))) =
      some first := behind?_plain hfirst hc start (by simp [hbetween])
  have hread' : behind? (start ++ first ++ between) (· == d)
      (start ++ first ++ between ++ (second ++ rest)) = some second :=
    behind?_plain hsecond hd _ hrest
  simp only [String.append_assoc] at hread'
  simp [behindBoth?, hread, hread', String.append_assoc]

/-! ### Left margins -/

theorem boundName?_empty : boundName? "" = none := by decide

theorem boundName?_blank {line : String} (h : line.toList.head? = some ' ') :
    boundName? line = none := by
  simp [boundName?, h]

theorem boundName?_indented (line : String) : boundName? (Code.indentation ++ line) = none :=
  boundName?_blank (by simp [Code.indentation])

theorem boundNames_indent (ls : List String) : (Code.indent ls).filterMap boundName? = [] := by
  rw [filterMap_indent (g := fun _ => none) boundName?_empty rfl boundName?_indented]
  simp

/-- The words that a line at the left margin can start with. -/
def marginWords : List String := ["import ", "from ", "class ", "def "]

theorem boundName?_class {name rest : String} (hname : Plain name)
    (hrest : rest.toList.head? = some '(' ∨ rest.toList.head? = some ':') :
    boundName? ("class " ++ (name ++ rest)) = some name := by
  have hread : behind? "class " (fun c => c == '(' || c == ':') ("class " ++ (name ++ rest)) =
      some name := by
    refine behind?_eq_some (hname.eq_false fun c hc => ?_) ?_
    · rcases by simpa using hc with rfl | rfl <;> rfl
    · rcases hrest with h | h <;> simp [h]
  simp [boundName?, hread]

theorem functionName?_eq_some {name : String} (hname : Plain name) (rest : String) :
    functionName? ("def " ++ (name ++ ("(" ++ rest))) = some name :=
  behind?_plain hname rfl _ (by simp)

theorem boundName?_def {name rest : String} (hname : Plain name) :
    boundName? ("def " ++ (name ++ ("(" ++ rest))) = some name := by
  have hread := functionName?_eq_some hname rest
  have hclass : behind? "class " (fun c => c == '(' || c == ':')
      ("def " ++ (name ++ ("(" ++ rest))) = none := by
    refine behind?_eq_none ?_
    simp
  simp [boundName?, hread, hclass]

/-- A name in front of an annotation or an assignment. -/
theorem boundName?_assigned {name rest : String} (hname : Plain name) (hne : name ≠ "")
    (hrest : rest.toList.head? = some ':' ∨ rest.toList.head? = some ' ')
    (hstart : ∀ word ∈ marginWords, ¬ word.toList <+: (name ++ rest).toList) :
    boundName? (name ++ rest) = some name := by
  obtain ⟨c, cs, hcs⟩ : ∃ c cs, name.toList = c :: cs :=
    List.exists_cons_of_ne_nil (by simpa using hne)
  have hc : Text.isForeign c = false := hname c (by simp [hcs])
  have hhead : (name ++ rest).toList.head? = some c := by simp [hcs]
  have hread : behind? "" (fun c => c == ':' || c == ' ') (name ++ rest) = some name := by
    rw [← String.empty_append (s := name ++ rest)]
    refine behind?_eq_some (hname.eq_false fun d hd => ?_) ?_
    · rcases by simpa using hd with rfl | rfl <;> rfl
    · rcases hrest with h | h <;> simp [h]
  have hclass : behind? "class " (fun c => c == '(' || c == ':') (name ++ rest) = none :=
    behind?_eq_none (hstart _ (by simp [marginWords]))
  have hdef : functionName? (name ++ rest) = none :=
    behind?_eq_none (hstart _ (by simp [marginWords]))
  have himport : ("import ".toList.isPrefixOf (name ++ rest).toList ||
      "from ".toList.isPrefixOf (name ++ rest).toList) = false := by
    have h₁ := hstart "import " (by simp [marginWords])
    have h₂ := hstart "from " (by simp [marginWords])
    rw [← List.isPrefixOf_iff_prefix] at h₁ h₂
    simp only [Bool.not_eq_true] at h₁ h₂
    rw [h₁, h₂]
    rfl
  unfold boundName?
  rw [hhead, himport, hclass, hdef, hread]
  split
  · next h => cases h
  · next h =>
    obtain rfl := Option.some.inj h
    cases hc
  · next h =>
    obtain rfl := Option.some.inj h
    cases hc
  · next h =>
    obtain rfl := Option.some.inj h
    cases hc
  · rfl

/-! ### Constants -/

theorem boundName?_constant (s : Service) (m : Method) (rest : String) :
    boundName? (s.constantName m ++ (": " ++ rest)) = some (s.constantName m) := by
  have hplain := plain_constantName s m
  have hwords : ∀ word ∈ marginWords, ':' ∉ word.toList ∧ ' ' ∈ word.toList := by decide
  refine boundName?_assigned hplain ?_ (.inl (by simp)) fun word hword hp => ?_
  · simp [Service.constantName, Method.constantName]
  · -- the colon ends the name, and each of the words holds a blank
    have hline : (s.constantName m ++ (": " ++ rest)).toList =
        (s.constantName m).toList ++ ':' :: ' ' :: rest.toList := by simp
    rw [hline] at hp
    obtain ⟨hcolon, hblank⟩ := hwords word hword
    exact hplain.not_mem rfl ((prefix_of_prefix_append hcolon hp).subset hblank)

theorem wireName?_constant (ident : String) (hident : Plain ident) (rest : String) :
    wireName? ("    name=\"" ++ (ident ++ ("\"" ++ rest))) = some ident :=
  behind?_plain hident rfl _ (by simp)

theorem constantsIn_cons_none {line : String} (h : boundName? line = none) (rest : List String) :
    constantsIn (line :: rest) = constantsIn rest := by
  rw [constantsIn, h]

/-- The lines of a constant, as far as they are looked at. -/
theorem constant_lines (s : Service) (m : Method) :
    ∃ typed value, (constant s m).lines =
      [s.constantName m ++ (": " ++ typed), "    ty=" ++ (runtime ++ ".MethodType.UNARY,"),
        "    name=\"" ++ (s.constantName m ++ ("\"" ++ ",")), "    req_mar=" ++ value,
        "    resp_mar=" ++ value, ")"] := by
  refine ⟨runtime ++ (".Method[" ++ (m.requestType ++ (", " ++ (m.responseType ++ ("] = " ++
    (runtime ++ ".Method(")))))), runtime ++ (".Marshaller(ser=" ++ (codec ++ (".ser, de=" ++
    (codec ++ (".de)" ++ ","))))), ?_⟩
  simp [constant, String.append_assoc]

theorem constants_lines (s : Service) :
    (constants s).lines = s.methods.flatMap fun m => (constant s m).lines := by
  simp [constants, Fragment.append, Fragment.concat, List.flatMap_map]

theorem constantsIn_constant (s : Service) (m : Method) (rest : List String) :
    constantsIn ((constant s m).lines ++ rest) =
      (s.constantName m, s.constantName m) :: constantsIn rest := by
  obtain ⟨typed, value, hlines⟩ := constant_lines s m
  have hty : wireName? ("    ty=" ++ (runtime ++ ".MethodType.UNARY,")) = none := by
    decide
  have hwire := wireName?_constant _ (plain_constantName s m) ","
  rw [hlines]
  simp only [List.cons_append, List.nil_append]
  rw [constantsIn, boundName?_constant, List.findSome?_cons, hty, List.findSome?_cons, hwire]
  -- the other lines of the descriptor are indented, and the last one closes it
  simp only
  rw [constantsIn_cons_none (boundName?_blank (by simp)),
    constantsIn_cons_none (boundName?_blank (by simp)),
    constantsIn_cons_none (boundName?_blank (by simp)),
    constantsIn_cons_none (boundName?_blank (by simp)),
    constantsIn_cons_none (by decide)]

/-- **The constants of a service** carry their own names as wire names. -/
theorem constantsIn_constants (s : Service) :
    constantsIn (constants s).lines =
      s.methods.map fun m => (s.constantName m, s.constantName m) := by
  rw [constants_lines]
  induction s.methods with
  | nil => rfl
  | cons m ms ih => rw [List.flatMap_cons, constantsIn_constant, ih, List.map_cons]

/-! ### The factory -/

theorem registration?_eq_some {constant handler : String} (hconstant : Plain constant)
    (hhandler : Plain handler) :
    registration? (registrationStart ++ (constant ++ (", instance." ++ (handler ++ ")")))) =
      some (constant, handler) :=
  behindBoth?_plain hconstant hhandler rfl rfl registrationStart rfl rfl

theorem registration?_eq_none {line : String} (h : ¬ registrationStart.toList <+: line.toList) :
    registration? line = none := by
  rw [registration?, behindBoth?, behind?_eq_none h]
  rfl

theorem registrations_registration (s : Service) (m : Method) (hm : Plain m.name) :
    (Code.indent (registration s m)).filterMap registration? =
      [(s.constantName m, m.transportName)] := by
  have hcopy : registration? (Code.indentation ++ "instance = _copy.copy(s)") = none := by
    decide
  have hregister := registration?_eq_some (plain_constantName s m) (hm.transportName)
  have hlines : Code.indent (registration s m) = [Code.indentation ++ "instance = _copy.copy(s)",
      registrationStart ++ (s.constantName m ++ (", instance." ++ (m.transportName ++ ")")))] := by
    have hstart : registrationStart =
        Code.indentation ++ "builder = builder.add_unary_handler(" := by decide
    simp [Code.indent, registration, hstart, String.append_assoc]
  rw [hlines]
  simp [hcopy, hregister]

theorem isQuiet_of_not_isForeign {c : Char} (h : Text.isForeign c = false) :
    Text.isQuiet c = true := by
  by_contra hloud
  have hcases : c = '\\' ∨ c = '"' ∨ Text.isBoundary c = true := by
    simpa [Text.isQuiet, imp_iff_not_or, or_assoc] using hloud
  rcases hcases with rfl | rfl | hboundary
  · cases h
  · cases h
  · simp only [Text.isBoundary, Bool.or_eq_true, beq_iff_eq, or_assoc] at hboundary
    rcases hboundary with rfl | rfl | rfl | rfl | rfl | rfl | rfl | rfl | rfl | rfl <;>
      exact absurd h (by decide +kernel)

/-- A text about a service takes one line. -/
theorem docstringLines_about (before : String) {name : String} (behind : String)
    (hname : Plain name) (hbefore : before.toList.all Text.isQuiet = true)
    (hbehind : behind.toList.all Text.isQuiet = true) (hne : before ≠ "") :
    Text.docstringLines (before ++ name ++ behind) =
      ["\"\"\"" ++ (before ++ name ++ behind) ++ "\"\"\""] := by
  refine Text.docstringLines_eq (fun c hc => ?_) (by simp [hne])
  rw [String.toList_append, String.toList_append, List.mem_append, List.mem_append] at hc
  rcases hc with (hc | hc) | hc
  · exact List.all_eq_true.mp hbefore c hc
  · exact isQuiet_of_not_isForeign (hname c hc)
  · exact List.all_eq_true.mp hbehind c hc

/-- The body of the function that builds the dispatch table. -/
def factoryBody (s : Service) : List String :=
  Text.docstringLines ("Build the dispatch table of a `" ++ s.name ++ "` implementation.") ++
    ["builder = " ++ runtime ++ ".ServiceBuilder()"] ++ s.methods.flatMap (registration s) ++
    ["return builder.build()"]

theorem factory_lines (s : Service) :
    ∃ value header, (factory s).lines =
      [s.typeVariable ++ (" " ++ value), "", "", "def " ++ (s.factoryName ++ ("(" ++ header))] ++
        Code.indent (factoryBody s) := by
  obtain ⟨header, hfunction⟩ := function_eq s.factoryName ["s: " ++ s.typeVariable]
    (some (runtime ++ ".Service")) (factoryBody s)
  refine ⟨"= _typing.TypeVar(\"" ++ (s.typeVariable ++ ("\", bound=" ++ (s.name ++ ")"))), header,
    ?_⟩
  have hequals : " = _typing.TypeVar(\"" = " " ++ "= _typing.TypeVar(\"" := by decide
  rw [factory]
  dsimp only
  rw [← factoryBody, hfunction, hequals]
  simp only [String.append_assoc, List.cons_append, List.nil_append]

/-- **The factory of a service** registers the transport methods under the constants, in order. -/
theorem registrationsIn_factory (s : Service) (hs : Plain s.name)
    (hm : ∀ m ∈ s.methods, Plain m.name) :
    registrationsIn (factory s).lines =
      s.methods.map fun m => (s.constantName m, m.transportName) := by
  obtain ⟨value, header, hlines⟩ := factory_lines s
  have hhead : [s.typeVariable ++ (" " ++ value), "", "",
      "def " ++ (s.factoryName ++ ("(" ++ header))].filterMap registration? = [] := by
    have hvariable : registration? (s.typeVariable ++ (" " ++ value)) = none :=
      registration?_eq_none (by simp [Service.typeVariable, registrationStart])
    have hheader : registration? ("def " ++ (s.factoryName ++ ("(" ++ header))) = none :=
      registration?_eq_none (by simp [registrationStart])
    have hempty : registration? "" = none := by decide
    simp [hvariable, hheader, hempty]
  have hdocstring : (Code.indent (Text.docstringLines
      ("Build the dispatch table of a `" ++ s.name ++ "` implementation."))).filterMap
      registration? = [] := by
    rw [docstringLines_about "Build the dispatch table of a `" "` implementation." hs
      (by rfl) (by rfl) (by simp)]
    have : registration? (Code.indentation ++ ("\"\"\"" ++
        ("Build the dispatch table of a `" ++ s.name ++ "` implementation.") ++ "\"\"\"")) = none :=
      registration?_eq_none (by simp [Code.indentation, registrationStart])
    simp [Code.indent, this]
  have hbuilder : (Code.indent ["builder = " ++ runtime ++ ".ServiceBuilder()"]).filterMap
      registration? = [] := by decide
  have hmethods : (Code.indent (s.methods.flatMap (registration s))).filterMap registration? =
      s.methods.map fun m => (s.constantName m, m.transportName) := by
    rw [Code.indent, List.map_flatMap, List.filterMap_flatMap, List.map_eq_flatMap]
    exact List.flatMap_congr fun m hmem => registrations_registration s m (hm m hmem)
  have hreturn : (Code.indent ["return builder.build()"]).filterMap registration? = [] := by
    decide
  rw [registrationsIn, hlines, factoryBody, indent_append, indent_append, indent_append]
  simp only [List.filterMap_append]
  rw [hhead, hdocstring, hbuilder, hmethods, hreturn]
  simp

/-! ### The interface -/

theorem functionName?_eq_none {line : String} (h : ¬ "def ".toList <+: line.toList) :
    functionName? line = none := behind?_eq_none h

theorem functionName?_empty : functionName? "" = none := by decide

/-- What an indented line defines in a class body it defines at the margin without that. -/
theorem memberName?_indented (line : String) :
    memberName? (Code.indentation ++ line) = functionName? line := by
  simp [memberName?, functionName?, behind?, Code.indentation]

theorem memberNames_indent (ls : List String) :
    (Code.indent ls).filterMap memberName? = ls.filterMap functionName? :=
  filterMap_indent (by decide) functionName?_empty memberName?_indented ls

theorem functionNames_indent (ls : List String) :
    (Code.indent ls).filterMap functionName? = [] := by
  rw [filterMap_indent (g := fun _ => none) functionName?_empty rfl fun line =>
    functionName?_eq_none (by simp [Code.indentation])]
  simp

theorem functionNames_function {name : String} (hname : Plain name) (parameters : List String)
    (returns : Option String) (body : List String) :
    (Code.function name parameters returns body).filterMap functionName? = [name] := by
  obtain ⟨rest, hlines⟩ := function_eq name parameters returns body
  rw [hlines, List.filterMap_cons_some (functionName?_eq_some hname rest), functionNames_indent]

theorem functionNames_decorators (m : Method) :
    (abstractDecorators m).filterMap functionName? = [] := by
  rw [List.filterMap_eq_nil_iff]
  intro line hline
  have hsign : ∃ rest, line = "@" ++ rest := by
    simp only [abstractDecorators, List.mem_append, List.mem_map, List.mem_singleton] at hline
    rcases hline with ⟨d, -, rfl⟩ | rfl <;> exact ⟨_, rfl⟩
  obtain ⟨rest, rfl⟩ := hsign
  exact functionName?_eq_none (by simp)

/-- Lines between blocks that a reader takes nothing from. -/
theorem filterMap_intercalate {β : Type} {f : String → Option β} {between : List String}
    (h : between.filterMap f = []) (blocks : List (List String)) :
    (between.intercalate blocks).filterMap f = blocks.flatMap (·.filterMap f) := by
  induction blocks with
  | nil => rfl
  | cons block rest ih =>
    cases rest with
    | nil => simp
    | cons next rest =>
      rw [List.intercalate_cons_cons, List.filterMap_append, List.filterMap_append, h, ih,
        List.append_nil]
      rfl

/-- The lines of an interface in front of its functions: decorators, header and docstring. -/
def interfaceHeading (s : Service) : List String :=
  s.decorators.map (Code.decorator · []) ++
    [Code.classHeader s.name (if s.bases.isEmpty then ["_abc.ABC"] else s.bases)] ++
    Code.indent ((s.docstring.map Text.docstringLines).getD [])

/-- Blocks behind a first one that may be missing, or a line that says nothing. -/
theorem exists_behind (documentation : List String) (blocks : List (List String)) :
    ∃ rest,
      (if ([""].intercalate ((if documentation.isEmpty then [] else [documentation]) ++
          blocks)).isEmpty then ["pass"]
        else [""].intercalate ((if documentation.isEmpty then [] else [documentation]) ++ blocks)) =
        documentation ++ rest ∧
      rest.filterMap functionName? = blocks.flatMap (·.filterMap functionName?) := by
  have hbetween : [""].filterMap functionName? = [] := by decide
  have hblocks := filterMap_intercalate hbetween blocks
  cases documentation with
  | nil =>
    simp only [List.isEmpty_nil, if_true, List.nil_append]
    cases hbody : [""].intercalate blocks with
    | nil =>
      rw [hbody] at hblocks
      exact ⟨["pass"], rfl, by rw [← hblocks]; decide⟩
    | cons line body => exact ⟨line :: body, rfl, by rw [← hbody, hblocks]⟩
  | cons line lines =>
    simp only [List.isEmpty_cons, Bool.false_eq_true, if_false]
    cases blocks with
    | nil => exact ⟨[], by simp, rfl⟩
    | cons block rest =>
      refine ⟨[""] ++ [""].intercalate (block :: rest), ?_, ?_⟩
      · rw [List.singleton_append, List.intercalate_cons_cons]
        simp
      · rw [List.filterMap_append, hbetween, hblocks, List.nil_append]

/-- **The interface of a service** defines its methods and their transport methods. -/
theorem memberNames_interface (s : Service) (hm : ∀ m ∈ s.methods, Plain m.name) :
    ∃ members, (interface s).lines = interfaceHeading s ++ members ∧
      members.filterMap memberName? =
        s.methods.map (·.name) ++ s.methods.map (·.transportName) := by
  obtain ⟨rest, hbody, hnames⟩ := exists_behind ((s.docstring.map Text.docstringLines).getD [])
    (s.methods.map declaredMethod ++ s.methods.map transportMethod)
  refine ⟨Code.indent rest, ?_, ?_⟩
  · have hlines : (interface s).lines = s.decorators.map (Code.decorator · []) ++
        Code.classHeader s.name (if s.bases.isEmpty then ["_abc.ABC"] else s.bases) ::
          Code.indent ((s.docstring.map Text.docstringLines).getD [] ++ rest) := by
      rw [← hbody]
      simp [interface, interfaceBody, List.append_assoc]
    rw [hlines, indent_append, interfaceHeading]
    simp
  · have hdeclared : ∀ m ∈ s.methods, (declaredMethod m).filterMap functionName? = [m.name] := by
      intro m hmem
      rw [declaredMethod, List.filterMap_append, functionNames_decorators,
        functionNames_function (hm m hmem), List.nil_append]
    have htransport : ∀ m ∈ s.methods,
        (transportMethod m).filterMap functionName? = [m.transportName] := by
      intro m hmem
      rw [transportMethod, List.filterMap_append, functionNames_decorators,
        functionNames_function (hm m hmem).transportName, List.nil_append]
    rw [memberNames_indent, hnames, List.flatMap_append, List.flatMap_map, List.flatMap_map,
      List.flatMap_congr hdeclared, List.flatMap_congr htransport, ← List.map_eq_flatMap,
      ← List.map_eq_flatMap]

/-! ### The client -/

theorem callsIn_cons_none {line : String} (h : memberName? line = none) (rest : List String) :
    callsIn (line :: rest) = callsIn rest := by
  rw [callsIn, h]

theorem memberName?_eq_none {line : String} (h : ¬ "    def ".toList <+: line.toList) :
    memberName? line = none := behind?_eq_none h

/-- A function of one line says what that line does. -/
theorem callsIn_variant {name : String} (hname : Plain name) (parameters : List String)
    (returns : Option String) {body : String} (hbody : body ≠ "") (rest : List String) :
    callsIn (Code.indent ("" :: Code.function name parameters returns [body]) ++ rest) =
      ((call? (Code.indentation ++ (Code.indentation ++ body))).map (name, ·)).toList ++
        callsIn rest := by
  obtain ⟨header, hlines⟩ := function_eq name parameters returns [body]
  have hindented : Code.indent ("" :: Code.function name parameters returns [body]) =
      ["", Code.indentation ++ ("def " ++ (name ++ ("(" ++ header))),
        Code.indentation ++ (Code.indentation ++ body)] := by
    rw [hlines]
    simp [Code.indent, hbody]
  have hmember : memberName? (Code.indentation ++ ("def " ++ (name ++ ("(" ++ header)))) =
      some name := by
    rw [memberName?_indented]
    exact functionName?_eq_some hname header
  have hinner : memberName? (Code.indentation ++ (Code.indentation ++ body)) = none :=
    memberName?_eq_none (by simp [Code.indentation])
  rw [hindented]
  simp only [List.cons_append, List.nil_append]
  rw [callsIn_cons_none (by decide), callsIn, hmember, List.head?_cons, Option.bind_some,
    callsIn_cons_none hinner]
  cases call? (Code.indentation ++ (Code.indentation ++ body)) <;> rfl

theorem call?_eq_some {way constant : String} (hway : Plain way) (hconstant : Plain constant)
    (rest : String) :
    call? (callStart ++ (way ++ ("(" ++ (constant ++ ("," ++ rest))))) = some (way, constant) :=
  behindBoth?_plain hway hconstant rfl rfl callStart rfl (by simp)

/-- A call of a function of the client is none of the transport: its name ends before a point. -/
theorem call?_eq_none {name line : String} {rest : List Char} (hname : Plain name)
    (h : line.toList = "        return self.".toList ++ (name.toList ++ '(' :: rest)) :
    call? line = none := by
  have hstart : callStart.toList = "        return self.".toList ++ "client.".toList := by
    decide
  rw [call?, behindBoth?, behind?_eq_none, Option.bind_eq_bind, Option.bind_none]
  rw [h, hstart, List.prefix_append_right_inj]
  intro hp
  have hclient : "client.".toList <+: name.toList := prefix_of_prefix_append (by decide) hp
  exact hname.not_mem (c := '.') rfl (hclient.subset (by decide))

/-- How a client calls a method: both variants with options call the constant. -/
def methodCalls (s : Service) (m : Method) : List (String × String × String) :=
  [(m.name ++ "_opt", "unary_call", s.constantName m),
    (m.name ++ "_async_opt", "server_streaming", s.constantName m)]

theorem callsIn_clientMethods (s : Service) (m : Method) (hm : Plain m.name) (rest : List String) :
    callsIn (Code.indent (clientMethods s m).lines ++ rest) = methodCalls s m ++ callsIn rest := by
  have hopt : Plain (m.name ++ "_opt") := hm.append (by decide)
  have hasync : Plain (m.name ++ "_async") := hm.append (by decide)
  have hasyncOpt : Plain (m.name ++ "_async_opt") := hm.append (by decide)
  have hplain : call? (Code.indentation ++ (Code.indentation ++ ("return self." ++ m.name ++
      "_opt(req, " ++ runtime ++ ".CallOption())"))) = none :=
    call?_eq_none hopt (by simp [Code.indentation]; rfl)
  have hplainAsync : call? (Code.indentation ++ (Code.indentation ++ ("return self." ++ m.name ++
      "_async_opt(req, " ++ runtime ++ ".CallOption())"))) = none :=
    call?_eq_none hasyncOpt (by simp [Code.indentation]; rfl)
  have hcall (way : String) (hway : Plain way) : call? (Code.indentation ++ (Code.indentation ++
      ("return self.client." ++ way ++ "(" ++ s.constantName m ++ ", req, opt)"))) =
      some (way, s.constantName m) := by
    have hline : Code.indentation ++ (Code.indentation ++ ("return self.client." ++ way ++ "(" ++
        s.constantName m ++ ", req, opt)")) =
        callStart ++ (way ++ ("(" ++ (s.constantName m ++ ("," ++ " req, opt)")))) := by
      have hstart : callStart = Code.indentation ++ (Code.indentation ++ "return self.client.") := by
        decide
      have hend : ", req, opt)" = "," ++ " req, opt)" := by decide
      rw [hstart, hend]
      simp only [String.append_assoc]
    rw [hline]
    exact call?_eq_some hway (plain_constantName s m) " req, opt)"
  have hlines : (clientMethods s m).lines =
      "" :: Code.function m.name ["self", "req: " ++ m.requestType] (some m.responseType)
        ["return self." ++ m.name ++ "_opt(req, " ++ runtime ++ ".CallOption())"] ++
      "" :: Code.function (m.name ++ "_opt")
        ["self", "req: " ++ m.requestType, "opt: " ++ runtime ++ ".CallOption"] (some m.responseType)
        ["return self.client." ++ "unary_call" ++ "(" ++ s.constantName m ++ ", req, opt)"] ++
      "" :: Code.function (m.name ++ "_async") ["self", "req: " ++ m.requestType]
        (some (runtime ++ ".ClientSStreamReceiver[" ++ m.responseType ++ "]"))
        ["return self." ++ m.name ++ "_async_opt(req, " ++ runtime ++ ".CallOption())"] ++
      "" :: Code.function (m.name ++ "_async_opt")
        ["self", "req: " ++ m.requestType, "opt: " ++ runtime ++ ".CallOption"]
        (some (runtime ++ ".ClientSStreamReceiver[" ++ m.responseType ++ "]"))
        ["return self.client." ++ "server_streaming" ++ "(" ++ s.constantName m ++
          ", req, opt)"] := by
    have hunary : "return self.client." ++ "unary_call" ++ "(" = "return self.client.unary_call(" := by
      decide
    have hstreaming : "return self.client." ++ "server_streaming" ++ "(" =
        "return self.client.server_streaming(" := by decide
    rw [hunary, hstreaming]
    rfl
  rw [hlines]
  simp only [indent_append, List.append_assoc]
  rw [callsIn_variant hm _ _ (by simp), callsIn_variant hopt _ _ (by simp),
    callsIn_variant hasync _ _ (by simp), callsIn_variant hasyncOpt _ _ (by simp), hplain,
    hplainAsync, hcall "unary_call" (by decide), hcall "server_streaming" (by decide)]
  rfl

/-- The constructor of a client. -/
def clientConstructor : List String :=
  Code.function "__init__" ["self", "channel: _grpc.Channel"] none
    ["self.client = " ++ runtime ++ ".Client(channel)"]

theorem client_lines (s : Service) (hs : Plain s.name) :
    (client s).lines = Code.classHeader s.clientName [] ::
      Code.indent (["\"\"\"" ++ ("Client of the `" ++ s.name ++ "` service.") ++ "\"\"\""] ++
        "" :: clientConstructor ++ s.methods.flatMap fun m => (clientMethods s m).lines) := by
  rw [← docstringLines_about "Client of the `" "` service." hs (by rfl) (by rfl) (by simp)]
  rfl

/-- **The client of a service** calls the constants. -/
theorem callsIn_client (s : Service) (hs : Plain s.name) (hm : ∀ m ∈ s.methods, Plain m.name) :
    callsIn (client s).lines = s.methods.flatMap (methodCalls s) := by
  have hmethods : ∀ ms : List Method, (∀ m ∈ ms, Plain m.name) →
      callsIn (Code.indent (ms.flatMap fun m => (clientMethods s m).lines)) =
        ms.flatMap (methodCalls s) := by
    intro ms
    induction ms with
    | nil => intro _; rfl
    | cons m ms ih =>
      intro hms
      rw [List.flatMap_cons, indent_append, callsIn_clientMethods s m (hms m (by simp)),
        ih fun m' hm' => hms m' (by simp [hm']), List.flatMap_cons]
  have hheader : memberName? (Code.classHeader s.clientName []) = none :=
    memberName?_eq_none (by simp [Code.classHeader])
  have hdocumented : memberName? (Code.indentation ++ ("\"\"\"" ++
      ("Client of the `" ++ s.name ++ "` service.") ++ "\"\"\"")) = none :=
    memberName?_eq_none (by simp [Code.indentation])
  have hconstructor : call? (Code.indentation ++ (Code.indentation ++
      ("self.client = " ++ runtime ++ ".Client(channel)"))) = none := by decide
  rw [client_lines s hs, callsIn_cons_none hheader, indent_append, indent_append]
  have hdocLines (text : String) : Code.indent ["\"\"\"" ++ text ++ "\"\"\""] =
      [Code.indentation ++ ("\"\"\"" ++ text ++ "\"\"\"")] := by simp [Code.indent]
  rw [hdocLines, List.append_assoc, List.singleton_append, callsIn_cons_none hdocumented,
    clientConstructor, callsIn_variant (by decide) _ _ (by simp), hconstructor,
    hmethods s.methods hm]
  rfl

theorem functionNames_clientMethods (s : Service) (m : Method) (hm : Plain m.name) :
    (clientMethods s m).lines.filterMap functionName? = m.clientNames := by
  have hplain (ending : String) (hending : Plain ending) : Plain (m.name ++ ending) :=
    hm.append hending
  simp only [clientMethods, List.filterMap_append,
    List.filterMap_cons_none functionName?_empty, functionNames_function hm,
    functionNames_function (hplain "_opt" (by decide)),
    functionNames_function (hplain "_async" (by decide)),
    functionNames_function (hplain "_async_opt" (by decide))]
  rfl

/-- **The client of a service** defines its constructor and the four ways to call each method. -/
theorem memberNames_client (s : Service) (hs : Plain s.name) (hm : ∀ m ∈ s.methods, Plain m.name) :
    (client s).lines.filterMap memberName? =
      "__init__" :: s.methods.flatMap Method.clientNames := by
  have hheader : memberName? (Code.classHeader s.clientName []) = none :=
    memberName?_eq_none (by simp [Code.classHeader])
  have hdocumented : functionName? ("\"\"\"" ++
      ("Client of the `" ++ s.name ++ "` service.") ++ "\"\"\"") = none :=
    functionName?_eq_none (by simp)
  have hconstructor : clientConstructor.filterMap functionName? = ["__init__"] :=
    functionNames_function (by decide) _ _ _
  rw [client_lines s hs, List.filterMap_cons_none hheader, memberNames_indent,
    List.filterMap_append, List.filterMap_append, List.filterMap_cons_none hdocumented,
    List.filterMap_cons_none functionName?_empty, hconstructor, List.filterMap_flatMap,
    List.flatMap_congr fun m hmem => functionNames_clientMethods s m (hm m hmem)]
  rfl

/-! ### Names at module level -/

theorem boundNames_constants (s : Service) :
    (constants s).lines.filterMap boundName? = s.methods.map s.constantName := by
  rw [constants_lines, List.filterMap_flatMap, List.map_eq_flatMap]
  refine List.flatMap_congr fun m _ => ?_
  obtain ⟨typed, value, hlines⟩ := constant_lines s m
  have hclose : boundName? ")" = none := by decide
  have hindented : ∀ line ∈ ["    ty=" ++ (runtime ++ ".MethodType.UNARY,"),
      "    name=\"" ++ (s.constantName m ++ ("\"" ++ ",")), "    req_mar=" ++ value,
      "    resp_mar=" ++ value, ")"], boundName? line = none := by
    intro line hline
    simp only [List.mem_cons, List.not_mem_nil, or_false] at hline
    rcases hline with rfl | rfl | rfl | rfl | rfl
    · exact boundName?_blank (by simp)
    · exact boundName?_blank (by simp)
    · exact boundName?_blank (by simp)
    · exact boundName?_blank (by simp)
    · exact hclose
  rw [hlines, List.filterMap_cons_some (boundName?_constant s m typed),
    List.filterMap_eq_nil_iff.mpr hindented]

theorem classHeader_eq (name : String) (bases : List String) :
    ∃ rest, Code.classHeader name bases = "class " ++ (name ++ rest) ∧
      (rest.toList.head? = some '(' ∨ rest.toList.head? = some ':') := by
  unfold Code.classHeader
  split
  · exact ⟨":", String.append_assoc, .inr (by simp)⟩
  · exact ⟨"(" ++ (Code.commaSeparated bases ++ "):"), by simp only [String.append_assoc],
      .inl (by simp)⟩

theorem boundNames_interface (s : Service) (hs : Plain s.name) :
    (interface s).lines.filterMap boundName? = [s.name] := by
  obtain ⟨rest, hheader, hrest⟩ :=
    classHeader_eq s.name (if s.bases.isEmpty then ["_abc.ABC"] else s.bases)
  have hdecorators : (s.decorators.map (Code.decorator · [])).filterMap boundName? = [] := by
    rw [List.filterMap_eq_nil_iff]
    intro line hline
    obtain ⟨d, -, rfl⟩ := List.mem_map.mp hline
    simp [Code.decorator, boundName?]
  rw [interface]
  dsimp only
  rw [List.filterMap_append, hdecorators, List.nil_append, hheader,
    List.filterMap_cons_some (boundName?_class hs hrest), boundNames_indent]

theorem boundNames_factory (s : Service) (hs : Plain s.name) :
    (factory s).lines.filterMap boundName? = [s.typeVariable, s.factoryName] := by
  obtain ⟨value, header, hlines⟩ := factory_lines s
  have hvariable : boundName? (s.typeVariable ++ (" " ++ value)) = some s.typeVariable := by
    refine boundName?_assigned hs.typeVariable ?_ (.inr (by simp)) fun word hword hp => ?_
    · simp [Service.typeVariable]
    · -- it starts with an underscore
      simp only [marginWords, List.mem_cons, List.not_mem_nil, or_false] at hword
      rcases hword with rfl | rfl | rfl | rfl <;> simp [Service.typeVariable] at hp
  have hfunction : boundName? ("def " ++ (s.factoryName ++ ("(" ++ header))) =
      some s.factoryName := boundName?_def (plain_factoryName s)
  rw [hlines, List.filterMap_append, boundNames_indent]
  simp [hvariable, hfunction, boundName?_empty]

theorem boundNames_client (s : Service) (hs : Plain s.name) :
    (client s).lines.filterMap boundName? = [s.clientName] := by
  obtain ⟨rest, hheader, hrest⟩ := classHeader_eq s.clientName []
  rw [client_lines s hs, hheader, List.filterMap_cons_some (boundName?_class hs.clientName hrest),
    boundNames_indent]

/-- **The expansion of a service** binds its constants, its interface, its type variable, its
factory and its client. -/
theorem boundNames_service (s : Service) (hs : Plain s.name) :
    (service s).lines.filterMap boundName? =
      s.methods.map s.constantName ++ [s.name, s.typeVariable, s.factoryName, s.clientName] := by
  have hbetween : ["", ""].filterMap boundName? = [] := by decide
  have hblocks (blocks : List (List String)) :
      (blocks.filter (!·.isEmpty)).flatMap (·.filterMap boundName?) =
        blocks.flatMap (·.filterMap boundName?) := by
    induction blocks with
    | nil => rfl
    | cons block blocks ih => cases block <;> simp [ih]
  rw [service, Fragment.spaced]
  dsimp only
  rw [filterMap_intercalate hbetween, hblocks]
  simp [boundNames_constants, boundNames_interface s hs, boundNames_factory s hs,
    boundNames_client s hs]

end Expansion

end ServiceStubs
