import ServiceStubs.Schema.Binding

/-!
# Statements that bind a name

Which statements bind a name is said here form by form. Every name that a statement binds so is
found when the names of a module are collected.

The forms are definitions, assignments to names and to tuples and lists of them, imports, and any of
these inside the blocks of `if` and `try`. Targets of loops, of `with`, of `match` and of handlers,
named expressions, starred targets and grouped handlers are none of them.

## Main definitions

* `Schema.Targets`: the names in the target of an assignment
* `Schema.Binds`: the statements that bind a name

## Main statements

* `Schema.mem_boundNames_of_binds`: what a statement of a module binds is collected
-/

namespace ServiceStubs

namespace Schema

open Tree

/-- An assignment to the target binds the name. -/
inductive Targets (n : String) : Expr → Prop
  | name : Targets n (.name n)
  | tuple {items : List Expr} {e : Expr} (he : e ∈ items) (h : Targets n e) :
    Targets n (.tuple items)
  | list {items : List Expr} {e : Expr} (he : e ∈ items) (h : Targets n e) : Targets n (.list items)

/-- The statement binds the name. -/
inductive Binds (n : String) : Stmt → Prop
  | function {span : Span} {isAsync : Bool} {params : List Param} {returns : Option Expr}
    {decorators : List Decorator} {body : List Stmt} :
    Binds n (.stmt span (.function isAsync n params returns decorators body))
  | classDef {span : Span} {bases : List Expr} {keywords : List Keyword}
    {decorators : List Decorator} {body : List Stmt} :
    Binds n (.stmt span (.classDef n bases keywords decorators body))
  | assign {span : Span} {targets : List Expr} {value e : Expr} (he : e ∈ targets)
    (h : Targets n e) : Binds n (.stmt span (.assign targets value))
  | annotated {span : Span} {target type : Expr} {value : Option Expr} {simple : Bool}
    (h : Targets n target) : Binds n (.stmt span (.annotated target type value simple))
  | augmented {span : Span} {target value : Expr} {op : BinaryOp} (h : Targets n target) :
    Binds n (.stmt span (.augmented target op value))
  | importModules {span : Span} {aliases : List Alias} {a : Alias} (ha : a ∈ aliases)
    (hstar : a.name ≠ "*") (h : a.asName.getD (firstComponent a.name) = n) :
    Binds n (.stmt span (.importModules aliases))
  | importFrom {span : Span} {module : Option String} {aliases : List Alias} {level : Nat}
    {a : Alias} (ha : a ∈ aliases) (hstar : a.name ≠ "*")
    (h : a.asName.getD (firstComponent a.name) = n) :
    Binds n (.stmt span (.importFrom module aliases level))
  | branch {span : Span} {condition : Expr} {body orElse : List Stmt} {s : Stmt}
    (hs : s ∈ body ++ orElse) (h : Binds n s) : Binds n (.stmt span (.branch condition body orElse))
  | tryBlock {span : Span} {body orElse always : List Stmt} {handlers : List Handler} {s : Stmt}
    (hs : s ∈ body ++ orElse ++ always ++ handlers.flatMap Handler.body) (h : Binds n s) :
    Binds n (.stmt span (.tryBlock false body handlers orElse always))

/-! ### What is collected -/

theorem targetNamesOfAll_eq (es : List Expr) : targetNamesOfAll es = es.flatMap targetNames := by
  induction es with
  | nil => rw [targetNamesOfAll, List.flatMap_nil]
  | cons e es ih => rw [targetNamesOfAll, List.flatMap_cons, ih]

theorem bindingsOfAll_eq (ss : List Stmt) : bindingsOfAll ss = ss.flatMap bindings := by
  induction ss with
  | nil => rw [bindingsOfAll, List.flatMap_nil]
  | cons s ss ih => rw [bindingsOfAll, List.flatMap_cons, ih]

theorem bindingsOfHandlers_eq (hs : List Handler) :
    bindingsOfHandlers hs = (hs.flatMap Handler.body).flatMap bindings := by
  induction hs with
  | nil => rw [bindingsOfHandlers, List.flatMap_nil, List.flatMap_nil]
  | cons h hs ih =>
    obtain ⟨type, name, body⟩ := h
    rw [bindingsOfHandlers, bindingsOfAll_eq, ih, List.flatMap_cons, List.flatMap_append]
    rfl

theorem mem_targetNames {n : String} {e : Expr} (h : Targets n e) : n ∈ targetNames e := by
  induction h with
  | name => simp [targetNames]
  | tuple he _ ih =>
    rw [targetNames, targetNamesOfAll_eq]
    exact List.mem_flatMap.mpr ⟨_, he, ih⟩
  | list he _ ih =>
    rw [targetNames, targetNamesOfAll_eq]
    exact List.mem_flatMap.mpr ⟨_, he, ih⟩

theorem mem_importedNames {n : String} {aliases : List Alias} {a : Alias} (ha : a ∈ aliases)
    (hstar : a.name ≠ "*") (h : a.asName.getD (firstComponent a.name) = n) :
    n ∈ importedNames aliases := by
  rw [importedNames]
  exact List.mem_map.mpr ⟨a, List.mem_filter.mpr ⟨ha, by simpa using hstar⟩, h⟩

theorem mem_bindings {n : String} {s : Stmt} (h : Binds n s) : ∃ line, (n, line) ∈ bindings s := by
  have here {names : List String} (line : Nat) (hn : n ∈ names) :
      ∃ l, (n, l) ∈ names.map fun m => (m, line) :=
    ⟨line, List.mem_map.mpr ⟨n, hn, rfl⟩⟩
  induction h with
  | function =>
    rw [bindings]
    exact here _ (List.mem_singleton_self n)
  | classDef =>
    rw [bindings]
    exact here _ (List.mem_singleton_self n)
  | assign he h =>
    rw [bindings, targetNamesOfAll_eq]
    exact here _ (List.mem_flatMap.mpr ⟨_, he, mem_targetNames h⟩)
  | annotated h =>
    rw [bindings]
    exact here _ (mem_targetNames h)
  | augmented h =>
    rw [bindings]
    exact here _ (mem_targetNames h)
  | importModules ha hstar h =>
    rw [bindings]
    exact here _ (mem_importedNames ha hstar h)
  | importFrom ha hstar h =>
    rw [bindings]
    exact here _ (mem_importedNames ha hstar h)
  | branch hs _ ih =>
    obtain ⟨line, hline⟩ := ih
    rw [bindings, bindingsOfAll_eq, bindingsOfAll_eq, ← List.flatMap_append]
    exact ⟨line, List.mem_flatMap.mpr ⟨_, hs, hline⟩⟩
  | tryBlock hs _ ih =>
    obtain ⟨line, hline⟩ := ih
    rw [bindings, bindingsOfAll_eq, bindingsOfAll_eq, bindingsOfAll_eq, bindingsOfHandlers_eq,
      ← List.flatMap_append, ← List.flatMap_append, ← List.flatMap_append]
    exact ⟨line, List.mem_flatMap.mpr ⟨_, hs, hline⟩⟩

/-- The first entry of a name is kept. -/
theorem mem_firstOfEach {n : String} {line : Nat} {entries : List (String × Nat)}
    (h : (n, line) ∈ entries) : ∃ first, (n, first) ∈ firstOfEach entries := by
  suffices hgo : ∀ kept : List (String × Nat),
      ((∃ first, (n, first) ∈ kept) ∨ (n, line) ∈ entries) →
        ∃ first, (n, first) ∈ entries.foldl
          (fun kept entry => if kept.any (·.1 == entry.1) then kept else kept ++ [entry]) kept from
    hgo [] (.inr h)
  clear h
  induction entries with
  | nil => exact fun kept hkept => hkept.resolve_right (by simp)
  | cons entry entries ih =>
    intro kept hkept
    refine ih _ ?_
    rcases hkept with ⟨first, hfirst⟩ | hentry
    · -- what was kept stays
      refine .inl ⟨first, ?_⟩
      dsimp only
      split
      · exact hfirst
      · exact List.mem_append_left _ hfirst
    · rcases List.mem_cons.mp hentry with rfl | hentry
      · refine .inl ?_
        dsimp only
        split
        · next hany =>
          obtain ⟨⟨m, first⟩, hmem, heq⟩ := List.any_eq_true.mp hany
          obtain rfl : m = n := by simpa using heq
          exact ⟨first, hmem⟩
        · exact ⟨line, by simp⟩
      · exact .inr hentry

/-- **What a statement of a module binds is collected.** -/
theorem mem_boundNames_of_binds {n : String} {body : List Stmt} {s : Stmt} (hs : s ∈ body)
    (h : Binds n s) : ∃ line, (n, line) ∈ boundNames body := by
  obtain ⟨line, hline⟩ := mem_bindings h
  have hall : (n, line) ∈ bindingsOfAll body := by
    rw [bindingsOfAll_eq]
    exact List.mem_flatMap.mpr ⟨s, hs, hline⟩
  exact mem_firstOfEach hall

end Schema

end ServiceStubs
