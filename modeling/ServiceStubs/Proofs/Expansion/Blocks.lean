import ServiceStubs.Expansion.Fragment

/-!
# The blocks of an interface

The body of an interface is a list of blocks with empty lines between them: its documentation, the
declared methods and those that talk to the transport.

## Main statements

* `Expansion.infix_interface`: every method of an interface stands in it as one block
-/

namespace ServiceStubs

namespace Expansion

open Schema

theorem infix_intercalate {between : List String} {block : List String}
    {blocks : List (List String)} (h : block ∈ blocks) : block <:+: between.intercalate blocks := by
  induction blocks with
  | nil => cases h
  | cons first rest ih =>
    cases rest with
    | nil =>
      obtain rfl := List.mem_singleton.mp h
      simp
    | cons next rest =>
      rw [List.intercalate_cons_cons]
      rcases List.mem_cons.mp h with rfl | h
      · exact (List.prefix_append block _).isInfix.trans (List.prefix_append _ _).isInfix
      · exact (ih h).trans (List.suffix_append _ _).isInfix

/-- The blocks of the methods of an interface. -/
def methodBlocks (s : Service) : List (List String) :=
  s.methods.map declaredMethod ++ s.methods.map transportMethod

theorem abstractDecorators_ne_nil (m : Method) : abstractDecorators m ≠ [] := by
  simp [abstractDecorators]

theorem ne_nil_of_mem_methodBlocks {s : Service} {block : List String} (h : block ∈ methodBlocks s) :
    block ≠ [] := by
  rcases List.mem_append.mp h with h | h <;>
  · obtain ⟨m, -, rfl⟩ := List.mem_map.mp h
    exact List.append_ne_nil_of_left_ne_nil (abstractDecorators_ne_nil m) _

/-- **Every method of an interface stands in it as one block**, one step further in. -/
theorem infix_interface {s : Service} {block : List String} (h : block ∈ methodBlocks s) :
    Code.indent block <:+: (interface s).lines := by
  have hbody : block <:+: interfaceBody s := by
    refine infix_intercalate ?_
    rw [List.append_assoc]
    exact List.mem_append_right _ h
  have hne : (interfaceBody s).isEmpty = false := by
    rw [List.isEmpty_eq_false_iff]
    rintro hempty
    rw [hempty, List.infix_nil] at hbody
    exact ne_nil_of_mem_methodBlocks h hbody
  rw [interface]
  dsimp only
  rw [hne]
  exact (hbody.map _).trans ((List.suffix_cons _ _).trans (List.suffix_append _ _)).isInfix

end Expansion

end ServiceStubs
