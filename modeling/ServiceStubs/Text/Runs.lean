/-!
# Character classes as runs

A class of characters is kept as the lengths of its runs: how many code points lie outside it,
then how many inside, then outside again, and so on from code point zero. What follows the last
run is outside.
-/

namespace ServiceStubs

namespace Text

/-- Whether code point `n` lies in the class with the given runs, when the first of them is
`inside` it or not. -/
def inRuns (inside : Bool) : List Nat → Nat → Bool
  | [], _ => false
  | run :: rest, n => if n < run then inside else inRuns (!inside) rest (n - run)

@[simp] theorem inRuns_nil (inside : Bool) (n : Nat) : inRuns inside [] n = false := rfl

end Text

end ServiceStubs
