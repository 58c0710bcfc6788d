/-!
# Edits of a list of lines

An edit replaces a range of lines. Edits are applied from the bottom up, so that the ranges of
those still to come stay where they are; at one position the edit with the higher priority comes
first.

## Main definitions

* `Expansion.Edit`: a range and the lines that replace it
* `Expansion.Edit.applyAll`: a list of lines with all edits applied
-/

namespace ServiceStubs

namespace Expansion

/-- Replaces the lines from `start` up to `stop`, which is left out, by other lines. -/
structure Edit where
  start : Nat
  stop : Nat
  lines : List String
  priority : Nat := 0
  deriving DecidableEq, Repr

namespace Edit

/-- The lines with one edit applied. A range beyond the end is cut off there, and one that ends
before it starts is empty. -/
def apply (ls : List String) (e : Edit) : List String :=
  ls.take e.start ++ e.lines ++ ls.drop (max e.start e.stop)

/-- Whether the first edit is applied no later than the second: the one further down, and of two at
one position the one with the higher priority. -/
def isNotBefore (a b : Edit) : Bool :=
  b.start < a.start || (a.start == b.start &&
    (b.stop < a.stop || (a.stop == b.stop && b.priority ≤ a.priority)))

/-- The lines with all edits applied, in whatever order they were recorded. -/
def applyAll (ls : List String) (edits : List Edit) : List String :=
  (edits.mergeSort isNotBefore).foldl apply ls

end Edit

end Expansion

end ServiceStubs
