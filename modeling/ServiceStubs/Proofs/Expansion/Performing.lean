import Mathlib.Logic.Function.Basic
import ServiceStubs.Proofs.Expansion.Private
import ServiceStubs.Tree.Stmt

/-!
# What statements in a class do

The methods that a server gains are made of few kinds of statements: a value is taken apart into
variables, a call is assigned to a variable, or it stands alone. What such statements do is a matter
of their variables and of the calls that they make, in order. The objects among the values are left
open: what they consist of, and what their methods answer.

The statements stand in a class. So a variable, and the method of an object, is meant by the name
that the class binds and reads it under.

## Main definitions

* `Expansion.World`: what values consist of and what their methods answer
* `Expansion.evaluate`, `Expansion.assign`, `Expansion.perform`: expressions, targets and statements
* `Expansion.performAll`: statements one after the other

## Main statements

* `Expansion.assign_tuple`, `Expansion.evaluate_call`: what variables hold is what a tuple had
-/

namespace ServiceStubs

namespace Expansion

open ServiceStubs.Tree

/-! ### Variables -/

/-- What the variables of a running function hold. -/
abbrev Frame (V : Type) := String → Option V

/-- What there is to know of the values of a running program. -/
structure World (V : Type) where
  /-- What a value consists of, if it can be taken apart. -/
  parts : V → Option (List V)
  /-- What a method of an object answers to some arguments. -/
  answer : V → String → List V → V

/-- A call of a method. -/
structure MethodCall (V : Type) where
  object : V
  method : String
  arguments : List V
  deriving DecidableEq, Repr

/-- A running function: what its variables hold, and the calls that it made. -/
structure Running (V : Type) where
  frame : Frame V
  calls : List (MethodCall V)

section Statements

variable {V : Type} (w : World V) (owner : String)

mutual

/-- The value of a name or of a call of a method, and what is left to run on. Other expressions have
none here. -/
def evaluate (r : Running V) : Expr → Option (V × Running V)
  | .name id => (r.frame (boundIn owner id)).map fun value => (value, r)
  | .call (.attribute object method) arguments [] => do
    let (object, r) ← evaluate r object
    let (values, r) ← evaluateAll r arguments
    let call : MethodCall V := ⟨object, boundIn owner method, values⟩
    some (w.answer object call.method values, { r with calls := r.calls ++ [call] })
  | _ => none

/-- The values of expressions, the first one first. -/
def evaluateAll (r : Running V) : List Expr → Option (List V × Running V)
  | [] => some ([], r)
  | e :: es => do
    let (value, r) ← evaluate r e
    let (values, r) ← evaluateAll r es
    some (value :: values, r)

end

mutual

/-- The variables behind the assignment of a value to a name or a tuple. A value that is assigned to
a tuple has as many parts as that has. -/
def assign (frame : Frame V) (value : V) : Expr → Option (Frame V)
  | .name id => some (Function.update frame (boundIn owner id) (some value))
  | .tuple items => do
    let values ← w.parts value
    if values.length = items.length then assignAll frame values items else none
  | _ => none

/-- The variables behind the assignment of values to targets, the first one first. -/
def assignAll (frame : Frame V) (values : List V) : List Expr → Option (Frame V)
  | [] => some frame
  | e :: es =>
    match values with
    | [] => some frame
    | value :: values => do assignAll (← assign frame value e) values es

end

/-- What is left to run on behind a statement. -/
def perform (r : Running V) : StmtNode → Option (Running V)
  | .assign [target] value => do
    let (value, r) ← evaluate w owner r value
    let frame ← assign w owner r.frame value target
    some { r with frame := frame }
  | .expression value => (evaluate w owner r value).map (·.2)
  | _ => none

/-- What is left to run on behind some statements. -/
def performAll (r : Running V) (nodes : List StmtNode) : Option (Running V) :=
  nodes.foldlM (perform w owner) r

variable {w owner} {r : Running V}

/-! ### Names -/

/-- The values of variables. -/
theorem evaluateAll_names {names : List String} {values : List V}
    (h : names.map (fun n => r.frame (boundIn owner n)) = values.map some) :
    evaluateAll w owner r (names.map .name) = some (values, r) := by
  induction names generalizing values with
  | nil =>
    obtain rfl : values = [] := by simpa using h.symm
    rfl
  | cons name names ih =>
    cases values with
    | nil => cases h
    | cons value values =>
      obtain ⟨hvalue, h⟩ := List.cons.inj h
      have hvalue : r.frame (boundIn owner name) = some value := hvalue
      rw [List.map_cons, evaluateAll, evaluate, hvalue]
      simp [ih h]

/-- **A call with variables as arguments.** -/
theorem evaluate_call {object method : String} {names : List String} {receiver : V} {values : List V}
    (hobject : r.frame (boundIn owner object) = some receiver)
    (hvalues : names.map (fun n => r.frame (boundIn owner n)) = values.map some) :
    evaluate w owner r (.call (.attribute (.name object) method) (names.map .name) []) =
      some (w.answer receiver (boundIn owner method) values,
        { r with calls := r.calls ++ [⟨receiver, boundIn owner method, values⟩] }) := by
  rw [evaluate, evaluate, hobject]
  simp only [Option.map_some, Option.bind_eq_bind, Option.bind_some, evaluateAll_names hvalues]

/-- The variables behind the assignment of a tuple hold its parts, if no two of them are one, and
all others hold what they did. -/
theorem assignAll_names {names : List String} (hnodup : (names.map (boundIn owner)).Nodup)
    {values : List V}
    (hlength : values.length = names.length) (frame : Frame V) :
    ∃ frame', assignAll w owner frame values (names.map .name) = some frame' ∧
      names.map (fun n => frame' (boundIn owner n)) = values.map some ∧
      ∀ n ∉ names.map (boundIn owner), frame' n = frame n := by
  induction names generalizing frame values with
  | nil =>
    obtain rfl := List.eq_nil_of_length_eq_zero hlength
    exact ⟨frame, rfl, rfl, fun _ _ => rfl⟩
  | cons name names ih =>
    cases values with
    | nil => cases hlength
    | cons value values =>
      rw [List.map_cons, List.nodup_cons] at hnodup
      obtain ⟨hname, hnodup⟩ := hnodup
      obtain ⟨frame', hassigned, hvalues, hothers⟩ := ih hnodup (Nat.succ.inj hlength)
        (Function.update frame (boundIn owner name) (some value))
      refine ⟨frame', hassigned, ?_, fun n hn => ?_⟩
      · rw [List.map_cons, List.map_cons, hvalues, hothers _ hname, Function.update_self]
      · obtain ⟨hne, hn⟩ := not_or.mp (mt List.mem_cons.mpr hn)
        rw [hothers n hn, Function.update_of_ne hne]

/-- **A tuple of distinct variables** takes the parts of a value that has as many. -/
theorem assign_tuple {names : List String} (hnodup : (names.map (boundIn owner)).Nodup) {value : V}
    {values : List V} (hparts : w.parts value = some values) (hlength : values.length = names.length)
    (frame : Frame V) : ∃ frame', assign w owner frame value (.tuple (names.map .name)) = some frame' ∧
      names.map (fun n => frame' (boundIn owner n)) = values.map some ∧
      ∀ n ∉ names.map (boundIn owner), frame' n = frame n := by
  obtain ⟨frame', hassigned, hvalues⟩ := assignAll_names (w := w) hnodup hlength frame
  refine ⟨frame', ?_, hvalues⟩
  rw [assign, hparts]
  simp [hlength, hassigned]

end Statements

end Expansion

end ServiceStubs
