import ServiceStubs.Proofs.Number.DecimalText
import ServiceStubs.Proofs.Wire.Parts
import ServiceStubs.Wire.Equality
import ServiceStubs.Wire.Registry

/-!
# Values

A value is built from its parts up, from objects each of which is as its class makes them: the keys
of a dict are keys and differ, a queue is no longer than it may be, a date is a day of the calendar,
and a class is one that messages may use. Parts may be shared, but nothing is a part of itself.

## Main definitions

* `Registry.KeepsSafeNames`: the safe classes have their names to themselves
* `Object.Proper`: an object that is as its class makes them
* `Store.Built`: a value that is built from such objects

## Main statements

* `Store.Built.shallow`: no path through a value is longer than the store
-/

namespace ServiceStubs

namespace Wire

/-! ### Classes in messages -/

/-- The safe classes have their names to themselves: nothing is registered or defined under
them. -/
def Registry.KeepsSafeNames (g : Registry) : Prop :=
  ∀ c : SafeClass, g.registered? c.fullName = none ∧ g.imports.lookup c.fullName = none

/-- A class that messages may use: it is found under its own name, and if it is not a safe one, it
is the message type of that name. -/
def Registry.Carries (g : Registry) : Class → Prop
  | .safe _ => True
  | .defined id => g.isImportable (.defined id) ∧ g.isMessage id

variable {g : Registry} {s : Store} {r p x : Ref} {o : Object}

theorem SafeClass.ofName?_fullName (c : SafeClass) :
    SafeClass.ofName? c.fullName.1 c.fullName.2 = some c := by
  cases c <;> decide

theorem Registry.KeepsSafeNames.import? (hg : g.KeepsSafeNames) (c : SafeClass) :
    g.import? c.fullName = some (.safe c) := by
  simp only [Registry.import?, (hg c).2, SafeClass.ofName?_fullName, Option.map_some]

theorem Registry.KeepsSafeNames.isImportable (hg : g.KeepsSafeNames) {c : Class}
    (hc : g.Carries c) : g.isImportable c := by
  cases c with
  | defined id => exact hc.1
  | safe c =>
    have hname : g.nameOf (.safe c) = c.fullName := rfl
    simp only [Registry.isImportable, hname, hg.import? c, beq_self_eq_true]

theorem Registry.KeepsSafeNames.resolve? (hg : g.KeepsSafeNames) {c : Class} (hc : g.Carries c) :
    g.resolve? (g.nameOf c) = some c := by
  cases c with
  | defined id =>
    have hregistered : g.registered? (g.nameOf (.defined id)) = some id := by
      simpa [Registry.isMessage] using hc.2
    simp only [Registry.resolve?, hregistered]
  | safe c =>
    have hname : g.nameOf (.safe c) = c.fullName := rfl
    simp only [Registry.resolve?, hname, (hg c).1, SafeClass.ofName?_fullName, hg.import? c,
      Option.isSome_some, if_true]

/-! ### Objects -/

namespace Store

/-- Keys that can be keys and differ, each from those before it. -/
structure Keys (s : Store) (keys : List Ref) : Prop where
  isKey : ∀ k ∈ keys, s.isKey k
  distinct : keys.Pairwise fun earlier later =>
    s.same earlier later = false ∧ s.same later earlier = false

/-- A time zone that a time may have. -/
def IsZone (s : Store) (r : Ref) : Prop :=
  s.get? r = some .utc ∨ ∃ offset name, s.get? r = some (.timezone offset name)

/-- The name of an attribute that has a meaning of its own: it has two underscores on each side. -/
def isSpecialName (name : WideText) : Bool :=
  let mark := ("__" : WideText).points
  mark.isPrefixOf name.points && mark.isSuffixOf name.points

/-- Attributes under names that differ and have no meaning of their own. -/
structure Attributes (s : Store) (attributes : List (Ref × Ref)) : Prop where
  named : ∀ a ∈ attributes, ∃ name shared, s.get? a.1 = some (.text name shared) ∧
    isSpecialName name = false
  distinct : attributes.Pairwise fun a b => s.text? a.1 ≠ s.text? b.1

end Store

/-- An object that is as its class makes them, and that a message can hold. -/
def Object.Proper (g : Registry) (s : Store) : Object → Prop
  | dict entries | orderedDict entries => s.Keys (entries.map Prod.fst)
  | set members | frozenSet members => s.Keys members
  | range _ _ step => step ≠ 0
  | deque items limit => ∀ n, limit = some n → items.length ≤ n
  | date d => d.isValid
  | datetime d c zone => d.isValid ∧ c.isValid ∧ ∀ z, zone = some z → s.IsZone z
  | time c zone => c.isValid ∧ ∀ z, zone = some z → s.IsZone z
  | timedelta d => d.seconds < 86400 ∧ d.microseconds < 1000000 ∧ d.inRange
  | timezone offset name => ∃ d, s.get? offset = some (.timedelta d) ∧ d.isOffset ∧
    match name with
    | some n => ∃ t shared, s.get? n = some (.text t shared)
    | Option.none => d.inMicroseconds ≠ 0
  | decimal d => d.InRange
  | uuid number => ∃ p n, number = some p ∧ s.get? p = some (.int n) ∧ 0 ≤ n ∧ n < 2 ^ 128
  | ofClass c => g.Carries c
  | .instance id attributes => g.Carries (.defined id) ∧ s.Attributes attributes
  | view _ | locked => False
  | _ => True

namespace Store

/-- A value that is built from its parts up. -/
inductive Built (g : Registry) (s : Store) : Ref → Prop
  | intro {r : Ref} {o : Object} (ho : s.get? r = some o) (hproper : o.Proper g s)
    (hparts : ∀ p ∈ o.parts, Built g s p) : Built g s r

theorem Built.proper (h : s.Built g r) (ho : s.get? r = some o) : o.Proper g s := by
  cases h with
  | intro ho' hproper _ =>
    rw [ho] at ho'
    cases ho'
    exact hproper

theorem Built.part (h : s.Built g r) (ho : s.get? r = some o) (hp : p ∈ o.parts) :
    s.Built g p := by
  cases h with
  | intro ho' _ hparts =>
    rw [ho] at ho'
    cases ho'
    exact hparts p hp

/-- **No path through a value is longer than the store.** -/
theorem Built.shallow (h : s.Built g r) : s.Shallow s.size r := by
  have hbounded : ∃ n, s.Shallow n r := by
    induction h with
    | intro ho _ _ ih =>
      obtain ⟨n, hn⟩ := exists_shallow ih
      exact ⟨n + 1, _, ho, hn⟩
  obtain ⟨n, hn⟩ := hbounded
  exact hn.size

theorem Built.not_leads (h : s.Built g r) (ho : s.get? r = some o) (hp : p ∈ o.parts) :
    ¬ s.Leads p r :=
  h.shallow.not_leads ho hp

theorem Keys.of_append {earlier later : List Ref} (h : s.Keys (earlier ++ later)) :
    s.Keys earlier :=
  ⟨fun k hk => h.isKey k (List.mem_append_left _ hk), (List.pairwise_append.1 h.distinct).1⟩

end Store

end Wire

end ServiceStubs
