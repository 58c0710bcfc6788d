import ServiceStubs.Proofs.Wire.Alike
import ServiceStubs.Proofs.Wire.Value

/-!
# Keys that are copied

Keys that differ stay keys that differ when they are copied. So a set takes the copies of all its
members, and a dict those of all its entries, each at its end.

## Main statements

* `Store.Keys.copies`: copies of keys are keys
* `Store.Keys.foldlM_insertKey`, `Store.Keys.setEntry`: new keys come to the end
-/

namespace ServiceStubs

namespace Wire

namespace Store

variable {s t : Store} {keys old new : List Ref} {w : World} {xs : List Ref}

theorem Keys.copies (h : s.Keys keys) (hkeys : ∀ a ∈ keys, s.Shallow s.size a)
    (hxs : List.Forall₂ (w.Copy s) keys xs) : w.store.Keys xs := by
  induction hxs with
  | nil => exact ⟨by simp, .nil⟩
  | @cons a x as xs hax hxs ih =>
    obtain ⟨ha, has⟩ := List.forall_mem_cons.1 hkeys
    obtain ⟨hfirst, hdistinct⟩ := List.pairwise_cons.1 h.distinct
    have htail := ih ⟨fun k hk => h.isKey k (List.mem_cons_of_mem _ hk), hdistinct⟩ has
    refine ⟨List.forall_mem_cons.2 ⟨hax.isKey (h.isKey a List.mem_cons_self), htail.isKey⟩,
      List.pairwise_cons.2 ⟨fun y hy => ?_, htail.distinct⟩⟩
    obtain ⟨b, hb, hcopy⟩ := (exists_of_forall₂ hxs).2 y hy
    obtain ⟨hab, hba⟩ := hfirst b hb
    exact ⟨hax.same ha hcopy hab, hcopy.same (has b hb) hax hba⟩

theorem Keys.insertKey {r : Ref} (h : t.Keys (old ++ [r])) :
    t.insertKey old r = some (old ++ [r]) := by
  have hdistinct := (List.pairwise_append.1 h.distinct).2.2
  have hany : old.any (t.same r) = false :=
    List.any_eq_false.2 fun a ha => by simp [(hdistinct a ha r (by simp)).2]
  simp [Store.insertKey, h.isKey r (by simp), hany]

/-- New members come to the end of a set. -/
theorem Keys.foldlM_insertKey (h : t.Keys (old ++ new)) :
    new.foldlM t.insertKey old = some (old ++ new) := by
  induction new generalizing old with
  | nil => simp
  | cons r new ih =>
    rw [List.append_cons] at h
    rw [List.foldlM_cons, h.of_append.insertKey]
    simpa using ih h

theorem replaceEntry_none {key value : Ref} {es : List (Ref × Ref)}
    (h : ∀ e ∈ es, t.same e.1 key = false) : t.replaceEntry key value es = none := by
  induction es with
  | nil => rfl
  | cons e es ih =>
    obtain ⟨he, hes⟩ := List.forall_mem_cons.1 h
    simp [Store.replaceEntry, he, ih hes]

theorem setEntry_new {es : List (Ref × Ref)} {key value : Ref} (hkey : t.isKey key)
    (h : ∀ e ∈ es, t.same e.1 key = false) : t.setEntry es key value = some (es ++ [(key, value)]) := by
  simp [Store.setEntry, hkey, replaceEntry_none h]

/-- A new entry comes to the end of a dict. -/
theorem Keys.setEntry {es : List (Ref × Ref)} {e : Ref × Ref}
    (h : t.Keys ((es ++ [e]).map Prod.fst)) : t.setEntry es e.1 e.2 = some (es ++ [e]) := by
  rw [List.map_append] at h
  have hdistinct := (List.pairwise_append.1 h.distinct).2.2
  exact setEntry_new (h.isKey e.1 (by simp)) fun e' he' =>
    (hdistinct e'.1 (List.mem_map_of_mem he') e.1 (by simp)).1

/-! ### Names -/

theorem isKey_text {r : Ref} {u : WideText} {shared : Bool} (h : t.get? r = some (.text u shared)) :
    t.isKey r := by
  simp [isKey, isKeyWithin, h]

theorem same_text {a b : Ref} {u v : WideText} {shared shared' : Bool}
    (ha : t.get? a = some (.text u shared)) (hb : t.get? b = some (.text v shared')) (h : u ≠ v) :
    t.same a b = false := by
  have hne : a ≠ b := by
    rintro rfl
    rw [ha] at hb
    cases hb
    exact h rfl
  simp [same, sameWithin, ha, hb, hne, h]

theorem text?_eq {r : Ref} {u : WideText} {shared : Bool} (h : t.get? r = some (.text u shared)) :
    t.text? r = some u := by
  simp only [text?, h]

/-- The names of attributes are keys that differ. -/
theorem Attributes.keys_fst {attributes : List (Ref × Ref)} (h : s.Attributes attributes) :
    s.Keys (attributes.map Prod.fst) where
  isKey := by
    intro k hk
    obtain ⟨a, ha, rfl⟩ := List.mem_map.1 hk
    obtain ⟨u, shared, hu, -⟩ := h.named a ha
    exact isKey_text hu
  distinct := by
    rw [List.pairwise_map]
    refine h.distinct.imp_of_mem fun {a b} ha hb hne => ?_
    obtain ⟨u, shared, hu, -⟩ := h.named a ha
    obtain ⟨v, shared', hv, -⟩ := h.named b hb
    rw [text?_eq hu, text?_eq hv] at hne
    have huv : u ≠ v := fun heq => hne (congrArg some heq)
    exact ⟨same_text hu hv huv, same_text hv hu huv.symm⟩

/-- No attribute has a name with a meaning of its own. -/
theorem Attributes.attribute?_special {attributes : List (Ref × Ref)} (h : s.Attributes attributes)
    {name : WideText} (hname : isSpecialName name) : s.attribute? attributes name = none := by
  have hfind : (attributes.find? fun a => s.text? a.1 == some name) = none := by
    refine List.find?_eq_none.2 fun a ha hsome => ?_
    obtain ⟨u, shared, hu, hspecial⟩ := h.named a ha
    rw [text?_eq hu, beq_iff_eq, Option.some.injEq] at hsome
    rw [hsome, hname] at hspecial
    cases hspecial
  rw [attribute?, hfind, Option.map_none]

end Store

end Wire

end ServiceStubs
