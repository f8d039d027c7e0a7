import Mathlib.Data.List.Sort

/-!
# Loops over lists

A loop that may fail gives, if no turn fails, what its turns give. A list that was collected in an
unknown order is sorted before it is used; when no two different elements of it are equivalent in the
order, the result does not depend on the order of the collection.
-/

namespace LittleRed.Lib

open List

section Fallible

variable {α β : Type*} {items : List α}

/-- A loop whose steps all succeed collects their results. -/
theorem mapM_eq_pure {m : Type _ → Type*} [Monad m] [LawfulMonad m] {f : α → m β} {g : α → Option β}
    (h : ∀ a ∈ items, ∃ b, g a = some b ∧ f a = pure b) :
    items.mapM f = pure (items.filterMap g) := by
  induction items with
  | nil => rfl
  | cons a rest ih =>
    rw [forall_mem_cons] at h
    obtain ⟨⟨b, hg, hf⟩, hrest⟩ := h
    rw [mapM_cons, hf, pure_bind, ih hrest, pure_bind, filterMap_cons_some hg]

/-- A loop with a failing step fails. -/
theorem mapM_eq_none {f : α → Option β} {a : α} (ha : a ∈ items) (hnone : f a = none) :
    items.mapM f = none := by
  induction items with
  | nil => cases ha
  | cons first rest ih =>
    rw [mapM_cons]
    rcases mem_cons.mp ha with rfl | hrest
    · rw [hnone]
      rfl
    · rw [ih hrest]
      cases f first <;> rfl

end Fallible

section Pairing

variable {α β : Type*}

/-- Zipping uses a first part of the other list. -/
theorem map_snd_zip_isInitial (items : List α) (others : List β) :
    ((items.zip others).map Prod.snd) <+: others := by
  induction items generalizing others with
  | nil => exact nil_prefix
  | cons a rest ih =>
    cases others with
    | nil => exact nil_prefix
    | cons b others =>
      rw [zip_cons_cons, map_cons, cons_prefix_cons]
      exact ⟨rfl, ih others⟩

end Pairing

section Scanning

variable {α β : Type*}

/-- The results of a filter map belong to the items that have one. -/
theorem forall₂_filterMap (f : α → Option β) (items : List α) :
    List.Forall₂ (fun a b => a ∈ items ∧ f a = some b) (items.filter fun a => (f a).isSome)
      (items.filterMap f) := by
  induction items with
  | nil => exact .nil
  | cons a rest ih =>
    have hrest := ih.imp fun a' b' h => And.intro (mem_cons_of_mem a h.1) h.2
    cases hf : f a with
    | none => rwa [filter_cons_of_neg (by simp [hf]), filterMap_cons_none hf]
    | some b =>
      rw [filter_cons_of_pos (by simp [hf]), filterMap_cons_some hf]
      exact .cons ⟨mem_cons_self, hf⟩ hrest

/-- A loop that appends what each item gives. -/
theorem foldl_collect {σ : Type*} (out : σ → List β) {step : σ → α → σ} {f : α → Option β}
    (hstep : ∀ s a, out (step s a) = out s ++ (f a).toList) (items : List α) (s : σ) :
    out (items.foldl step s) = out s ++ items.filterMap f := by
  induction items generalizing s with
  | nil => simp
  | cons a rest ih =>
    rw [foldl_cons, ih, hstep, append_assoc]
    cases hf : f a with
    | none => rw [filterMap_cons_none hf, Option.toList_none, nil_append]
    | some b => rw [filterMap_cons_some hf, Option.toList_some, singleton_append]

/-- A loop that sets a flag when some item has a property. -/
theorem foldl_flag {σ : Type*} (flag : σ → Bool) {step : σ → α → σ} {p : α → Bool}
    (hstep : ∀ s a, flag (step s a) = (flag s || p a)) (items : List α) (s : σ) :
    flag (items.foldl step s) = (flag s || items.any p) := by
  induction items generalizing s with
  | nil => simp
  | cons a rest ih => rw [foldl_cons, ih, hstep, any_cons, Bool.or_assoc]

/-- With different keys an item is found by its own. -/
theorem find?_key [DecidableEq β] {key : α → β} {items : List α} (hnodup : (items.map key).Nodup) {a : α}
    (ha : a ∈ items) : (items.find? fun x => key x == key a) = some a := by
  cases hfound : items.find? fun x => key x == key a with
  | none => exact absurd (beq_self_eq_true _) (List.find?_eq_none.mp hfound a ha)
  | some b =>
    have hkey := List.find?_some hfound
    rw [beq_iff_eq] at hkey
    rw [inj_on_of_nodup_map hnodup (mem_of_find?_eq_some hfound) ha hkey]

/-- The first index that has a result. -/
theorem exists_of_findSome?_range {f : ℕ → Option β} {n : ℕ} {b : β}
    (h : (List.range n).findSome? f = some b) : ∃ k < n, f k = some b ∧ ∀ j < k, f j = none := by
  induction n with
  | zero => cases h
  | succ n ih =>
    rw [range_succ, List.findSome?_append] at h
    cases hbefore : (List.range n).findSome? f with
    | some b' =>
      rw [hbefore, Option.some_or] at h
      obtain ⟨k, hk, hfound⟩ := ih (hbefore.trans h)
      exact ⟨k, Nat.lt_succ_of_lt hk, hfound⟩
    | none =>
      rw [hbefore, Option.none_or, List.findSome?_singleton] at h
      rw [List.findSome?_eq_none_iff] at hbefore
      exact ⟨n, Nat.lt_succ_self n, h, fun j hj => hbefore j (mem_range.mpr hj)⟩

end Scanning

section Choosing

variable {α : Type*} {r : α → α → Prop} [DecidableRel r]

/-- A loop that keeps the better of two ends with a best item. -/
theorem foldl_choose (hasymm : ∀ a b, r a b → ¬r b a) (hcotrans : ∀ a b c, r a c → r a b ∨ r b c)
    (items : List α) (first : α) :
    let best := items.foldl (fun best a => if r a best then a else best) first
    best ∈ first :: items ∧ ∀ a ∈ first :: items, ¬r a best := by
  induction items generalizing first with
  | nil =>
    refine ⟨mem_cons_self, fun a ha => ?_⟩
    rw [mem_singleton.mp ha]
    exact fun hself => hasymm first first hself hself
  | cons next rest ih =>
    rw [foldl_cons]
    by_cases hbetter : r next first
    · rw [if_pos hbetter]
      obtain ⟨hmem, hbest⟩ := ih next
      refine ⟨mem_cons_of_mem _ hmem, forall_mem_cons.mpr ⟨fun hfirst => ?_, hbest⟩⟩
      rcases hcotrans _ next _ hfirst with hlost | hlost
      · exact hasymm _ _ hbetter hlost
      · exact hbest next mem_cons_self hlost
    · rw [if_neg hbetter]
      obtain ⟨hmem, hbest⟩ := ih first
      obtain ⟨hfirst, hrest⟩ := forall_mem_cons.mp hbest
      refine ⟨?_, forall_mem_cons.mpr ⟨hfirst, forall_mem_cons.mpr ⟨fun hnext => ?_, hrest⟩⟩⟩
      · rcases mem_cons.mp hmem with heq | hrestMem
        · rw [heq]
          exact mem_cons_self
        · exact mem_cons_of_mem _ (mem_cons_of_mem _ hrestMem)
      · rcases hcotrans _ first _ hnext with hlost | hlost
        · exact hbetter hlost
        · exact hfirst hlost

end Choosing

section Sorting

variable {α : Type*} (r : α → α → Prop) [DecidableRel r] [Std.Total r] [IsTrans α r]

/-- Sorting forgets the order when no two different items are equivalent. -/
theorem insertionSort_eq_of_perm {items items' : List α} (hperm : items.Perm items')
    (hanti : ∀ a ∈ items, ∀ b ∈ items, r a b → r b a → a = b) :
    items.insertionSort r = items'.insertionSort r := by
  refine List.Perm.eq_of_pairwise ?_ (pairwise_insertionSort r items)
    (pairwise_insertionSort r items') ?_
  · intro a b ha hb
    exact hanti a ((mem_insertionSort r).mp ha) b
      (hperm.mem_iff.mpr ((mem_insertionSort r).mp hb))
  · exact (perm_insertionSort r items).trans (hperm.trans (perm_insertionSort r items').symm)

/-- An item after the first of the sorted list is not before it. -/
theorem exists_rel_of_mem_drop_insertionSort {items : List α} {a : α}
    (ha : a ∈ (items.insertionSort r).drop 1) :
    ∃ first rest, items.Perm (first :: rest) ∧ a ∈ rest ∧ r first a := by
  have hperm := perm_insertionSort r items
  have hsorted := pairwise_insertionSort r items
  cases hsort : items.insertionSort r with
  | nil =>
    rw [hsort] at ha
    cases ha
  | cons first rest =>
    rw [hsort, drop_one, tail_cons] at ha
    rw [hsort] at hperm hsorted
    exact ⟨first, rest, hperm.symm, ha, (pairwise_cons.mp hsorted).1 a ha⟩

end Sorting

end LittleRed.Lib
