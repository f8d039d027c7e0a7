import LittleRed.Lib.GoMap
import Mathlib.Algebra.Order.BigOperators.Group.List
import Mathlib.Algebra.Order.Group.Nat
import Mathlib.Algebra.Ring.Nat
import Mathlib.Data.List.Basic

/-!
# Counting items by their keys

Items that are counted once for each of several different keys are counted once altogether. Items
that have keys of their own can be replaced one at a time.
-/

namespace LittleRed.Lib

open List

section Keys

variable {α β : Type*} [DecidableEq β] {key : α → β}

/-- Counting by a list of keys counts its first key and the rest. -/
theorem countP_contains_cons {k : β} {rest : List β} (hfresh : k ∉ rest) (p : α → Bool) (items : List α) :
    (items.countP fun a => p a && (k :: rest).contains (key a)) =
      (items.countP fun a => p a && key a == k) + items.countP fun a => p a && rest.contains (key a) := by
  induction items with
  | nil => rfl
  | cons a items ih =>
    rw [countP_cons, countP_cons, countP_cons, ih]
    by_cases hkey : key a = k
    · have hother : rest.contains k = false := by rwa [← Bool.not_eq_true, contains_iff_mem]
      simp only [contains_cons, hkey, hother, beq_self_eq_true, Bool.true_or, Bool.and_true,
        Bool.and_false, Bool.false_eq_true, if_false]
      omega
    · simp only [contains_cons, beq_eq_false_iff_ne.mpr hkey, Bool.false_or, Bool.and_false,
        Bool.false_eq_true, if_false]
      omega

/-- Counts by single keys add up to the count by all of them. -/
theorem sum_countP_key (key : α → β) {keys : List β} (hkeys : keys.Nodup) (p : α → Bool) (items : List α) :
    (keys.map fun k => items.countP fun a => p a && key a == k).sum =
      items.countP fun a => p a && keys.contains (key a) := by
  induction keys with
  | nil => simp
  | cons k rest ih =>
    obtain ⟨hfresh, hrest⟩ := nodup_cons.mp hkeys
    rw [map_cons, sum_cons, ih hrest, countP_contains_cons hfresh]

/-- An update at one key changes one item of the list. -/
theorem exists_perm_map_update (key : α → β) {items : List α} (hkeys : (items.map key).Nodup) {a : α}
    (ha : a ∈ items) (g : α → α) :
    ∃ rest, items.Perm (a :: rest) ∧
      (items.map fun x => if key x = key a then g x else x).Perm (g a :: rest) := by
  obtain ⟨before, after, rfl⟩ := append_of_mem ha
  have hperm : (before ++ a :: after).Perm (a :: (before ++ after)) := perm_middle
  have hnodup := (hperm.map key).nodup_iff.mp hkeys
  rw [map_cons, nodup_cons] at hnodup
  refine ⟨before ++ after, hperm, (hperm.map _).trans (List.Perm.of_eq ?_)⟩
  rw [map_cons, if_pos rfl]
  refine congrArg _ ((map_congr_left fun x hx => ?_).trans (map_id _))
  rw [if_neg (fun heq => hnodup.1 (mem_map.mpr ⟨x, hx, heq⟩)), id]

/-- An update at one key changes one value of the map. -/
theorem GoMap.exists_perm_update {m : GoMap β α} {k : β} {a : α} (ha : m.lookup k = some a) (g : α → α) :
    ∃ rest, m.values.Perm (a :: rest) ∧
      (m.mapValues fun k' value => if k' = k then g value else value).values.Perm (g a :: rest) := by
  have hmem : (⟨k, a⟩ : Σ _ : β, α) ∈ m.entries := AList.mem_lookup_iff.mp ha
  obtain ⟨rest, hbefore, hafter⟩ := exists_perm_map_update Sigma.fst m.nodupKeys hmem
    fun entry => ⟨entry.1, g entry.2⟩
  have hvalues : m.values.Perm (a :: rest.map Sigma.snd) := by
    unfold GoMap.values
    exact hbefore.map _
  refine ⟨_, hvalues, ?_⟩
  have hentries : (m.mapValues fun k' value => if k' = k then g value else value).entries =
      m.entries.map fun entry => if entry.1 = k then ⟨entry.1, g entry.2⟩ else entry := by
    refine map_congr_left fun entry _ => ?_
    by_cases hkey : entry.1 = k
    · simp [hkey]
    · simp [hkey]
  rw [GoMap.values, hentries]
  exact hafter.map _

end Keys

section Bounds

variable {α : Type*} {items : List α} {f : α → ℕ} {bound : ℕ}

/-- A sum below so many times the bound has a summand below the bound. -/
theorem exists_lt_of_sum_lt_mul (h : (items.map f).sum < items.length * bound) :
    ∃ a ∈ items, f a < bound := by
  refine exists_lt_of_sum_lt f (fun _ => bound) ?_
  rwa [map_const', sum_replicate, Nat.nsmul_eq_mul]

/-- A sum at its upper bound has every summand there. -/
theorem eq_of_sum_eq_mul (hle : ∀ a ∈ items, f a ≤ bound) (hsum : (items.map f).sum = items.length * bound)
    {a : α} (ha : a ∈ items) : f a = bound := by
  refine Nat.le_antisymm (hle a ha) ?_
  by_contra hlt
  have hless : (items.map f).sum < (items.map fun _ => bound).sum :=
    sum_lt_sum f _ hle ⟨a, ha, Nat.not_le.mp hlt⟩
  rw [map_const', sum_replicate, Nat.nsmul_eq_mul, hsum] at hless
  exact absurd hless (Nat.lt_irrefl _)

end Bounds

end LittleRed.Lib
