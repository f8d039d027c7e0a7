import Mathlib.Algebra.BigOperators.Group.List.Lemmas
import Mathlib.Algebra.Ring.Nat
import Mathlib.Data.List.Dedup

/-!
# Votes

The tally of a list of votes lists every choice once, with the number of votes for it. Of any
number of voters at most one choice has a majority.
-/

namespace LittleRed.Lib

open List

variable {α : Type*} [DecidableEq α]

/-- Every choice with the number of votes for it. -/
def tally (votes : List α) : List (α × ℕ) := votes.dedup.map fun a => (a, votes.count a)

variable {votes : List α} {a b : α}

/-- The tally has each candidate with its votes. -/
theorem mem_tally {n : ℕ} :
    (a, n) ∈ tally votes ↔ a ∈ votes ∧ votes.count a = n := by
  simp only [tally, mem_map, mem_dedup, Prod.mk.injEq]
  constructor
  · rintro ⟨b, hb, rfl, hcount⟩
    exact ⟨hb, hcount⟩
  · rintro ⟨ha, hcount⟩
    exact ⟨a, ha, rfl, hcount⟩

/-- The tally adds up to the votes. -/
theorem sum_tally (p : α → Bool) (votes : List α) :
    ((tally votes).map fun entry => if p entry.1 then entry.2 else 0).sum = votes.countP p := by
  rw [← sum_map_count_dedup_filter_eq_countP p votes, tally, map_map]
  induction votes.dedup with
  | nil => rfl
  | cons a rest ih =>
    rw [map_cons, sum_cons, ih, filter_cons]
    cases hp : p a <;> simp [hp]

/-- Two candidates share the votes. -/
theorem count_add_count_le_length (hne : a ≠ b) (votes : List α) :
    votes.count a + votes.count b ≤ votes.length := by
  induction votes with
  | nil => simp
  | cons x rest ih =>
    rw [count_cons, count_cons, length_cons]
    by_cases ha : x = a
    · simp only [ha, beq_iff_eq, if_true, if_false, hne]
      omega
    · simp only [ha, beq_iff_eq, if_false]
      split <;> omega

theorem majority_unique {voters : ℕ} (hvoters : votes.length ≤ voters) (ha : voters / 2 + 1 ≤ votes.count a)
    (hb : voters / 2 + 1 ≤ votes.count b) : a = b := by
  by_contra hne
  have hshare := count_add_count_le_length hne votes
  omega

end LittleRed.Lib
