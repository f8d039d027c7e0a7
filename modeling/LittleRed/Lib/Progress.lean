import Mathlib.Order.WellFounded

/-!
# Runs that reach a goal

A run makes progress if each of its steps lowers the first of several ranks that it changes. Ranks
further down the list may rise when an earlier one falls, so no bound on the length of the run is known
in advance; and yet every such run reaches its goal.
-/

namespace LittleRed.Lib

variable {α : Type*}

/-- A step lowers one of the ranks and raises none of those before it. -/
def Lowers : List (α → ℕ) → α → α → Prop
  | [], _, _ => False
  | rank :: ranks, s, s' => rank s' < rank s ∨ (rank s' ≤ rank s ∧ Lowers ranks s s')

variable {rank : α → ℕ} {ranks : List (α → ℕ)} {s s' : α}

theorem Lowers.first (h : rank s' < rank s) :
    Lowers (rank :: ranks) s s' := .inl h

theorem Lowers.later (h : rank s' ≤ rank s)
    (hrest : Lowers ranks s s') : Lowers (rank :: ranks) s s' := .inr ⟨h, hrest⟩

/-- Ranks cannot be lowered for ever. -/
theorem wellFounded_lowers (ranks : List (α → ℕ)) : WellFounded fun s' s => Lowers ranks s s' := by
  induction ranks with
  | nil => exact ⟨fun s => ⟨s, fun _ h => h.elim⟩⟩
  | cons rank ranks ih =>
    have hlex := InvImage.wf (fun s => (rank s, s)) (WellFounded.prod_lex Nat.lt_wfRel.wf ih)
    refine Subrelation.wf (fun {s' s} h => ?_) hlex
    rcases h with hlower | ⟨hle, hrest⟩
    · exact .left _ _ hlower
    rcases Nat.lt_or_eq_of_le hle with hlower | heq
    · exact .left _ _ hlower
    · change Prod.Lex _ _ (rank s', s') (rank s, s)
      rw [heq]
      exact .right _ hrest

/-- A run that lowers the ranks until it reaches a goal reaches it. -/
theorem exists_goal (ranks : List (α → ℕ)) (run : ℕ → α) {goal : ℕ → Prop}
    (hstep : ∀ n, (∀ i ≤ n, ¬ goal i) → Lowers ranks (run n) (run (n + 1))) : ∃ n, goal n := by
  by_contra hnever
  push Not at hnever
  have hfrom : ∀ s n, run n ≠ s := by
    intro s
    induction s using (wellFounded_lowers ranks).induction with
    | _ s ih =>
      rintro n rfl
      exact ih (run (n + 1)) (hstep n fun i _ => hnever i) (n + 1) rfl
  exact hfrom (run 0) 0 rfl

end LittleRed.Lib
