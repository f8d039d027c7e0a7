import Mathlib.Data.List.Basic
import Mathlib.Data.Nat.Notation
import Mathlib.Logic.Function.Basic

/-!
# Loops over cells that may exit early

The loop visits the cells of an indexed family in ascending order. Its body rewrites the
visited cell and says whether to go on, to return normally or to return an error.
-/

namespace LittleRed.Lib

open Function

inductive LoopOutcome where
  | proceed
  | stop
  | fail
  deriving DecidableEq

variable {Cell : Type*}

/-- Visit `count` cells from index `start` on, leaving at the first turn that does not proceed. -/
def loopFrom (body : ℕ → Cell → Cell × LoopOutcome) (start : ℕ) :
    ℕ → (ℕ → Cell) → (ℕ → Cell) × LoopOutcome
  | 0, cells => (cells, .proceed)
  | count + 1, cells =>
    let turn := body start (cells start)
    let visited := update cells start turn.1
    match turn.2 with
    | .proceed => loopFrom body (start + 1) count visited
    | outcome => (visited, outcome)

/-- Visit the cells with an index below `count`. -/
def loopCells (body : ℕ → Cell → Cell × LoopOutcome) (count : ℕ) (cells : ℕ → Cell) :
    (ℕ → Cell) × LoopOutcome :=
  loopFrom body 0 count cells

variable (body : ℕ → Cell → Cell × LoopOutcome)

/-- A cell is left as it was, or it had its turn after all earlier turns proceeded. -/
theorem loopFrom_cell (start count : ℕ) (cells : ℕ → Cell) (k : ℕ) :
    (loopFrom body start count cells).1 k = cells k ∨ start ≤ k ∧ k < start + count ∧
        (∀ i, start ≤ i → i < k → (body i (cells i)).2 = .proceed) ∧
        (loopFrom body start count cells).1 k = (body k (cells k)).1 := by
  induction count generalizing start cells with
  | zero => exact .inl rfl
  | succ count ih =>
    unfold loopFrom
    dsimp only
    cases hturn : (body start (cells start)).2 with
    | proceed =>
      dsimp only
      have hrest := ih (start + 1) (update cells start (body start (cells start)).1)
      by_cases hk : k = start
      · subst hk
        rcases hrest with hsame | ⟨hle, -⟩
        · rw [update_self] at hsame
          exact .inr ⟨Nat.le_refl _, by omega, fun i hi hlt => by omega, hsame⟩
        · omega
      · rw [update_of_ne hk] at hrest
        rcases hrest with hsame | ⟨hle, hlt, hbefore, hcell⟩
        · exact .inl hsame
        refine .inr ⟨by omega, by omega, fun i hi hik => ?_, hcell⟩
        rcases Nat.eq_or_lt_of_le hi with rfl | hgt
        · exact hturn
        · have hproceed := hbefore i hgt hik
          rwa [update_of_ne (by omega)] at hproceed
    | stop | fail =>
      by_cases hk : k = start
      · subst hk
        exact .inr ⟨Nat.le_refl _, by omega, fun i hi hlt => by omega, update_self _ _ _⟩
      · exact .inl (update_of_ne hk _ _)

/-- A cell is as before, or as its turn left it. -/
theorem loopCells_cell (count : ℕ) (cells : ℕ → Cell) (k : ℕ) :
    (loopCells body count cells).1 k = cells k ∨ k < count ∧ (∀ i < k, (body i (cells i)).2 = .proceed) ∧
        (loopCells body count cells).1 k = (body k (cells k)).1 := by
  rcases loopFrom_cell body 0 count cells k with hsame | ⟨-, hlt, hbefore, hcell⟩
  · exact .inl hsame
  · exact .inr ⟨by omega, fun i hi => hbefore i (Nat.zero_le i) hi, hcell⟩

variable {cells : ℕ → Cell}

/-- A loop ends with the first outcome that does not proceed. -/
theorem loopFrom_reached {start count k : ℕ} (hstart : start ≤ k) (hk : k < start + count)
    (hbefore : ∀ i, start ≤ i → i < k → (body i (cells i)).2 = .proceed) :
    (loopFrom body start count cells).1 k = (body k (cells k)).1 ∧
      ((body k (cells k)).2 ≠ .proceed → (loopFrom body start count cells).2 = (body k (cells k)).2) := by
  induction count generalizing start cells with
  | zero => omega
  | succ count ih =>
    unfold loopFrom
    dsimp only
    rcases Nat.eq_or_lt_of_le hstart with rfl | hlt
    · cases hturn : (body start (cells start)).2 with
      | proceed =>
        refine ⟨?_, fun hleave => absurd rfl hleave⟩
        -- the cells after this one are all that is left to visit
        rcases loopFrom_cell body (start + 1) count (update cells start (body start (cells start)).1)
          start with hsame | ⟨hle, -⟩
        · simpa using hsame
        · omega
      | stop | fail => exact ⟨update_self _ _ _, fun _ => rfl⟩
    · rw [hbefore start (Nat.le_refl _) hlt]
      have hrest := @ih (update cells start (body start (cells start)).1) (start + 1) hlt (by omega)
        fun i hi hik => by
          rw [update_of_ne (by omega)]
          exact hbefore i (by omega) hik
      rwa [update_of_ne (by omega)] at hrest

/-- The loop over all cells reaches every cell before which all turns proceed. -/
theorem loopCells_reached {count k : ℕ} (hk : k < count)
    (hbefore : ∀ i < k, (body i (cells i)).2 = .proceed) :
    (loopCells body count cells).1 k = (body k (cells k)).1 ∧
      ((body k (cells k)).2 ≠ .proceed → (loopCells body count cells).2 = (body k (cells k)).2) :=
  loopFrom_reached body (Nat.zero_le k) (by omega) fun i _ => hbefore i

end LittleRed.Lib
