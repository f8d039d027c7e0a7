import Mathlib.Data.List.Induction
import Mathlib.Data.Nat.Notation

/-!
# Loops that poll

A loop reads one input per turn and either goes on, in a new state, or is done with a
result. `poll` runs it over a list of inputs; a loop without a bound is its runs over the
finite beginnings of a stream.
-/

namespace LittleRed.Lib

open List

variable {State Input Result : Type*}

inductive Turn (State Result : Type*) where
  | again (s : State)
  | done (result : Result)

/-- Run a loop over a list of inputs. -/
def poll (turn : State → Input → Turn State Result) : State → List Input → Turn State Result
  | s, [] => .again s
  | s, x :: xs =>
    match turn s x with
    | .again s' => poll turn s' xs
    | .done result => .done result

/-- The loop goes on through the inputs before the given one, and is done at that one. -/
def DoneAt (turn : State → Input → Turn State Result) (s : State) (past : List Input) (x : Input)
    (result : Result) : Prop :=
  ∃ s', poll turn s past = .again s' ∧ turn s' x = .done result

section Rules

variable {turn : State → Input → Turn State Result}

/-- One more input is one more turn. -/
theorem poll_concat (s : State) (past : List Input) (x : Input) :
    poll turn s (past ++ [x]) =
      match poll turn s past with
      | .again s' => turn s' x
      | .done result => .done result := by
  induction past generalizing s with
  | nil => cases hturn : turn s x <;> simp [poll, hturn]
  | cons y rest ih =>
    rw [cons_append, poll, poll]
    cases turn s y with
    | again s' => exact ih s'
    | done result => rfl

variable {s : State} {past : List Input}

/-- What every turn keeps holds while the loop goes on. -/
theorem poll_invariant (inv : List Input → State → Prop) (hstart : inv [] s)
    (hturn : ∀ past s' x s'', inv past s' → turn s' x = .again s'' → inv (past ++ [x]) s'') {s' : State}
    (hpoll : poll turn s past = .again s') : inv past s' := by
  induction past using List.reverseRecOn generalizing s' with
  | nil =>
    obtain rfl : s = s' := Turn.again.inj hpoll
    exact hstart
  | append_singleton rest x ih =>
    rw [poll_concat] at hpoll
    cases hrest : poll turn s rest with
    | again before =>
      rw [hrest] at hpoll
      exact hturn rest before x s' (ih hrest) hpoll
    | done result =>
      rw [hrest] at hpoll
      cases hpoll

/-- Inputs that change nothing leave the loop where it is. -/
theorem poll_idle (hidle : ∀ x ∈ past, turn s x = .again s) :
    poll turn s past = .again s := by
  induction past with
  | nil => rfl
  | cons x rest ih =>
    rw [poll, hidle x mem_cons_self]
    exact ih fun y hy => hidle y (mem_cons_of_mem x hy)

/-- Inputs that never end the loop do not end it. -/
theorem poll_again {xs : List Input} (hagain : ∀ x ∈ xs, ∀ s, ∃ s', turn s x = .again s')
    (s : State) : ∃ s', poll turn s xs = .again s' := by
  induction xs generalizing s with
  | nil => exact ⟨s, rfl⟩
  | cons x rest ih =>
    obtain ⟨s', hturn⟩ := hagain x mem_cons_self s
    rw [poll, hturn]
    exact ih (fun y hy => hagain y (mem_cons_of_mem x hy)) s'

/-- The first input that ends the loop gives its result. -/
theorem poll_done (good : Result → Prop) {before : List Input} {x : Input}
    (hagain : ∀ y ∈ before, ∀ s, ∃ s', turn s y = .again s')
    (hdone : ∀ s, ∃ result, turn s x = .done result ∧ good result) (s : State) (after : List Input) :
    ∃ result, poll turn s (before ++ x :: after) = .done result ∧ good result := by
  induction before generalizing s with
  | nil =>
    obtain ⟨result, hturn, hgood⟩ := hdone s
    refine ⟨result, ?_, hgood⟩
    rw [nil_append, poll, hturn]
  | cons y rest ih =>
    obtain ⟨s', hturn⟩ := hagain y mem_cons_self s
    rw [cons_append, poll, hturn]
    exact ih (fun z hz => hagain z (mem_cons_of_mem y hz)) s'

end Rules

end LittleRed.Lib
