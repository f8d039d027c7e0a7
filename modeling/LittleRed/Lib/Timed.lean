import Mathlib.Data.Int.Notation
import Mathlib.Data.List.Basic

/-!
# Observations over time

A log lists timed observations, the newest first. A timer that measures how long a condition
has been met stands for the unbroken series of observations that meet it, up to the newest
one; a timer kept in a stored record reads back as the record stores times.
-/

namespace LittleRed.Lib

open List

variable {α : Type*}

/-- How a record rounds the times written to it; writing one again changes nothing. -/
structure StoredTime where
  stored : ℤ → ℤ
  stored_stored : ∀ t, stored (stored t) = stored t
  stored_mono : ∀ s t, s ≤ t → stored s ≤ stored t

variable {t : ℤ} {p : α → Bool} {log : List (ℤ × α)}

/-- Rounding down keeps the order. -/
theorem ediv_mul_mono (unit : ℤ) {s : ℤ} (h : s ≤ t) : s / unit * unit ≤ t / unit * unit := by
  rcases Int.lt_trichotomy unit 0 with hneg | rfl | hpos
  · have hpos : 0 < -unit := by omega
    have hle := Int.mul_le_mul_of_nonneg_right (Int.ediv_le_ediv hpos h) (Int.le_of_lt hpos)
    simpa only [Int.ediv_neg, Int.neg_mul_neg] using hle
  · simp
  · exact Int.mul_le_mul_of_nonneg_right (Int.ediv_le_ediv hpos h) (Int.le_of_lt hpos)

/-- A record that keeps times as multiples of a unit. -/
def StoredTime.wholeUnits (unit : ℤ) : StoredTime where
  stored t := t / unit * unit
  stored_stored t := by
    by_cases hunit : unit = 0
    · simp [hunit]
    · rw [Int.mul_ediv_cancel _ hunit]
  stored_mono _ _ := ediv_mul_mono unit

/-- A record that keeps nanoseconds as whole seconds. -/
def StoredTime.wholeSeconds : StoredTime := .wholeUnits 1000000000

/-- No observation is earlier than one made before it. -/
def Chronological (log : List (ℤ × α)) : Prop := log.Pairwise fun later earlier => earlier.1 ≤ later.1

/-- The time of the oldest observation in the unbroken series that meets a condition. -/
def heldSince (p : α → Bool) : List (ℤ × α) → Option ℤ
  | [] => none
  | o :: rest => if p o.2 then some ((heldSince p rest).getD o.1) else none

/-- The condition was met in every observation since one that lies at least the duration back. -/
def HeldFor (p : α → Bool) (duration now : ℤ) (log : List (ℤ × α)) : Prop :=
  ∃ recent o earlier, log = recent ++ o :: earlier ∧ duration ≤ now - o.1 ∧
    ∀ observed ∈ o :: recent, p observed.2 = true

/-- The time it has held since is that of an observation. -/
theorem exists_mem_of_heldSince (h : heldSince p log = some t) : ∃ o ∈ log, o.1 = t := by
  induction log with
  | nil => cases h
  | cons o rest ih =>
    rw [heldSince] at h
    split at h
    · cases hrest : heldSince p rest with
      | none =>
        rw [hrest] at h
        exact ⟨o, mem_cons_self, Option.some.inj h⟩
      | some t' =>
        rw [hrest] at h
        obtain ⟨o', ho', htime⟩ := ih (hrest.trans h)
        exact ⟨o', mem_cons_of_mem _ ho', htime⟩
    · cases h

/-- A property held so long if it holds now and did then. -/
theorem heldFor_cons (p : α → Bool) (duration now : ℤ) (o : ℤ × α) (log : List (ℤ × α)) :
    HeldFor p duration now (o :: log) ↔
      p o.2 = true ∧ (duration ≤ now - o.1 ∨ HeldFor p duration now log) := by
  constructor
  · rintro ⟨recent, first, earlier, hlog, hage, hall⟩
    cases recent with
    | nil =>
      obtain ⟨rfl, rfl⟩ := List.cons.inj hlog
      exact ⟨hall _ mem_cons_self, .inl hage⟩
    | cons newest recent =>
      obtain ⟨rfl, hrest⟩ := List.cons.inj hlog
      rw [forall_mem_cons, forall_mem_cons] at hall
      exact ⟨hall.2.1, .inr ⟨recent, first, earlier, hrest, hage,
        forall_mem_cons.mpr ⟨hall.1, hall.2.2⟩⟩⟩
  · rintro ⟨hnewest, hage | ⟨recent, first, earlier, hrest, hage, hall⟩⟩
    · exact ⟨[], o, log, rfl, hage, by simpa using hnewest⟩
    · rw [forall_mem_cons] at hall
      refine ⟨o :: recent, first, earlier, by rw [hrest, cons_append], hage, ?_⟩
      rw [forall_mem_cons, forall_mem_cons]
      exact ⟨hall.1, hnewest, hall.2⟩

/-- The time it has held since decides how long it held. -/
theorem heldFor_iff (hlog : Chronological log) (duration now : ℤ) :
    HeldFor p duration now log ↔ ∃ t, heldSince p log = some t ∧ duration ≤ now - t := by
  induction log with
  | nil =>
    refine iff_of_false ?_ (by simp [heldSince])
    rintro ⟨recent, first, earlier, hlog, -⟩
    cases recent <;> cases hlog
  | cons o rest ih =>
    obtain ⟨hbefore, hrest⟩ := pairwise_cons.mp hlog
    rw [heldFor_cons, ih hrest, heldSince]
    cases hp : p o.2 with
    | false => simp
    | true =>
      cases hsince : heldSince p rest with
      | none => simp
      | some t =>
        obtain ⟨first, hfirst, rfl⟩ := exists_mem_of_heldSince hsince
        have hle := hbefore first hfirst
        simp only [Option.getD_some, Option.some.injEq, exists_eq_left', if_true, true_and]
        omega

end LittleRed.Lib
