import LittleRed.Lib.Words
import Mathlib.Algebra.Order.Group.Int

/-!
# Decimal numbers of 64 bits

A number is read into 64 bits. Reading stops with the largest value where the digits go beyond it, so a
text that is out of range still has a value, the nearest one. Every integer that fits is read back from its
decimal text.
-/

namespace LittleRed.Lib

open List

/-- Read digits behind a value; a number out of range has the largest value. -/
def parseUint64 (value : ℕ) : List Char → Option ℕ
  | [] => some value
  | c :: rest =>
    match digitValue c with
    | none => none
    | some digit =>
      if 2 ^ 64 ≤ 10 * value + digit then some (2 ^ 64 - 1) else parseUint64 (10 * value + digit) rest

/-- A signed number when the error is ignored: zero for no number, else the nearest value. -/
def parseInt64 (s : String) : ℤ :=
  match s.toList with
  | [] => 0
  | '-' :: digits =>
    match parseUint64 0 digits with
    | some n => -(min n (2 ^ 63) : ℕ)
    | none => 0
  | '+' :: digits =>
    match parseUint64 0 digits with
    | some n => (min n (2 ^ 63 - 1) : ℕ)
    | none => 0
  | digits =>
    match parseUint64 0 digits with
    | some n => (min n (2 ^ 63 - 1) : ℕ)
    | none => 0

def clamp64 (n : ℤ) : ℤ := max (-2 ^ 63) (min n (2 ^ 63 - 1))

theorem clamp64_of_fits {n : ℤ} (hlow : -2 ^ 63 ≤ n) (hhigh : n < 2 ^ 63) : clamp64 n = n := by
  rw [clamp64, min_eq_left (by omega), max_eq_right hlow]

/-- Digits behind a value do not lower it. -/
theorem le_ofDigitChars (digits : List Char) (value : ℕ) : value ≤ Nat.ofDigitChars 10 digits value := by
  induction digits generalizing value with
  | nil => exact Nat.le_refl value
  | cons c rest ih =>
    rw [Nat.ofDigitChars_cons]
    exact Nat.le_trans (by omega) (ih _)

/-- Digits are read as their value, up to the largest one. -/
theorem parseUint64_digits {digits : List Char} (hdigits : ∀ c ∈ digits, c.isDigit = true) {value : ℕ}
    (hvalue : value < 2 ^ 64) :
    parseUint64 value digits = some (min (Nat.ofDigitChars 10 digits value) (2 ^ 64 - 1)) := by
  induction digits generalizing value with
  | nil =>
    rw [parseUint64, Nat.ofDigitChars, foldl_nil, Nat.min_eq_left (by omega)]
  | cons c rest ih =>
    rw [forall_mem_cons] at hdigits
    rw [Nat.ofDigitChars_cons, parseUint64, digitValue_of_isDigit hdigits.1]
    dsimp only
    split
    · rename_i hover
      have hle := le_ofDigitChars rest (10 * value + (c.toNat - '0'.toNat))
      rw [Nat.min_eq_right (by omega)]
    · rename_i hin
      exact ih hdigits.2 (Nat.not_le.mp hin)

/-- The text of a number is read as the number, up to the largest one. -/
theorem parseUint64_toString (n : ℕ) : parseUint64 0 (toString n).toList = some (min n (2 ^ 64 - 1)) := by
  rw [parseUint64_digits (fun c hc => isDigit_toString hc) (by decide), Nat.toString_eq_ofList_toDigits,
    String.toList_ofList, Nat.ofDigitChars_ten_toDigits]

/-- The text of a number begins with a digit. -/
theorem exists_toString_cons (n : ℕ) : ∃ c rest, (toString n).toList = c :: rest ∧ c.isDigit = true := by
  cases hchars : (toString n).toList with
  | nil =>
    rw [Nat.toString_eq_ofList_toDigits, String.toList_ofList] at hchars
    exact absurd hchars Nat.toDigits_ne_nil
  | cons c rest => exact ⟨c, rest, rfl, isDigit_toString (hchars ▸ mem_cons_self)⟩

/-- The text of a negative number has a minus sign before the digits. -/
theorem toList_toString_int (n : ℤ) :
    (∃ m : ℕ, n = m ∧ (toString n).toList = (toString m).toList) ∨
      ∃ m : ℕ, n = -m ∧ 0 < m ∧ (toString n).toList = '-' :: (toString m).toList := by
  cases n with
  | ofNat m => exact .inl ⟨m, rfl, rfl⟩
  | negSucc m =>
    refine .inr ⟨m + 1, rfl, Nat.succ_pos m, ?_⟩
    have htext : toString (Int.negSucc m) = "-" ++ toString (m + 1) := rfl
    rw [htext, String.toList_append]
    rfl

/-- The text of an integer is read as the nearest value in range. -/
theorem parseInt64_toString (n : ℤ) : parseInt64 (toString n) = clamp64 n := by
  rcases toList_toString_int n with ⟨m, rfl, htext⟩ | ⟨m, rfl, hpos, htext⟩
  · obtain ⟨c, rest, hchars, hdigit⟩ := exists_toString_cons m
    have hread := parseUint64_toString m
    rw [parseInt64, htext, hchars]
    rw [hchars] at hread
    split
    · rename_i heq
      cases heq
    · rename_i heq
      obtain ⟨rfl, -⟩ := List.cons.inj heq
      exact absurd hdigit (by decide)
    · rename_i heq
      obtain ⟨rfl, -⟩ := List.cons.inj heq
      exact absurd hdigit (by decide)
    · rw [hread, clamp64]
      dsimp only
      omega
  · rw [parseInt64, htext]
    change (match parseUint64 0 (toString m).toList with
      | some n => -((min n (2 ^ 63) : ℕ) : ℤ)
      | none => 0) = _
    have hmin : min (min m (2 ^ 64 - 1)) (2 ^ 63) = min m (2 ^ 63) := by omega
    have hright : min (-(m : ℤ)) (2 ^ 63 - 1) = -m := min_eq_left (by omega)
    rw [parseUint64_toString, clamp64, hright]
    dsimp only
    rw [hmin]
    rcases Nat.le_total m (2 ^ 63) with hle | hle
    · rw [Nat.min_eq_left hle, max_eq_right (by omega)]
    · rw [Nat.min_eq_right hle, max_eq_left (by omega)]
      rfl

/-- A digit is no space. -/
theorem isSpace_of_isDigit {c : Char} (h : c.isDigit = true) : isSpace c = false := by
  rw [Char.isDigit, Bool.and_eq_true, decide_eq_true_iff, decide_eq_true_iff] at h
  have hlow : 48 ≤ c.toNat := UInt32.le_iff_toNat_le.mp h.1
  have hhigh : c.toNat ≤ 57 := UInt32.le_iff_toNat_le.mp h.2
  exact isSpace_of_bounds ⟨by omega, by omega⟩

/-- The text of an integer has digits and minus signs only. -/
theorem mem_toString_int {n : ℤ} {c : Char} (h : c ∈ (toString n).toList) : c = '-' ∨ c.isDigit = true := by
  rcases toList_toString_int n with ⟨m, -, htext⟩ | ⟨m, -, -, htext⟩
  · rw [htext] at h
    exact .inr (isDigit_toString h)
  · rw [htext, mem_cons] at h
    exact h.imp_right isDigit_toString

theorem spaceless_toString (n : ℕ) : Spaceless (toString n).toList :=
  fun _ hc => isSpace_of_isDigit (isDigit_toString hc)

/-- The text of an integer is one word. -/
theorem spaceless_toString_int (n : ℤ) : (toString n).toList ≠ [] ∧ Spaceless (toString n).toList := by
  constructor
  · rcases toList_toString_int n with ⟨m, -, htext⟩ | ⟨m, -, -, htext⟩
    · obtain ⟨c, rest, hchars, -⟩ := exists_toString_cons m
      rw [htext, hchars]
      exact cons_ne_nil c rest
    · rw [htext]
      exact cons_ne_nil _ _
  · intro c hc
    rcases mem_toString_int hc with rfl | hdigit
    · decide
    · exact isSpace_of_isDigit hdigit

end LittleRed.Lib
