import LittleRed.Lib.Text
import Mathlib.Data.List.Infix

/-!
# Tools that work on lines of text

What the usual command line tools make of a line: `grep` with a pattern in which a dot stands
for any character and every other character for itself, the blank-separated fields of `awk`,
and the first field of `cut`. A line is a list of characters.
-/

namespace LittleRed.Lib

open List

/-- The pattern matches at the start of the line. -/
def matchesHere : List Char → List Char → Bool
  | [], _ => true
  | _ :: _, [] => false
  | p :: pattern, c :: line => (p == '.' || p == c) && matchesHere pattern line

def grepLine (pattern line : List Char) : Bool := line.tails.any (matchesHere pattern)

def awkFields (line : List Char) : List (List Char) := (line.splitOn ' ').filter (· ≠ [])

/-- A field of a line by its number, counted from one; empty if there is none. -/
def awkField (number : ℕ) (line : List Char) : List Char := (awkFields line).getD (number - 1) []

/-- What stands before the first separator, or the whole line. -/
def cutFirst (separator : Char) (line : List Char) : List Char := line.takeWhile (· ≠ separator)

/-- A line made of fields with a separator between them. -/
def joinFields (separator : Char) (fields : List (List Char)) : List Char :=
  [separator].intercalate fields

theorem matchesHere_append (pattern rest : List Char) : matchesHere pattern (pattern ++ rest) = true := by
  induction pattern with
  | nil => rfl
  | cons c pattern ih => simp [matchesHere, ih]

/-- A line that holds the pattern matches it. -/
theorem grepLine_of_infix {pattern line : List Char} (h : pattern <:+: line) :
    grepLine pattern line = true := by
  obtain ⟨before, after, rfl⟩ := h
  rw [grepLine, any_eq_true]
  refine ⟨pattern ++ after, (mem_tails _ _).mpr ⟨before, ?_⟩, matchesHere_append pattern after⟩
  rw [append_assoc]

/-- The fields of a line that was made of clean ones are those. -/
theorem awkFields_joinFields {fields : List (List Char)} (hfields : fields ≠ [])
    (hclean : ∀ field ∈ fields, field ≠ [] ∧ ' ' ∉ field) :
    awkFields (joinFields ' ' fields) = fields := by
  rw [awkFields, joinFields, splitOn_intercalate ' ' (fun field hmem => (hclean field hmem).2) hfields,
    filter_eq_self]
  exact fun field hmem => decide_eq_true (hclean field hmem).1

/-- The first field is what stands before the first separator. -/
theorem cutFirst_append {separator : Char} {left : List Char} (h : separator ∉ left) (right : List Char) :
    cutFirst separator (left ++ separator :: right) = left := by
  have hkept : ∀ c ∈ left, decide (c ≠ separator) = true := fun c hc => decide_eq_true fun heq => h (heq ▸ hc)
  rw [cutFirst, takeWhile_append_of_pos hkept, takeWhile_cons_of_neg (by simp), append_nil]

theorem occursIn_iff (part line : List Char) : occursIn part line = true ↔ part <:+: line := by
  simp only [occursIn, any_eq_true, mem_tails, isPrefixOf_iff_prefix, infix_iff_prefix_suffix, and_comm]

section Separator

variable {separator : Char} {part : List Char}

/-- A text without the separator occurs on one side of it. -/
theorem infix_append_cons_iff (hpart : part ≠ []) (hsep : separator ∉ part) (left right : List Char) :
    part <:+: left ++ separator :: right ↔ part <:+: left ∨ part <:+: right := by
  constructor
  · rintro ⟨before, after, hline⟩
    rw [append_assoc] at hline
    rcases append_eq_append_iff.mp hline with ⟨rest, rfl, hrest⟩ | ⟨rest, rfl, hrest⟩
    · rcases append_eq_append_iff.mp hrest with ⟨tail, rfl, -⟩ | ⟨tail, rfl, htail⟩
      · exact .inl ⟨before, tail, by rw [append_assoc]⟩
      · cases tail with
        | nil => exact .inl ⟨before, [], by simp⟩
        | cons c tail =>
          obtain rfl : separator = c := (List.cons.inj htail).1
          exact absurd (mem_append_right rest mem_cons_self) hsep
    · cases rest with
      | nil =>
        cases part with
        | nil => exact absurd rfl hpart
        | cons c part =>
          obtain rfl : separator = c := (List.cons.inj hrest).1
          exact absurd mem_cons_self hsep
      | cons c rest =>
        have hright : right = rest ++ (part ++ after) := (List.cons.inj hrest).2
        exact .inr ⟨rest, after, by rw [hright, append_assoc]⟩
  · rintro (h | h)
    · exact h.trans (prefix_append left _).isInfix
    · exact h.trans ((suffix_cons separator right).trans (suffix_append left _)).isInfix

/-- A text without the separator occurs in a line if it occurs in a field. -/
theorem occursIn_joinFields (hpart : part ≠ []) (hsep : separator ∉ part) (fields : List (List Char)) :
    occursIn part (joinFields separator fields) = true ↔ ∃ field ∈ fields, occursIn part field = true := by
  simp only [occursIn_iff, joinFields]
  induction fields with
  | nil => simp [hpart]
  | cons field rest ih =>
    cases rest with
    | nil => simp
    | cons next rest =>
      rw [intercalate_cons_cons, append_assoc, singleton_append, infix_append_cons_iff hpart hsep, ih]
      simp only [exists_mem_cons_iff]

end Separator

end LittleRed.Lib
