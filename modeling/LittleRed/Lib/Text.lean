import Mathlib.Algebra.Group.Int.Defs
import Mathlib.Algebra.Group.Nat.Defs
import Mathlib.Data.Int.Notation
import Mathlib.Data.List.Basic
import Mathlib.Data.Nat.Notation

/-!
# Text

Splitting and number parsing over lists of characters, so that the functions compute in
the kernel.
-/

namespace LittleRed.Lib

/-- Cut a text at every occurrence of a character. -/
def splitText (separator : Char) (s : String) : List String :=
  (s.toList.splitOn separator).map String.ofList

/-- What a text has behind another one that it begins with. -/
def cutFront (front s : String) : Option String :=
  if front.toList.isPrefixOf s.toList then some (String.ofList (s.toList.drop front.toList.length)) else none

/-- Whether a sequence of characters occurs within another one. -/
def occursIn (part line : List Char) : Bool := line.tails.any part.isPrefixOf

def containsText (text part : String) : Bool := occursIn part.toList text.toList

/-- The characters with the Unicode property White_Space. -/
def isSpace (c : Char) : Bool :=
  let n := c.toNat
  (decide (0x09 ≤ n) && decide (n ≤ 0x0D)) || (decide (0x2000 ≤ n) && decide (n ≤ 0x200A)) ||
    [0x20, 0x85, 0xA0, 0x1680, 0x2028, 0x2029, 0x202F, 0x205F, 0x3000].contains n

/-- A text without the white space around it. -/
def trimSpace (s : String) : String :=
  String.ofList (((s.toList.dropWhile isSpace).reverse.dropWhile isSpace).reverse)

/-- A character as it stands within quotes. Characters beyond ASCII stand for themselves. -/
def quoteChar (c : Char) : List Char :=
  let hexDigit (n : ℕ) : Char := "0123456789abcdef".toList.getD n '0'
  match c.toNat with
  | 7 => ['\\', 'a']
  | 8 => ['\\', 'b']
  | 9 => ['\\', 't']
  | 10 => ['\\', 'n']
  | 11 => ['\\', 'v']
  | 12 => ['\\', 'f']
  | 13 => ['\\', 'r']
  | 34 => ['\\', '"']
  | 92 => ['\\', '\\']
  | n =>
    if n < 32 ∨ n = 127 then ['\\', 'x', hexDigit (n / 16), hexDigit (n % 16)] else [c]

def quoteText (s : String) : String :=
  String.ofList (['"'] ++ s.toList.flatMap quoteChar ++ ['"'])

/-- The value of a decimal digit. -/
def digitValue (c : Char) : Option ℕ :=
  if '0'.toNat ≤ c.toNat ∧ c.toNat ≤ '9'.toNat then some (c.toNat - '0'.toNat) else none

/-- The number written by a nonempty list of decimal digits. -/
def parseDigits : List Char → Option ℕ
  | [] => none
  | cs => cs.foldlM (fun acc c => (digitValue c).map (10 * acc + ·)) 0

/-- Read a signed decimal number that fits a 64-bit integer. -/
def atoi (s : String) : Option ℤ := do
  let value ← match s.toList with
    | '-' :: digits => (parseDigits digits).map fun n => -(n : ℤ)
    | '+' :: digits => (parseDigits digits).map fun n => (n : ℤ)
    | digits => (parseDigits digits).map fun n => (n : ℤ)
  if -2 ^ 63 ≤ value ∧ value < 2 ^ 63 then some value else none

/-- Different numbers have different texts. -/
theorem toString_injective : Function.Injective (toString : ℕ → String) := by
  intro a b h
  have hdigits : Nat.toDigits 10 a = Nat.toDigits 10 b := by
    rwa [Nat.toString_eq_ofList_toDigits, Nat.toString_eq_ofList_toDigits, String.ofList_inj] at h
  calc
    a = Nat.ofDigitChars 10 (Nat.toDigits 10 a) 0 := by rw [Nat.ofDigitChars_ten_toDigits]
    _ = b := by rw [hdigits, Nat.ofDigitChars_ten_toDigits]

variable {c separator : Char} {s : String}

theorem digitValue_of_isDigit (h : c.isDigit = true) :
    digitValue c = some (c.toNat - '0'.toNat) := by
  rw [Char.isDigit, Bool.and_eq_true, decide_eq_true_iff, decide_eq_true_iff] at h
  exact if_pos h

/-- Digits are read as their decimal value. -/
theorem foldlM_digitValue {cs : List Char} (h : ∀ c ∈ cs, c.isDigit = true) (init : ℕ) :
    cs.foldlM (fun acc c => (digitValue c).map (10 * acc + ·)) init = some (Nat.ofDigitChars 10 cs init) := by
  induction cs generalizing init with
  | nil => rfl
  | cons c rest ih =>
    rw [List.forall_mem_cons] at h
    rw [List.foldlM_cons, digitValue_of_isDigit h.1]
    exact ih h.2 _

theorem isDigit_toString {n : ℕ} (h : c ∈ (toString n).toList) : c.isDigit = true := by
  rw [Nat.toString_eq_ofList_toDigits, String.toList_ofList] at h
  exact Nat.isDigit_of_mem_toDigits (by decide) (by decide) h

theorem notMem_toString (hc : c.isDigit = false) (n : ℕ) : c ∉ (toString n).toList := by
  intro hmem
  rw [isDigit_toString hmem] at hc
  cases hc

/-- The text of a number in range is read as the number. -/
theorem atoi_toString {n : ℕ} (hn : n < 2 ^ 63) : atoi (toString n) = some (n : ℤ) := by
  have hdigits : ∀ c ∈ (toString n).toList, c.isDigit = true := fun c hc => isDigit_toString hc
  have hparsed : parseDigits (toString n).toList = some n := by
    have hvalue := foldlM_digitValue hdigits 0
    rw [Nat.toString_eq_ofList_toDigits, String.toList_ofList, Nat.ofDigitChars_ten_toDigits] at hvalue
    rw [Nat.toString_eq_ofList_toDigits, String.toList_ofList]
    cases hchars : Nat.toDigits 10 n with
    | nil => exact absurd hchars Nat.toDigits_ne_nil
    | cons c rest => rwa [hchars] at hvalue
  cases hchars : (toString n).toList with
  | nil =>
    rw [hchars] at hparsed
    cases hparsed
  | cons c rest =>
    rw [hchars] at hparsed hdigits
    have hc := hdigits c List.mem_cons_self
    have hbounds : -2 ^ 63 ≤ (n : ℤ) ∧ (n : ℤ) < 2 ^ 63 := by omega
    unfold atoi
    rw [hchars]
    split
    · rename_i heq
      obtain ⟨rfl, -⟩ := List.cons.inj heq
      exact absurd hc (by decide)
    · rename_i heq
      obtain ⟨rfl, -⟩ := List.cons.inj heq
      exact absurd hc (by decide)
    · rw [hparsed, Option.bind_eq_bind, Option.bind_eq_some_iff]
      exact ⟨n, rfl, if_pos hbounds⟩

/-- A text without the separator is one part. -/
theorem splitText_singleton (h : separator ∉ s.toList) :
    splitText separator s = [s] := by
  have hnone : ∀ c ∈ s.toList, (c == separator) = false :=
    fun c hc => beq_eq_false_iff_ne.mpr fun heq => h (heq ▸ hc)
  rw [splitText, List.splitOn, List.splitOnP_eq_singleton hnone]
  simp

/-- The part before the first separator comes first. -/
theorem splitText_append {s t : String} (h : separator ∉ s.toList) :
    splitText separator (s ++ String.singleton separator ++ t) = s :: splitText separator t := by
  have hnone : ∀ c ∈ s.toList, (c == separator) = false :=
    fun c hc => beq_eq_false_iff_ne.mpr fun heq => h (heq ▸ hc)
  have hchars : (s ++ String.singleton separator ++ t).toList = s.toList ++ separator :: t.toList := by
    simp
  rw [splitText, hchars, List.splitOn,
    List.splitOnP_append_cons_of_forall_mem hnone separator (beq_self_eq_true separator)]
  simp [splitText, List.splitOn]

/-- A separator splits a text in two. -/
theorem splitText_append_separator (separator : Char) (s t : String) :
    splitText separator (s ++ String.singleton separator ++ t) =
      splitText separator s ++ splitText separator t := by
  have hchars : (s ++ String.singleton separator ++ t).toList = s.toList ++ separator :: t.toList := by
    simp
  have hcut : List.splitOnP (· == separator) (s.toList ++ separator :: t.toList) =
      List.splitOnP (· == separator) s.toList ++ List.splitOnP (· == separator) t.toList :=
    List.splitOnP_append_cons _ _ (beq_self_eq_true separator)
  rw [splitText, hchars, List.splitOn, hcut, List.map_append]
  rfl

/-- No part has the separator. -/
theorem notMem_of_mem_splitText {part : String} (h : part ∈ splitText separator s) :
    separator ∉ part.toList := by
  have hparts : ∀ cs : List Char, ∀ w ∈ cs.splitOnP (· == separator), separator ∉ w := by
    intro cs
    induction cs with
    | nil => simp
    | cons c rest ih =>
      obtain ⟨first, others, hcut⟩ := List.exists_cons_of_ne_nil (List.splitOnP_ne_nil (· == separator) rest)
      rw [List.splitOnP_cons_eq_if_modifyHead]
      by_cases hc : c = separator
      · simpa [hc] using ih
      · rw [hcut, List.forall_mem_cons] at ih
        have hc' : ¬ (c == separator) = true := fun heq => hc (beq_iff_eq.mp heq)
        rw [if_neg hc', hcut, List.modifyHead_cons, List.forall_mem_cons, List.mem_cons]
        exact ⟨not_or.mpr ⟨Ne.symm hc, ih.1⟩, ih.2⟩
  rw [splitText, List.mem_map] at h
  obtain ⟨w, hw, rfl⟩ := h
  rw [String.toList_ofList]
  exact hparts _ w hw

/-- Splitting undoes joining. -/
theorem splitText_intercalate {parts : List String} (hne : parts ≠ [])
    (h : ∀ part ∈ parts, separator ∉ part.toList) :
    splitText separator ((String.singleton separator).intercalate parts) = parts := by
  have hcut : ([separator].intercalate (parts.map String.toList)).splitOn separator =
    parts.map String.toList := by
    refine List.splitOn_intercalate separator (fun cs hcs => ?_) (by simpa using hne)
    obtain ⟨part, hpart, rfl⟩ := List.mem_map.mp hcs
    exact h part hpart
  rw [splitText, String.toList_intercalate, String.toList_singleton, hcut, List.map_map]
  simp [Function.comp_def]

/-- The front is cut off. -/
theorem cutFront_append (front rest : String) : cutFront front (front ++ rest) = some rest := by
  have hfront : front.toList.isPrefixOf (front.toList ++ rest.toList) = true :=
    List.isPrefixOf_iff_prefix.mpr (List.prefix_append _ _)
  rw [cutFront, String.toList_append, if_pos hfront, List.drop_left, String.ofList_toList]

theorem cutFront_eq_none {front : String} (h : ¬ front.toList <+: s.toList) : cutFront front s = none :=
  if_neg fun hfront => h (List.isPrefixOf_iff_prefix.mp hfront)

end LittleRed.Lib
