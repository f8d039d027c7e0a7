import LittleRed.Lib.Text
import Mathlib.Data.List.TakeWhile

/-!
# Words

White space separates the words of a line, and a text is read line by line. White space around the text
adds no word to any line, so it does not matter whether it is trimmed first. Words without white space are
read back from the line that they are joined to.
-/

namespace LittleRed.Lib

open List

def words (line : List Char) : List (List Char) := (line.splitOnP isSpace).filter (· ≠ [])

def fields (s : String) : List String := (words s.toList).map String.ofList

/-- The words of the lines that have some. -/
def lineWords (text : List Char) : List (List (List Char)) :=
  ((text.splitOn '\n').map words).filter (· ≠ [])

def Spaceless (cs : List Char) : Prop := ∀ c ∈ cs, isSpace c = false

instance (cs : List Char) : Decidable (Spaceless cs) := List.decidableBAll _ cs

theorem spaceless_append {a b : List Char} : Spaceless (a ++ b) ↔ Spaceless a ∧ Spaceless b := by
  unfold Spaceless
  rw [forall_mem_append]

/-- Printable ASCII but the blank is no space. -/
theorem isSpace_of_bounds {c : Char} (h : 0x20 < c.toNat ∧ c.toNat < 0x7F) : isSpace c = false := by
  unfold isSpace
  simp only [Bool.or_eq_false_iff, Bool.and_eq_false_iff, decide_eq_false_iff_not, contains_eq_mem,
    mem_cons, not_mem_nil, or_false]
  omega

section Words

variable {line rest : List Char} {c : Char}

theorem words_nil : words [] = [] := rfl

theorem words_append_space (hc : isSpace c = true) (line rest : List Char) :
    words (line ++ c :: rest) = words line ++ words rest := by
  rw [words, splitOnP_append_cons line rest hc, filter_append]
  rfl

theorem words_space_cons (hc : isSpace c = true) (line : List Char) : words (c :: line) = words line :=
  words_append_space hc [] line

theorem words_append_singleton (hc : isSpace c = true) (line : List Char) :
    words (line ++ [c]) = words line := by
  rw [words_append_space hc, words_nil, append_nil]

theorem words_of_spaceless (hne : line ≠ []) (hline : Spaceless line) : words line = [line] := by
  rw [words, splitOnP_eq_singleton hline]
  simp [hne]

/-- Words joined by blanks are read back. -/
theorem words_intercalate {ws : List (List Char)} (hws : ∀ w ∈ ws, w ≠ [] ∧ Spaceless w) :
    words ([' '].intercalate ws) = ws := by
  induction ws with
  | nil => rfl
  | cons w rest ih =>
    obtain ⟨hne, hspaceless⟩ := hws w mem_cons_self
    have hrest := ih fun v hv => hws v (mem_cons_of_mem _ hv)
    cases rest with
    | nil =>
      rw [intercalate_singleton]
      exact words_of_spaceless hne hspaceless
    | cons v vs =>
      rw [intercalate_cons_cons, append_assoc, singleton_append, words_append_space (by decide),
        words_of_spaceless hne hspaceless, hrest, singleton_append]

/-- A character of joined parts is in a part or in the separator. -/
theorem mem_intercalate {separator : List Char} {parts : List (List Char)}
    (h : c ∈ separator.intercalate parts) : c ∈ separator ∨ ∃ part ∈ parts, c ∈ part := by
  induction parts with
  | nil => cases h
  | cons part rest ih =>
    cases rest with
    | nil =>
      rw [intercalate_singleton] at h
      exact .inr ⟨part, mem_cons_self, h⟩
    | cons next others =>
      rw [intercalate_cons_cons, mem_append, mem_append] at h
      rcases h with (hpart | hseparator) | hrest
      · exact .inr ⟨part, mem_cons_self, hpart⟩
      · exact .inl hseparator
      · exact (ih hrest).imp_right fun ⟨p, hp, hc⟩ => ⟨p, mem_cons_of_mem _ hp, hc⟩

end Words

section Lines

variable {text rest : List Char} {c : Char}

/-- A newline separates lines. -/
theorem lineWords_append_newline (text rest : List Char) :
    lineWords (text ++ '\n' :: rest) = lineWords text ++ lineWords rest := by
  have hcut : (text ++ '\n' :: rest).splitOnP (· == '\n') = text.splitOnP (· == '\n') ++
    rest.splitOnP (· == '\n') :=
    splitOnP_append_cons text rest (beq_self_eq_true '\n')
  rw [lineWords, List.splitOn, hcut, map_append, filter_append]
  rfl

/-- One line gives its words, if any. -/
theorem lineWords_of_line (hline : '\n' ∉ text) : lineWords text = [words text].filter (· ≠ []) := by
  have hnone : ∀ c ∈ text, (c == '\n') = false := fun c hc => beq_eq_false_iff_ne.mpr fun heq =>
    hline (heq ▸ hc)
  rw [lineWords, List.splitOn, splitOnP_eq_singleton hnone, map_singleton]

/-- A space in front of the text does not matter. -/
theorem lineWords_space_cons (hc : isSpace c = true) (text : List Char) :
    lineWords (c :: text) = lineWords text := by
  by_cases hbreak : c = '\n'
  · subst hbreak
    exact lineWords_append_newline [] text
  · obtain ⟨first, others, hlines⟩ := exists_cons_of_ne_nil (splitOnP_ne_nil (· == '\n') text)
    rw [lineWords, lineWords, List.splitOn, List.splitOn, splitOnP_cons_eq_if_modifyHead,
      if_neg (by simpa using hbreak), hlines, modifyHead_cons, map_cons, map_cons,
      words_space_cons hc]

variable {spaces : List Char}

section

variable (hspaces : ∀ c ∈ spaces, isSpace c = true)
include hspaces

theorem lineWords_spaces_append (text : List Char) :
    lineWords (spaces ++ text) = lineWords text := by
  induction spaces with
  | nil => rfl
  | cons c rest ih =>
    rw [cons_append, lineWords_space_cons (hspaces c mem_cons_self),
      ih fun d hd => hspaces d (mem_cons_of_mem _ hd)]

theorem lineWords_line_append_spaces (hline : '\n' ∉ text) :
    lineWords (text ++ spaces) = lineWords text := by
  induction spaces generalizing text with
  | nil => rw [append_nil]
  | cons c rest ih =>
    have hrest : ∀ d ∈ rest, isSpace d = true := fun d hd => hspaces d (mem_cons_of_mem _ hd)
    by_cases hbreak : c = '\n'
    · subst hbreak
      have hnothing : lineWords rest = lineWords [] := ih hrest not_mem_nil
      rw [lineWords_append_newline, hnothing]
      exact append_nil _
    · have hlonger : '\n' ∉ text ++ [c] := by
        rw [mem_append, mem_singleton]
        exact not_or.mpr ⟨hline, Ne.symm hbreak⟩
      rw [← singleton_append, ← append_assoc, ih hrest hlonger, lineWords_of_line hlonger,
        lineWords_of_line hline, words_append_singleton (hspaces c mem_cons_self)]

/-- Joined lines are read back as their words. -/
theorem lineWords_intercalate {lines : List (List Char)}
    (hlines : ∀ line ∈ lines, '\n' ∉ line ∧ words line ≠ []) :
    lineWords ((spaces ++ ['\n']).intercalate lines) = lines.map words := by
  induction lines with
  | nil => rfl
  | cons line rest ih =>
    obtain ⟨hbreak, hne⟩ := hlines line mem_cons_self
    have hrest := ih fun l hl => hlines l (mem_cons_of_mem _ hl)
    have hline : lineWords line = [words line] := by
      rw [lineWords_of_line hbreak]
      simp [hne]
    cases rest with
    | nil =>
      rwa [intercalate_singleton]
    | cons next others =>
      have hjoin : (spaces ++ ['\n']).intercalate (line :: next :: others) =
          (line ++ spaces) ++ '\n' :: (spaces ++ ['\n']).intercalate (next :: others) := by
        rw [intercalate_cons_cons, append_assoc, append_assoc, append_assoc, singleton_append]
      rw [hjoin, lineWords_append_newline, lineWords_line_append_spaces hspaces hbreak, hline, hrest,
        singleton_append, ← map_cons]

/-- Spaces behind the text do not matter. -/
theorem lineWords_append_spaces (text : List Char) :
    lineWords (text ++ spaces) = lineWords text := by
  -- The induction is on what is left of the text behind the line that has been read so far.
  have hread : ∀ line, '\n' ∉ line → lineWords (line ++ (text ++ spaces)) = lineWords (line ++ text) := by
    induction text with
    | nil =>
      intro line hline
      rw [nil_append, append_nil]
      exact lineWords_line_append_spaces hspaces hline
    | cons c rest ih =>
      intro line hline
      rw [cons_append]
      by_cases hbreak : c = '\n'
      · subst hbreak
        have hrest := ih [] not_mem_nil
        rw [nil_append, nil_append] at hrest
        rw [lineWords_append_newline, lineWords_append_newline, hrest]
      · have hlonger : '\n' ∉ line ++ [c] := by
          rw [mem_append, mem_singleton]
          exact not_or.mpr ⟨hline, Ne.symm hbreak⟩
        have hrest := ih (line ++ [c]) hlonger
        rwa [append_assoc, append_assoc] at hrest
  exact hread [] not_mem_nil

end

/-- Trimming cuts off spaces at both ends. -/
theorem exists_trimSpace (s : String) :
    ∃ front back : List Char, s.toList = front ++ (trimSpace s).toList ++ back ∧
      (∀ c ∈ front, isSpace c = true) ∧ ∀ c ∈ back, isSpace c = true := by
  have hkept : (s.toList.dropWhile isSpace) =
      (trimSpace s).toList ++ ((s.toList.dropWhile isSpace).reverse.takeWhile isSpace).reverse := by
    rw [trimSpace, String.toList_ofList, ← reverse_append, takeWhile_append_dropWhile, reverse_reverse]
  refine ⟨s.toList.takeWhile isSpace,
    ((s.toList.dropWhile isSpace).reverse.takeWhile isSpace).reverse, ?_, ?_, ?_⟩
  · rw [append_assoc, ← hkept, takeWhile_append_dropWhile]
  · exact fun c hc => mem_takeWhile_imp hc
  · exact fun c hc => mem_takeWhile_imp (mem_reverse.mp hc)

theorem mem_trimSpace {s : String} (h : c ∈ (trimSpace s).toList) : c ∈ s.toList := by
  obtain ⟨front, back, hs, -, -⟩ := exists_trimSpace s
  rw [hs]
  exact mem_append_left _ (mem_append_right _ h)

theorem lineWords_trimSpace (s : String) : lineWords (trimSpace s).toList = lineWords s.toList := by
  obtain ⟨front, back, hs, hfront, hback⟩ := exists_trimSpace s
  rw [hs, lineWords_append_spaces hback, lineWords_spaces_append hfront]

end Lines

end LittleRed.Lib
