import Mathlib.Data.List.Nodup
import Mathlib.Order.Basic
import Mathlib.Order.Monotone.Basic

/-!
# Maximal runs

The numbers below a bound that satisfy a predicate fall into maximal runs of consecutive ones, which
a single scan lists in order. When the numbers are cut into blocks and the predicate holds on whole
blocks, the runs are the blocks themselves exactly when no two neighbouring blocks satisfy it.
-/

namespace LittleRed.Lib

open List Option

/-- The numbers from `a` to `b` satisfy the predicate, and the run cannot be extended. -/
structure MaximalRun (p : ℕ → Bool) (n a b : ℕ) : Prop where
  ordered : a ≤ b
  below : b < n
  all : ∀ i, a ≤ i → i ≤ b → p i = true
  left : a = 0 ∨ p (a - 1) = false
  right : b + 1 = n ∨ p (b + 1) = false

/-- Scan `n` numbers from `i` on, where a run may have been opened before. -/
def runsFrom (p : ℕ → Bool) : (i n : ℕ) → (opened : Option ℕ) → List (ℕ × ℕ)
  | _, 0, none => []
  | i, 0, some start => [(start, i - 1)]
  | i, n + 1, opened =>
    if p i then runsFrom p (i + 1) n (some (opened.getD i))
    else (opened.map fun start => (start, i - 1)).toList ++ runsFrom p (i + 1) n none

/-- The runs of the numbers below a bound, in order, with their first and their last number. -/
def runs (p : ℕ → Bool) (n : ℕ) : List (ℕ × ℕ) := runsFrom p 0 n none

section Scan

variable {p : ℕ → Bool} {n a b : ℕ}

variable {a' b' i : ℕ} {opened : Option ℕ}

/-- Of two runs with a common number, neither begins later. -/
theorem MaximalRun.start_le (h : MaximalRun p n a b) (h' : MaximalRun p n a' b') (hi : a ≤ i ∧ i ≤ b)
    (hi' : a' ≤ i ∧ i ≤ b') : a ≤ a' := by
  by_contra hlt
  rcases h.left with hzero | hfalse
  · omega
  · rw [h'.all (a - 1) (by omega) (by omega)] at hfalse
    cases hfalse

/-- Runs that share an index end alike. -/
theorem MaximalRun.stop_le (h : MaximalRun p n a b) (h' : MaximalRun p n a' b') (hi : a ≤ i ∧ i ≤ b)
    (hi' : a' ≤ i ∧ i ≤ b') : b' ≤ b := by
  by_contra hlt
  rcases h.right with hlast | hfalse
  · have hbelow := h'.below
    omega
  · rw [h'.all (b + 1) (by omega) (by omega)] at hfalse
    cases hfalse

/-- Runs with a common number are equal. -/
theorem MaximalRun.unique (h : MaximalRun p n a b) (h' : MaximalRun p n a' b') (hi : a ≤ i ∧ i ≤ b)
    (hi' : a' ≤ i ∧ i ≤ b') : a = a' ∧ b = b' :=
  ⟨Nat.le_antisymm (h.start_le h' hi hi') (h'.start_le h hi' hi),
    Nat.le_antisymm (h'.stop_le h hi' hi) (h.stop_le h' hi hi')⟩

/-- What a scan knows about the numbers before the next one. -/
def Opened (p : ℕ → Bool) (i : ℕ) : Option ℕ → Prop
  | none => i = 0 ∨ p (i - 1) = false
  | some start => start < i ∧ (start = 0 ∨ p (start - 1) = false) ∧
      ∀ j, start ≤ j → j < i → p j = true

/-- At first no run is open. -/
theorem opened_zero : Opened p 0 none := .inl rfl

/-- A number that satisfies the predicate extends the open run. -/
theorem Opened.extend (h : Opened p i opened) (hi : p i = true) :
    Opened p (i + 1) (some (opened.getD i)) := by
  cases opened with
  | none =>
    refine ⟨Nat.lt_succ_self i, h, fun j hle hlt => ?_⟩
    obtain rfl : i = j := Nat.le_antisymm hle (Nat.le_of_lt_succ hlt)
    exact hi
  | some start =>
    obtain ⟨hlt, hleft, hall⟩ := h
    refine ⟨Nat.lt_succ_of_lt hlt, hleft, fun j hle hlt' => ?_⟩
    rcases Nat.lt_succ_iff_lt_or_eq.mp hlt' with hbefore | rfl
    · exact hall j hle hbefore
    · exact hi

variable {start count : ℕ}

/-- One that does not closes it. -/
theorem Opened.closed (h : Opened p i (some start)) (hin : i ≤ n)
    (hend : i = n ∨ p i = false) : MaximalRun p n start (i - 1) := by
  obtain ⟨hlt, hleft, hall⟩ := h
  have hsucc : i - 1 + 1 = i := by omega
  exact ⟨by omega, by omega, fun j hle hle' => hall j hle (by omega), hleft, by rwa [hsucc]⟩

/-- The closed run is the only one that begins in the open stretch. -/
theorem Opened.eq_iff (h : Opened p i (some start)) (hin : i ≤ n) (hend : i = n ∨ p i = false) :
    a = start ∧ b = i - 1 ↔ MaximalRun p n a b ∧ start ≤ a ∧ a < i := by
  have hclosed := h.closed hin hend
  constructor
  · rintro ⟨rfl, rfl⟩
    exact ⟨hclosed, Nat.le_refl a, h.1⟩
  · rintro ⟨hrun, hle, hlt⟩
    exact hrun.unique hclosed ⟨Nat.le_refl a, hrun.ordered⟩ ⟨hle, by omega⟩

/-- A run begins with a number that satisfies the predicate. -/
theorem MaximalRun.start_ne (h : MaximalRun p n a b) (hi : p i = false) : a ≠ i := by
  rintro rfl
  rw [h.all a (Nat.le_refl a) h.ordered] at hi
  cases hi

/-- The open run begins where the maximal one does. -/
theorem MaximalRun.start_eq_opened (hrun : MaximalRun p n a b) (hai : a < i) (hib : i ≤ b + 1)
    (h : Opened p i (some start)) : start = a := by
  obtain ⟨hlt, hleft, hall⟩ := h
  rcases Nat.lt_trichotomy start a with hbefore | rfl | hafter
  · have htrue := hall (a - 1) (by omega) (by omega)
    rcases hrun.left with hzero | hfalse
    · omega
    · rw [hfalse] at htrue
      cases htrue
  · rfl
  · have htrue := hrun.all (start - 1) (by omega) (by omega)
    rcases hleft with hzero | hfalse
    · omega
    · rw [hfalse] at htrue
      cases htrue

/-- The scan lists the runs from the open one on. -/
theorem mem_runsFrom (h : Opened p i opened) :
    (a, b) ∈ runsFrom p i count opened ↔ MaximalRun p (i + count) a b ∧ opened.getD i ≤ a := by
  induction count generalizing i opened with
  | zero =>
    cases opened with
    | none =>
      refine iff_of_false not_mem_nil ?_
      rintro ⟨hrun, hle⟩
      have hle : i ≤ a := hle
      have hordered := hrun.ordered
      have hbelow := hrun.below
      omega
    | some start =>
      rw [runsFrom, mem_singleton, Prod.mk.injEq, getD_some, h.eq_iff (Nat.le_refl (i + 0)) (.inl rfl)]
      constructor
      · exact fun hrun => ⟨hrun.1, hrun.2.1⟩
      · rintro ⟨hrun, hle⟩
        have hordered := hrun.ordered
        have hbelow := hrun.below
        exact ⟨hrun, hle, by omega⟩
  | succ count ih =>
    rw [runsFrom, ← Nat.add_assoc, Nat.add_right_comm]
    cases hi : p i with
    | true =>
      rw [if_pos rfl, ih (h.extend hi), getD_some]
    | false =>
      have hnext : Opened p (i + 1) none := .inr hi
      rw [if_neg (by simp), mem_append, ih hnext, getD_none]
      -- No run begins at `i`, so one begins after it or is the open one.
      cases opened with
      | none =>
        simp only [map_none, toList_none, not_mem_nil, false_or, getD_none]
        apply and_congr_right
        intro hrun
        have hne := hrun.start_ne hi
        omega
      | some start =>
        have hstart := h.1
        simp only [map_some, toList_some, mem_singleton, Prod.mk.injEq, getD_some]
        rw [@Opened.eq_iff p (i + 1 + count) a b i start h (by omega) (.inr hi), ← and_or_left]
        apply and_congr_right
        intro hrun
        have hne := hrun.start_ne hi
        omega

/-- The runs are the maximal ones. -/
theorem mem_runs : (a, b) ∈ runs p n ↔ MaximalRun p n a b := by
  rw [runs, mem_runsFrom opened_zero, Nat.zero_add]
  exact and_iff_left (Nat.zero_le a)

/-- No run is listed twice. -/
theorem nodup_runsFrom (h : Opened p i opened) :
    (runsFrom p i count opened).Nodup := by
  induction count generalizing i opened with
  | zero =>
    cases opened with
    | none => exact nodup_nil
    | some start => exact pairwise_singleton _ _
  | succ count ih =>
    rw [runsFrom]
    cases hi : p i with
    | true =>
      rw [if_pos rfl]
      exact ih (h.extend hi)
    | false =>
      have hnext : Opened p (i + 1) none := .inr hi
      rw [if_neg (by simp)]
      cases opened with
      | none => exact ih hnext
      | some start =>
        refine nodup_cons.mpr ⟨fun hmem => ?_, ih hnext⟩
        have hle := ((mem_runsFrom hnext).mp hmem).2
        have hlt := h.1
        rw [getD_none] at hle
        omega

/-- No run is listed twice. -/
theorem nodup_runs : (runs p n).Nodup := nodup_runsFrom opened_zero

/-- An interval is one run. -/
theorem runs_interval (hab : a ≤ b) (hbn : b < n) (hp : ∀ i, p i = true ↔ a ≤ i ∧ i ≤ b) :
    runs p n = [(a, b)] := by
  have hrun : MaximalRun p n a b := by
    refine ⟨hab, hbn, fun i hai hib => (hp i).mpr ⟨hai, hib⟩, ?_, .inr ?_⟩
    · rcases Nat.eq_zero_or_pos a with hzero | hpos
      · exact .inl hzero
      · exact .inr (Bool.eq_false_iff.mpr fun htrue => by have hle := ((hp _).mp htrue).1; omega)
    · exact Bool.eq_false_iff.mpr fun htrue => by have hle := ((hp _).mp htrue).2; omega
  refine perm_singleton.mp ((perm_ext_iff_of_nodup nodup_runs (by simp)).mpr ?_)
  rintro ⟨x, y⟩
  rw [mem_runs, mem_singleton, Prod.mk.injEq]
  constructor
  · intro hrun'
    have hx := (hp x).mp (hrun'.all x (Nat.le_refl x) hrun'.ordered)
    exact hrun'.unique hrun ⟨Nat.le_refl x, hrun'.ordered⟩ hx
  · rintro ⟨rfl, rfl⟩
    exact hrun

/-- There is none where nothing holds. -/
theorem runs_empty (hp : ∀ i, p i = false) : runs p n = [] := by
  refine eq_nil_iff_forall_not_mem.mpr fun run hmem => ?_
  have hrun := mem_runs.mp hmem
  have htrue := hrun.all _ (Nat.le_refl _) hrun.ordered
  rw [hp] at htrue
  cases htrue

/-- Every run has a start. -/
theorem exists_run_start (hi : p i = true) :
    ∃ a ≤ i, (∀ j, a ≤ j → j ≤ i → p j = true) ∧ (a = 0 ∨ p (a - 1) = false) := by
  induction i with
  | zero =>
    refine ⟨0, Nat.le_refl 0, fun j _ hle => ?_, .inl rfl⟩
    obtain rfl : j = 0 := by omega
    exact hi
  | succ i ih =>
    cases hbefore : p i with
    | false =>
      refine ⟨i + 1, Nat.le_refl _, fun j hle hle' => ?_, .inr hbefore⟩
      obtain rfl : j = i + 1 := by omega
      exact hi
    | true =>
      obtain ⟨a, hle, hall, hleft⟩ := ih hbefore
      refine ⟨a, by omega, fun j hle' hle'' => ?_, hleft⟩
      rcases Nat.le_succ_iff.mp hle'' with hearlier | rfl
      · exact hall j hle' hearlier
      · exact hi

/-- Every run has an end below the bound. -/
theorem exists_run_stop (hin : i < n) (hi : p i = true) :
    ∃ b < n, i ≤ b ∧ (∀ j, i ≤ j → j ≤ b → p j = true) ∧ (b + 1 = n ∨ p (b + 1) = false) := by
  obtain ⟨count, rfl⟩ := Nat.exists_eq_add_of_lt hin
  induction count generalizing i with
  | zero =>
    refine ⟨i, by omega, Nat.le_refl i, fun j hle hle' => ?_, .inl rfl⟩
    obtain rfl : j = i := by omega
    exact hi
  | succ count ih =>
    cases hafter : p (i + 1) with
    | false =>
      refine ⟨i, by omega, Nat.le_refl i, fun j hle hle' => ?_, .inr hafter⟩
      obtain rfl : j = i := by omega
      exact hi
    | true =>
      obtain ⟨b, hlt, hle, hall, hright⟩ := ih hafter (by omega)
      have hbound : i + 1 + count + 1 = i + (count + 1) + 1 := by omega
      rw [hbound] at hlt hright
      refine ⟨b, hlt, by omega, fun j hle' hle'' => ?_, hright⟩
      rcases Nat.eq_or_lt_of_le hle' with rfl | hlater
      · exact hi
      · exact hall j hlater hle''

/-- Every number that satisfies the predicate is in a run. -/
theorem exists_maximalRun (hin : i < n) (hi : p i = true) :
    ∃ a b, MaximalRun p n a b ∧ a ≤ i ∧ i ≤ b := by
  obtain ⟨a, hai, hbefore, hleft⟩ := exists_run_start hi
  obtain ⟨b, hbn, hib, hafter, hright⟩ := exists_run_stop hin hi
  refine ⟨a, b, ⟨by omega, hbn, fun j haj hjb => ?_, hleft, hright⟩, hai, hib⟩
  rcases Nat.le_total j i with hji | hij
  · exact hbefore j haj hji
  · exact hafter j hij hjb

end Scan

section Blocks

variable {bound : ℕ → ℕ} {m : ℕ} {p : ℕ → Bool} {colour : ℕ → Prop}

/-- The predicate holds on whole blocks, the coloured ones. -/
def HoldsOnBlocks (bound : ℕ → ℕ) (m : ℕ) (p : ℕ → Bool) (colour : ℕ → Prop) : Prop :=
  ∀ i, p i = true ↔ ∃ k < m, colour k ∧ bound k ≤ i ∧ i < bound (k + 1)

/-- A number is in one block. -/
theorem block_unique (hmono : Monotone bound) {k l i : ℕ} (hk : bound k ≤ i ∧ i < bound (k + 1))
    (hl : bound l ≤ i ∧ i < bound (l + 1)) : k = l := by
  rcases Nat.lt_trichotomy k l with hlt | heq | hgt
  · have hle : bound (k + 1) ≤ bound l := hmono hlt
    omega
  · exact heq
  · have hle : bound (l + 1) ≤ bound k := hmono hgt
    omega

variable (hmono : Monotone bound) (hp : HoldsOnBlocks bound m p colour)
  (hstrict : ∀ k < m, bound k < bound (k + 1))

include hmono hp hstrict

/-- Two neighbouring blocks are in one run. -/
theorem exists_merged_run {k : ℕ} (hk : k + 1 < m) (hcolour : colour k) (hcolour' : colour (k + 1)) :
    ∃ a b, MaximalRun p (bound m) a b ∧ a ≤ bound k ∧ bound (k + 1 + 1) ≤ b + 1 := by
  have hlt := hstrict k (by omega)
  have hlt' := hstrict (k + 1) hk
  have hle : bound (k + 1 + 1) ≤ bound m := hmono hk
  obtain ⟨a, b, hrun, ha, hb⟩ := exists_maximalRun (n := bound m) (by omega)
    ((hp (bound k)).mpr ⟨k, by omega, hcolour, Nat.le_refl _, hlt⟩)
  refine ⟨a, b, hrun, ha, ?_⟩
  by_contra hshort
  -- The number after the run would still be in one of the two blocks.
  have hnext : p (b + 1) = true := by
    rcases Nat.lt_or_ge (b + 1) (bound (k + 1)) with hfirst | hsecond
    · exact (hp _).mpr ⟨k, by omega, hcolour, by omega, hfirst⟩
    · exact (hp _).mpr ⟨k + 1, hk, hcolour', hsecond, by omega⟩
  rcases hrun.right with hlast | hfalse
  · omega
  · rw [hnext] at hfalse
    cases hfalse

variable (hzero : bound 0 = 0) (hapart : ∀ k, k + 1 < m → colour k → ¬ colour (k + 1))

include hzero hapart

/-- A block between others is a run. -/
theorem maximalRun_block {k : ℕ} (hk : k < m) (hcolour : colour k) :
    MaximalRun p (bound m) (bound k) (bound (k + 1) - 1) := by
  have hlt := hstrict k hk
  have hle : bound (k + 1) ≤ bound m := hmono hk
  refine ⟨by omega, by omega, fun i hik hik' => (hp i).mpr ⟨k, hk, hcolour, hik, by omega⟩, ?_, ?_⟩
  · cases k with
    | zero => exact .inl hzero
    | succ k =>
      refine .inr (Bool.eq_false_iff.mpr fun htrue => ?_)
      obtain ⟨l, hl, hcolour', hblock⟩ := (hp _).mp htrue
      have hbefore := hstrict k (by omega)
      obtain rfl := block_unique hmono hblock (l := k) ⟨by omega, by omega⟩
      exact hapart l hk hcolour' hcolour
  · rw [show bound (k + 1) - 1 + 1 = bound (k + 1) by omega]
    rcases Nat.eq_or_lt_of_le hk with hlast | hnext
    · exact .inl (congrArg bound hlast)
    refine .inr (Bool.eq_false_iff.mpr fun htrue => ?_)
    obtain ⟨l, hl, hcolour', hblock⟩ := (hp _).mp htrue
    have hafter := hstrict (k + 1) hnext
    obtain rfl := block_unique hmono hblock (l := k + 1) ⟨Nat.le_refl _, hafter⟩
    exact hapart k hnext hcolour hcolour'

/-- Every run is a block. -/
theorem block_of_maximalRun {a b : ℕ} (hrun : MaximalRun p (bound m) a b) :
    ∃ k < m, colour k ∧ a = bound k ∧ b = bound (k + 1) - 1 := by
  obtain ⟨k, hk, hcolour, hblock⟩ := (hp a).mp (hrun.all a (Nat.le_refl a) hrun.ordered)
  refine ⟨k, hk, hcolour, hrun.unique (maximalRun_block hmono hp hstrict hzero hapart hk hcolour) (i := a)
    ⟨Nat.le_refl a, hrun.ordered⟩ ⟨hblock.1, by omega⟩⟩

end Blocks

end LittleRed.Lib
