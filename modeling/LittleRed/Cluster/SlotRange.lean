import LittleRed.Lib.Text
import Mathlib.Order.Monotone.Basic

/-!
# Slot ranges

A cluster of `shards` shards splits the 16384 slots into consecutive ranges, the first
ones taking the remainder. A node reports the ranges it owns as texts such as `0-5460`
or `7`; a text that does not parse owns nothing.
-/

namespace LittleRed.Cluster

open Lib List Option

def totalSlots : ℕ := 16384

structure SlotRange where
  start : ℤ
  stop : ℤ
  deriving DecidableEq

/-- Assign ranges to the remaining shards, each starting where the previous one stopped. -/
def generateSlotRangesFrom (slotsPerShard remainder start : ℕ) : List ℕ → List SlotRange
  | [] => []
  | i :: rest =>
    let count := if i < remainder then slotsPerShard + 1 else slotsPerShard
    ⟨start, start + count - 1⟩ ::
      generateSlotRangesFrom slotsPerShard remainder (start + count) rest

/-- The ranges of the shards. -/
def generateSlotRanges (shards : ℕ) : List SlotRange :=
  if shards = 0 then []
  else generateSlotRangesFrom (totalSlots / shards) (totalSlots % shards) 0 (List.range shards)

/-- Read a range. -/
def parseSlotRange (s : String) : Option SlotRange :=
  match splitText '-' s with
  | [slot] => do
    let start ← atoi slot
    some ⟨start, start⟩
  | [first, last] => do
    let start ← atoi first
    let stop ← atoi last
    some ⟨start, stop⟩
  | _ => none

/-- Write a range. -/
def formatSlotRange (range : SlotRange) : String :=
  if range.start = range.stop then toString range.start
  else toString range.start ++ "-" ++ toString range.stop

/-- A reported text covers a slot when it parses to a range that contains it. -/
def slotTextCovers (slot : ℤ) (s : String) : Bool :=
  match parseSlotRange s with
  | some range => decide (range.start ≤ slot ∧ slot ≤ range.stop)
  | none => false

/-- One range per shard. -/
theorem generateSlotRanges_length (shards : ℕ) : (generateSlotRanges shards).length = shards := by
  have hfrom : ∀ (is : List ℕ) (per rem start : ℕ),
      (generateSlotRangesFrom per rem start is).length = is.length := by
    intro is
    induction is with
    | nil => intros; rfl
    | cons i rest ih => intro per rem start; simp [generateSlotRangesFrom, ih]
  unfold generateSlotRanges
  split
  · simp_all
  · rw [hfrom, length_range]

variable {range : SlotRange} {shards k : ℕ}

/-- The first slot of a shard, which is where the shard before it stops. -/
def rangeStart (shards k : ℕ) : ℕ := k * (totalSlots / shards) + min k (totalSlots % shards)

/-- The range of a shard, from its first slot to the one before the next shard. -/
def shardRange (shards k : ℕ) : SlotRange := ⟨rangeStart shards k, (rangeStart shards (k + 1) : ℤ) - 1⟩

theorem rangeStart_zero (shards : ℕ) : rangeStart shards 0 = 0 := by simp [rangeStart]

/-- Each begins after the one before. -/
theorem rangeStart_succ (shards k : ℕ) :
    rangeStart shards (k + 1) = rangeStart shards k +
      if k < totalSlots % shards then totalSlots / shards + 1 else totalSlots / shards := by
  rw [rangeStart, rangeStart, Nat.add_mul, Nat.one_mul]
  split <;> omega

theorem rangeStart_mono (shards : ℕ) : Monotone (rangeStart shards) := by
  refine monotone_nat_of_le_succ fun k => ?_
  rw [rangeStart_succ]
  exact Nat.le_add_right _ _

theorem rangeStart_shards (hshards : 0 < shards) :
    rangeStart shards shards = totalSlots := by
  have hlt := Nat.mod_lt totalSlots hshards
  rw [rangeStart, Nat.min_eq_right (Nat.le_of_lt hlt)]
  exact Nat.div_add_mod totalSlots shards

/-- As long as there are slots a range is not empty. -/
theorem rangeStart_lt (hk : k < min shards totalSlots) :
    rangeStart shards k < rangeStart shards (k + 1) := by
  rw [rangeStart_succ]
  have hshards : k < shards := Nat.lt_of_lt_of_le hk (Nat.min_le_left _ _)
  have hslots : k < totalSlots := Nat.lt_of_lt_of_le hk (Nat.min_le_right _ _)
  split
  · exact Nat.lt_add_of_pos_right (Nat.succ_pos _)
  rename_i hrest
  have hfull : 0 < totalSlots / shards := by
    refine Nat.div_pos ?_ (Nat.zero_lt_of_lt hshards)
    by_contra hmany
    rw [Nat.mod_eq_of_lt (Nat.not_le.mp hmany)] at hrest
    exact hrest hslots
  omega

theorem rangeStart_min (hshards : 0 < shards) :
    rangeStart shards (min shards totalSlots) = totalSlots := by
  rcases Nat.le_total shards totalSlots with hle | hle
  · rw [Nat.min_eq_left hle, rangeStart_shards hshards]
  rw [Nat.min_eq_right hle]
  rcases Nat.eq_or_lt_of_le hle with heq | hlt
  · rw [← heq]
    exact rangeStart_shards (by decide)
  · rw [rangeStart, Nat.div_eq_of_lt hlt, Nat.mod_eq_of_lt hlt, Nat.mul_zero, Nat.zero_add, Nat.min_self]

/-- The loop gives the ranges of the shards. -/
theorem generateSlotRangesFrom_eq (shards i count : ℕ) :
    generateSlotRangesFrom (totalSlots / shards) (totalSlots % shards) (rangeStart shards i)
      (List.range' i count) = (List.range' i count).map (shardRange shards) := by
  induction count generalizing i with
  | zero => rfl
  | succ count ih =>
    rw [range'_succ, generateSlotRangesFrom, map_cons, ← rangeStart_succ, ih, shardRange,
      rangeStart_succ]
    push_cast
    rfl

theorem generateSlotRanges_eq (shards : ℕ) :
    generateSlotRanges shards = (List.range shards).map (shardRange shards) := by
  unfold generateSlotRanges
  split
  · rename_i hzero
    rw [hzero]
    rfl
  · have hfrom := generateSlotRangesFrom_eq shards 0 shards
    rwa [rangeStart_zero, ← range_eq_range'] at hfrom

theorem mem_generateSlotRanges :
    range ∈ generateSlotRanges shards ↔ ∃ k < shards, shardRange shards k = range := by
  simp [generateSlotRanges_eq]

theorem getElem?_generateSlotRanges (hk : k < shards) :
    (generateSlotRanges shards)[k]? = some (shardRange shards k) := by
  rw [generateSlotRanges_eq, List.getElem?_map, List.getElem?_range hk, map_some]

/-- A range that is found is that of the shard. -/
theorem shardRange_of_findIdx? (h : (generateSlotRanges shards).findIdx? (· == range) = some k) :
    k < shards ∧ shardRange shards k = range := by
  obtain ⟨hlt, hfound, -⟩ := List.findIdx?_eq_some_iff_getElem.mp h
  rw [generateSlotRanges_length] at hlt
  refine ⟨hlt, ?_⟩
  have helem := getElem?_generateSlotRanges hlt
  rw [List.getElem?_eq_getElem (by rwa [generateSlotRanges_length]), Option.some.injEq] at helem
  rw [← helem]
  exact beq_iff_eq.mp hfound

theorem findIdx?_isSome :
    ((generateSlotRanges shards).findIdx? (· == range)).isSome ↔ range ∈ generateSlotRanges shards := by
  rw [List.findIdx?_isSome, any_beq', contains_iff_mem]

/-- What is written is read back. -/
theorem parseSlotRange_formatSlotRange {start stop : ℕ} (hstart : start < 2 ^ 63) (hstop : stop < 2 ^ 63) :
    parseSlotRange (formatSlotRange ⟨start, stop⟩) = some ⟨start, stop⟩ := by
  have hdash : ∀ n : ℕ, '-' ∉ (toString n).toList := notMem_toString (by decide)
  unfold formatSlotRange
  split
  · rename_i heq
    have hparts : splitText '-' (toString (start : ℤ)) = [toString start] := splitText_singleton (hdash start)
    have heq : (start : ℤ) = stop := heq
    rw [parseSlotRange, hparts, ← heq]
    simp only [atoi_toString hstart, bind_eq_bind, bind_some]
  · have hparts : splitText '-' (toString (start : ℤ) ++ "-" ++ toString (stop : ℤ)) =
        [toString start, toString stop] :=
      (splitText_append (hdash start)).trans (congrArg _ (splitText_singleton (hdash stop)))
    rw [parseSlotRange, hparts]
    simp only [atoi_toString hstart, atoi_toString hstop, bind_eq_bind, bind_some]

theorem parseSlotRange_shardRange (hk : k < shards) :
    parseSlotRange (formatSlotRange (shardRange shards k)) = some (shardRange shards k) := by
  have hshards : 0 < shards := Nat.zero_lt_of_lt hk
  have hstart : rangeStart shards k ≤ rangeStart shards shards := rangeStart_mono shards (Nat.le_of_lt hk)
  have hstop : rangeStart shards (k + 1) ≤ rangeStart shards shards := rangeStart_mono shards hk
  have hfirst : rangeStart shards 0 < rangeStart shards 1 :=
    rangeStart_lt (Nat.lt_min.mpr ⟨hshards, by decide⟩)
  have hpos : rangeStart shards 1 ≤ rangeStart shards (k + 1) := rangeStart_mono shards (Nat.le_add_left 1 k)
  have hslots : totalSlots < 2 ^ 63 := by decide
  rw [rangeStart_shards hshards] at hstart hstop
  have hrange : shardRange shards k =
      ⟨(rangeStart shards k : ℕ), (rangeStart shards (k + 1) - 1 : ℕ)⟩ := by
    rw [shardRange, SlotRange.mk.injEq]
    omega
  rw [hrange]
  exact parseSlotRange_formatSlotRange (by omega) (by omega)

example : generateSlotRanges 3 = [⟨0, 5461⟩, ⟨5462, 10922⟩, ⟨10923, 16383⟩] := by decide

end LittleRed.Cluster
