import LittleRed.Cluster.MissingShard
import Mathlib.Data.List.Chain
import Mathlib.Data.List.Range

/-!
# The tiling of the slots

The ranges of the shards lie side by side and cover all slots. A range goes to its master as text: it is
written, read back and expanded to the slots of an ADDSLOTS command. The commands of all shards name every
slot exactly once.
-/

namespace LittleRed.Cluster

open Lib List

/-- Why a text is not expanded to slots. -/
inductive ExpandFailure where
  | invalid
  /-- The slice of the slots has no length that can be allocated, and the caller panics. -/
  | length

/-- The slots of a range. -/
def expandSlotRange (s : String) : Except ExpandFailure (List ℤ) :=
  match parseSlotRange s with
  | none => .error .invalid
  | some range =>
    let length := range.stop - range.start + 1
    if length < 0 ∨ 2 ^ 63 ≤ length then .error .length
    else .ok ((List.range length.toNat).map fun i : ℕ => range.start + i)

/-- The slots that a command assigns. A range that is not expanded leaves none. -/
def SlotCommand.addedSlots : SlotCommand → List ℤ
  | .addSlots _ range =>
    match expandSlotRange (formatSlotRange range) with
    | .ok slots => slots
    | .error _ => []
  | _ => []

def SlotRange.size (range : SlotRange) : ℤ := range.stop - range.start + 1

/-- No range is empty, each begins right after the last one, and sizes differ by at most one, the larger
first. -/
structure SideBySide (ranges : List SlotRange) : Prop where
  nonempty : ∀ range ∈ ranges, range.start ≤ range.stop
  increasing : ranges.Pairwise fun a b => a.stop < b.start
  contiguous : ranges.IsChain fun a b => b.start = a.stop + 1
  balanced : ranges.Pairwise fun a b => b.size ≤ a.size ∧ a.size ≤ b.size + 1

def allSlots : List ℤ := (List.range totalSlots).map fun slot : ℕ => (slot : ℤ)

/-- Each slot is there once. -/
theorem count_allSlots (slot : ℤ) : allSlots.count slot = if 0 ≤ slot ∧ slot < 16384 then 1 else 0 := by
  have hslots : totalSlots = 16384 := rfl
  have hnodup : allSlots.Nodup := nodup_range.map fun _ _ heq => Int.ofNat_inj.mp heq
  split
  · rename_i hslot
    refine count_eq_one_of_mem hnodup (mem_map.mpr ⟨slot.toNat, mem_range.mpr ?_, ?_⟩)
    · omega
    · exact Int.toNat_of_nonneg hslot.1
  · rename_i hslot
    refine count_eq_zero.mpr fun hmem => hslot ?_
    obtain ⟨n, hn, rfl⟩ := mem_map.mp hmem
    have hlt := mem_range.mp hn
    omega

section Shards

variable {shards : ℕ}

theorem size_shardRange (shards k : ℕ) :
    (shardRange shards k).size =
      ((if k < totalSlots % shards then totalSlots / shards + 1 else totalSlots / shards : ℕ) : ℤ) := by
  rw [SlotRange.size, shardRange, rangeStart_succ]
  push_cast
  omega

/-- The ranges lie side by side. -/
theorem sideBySide_generateSlotRanges (hle : shards ≤ totalSlots) : SideBySide (generateSlotRanges shards) := by
  rw [generateSlotRanges_eq]
  have hlt : ∀ k < shards, rangeStart shards k < rangeStart shards (k + 1) :=
    fun k hk => rangeStart_lt (Nat.lt_min.mpr ⟨hk, Nat.lt_of_lt_of_le hk hle⟩)
  refine ⟨?_, ?_, ?_, ?_⟩
  · intro range hrange
    obtain ⟨k, hk, rfl⟩ := mem_map.mp hrange
    have hstep := hlt k (mem_range.mp hk)
    simp only [shardRange]
    omega
  · rw [pairwise_map]
    refine pairwise_lt_range.imp fun {a b} hab => ?_
    have hmono : rangeStart shards (a + 1) ≤ rangeStart shards b := rangeStart_mono shards hab
    simp only [shardRange]
    omega
  · rw [isChain_map, isChain_range]
    intro k _
    simp only [shardRange, Nat.succ_eq_add_one]
    omega
  · rw [pairwise_map]
    refine pairwise_lt_range.imp fun {a b} hab => ?_
    rw [size_shardRange, size_shardRange]
    split <;> split <;> omega

/-- The range of a shard expands to its slots. -/
theorem expandSlotRange_shardRange {k : ℕ} (hk : k < shards) :
    expandSlotRange (formatSlotRange (shardRange shards k)) =
      .ok ((List.range' (rangeStart shards k) (rangeStart shards (k + 1) - rangeStart shards k)).map
        fun slot : ℕ => (slot : ℤ)) := by
  have hmono : rangeStart shards k ≤ rangeStart shards (k + 1) := rangeStart_mono shards (Nat.le_succ k)
  have hstop : rangeStart shards (k + 1) ≤ rangeStart shards shards := rangeStart_mono shards hk
  have hslots : totalSlots < 2 ^ 63 := by decide
  rw [rangeStart_shards (Nat.zero_lt_of_lt hk)] at hstop
  have hlength : (shardRange shards k).stop - (shardRange shards k).start + 1 =
      ((rangeStart shards (k + 1) - rangeStart shards k : ℕ) : ℤ) := by
    simp only [shardRange]
    omega
  rw [expandSlotRange, parseSlotRange_shardRange hk]
  simp only [hlength]
  rw [if_neg (by omega), Int.toNat_natCast, range'_eq_map_range, map_map]
  rfl

/-- The first ranges are the first slots. -/
theorem flatMap_rangeStart (shards k : ℕ) :
    ((List.range k).flatMap fun i =>
      List.range' (rangeStart shards i) (rangeStart shards (i + 1) - rangeStart shards i)) =
        List.range (rangeStart shards k) := by
  induction k with
  | zero => simp [rangeStart_zero]
  | succ k ih =>
    have hmono : rangeStart shards k ≤ rangeStart shards (k + 1) := rangeStart_mono shards (Nat.le_succ k)
    have hjoin : List.range' 0 (rangeStart shards k) ++
        List.range' (rangeStart shards k) (rangeStart shards (k + 1) - rangeStart shards k) =
          List.range' 0 (rangeStart shards (k + 1)) := by
      rw [← Nat.add_sub_cancel' hmono, ← range'_append_1, Nat.zero_add, Nat.add_sub_cancel_left]
    rw [range_succ, flatMap_append, ih, flatMap_singleton, range_eq_range', hjoin, ← range_eq_range']

/-- All ranges are all slots. -/
theorem flatMap_shardSlots (hpos : 0 < shards) :
    ((List.range shards).flatMap fun k =>
      (List.range' (rangeStart shards k) (rangeStart shards (k + 1) - rangeStart shards k)).map
        fun slot : ℕ => (slot : ℤ)) = allSlots := by
  rw [← map_flatMap, flatMap_rangeStart, rangeStart_shards hpos, allSlots]

theorem mapM_expandSlotRange (hpos : 0 < shards) :
    ((generateSlotRanges shards).mapM fun range => expandSlotRange (formatSlotRange range)).map List.flatten =
      .ok allSlots := by
  have hexpand : ∀ ks : List ℕ, (∀ k ∈ ks, k < shards) →
      (ks.map (shardRange shards)).mapM (fun range => expandSlotRange (formatSlotRange range)) =
        .ok (ks.map fun k =>
          (List.range' (rangeStart shards k) (rangeStart shards (k + 1) - rangeStart shards k)).map
            fun slot : ℕ => (slot : ℤ)) := by
    intro ks
    induction ks with
    | nil => intro _; rfl
    | cons k rest ih =>
      intro hks
      rw [map_cons, mapM_cons, expandSlotRange_shardRange (hks k mem_cons_self),
        ih fun i hi => hks i (mem_cons_of_mem _ hi)]
      rfl
  rw [generateSlotRanges_eq, hexpand _ fun k hk => mem_range.mp hk, ← flatMap_shardSlots hpos,
    flatMap_def]
  rfl

theorem flatMap_addedSlots {spec : SlotSpec} {gt : ClusterGroundTruth} (hpos : 0 < spec.shards)
    (hready : ∀ k < spec.shards, (intendedMaster spec.name gt k).isSome = true) :
    (assignMissing spec gt (List.range spec.shards)).flatMap SlotCommand.addedSlots = allSlots := by
  have hassign : ∀ ks : List ℕ, (∀ k ∈ ks, k < spec.shards) →
      (assignMissing spec gt ks).flatMap SlotCommand.addedSlots =
        ks.flatMap fun k =>
          (List.range' (rangeStart spec.shards k)
            (rangeStart spec.shards (k + 1) - rangeStart spec.shards k)).map
            fun slot : ℕ => (slot : ℤ) := by
    intro ks
    induction ks with
    | nil => intro _; rfl
    | cons k rest ih =>
      intro hks
      have hk := hks k mem_cons_self
      obtain ⟨target, htarget⟩ := Option.isSome_iff_exists.mp (hready k hk)
      have hcommand : assignShard spec gt k = some (.addSlots target.podIP (shardRange spec.shards k)) :=
        assignShard_eq_some.mpr ⟨target, htarget, _, getElem?_generateSlotRanges hk, rfl⟩
      have hrest := ih fun i hi => hks i (mem_cons_of_mem _ hi)
      rw [assignMissing] at hrest
      rw [assignMissing, filterMap_cons_some hcommand, flatMap_cons, flatMap_cons, hrest,
        SlotCommand.addedSlots, expandSlotRange_shardRange hk]
  rw [hassign _ fun k hk => mem_range.mp hk, flatMap_shardSlots hpos]

/-- For up to as many shards as slots the ranges lie side by side, read back, and expand to all slots, as
do those assigned when every shard is missing. -/
theorem slotRanges_tile (hpos : 1 ≤ shards) (hle : shards ≤ 16384) :
    (generateSlotRanges shards).length = shards ∧ SideBySide (generateSlotRanges shards) ∧
      (∀ range ∈ generateSlotRanges shards, parseSlotRange (formatSlotRange range) = some range) ∧
      ((generateSlotRanges shards).mapM fun range => expandSlotRange (formatSlotRange range)).map List.flatten =
        .ok ((List.range 16384).map fun slot : ℕ => (slot : ℤ)) ∧
      ∀ (spec : SlotSpec) (gt : ClusterGroundTruth), spec.shards = shards →
        (∀ k < shards, (intendedMaster spec.name gt k).isSome = true) →
        ∀ slot : ℤ, ((assignMissing spec gt (List.range shards)).flatMap SlotCommand.addedSlots).count slot =
          if 0 ≤ slot ∧ slot < 16384 then 1 else 0 := by
  refine ⟨generateSlotRanges_length shards, sideBySide_generateSlotRanges hle, ?_,
    mapM_expandSlotRange hpos, ?_⟩
  · intro range hrange
    obtain ⟨k, hk, rfl⟩ := mem_generateSlotRanges.mp hrange
    exact parseSlotRange_shardRange hk
  · rintro spec gt rfl hready slot
    rw [flatMap_addedSlots hpos hready]
    exact count_allSlots slot

/-- The ranges of three shards. -/
theorem threeRanges_tile :
    SideBySide [⟨0, 5461⟩, ⟨5462, 10922⟩, ⟨10923, 16383⟩] ∧
      ((generateSlotRanges 3).mapM fun range => expandSlotRange (formatSlotRange range)).map List.flatten =
        .ok ((List.range 16384).map fun slot : ℕ => (slot : ℤ)) := by
  obtain ⟨-, hside, -, hexpand, -⟩ := @slotRanges_tile 3 (by decide) (by decide)
  have hranges : generateSlotRanges 3 = [⟨0, 5461⟩, ⟨5462, 10922⟩, ⟨10923, 16383⟩] := by decide
  exact ⟨hranges ▸ hside, hexpand⟩

end Shards

end LittleRed.Cluster
