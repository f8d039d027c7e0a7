import LittleRed.Cluster.Reshard
import LittleRed.Lib.MaximalRuns
import Mathlib.Data.Finset.Card

/-!
# Consolidated shards as they are reported

A node reports its slots as maximal runs, so a master that owns the ranges of two neighbouring shards
reports a single run that is no shard's range. The plan takes such a run for a fragment and is put off.
-/

namespace LittleRed.Cluster

open Lib List

/-- A node owns a slot when the slot is in the range of a shard that it owns. -/
def ownsSlot (shards : ℕ) (owner : ℕ → String) (name : String) (slot : ℕ) : Bool :=
  (generateSlotRanges shards).zipIdx.any fun (range, shardIdx) =>
    owner shardIdx == name && decide (range.start ≤ slot ∧ slot ≤ range.stop)

/-- The slots of a node as it reports them: the maximal runs, in order. -/
def reportedSlots (owns : ℕ → Bool) : List String :=
  (runs owns totalSlots).map fun run => formatSlotRange ⟨run.1, run.2⟩

/-- Every range has one reachable owner, and reachable masters report what they own. -/
structure Assigned (gt : ClusterGroundTruth) (shards : ℕ) (owner : ℕ → String) : Prop where
  owned : ∀ shardIdx < shards, ∃ node, gt.nodes.lookup (owner shardIdx) = some node ∧
    node.role = .master ∧ node.reachable = true
  reported : ∀ name node, gt.nodes.lookup name = some node → node.role = .master →
    node.reachable = true → node.slots = reportedSlots (ownsSlot shards owner name)

section Reported

variable {shards : ℕ} {owner : ℕ → String} {name : String}

/-- A slot is owned with its range. -/
theorem ownsSlot_iff {slot : ℕ} : ownsSlot shards owner name slot = true ↔
    ∃ k < shards, owner k = name ∧ rangeStart shards k ≤ slot ∧ slot < rangeStart shards (k + 1) := by
  simp only [ownsSlot, any_eq_true, Bool.and_eq_true, beq_iff_eq, decide_eq_true_iff]
  constructor
  · rintro ⟨⟨range, k⟩, hmem, howner, hslot⟩
    have hrange : (generateSlotRanges shards)[k]? = some range := mem_zipIdx_iff_getElem?.mp hmem
    obtain ⟨hk, -⟩ := List.getElem?_eq_some_iff.mp hrange
    rw [generateSlotRanges_length] at hk
    cases (getElem?_generateSlotRanges hk).symm.trans hrange
    simp only [shardRange] at hslot
    exact ⟨k, hk, howner, by omega, by omega⟩
  · rintro ⟨k, hk, howner, hstart, hstop⟩
    refine ⟨(shardRange shards k, k), mem_zipIdx_iff_getElem?.mpr
      (getElem?_generateSlotRanges hk), howner, ?_⟩
    simp only [shardRange]
    omega

/-- Slots are owned by whole ranges. -/
theorem holdsOnBlocks_ownsSlot (hshards : 0 < shards) :
    HoldsOnBlocks (rangeStart shards) (min shards totalSlots) (ownsSlot shards owner name)
      (owner · = name) := by
  intro slot
  rw [ownsSlot_iff]
  constructor
  · rintro ⟨k, hk, howner, hstart, hstop⟩
    refine ⟨k, ?_, howner, hstart, hstop⟩
    by_contra hmany
    -- Behind the last slot the ranges are empty.
    have hle : rangeStart shards (min shards totalSlots) ≤ rangeStart shards k :=
      rangeStart_mono shards (Nat.not_lt.mp hmany)
    have hle' : rangeStart shards (k + 1) ≤ rangeStart shards shards := rangeStart_mono shards hk
    rw [rangeStart_min hshards] at hle
    rw [rangeStart_shards hshards] at hle'
    omega
  · rintro ⟨k, hk, howner, hslot⟩
    exact ⟨k, Nat.lt_of_lt_of_le hk (Nat.min_le_left _ _), howner, hslot⟩

/-- What is reported are the maximal runs of slots. -/
theorem mem_reportedSlots {owns : ℕ → Bool} {slotText : String} :
    slotText ∈ reportedSlots owns ↔
      ∃ a b, MaximalRun owns totalSlots a b ∧ formatSlotRange ⟨a, b⟩ = slotText := by
  rw [reportedSlots, mem_map]
  constructor
  · rintro ⟨⟨a, b⟩, hrun, htext⟩
    exact ⟨a, b, mem_runs.mp hrun, htext⟩
  · rintro ⟨a, b, hrun, htext⟩
    exact ⟨(a, b), mem_runs.mpr hrun, htext⟩

/-- A run is a shard's own when its ends are. -/
theorem shardOfText_isSome {a b : ℕ} (hb : b < totalSlots) (hab : a ≤ b) :
    (shardOfText shards (formatSlotRange ⟨a, b⟩)).isSome = true ↔
      ∃ k < shards, a = rangeStart shards k ∧ b + 1 = rangeStart shards (k + 1) := by
  have hslots : totalSlots < 2 ^ 63 := by decide
  rw [shardOfText, parseSlotRange_formatSlotRange (by omega) (by omega), Option.bind_some,
    findIdx?_isSome, mem_generateSlotRanges]
  refine exists_congr fun k => and_congr_right fun _ => ?_
  rw [shardRange, SlotRange.mk.injEq]
  omega

variable (hshards : 0 < shards)
include hshards

/-- With different neighbours every reported run is a shard's own. -/
theorem reported_aligned (hapart : ∀ k, k + 1 < min shards totalSlots → owner k ≠ owner (k + 1)) :
    ∀ slotText ∈ reportedSlots (ownsSlot shards owner name), (shardOfText shards slotText).isSome = true := by
  intro slotText htext
  obtain ⟨a, b, hrun, rfl⟩ := mem_reportedSlots.mp htext
  rw [shardOfText_isSome hrun.below hrun.ordered]
  rw [← rangeStart_min hshards] at hrun
  obtain ⟨k, hk, -, rfl, rfl⟩ := block_of_maximalRun (rangeStart_mono shards)
    (holdsOnBlocks_ownsSlot hshards) (fun _ => rangeStart_lt) (rangeStart_zero shards)
    (fun k hk howner howner' => hapart k hk (howner.trans howner'.symm)) hrun
  have hlt := rangeStart_lt hk
  exact ⟨k, Nat.lt_of_lt_of_le hk (Nat.min_le_left _ _), rfl, by omega⟩

/-- With equal neighbours some run is not. -/
theorem reported_not_aligned {k : ℕ} (hk : k + 1 < min shards totalSlots) (howner : owner k = name)
    (howner' : owner (k + 1) = name) :
    ∃ slotText ∈ reportedSlots (ownsSlot shards owner name), ¬ (shardOfText shards slotText).isSome = true := by
  obtain ⟨a, b, hrun, ha, hb⟩ := exists_merged_run (rangeStart_mono shards)
    (holdsOnBlocks_ownsSlot hshards) (fun _ => rangeStart_lt) hk howner howner'
  rw [rangeStart_min hshards] at hrun
  refine ⟨_, mem_reportedSlots.mpr ⟨a, b, hrun, rfl⟩, ?_⟩
  rw [shardOfText_isSome hrun.below hrun.ordered]
  rintro ⟨l, -, rfl, hstop⟩
  have hlt : rangeStart shards k < rangeStart shards (k + 1) := rangeStart_lt (by omega)
  have hlt' := rangeStart_lt hk
  obtain rfl := block_unique (rangeStart_mono shards) (k := l) (l := k) (i := rangeStart shards k)
    ⟨ha, by omega⟩ ⟨Nat.le_refl _, hlt⟩
  omega

/-- Two runs are two shards. -/
theorem two_le_length_reported (hapart : ∀ k, k + 1 < min shards totalSlots → owner k ≠ owner (k + 1)) :
    2 ≤ (reportedSlots (ownsSlot shards owner name)).length ↔
      ∃ k l, k < l ∧ l < min shards totalSlots ∧ owner k = name ∧ owner l = name := by
  have hmono := rangeStart_mono shards
  have hblocks : HoldsOnBlocks (rangeStart shards) _ (ownsSlot shards owner name) _ :=
    holdsOnBlocks_ownsSlot hshards
  have hapart' : ∀ k, k + 1 < min shards totalSlots → owner k = name → ¬ owner (k + 1) = name :=
    fun k hk howner howner' => hapart k hk (howner.trans howner'.symm)
  have hruns : ∀ a b, (a, b) ∈ (runs (ownsSlot shards owner name) totalSlots).toFinset ↔
      MaximalRun (ownsSlot shards owner name) (rangeStart shards (min shards totalSlots)) a b := by
    intro a b
    rw [rangeStart_min hshards, mem_toFinset, mem_runs]
  rw [reportedSlots, length_map, ← toFinset_card_of_nodup nodup_runs]
  refine Finset.one_lt_card.trans ⟨?_, ?_⟩
  · rintro ⟨⟨a, b⟩, hmem, ⟨a', b'⟩, hmem', hne⟩
    obtain ⟨k, hk, howner, rfl, rfl⟩ := block_of_maximalRun hmono hblocks (fun _ => rangeStart_lt)
      (rangeStart_zero shards) hapart' ((hruns _ _).mp hmem)
    obtain ⟨l, hl, howner', rfl, rfl⟩ := block_of_maximalRun hmono hblocks (fun _ => rangeStart_lt)
      (rangeStart_zero shards) hapart' ((hruns _ _).mp hmem')
    rcases Nat.lt_trichotomy k l with hlt | rfl | hgt
    · exact ⟨k, l, hlt, hl, howner, howner'⟩
    · exact absurd rfl hne
    · exact ⟨l, k, hgt, hk, howner', howner⟩
  · rintro ⟨k, l, hlt, hl, howner, howner'⟩
    have hrun := maximalRun_block hmono hblocks (fun _ => rangeStart_lt) (rangeStart_zero shards)
      hapart' (Nat.lt_trans hlt hl) howner
    have hrun' := maximalRun_block hmono hblocks (fun _ => rangeStart_lt) (rangeStart_zero shards)
      hapart' hl howner'
    refine ⟨_, (hruns _ _).mpr hrun, _, (hruns _ _).mpr hrun', fun heq => ?_⟩
    have hstart : rangeStart shards k = rangeStart shards l := (Prod.mk.inj heq).1
    have hle : rangeStart shards (k + 1) ≤ rangeStart shards l := hmono hlt
    have hstrict : rangeStart shards k < rangeStart shards (k + 1) := rangeStart_lt (Nat.lt_trans hlt hl)
    omega

end Reported

section Detect

variable {gt : ClusterGroundTruth} {shards : ℕ} {owner : ℕ → String}

/-- A reachable master reports what it owns. -/
theorem Assigned.exists_reported (h : Assigned gt shards owner) {node : ClusterNodeState}
    (hnode : node ∈ gt.reachableMasters) :
    ∃ name, node.slots = reportedSlots (ownsSlot shards owner name) := by
  obtain ⟨hmem, hmaster⟩ := mem_filter.mp hnode
  rw [Bool.and_eq_true, beq_iff_eq] at hmaster
  obtain ⟨name, hlookup⟩ := GoMap.exists_lookup_of_mem_values hmem
  exact ⟨name, h.reported name node hlookup hmaster.1 hmaster.2⟩

/-- Every range has its owner. -/
theorem Assigned.exists_owner (h : Assigned gt shards owner) {shardIdx : ℕ} (hshard : shardIdx < shards) :
    ∃ node ∈ gt.reachableMasters, node.slots = reportedSlots (ownsSlot shards owner (owner shardIdx)) := by
  obtain ⟨node, hlookup, hrole, hreach⟩ := h.owned shardIdx hshard
  refine ⟨node, mem_filter.mpr ⟨GoMap.mem_values_of_lookup hlookup, ?_⟩,
    h.reported _ node hlookup hrole hreach⟩
  rw [hrole, hreach]
  rfl

/-- Neighbouring shards with one owner are not detected. -/
theorem Assigned.planReshard_eq_nil (h : Assigned gt shards owner) (hshards : 0 < shards) {k : ℕ}
    (hk : k + 1 < min shards totalSlots) (howner : owner k = owner (k + 1)) :
    planReshard gt shards = [] := by
  obtain ⟨node, hnode, hslots⟩ := h.exists_owner (Nat.lt_of_lt_of_le hk (Nat.min_le_left _ _))
  obtain ⟨slotText, htext, hnot⟩ := reported_not_aligned hshards hk howner rfl
  rw [← reshardPlan_asGiven gt hshards]
  refine reshardPlan_moves_of_not_aligned hnode (fun haligned => ?_) _
  exact hnot (haligned slotText (by rwa [hslots]))

/-- With a master without slots, a plan is one for an aligned surplus. -/
theorem planReshard_ne_nil_iff (hshards : 0 < shards) (hempty : ∃ node ∈ gt.reachableMasters, node.slots = []) :
    planReshard gt shards ≠ [] ↔ (∀ node ∈ gt.reachableMasters, node.Aligned shards) ∧
        ∃ node ∈ gt.reachableMasters, 2 ≤ node.slots.length := by
  rw [← reshardPlan_asGiven gt hshards]
  by_cases haligned : ∀ node ∈ gt.reachableMasters, node.Aligned shards
  · obtain ⟨node, hnode, hslots⟩ := hempty
    have hmember : node ∈ gt.emptyMasters := mem_filter.mpr ⟨hnode, isEmpty_iff.mpr hslots⟩
    have hpos := length_pos_of_mem hmember
    rw [← length_pos_iff, length_reshardPlan_moves hshards haligned, Nat.lt_min, and_iff_left hpos,
      length_pos_iff, surpluses_ne_nil_iff haligned, and_iff_right haligned]
  · refine iff_of_false ?_ fun h => haligned h.1
    push Not at haligned
    obtain ⟨node, hnode, hnot⟩ := haligned
    rw [not_not]
    exact reshardPlan_moves_of_not_aligned hnode hnot _

/-- With a master without slots, consolidated shards are detected exactly when no two neighbours have one
owner and some master owns two shards with slots. -/
theorem planReshard_detects_iff (hshards : 0 < shards) (h : Assigned gt shards owner)
    (hempty : ∃ node ∈ gt.reachableMasters, node.slots = []) :
    planReshard gt shards ≠ [] ↔ (∀ k, k + 1 < min shards totalSlots → owner k ≠ owner (k + 1)) ∧
        ∃ k l, k < l ∧ l < min shards totalSlots ∧ owner k = owner l := by
  by_cases hapart : ∀ k, k + 1 < min shards totalSlots → owner k ≠ owner (k + 1)
  · rw [planReshard_ne_nil_iff hshards hempty, and_iff_right hapart, and_iff_right]
    · constructor
      · rintro ⟨node, hnode, htwo⟩
        obtain ⟨name, hslots⟩ := h.exists_reported hnode
        rw [hslots, two_le_length_reported hshards hapart] at htwo
        obtain ⟨k, l, hlt, hl, howner, howner'⟩ := htwo
        exact ⟨k, l, hlt, hl, howner.trans howner'.symm⟩
      · rintro ⟨k, l, hlt, hl, howner⟩
        obtain ⟨node, hnode, hslots⟩ := h.exists_owner (Nat.lt_of_lt_of_le hl (Nat.min_le_left _ _))
        refine ⟨node, hnode, ?_⟩
        rw [hslots, two_le_length_reported hshards hapart]
        exact ⟨k, l, hlt, hl, howner, rfl⟩
    · intro node hnode
      obtain ⟨name, hslots⟩ := h.exists_reported hnode
      rw [ClusterNodeState.Aligned, hslots]
      exact reported_aligned hshards hapart
  · refine iff_of_false ?_ fun hboth => hapart hboth.1
    push Not at hapart
    obtain ⟨k, hk, howner⟩ := hapart
    exact not_not.mpr (h.planReshard_eq_nil hshards hk howner)

end Detect

section Examples

/-- A master that reports what it owns. -/
def trioNode (owner : ℕ → String) (name : String) : ClusterNodeState :=
  ⟨name, name, name, reportedSlots (ownsSlot 3 owner name), .master, "-", .unknown, true⟩

/-- Three masters. -/
def trio (owner : ℕ → String) : ClusterGroundTruth :=
  { newClusterGroundTruth with
    nodes := GoMap.ofPairs
      [("lr-shard-0-0", trioNode owner "lr-shard-0-0"), ("lr-shard-1-0", trioNode owner "lr-shard-1-0"),
        ("lr-shard-2-0", trioNode owner "lr-shard-2-0")] }

variable {owner : ℕ → String}

/-- The ranges have owners. -/
theorem trio_assigned (howner : ∀ k < 3, owner k = "lr-shard-0-0" ∨ owner k = "lr-shard-1-0") :
    Assigned (trio owner) 3 owner := by
  constructor
  · intro k hk
    rcases howner k hk with hfirst | hsecond
    · exact ⟨trioNode owner "lr-shard-0-0", by rw [hfirst]; rfl, rfl, rfl⟩
    · exact ⟨trioNode owner "lr-shard-1-0", by rw [hsecond]; rfl, rfl, rfl⟩
  · intro name node hlookup _ _
    have hmem := GoMap.mem_of_lookup_ofPairs hlookup
    simp only [mem_cons, not_mem_nil, or_false, Prod.mk.injEq] at hmem
    rcases hmem with ⟨rfl, rfl⟩ | ⟨rfl, rfl⟩ | ⟨rfl, rfl⟩ <;> rfl

/-- The third master has none. -/
theorem trio_empty (howner : ∀ k < 3, owner k = "lr-shard-0-0" ∨ owner k = "lr-shard-1-0") :
    ∃ node ∈ (trio owner).reachableMasters, node.slots = [] := by
  have hfound : (trio owner).nodes.lookup "lr-shard-2-0" = some (trioNode owner "lr-shard-2-0") := rfl
  refine ⟨trioNode owner "lr-shard-2-0", mem_filter.mpr ⟨GoMap.mem_values_of_lookup hfound, rfl⟩, ?_⟩
  rw [trioNode, reportedSlots, runs_empty, map_nil]
  intro slot
  rw [Bool.eq_false_iff, ne_eq, ownsSlot_iff]
  rintro ⟨k, hk, hname, -⟩
  rcases howner k hk with hfirst | hsecond
  · exact absurd (hname.symm.trans hfirst) (by decide)
  · exact absurd (hname.symm.trans hsecond) (by decide)

def outerOwner (k : ℕ) : String := if k = 1 then "lr-shard-1-0" else "lr-shard-0-0"

/-- They are detected. -/
theorem outer_detected : planReshard (trio outerOwner) 3 ≠ [] := by
  have howner : ∀ k < 3, outerOwner k = "lr-shard-0-0" ∨ outerOwner k = "lr-shard-1-0" := by decide
  refine (planReshard_detects_iff (by decide) (trio_assigned howner) (trio_empty howner)).mpr ⟨?_, ?_⟩
  · intro k hk
    obtain rfl | rfl : k = 0 ∨ k = 1 := by
      have hlt := Nat.lt_of_lt_of_le hk (Nat.min_le_left 3 totalSlots)
      omega
    · decide
    · decide
  · exact ⟨0, 2, by decide, by decide, rfl⟩

def neighbourOwner (k : ℕ) : String := if k = 2 then "lr-shard-1-0" else "lr-shard-0-0"

theorem neighbours_first : (trioNode neighbourOwner "lr-shard-0-0").slots = ["0-10922"] := by
  rw [trioNode, reportedSlots, runs_interval (a := 0) (b := 10922) (by decide) (by decide)]
  · decide
  · intro slot
    rw [ownsSlot_iff]
    constructor
    · rintro ⟨k, hk, howner, hstart, hstop⟩
      obtain rfl | rfl | rfl : k = 0 ∨ k = 1 ∨ k = 2 := by omega
      · exact ⟨Nat.zero_le _, Nat.le_of_lt_succ (Nat.lt_of_lt_of_le hstop (by decide))⟩
      · exact ⟨Nat.zero_le _, Nat.le_of_lt_succ (Nat.lt_of_lt_of_le hstop (by decide))⟩
      · exact absurd howner (by decide)
    · rintro ⟨-, hle⟩
      rcases Nat.lt_or_ge slot 5462 with hfirst | hsecond
      · exact ⟨0, by decide, rfl, Nat.zero_le _, hfirst⟩
      · exact ⟨1, by decide, rfl, hsecond, Nat.lt_succ_of_le hle⟩

/-- So they are not detected, although the third pod could take one. -/
theorem neighbours_undetected :
    Assigned (trio neighbourOwner) 3 neighbourOwner ∧ neighbourOwner 0 = neighbourOwner 1 ∧
      (∃ node ∈ (trio neighbourOwner).reachableMasters, node.slots = []) ∧
      (trioNode neighbourOwner "lr-shard-0-0").slots = ["0-10922"] ∧
      planReshard (trio neighbourOwner) 3 = [] := by
  have howner : ∀ k < 3, neighbourOwner k = "lr-shard-0-0" ∨ neighbourOwner k = "lr-shard-1-0" := by decide
  have hassigned := trio_assigned howner
  exact ⟨hassigned, rfl, trio_empty howner, neighbours_first,
    hassigned.planReshard_eq_nil (by decide) (k := 0) (by decide) rfl⟩

end Examples

end LittleRed.Cluster
