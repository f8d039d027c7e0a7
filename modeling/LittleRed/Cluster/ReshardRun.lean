import LittleRed.Cluster.Reshard
import Mathlib.Algebra.GroupWithZero.Nat

/-!
# Repeated moves against consolidated shards

The repair pass carries out the first move of a plan and plans again. When the masters report whole ranges
and none twice, the plan does not depend on the order of the nodes, every move gives a surplus range to a
master without slots, and the moves end when one of the two has run out.
-/

namespace LittleRed.Cluster

open Lib List GoMap

/-- The ranges that the node reports. -/
def ClusterNodeState.ranges (node : ClusterNodeState) : List SlotRange :=
  node.slots.filterMap parseSlotRange

/-- The reachable masters report whole ranges and no range twice, and pods have names of their own. -/
structure ClusterGroundTruth.WholeRanges (gt : ClusterGroundTruth) (shards : ℕ) : Prop where
  whole : ∀ node ∈ gt.reachableMasters, ∀ slotText ∈ node.slots,
    ∃ range ∈ generateSlotRanges shards, parseSlotRange slotText = some range
  apart : (gt.reachableMasters.flatMap (·.ranges)).Nodup
  names : (gt.nodes.values.map (·.podName)).Nodup

/-- How many ranges are beyond one for a master. -/
def ClusterGroundTruth.surplus (gt : ClusterGroundTruth) : ℕ :=
  (gt.reachableMasters.map fun node => node.slots.length - 1).sum

/-- The node after a move. -/
def ClusterNodeState.transfer (move : ReshardMove) (node : ClusterNodeState) : ClusterNodeState :=
  if node.podName = move.source.podName then
    { node with slots := node.slots.filter fun slotText => parseSlotRange slotText != some move.range }
  else if node.podName = move.dest.podName then
    { node with slots := node.slots ++ [formatSlotRange move.range] }
  else node

/-- The nodes after a range was moved. -/
def ClusterGroundTruth.transfer (gt : ClusterGroundTruth) (move : ReshardMove) : ClusterGroundTruth :=
  { gt with nodes := gt.nodes.mapValues fun _ node => node.transfer move }

/-- The first move of a plan is carried out, and the nodes are gathered again. -/
def ReshardStep (shards : ℕ) (gt gt' : ClusterGroundTruth) : Prop :=
  ∃ order move rest, (reshardPlan order gt shards).moves = move :: rest ∧
    gt'.nodes.entries.Perm (gt.transfer move).nodes.entries

/-- So many moves lead from one view to another. -/
inductive ReshardRun (shards : ℕ) (gt : ClusterGroundTruth) : ℕ → ClusterGroundTruth → Prop
  | refl : ReshardRun shards gt 0 gt
  | step {count : ℕ} {gt' gt'' : ClusterGroundTruth} :
      ReshardRun shards gt count gt' → ReshardStep shards gt' gt'' → ReshardRun shards gt (count + 1) gt''

section Plan

variable {shards : ℕ} {gt gt' : ClusterGroundTruth}

namespace ClusterGroundTruth.WholeRanges

variable (h : gt.WholeRanges shards)
include h

theorem aligned : ∀ node ∈ gt.reachableMasters, node.Aligned shards := by
  intro node hnode slotText htext
  obtain ⟨range, hrange, hparsed⟩ := h.whole node hnode slotText htext
  rw [shardOfText, hparsed]
  exact findIdx?_isSome.mpr hrange

variable {node : ClusterNodeState}

/-- The numbers stand for the ranges. -/
theorem map_shardRange (hnode : node ∈ gt.reachableMasters) :
    (node.shardIndices shards).map (shardRange shards) = node.ranges := by
  rw [ClusterNodeState.shardIndices, map_filterMap]
  refine filterMap_congr fun slotText htext => ?_
  obtain ⟨shardIdx, hshard⟩ := Option.isSome_iff_exists.mp (h.aligned node hnode slotText htext)
  rw [hshard, Option.map_some, (shardOfText_eq_some hshard).2]

theorem nodup_shardIndices (hnode : node ∈ gt.reachableMasters) :
    (node.shardIndices shards).Nodup := by
  refine List.Nodup.of_map (shardRange shards) ?_
  rw [h.map_shardRange hnode]
  exact (nodup_flatMap.mp h.apart).1 node hnode

theorem owner_unique {node' : ClusterNodeState} {shardIdx : ℕ} (hnode : node ∈ gt.reachableMasters)
    (hnode' : node' ∈ gt.reachableMasters) (howns : shardIdx ∈ node.shardIndices shards)
    (howns' : shardIdx ∈ node'.shardIndices shards) : node = node' := by
  by_contra hne
  have hsymm : Std.Symm (Function.onFun List.Disjoint fun node : ClusterNodeState => node.ranges) :=
    ⟨fun _ _ hdisjoint _ hmem hmem' => hdisjoint hmem' hmem⟩
  have hdisjoint : List.Disjoint node.ranges node'.ranges :=
    (nodup_flatMap.mp h.apart).2.forall hnode hnode' hne
  refine hdisjoint (a := shardRange shards shardIdx) ?_ ?_
  · rw [← h.map_shardRange hnode]
    exact mem_map_of_mem howns
  · rw [← h.map_shardRange hnode']
    exact mem_map_of_mem howns'

theorem nodup_podNames : (gt.reachableMasters.map (·.podName)).Nodup :=
  h.names.sublist (filter_sublist.map _)

/-- Surplus ranges have different numbers. -/
theorem surpluses_anti :
    ∀ a ∈ gt.surpluses shards, ∀ b ∈ gt.surpluses shards, a.1 ≤ b.1 → b.1 ≤ a.1 → a = b := by
  intro a ha b hb hab hba
  obtain ⟨hmaster, kept, rest, hperm, hrest, -⟩ := mem_surpluses ha
  obtain ⟨hmaster', kept', rest', hperm', hrest', -⟩ := mem_surpluses hb
  have heq : a.1 = b.1 := Nat.le_antisymm hab hba
  have howns := hperm.mem_iff.mpr (mem_cons_of_mem _ hrest)
  have howns' := hperm'.mem_iff.mpr (mem_cons_of_mem _ hrest')
  rw [← heq] at howns'
  exact Prod.ext heq (h.owner_unique hmaster hmaster' howns howns')

/-- Masters without slots are strictly ordered. -/
theorem emptyMasters_anti :
    ∀ a ∈ gt.emptyMasters, ∀ b ∈ gt.emptyMasters, fillsBefore a b → fillsBefore b a → a = b := by
  intro a ha b hb hab hba
  refine inj_on_of_nodup_map h.nodup_podNames (mem_filter.mp ha).1 (mem_filter.mp hb).1 ?_
  by_contra hne
  rw [fillsBefore, if_pos hne] at hab
  rw [fillsBefore, if_pos (Ne.symm hne)] at hba
  exact lt_asymm hab hba

end ClusterGroundTruth.WholeRanges

theorem reachableMasters_perm (hperm : gt'.nodes.entries.Perm gt.nodes.entries) :
    gt'.reachableMasters.Perm gt.reachableMasters :=
  (values_perm hperm).filter _

/-- Whole ranges in another order. -/
theorem ClusterGroundTruth.WholeRanges.of_perm (h : gt.WholeRanges shards)
    (hperm : gt'.nodes.entries.Perm gt.nodes.entries) : gt'.WholeRanges shards := by
  have hmasters := reachableMasters_perm hperm
  refine ⟨fun node hnode => h.whole node (hmasters.mem_iff.mp hnode), ?_, ?_⟩
  · exact (hmasters.flatMap_right _).nodup_iff.mpr h.apart
  · exact ((values_perm hperm).map _).nodup_iff.mpr h.names

/-- Sorting forgets the order. -/
theorem planMoves_congr {expected : List SlotRange} {surpluses surpluses' : List (ℕ × ClusterNodeState)}
    {emptyMasters emptyMasters' : List ClusterNodeState} (hsurpluses : surpluses.Perm surpluses')
    (hmasters : emptyMasters.Perm emptyMasters')
    (hanti : ∀ a ∈ surpluses, ∀ b ∈ surpluses, a.1 ≤ b.1 → b.1 ≤ a.1 → a = b)
    (hanti' : ∀ a ∈ emptyMasters, ∀ b ∈ emptyMasters, fillsBefore a b → fillsBefore b a → a = b) :
    planMoves expected surpluses emptyMasters = planMoves expected surpluses' emptyMasters' := by
  rw [planMoves, planMoves, pairMoves, pairMoves, insertionSort_eq_of_perm _ hsurpluses hanti,
    insertionSort_eq_of_perm _ hmasters hanti', hsurpluses.length_eq, hmasters.length_eq,
    hsurpluses.isEmpty_eq, hmasters.isEmpty_eq]

/-- The plan does not depend on the order. -/
theorem reshardPlan_of_perm (hshards : 0 < shards) (h : gt.WholeRanges shards)
    (hperm : gt'.nodes.entries.Perm gt.nodes.entries)
    (order order' : RangeOrder (ClusterNodeState × List ℕ)) :
    reshardPlan order' gt' shards = reshardPlan order gt shards := by
  have hmasters := reachableMasters_perm hperm
  have hsurpluses := reorder_owningMasters_perm order gt shards
  rw [reshardPlan_eq hshards h.aligned, reshardPlan_eq hshards (h.of_perm hperm).aligned]
  refine (planMoves_congr ?_ (hmasters.symm.filter _) ?_ h.emptyMasters_anti).symm
  · exact hsurpluses.trans ((hmasters.symm.flatMap_right _).trans
      (reorder_owningMasters_perm order' gt' shards).symm)
  · intro a ha b hb
    exact h.surpluses_anti a (hsurpluses.mem_iff.mp ha) b (hsurpluses.mem_iff.mp hb)

/-- The surplus, counted. -/
theorem length_surpluses (haligned : ∀ node ∈ gt.reachableMasters, node.Aligned shards) :
    (gt.surpluses shards).length = gt.surplus := by
  rw [ClusterGroundTruth.surpluses, length_flatMap]
  congr 1
  exact map_congr_left fun node hnode => length_surplusShards (haligned node hnode)

/-- A range goes from a master that keeps a lower one to a master without slots. -/
structure ReshardMove.Sound (gt : ClusterGroundTruth) (shards : ℕ) (move : ReshardMove) : Prop where
  dest : move.dest ∈ gt.emptyMasters
  source : move.source ∈ gt.reachableMasters
  owned : move.range ∈ move.source.ranges
  kept : ∃ kept ∈ move.source.shardIndices shards, ∃ moved ∈ move.source.shardIndices shards,
    kept < moved ∧ shardRange shards moved = move.range

/-- All moves are sound and go to different masters. -/
theorem reshardPlan_sound (hshards : 0 < shards) (h : gt.WholeRanges shards)
    (order : RangeOrder (ClusterNodeState × List ℕ)) :
    ((reshardPlan order gt shards).moves.map (·.dest)).Nodup ∧
      ∀ move ∈ (reshardPlan order gt shards).moves, move.Sound gt shards := by
  have hsurpluses := reorder_owningMasters_perm order gt shards
  rw [reshardPlan_eq hshards h.aligned, planMoves_moves,
    pairMoves_eq fun surplus hsurplus => lt_of_mem_surpluses (hsurpluses.mem_iff.mp hsurplus)]
  constructor
  · rw [map_map]
    have hnodup : (gt.emptyMasters.insertionSort fillsBefore).Nodup := by
      refine (perm_insertionSort _ _).nodup_iff.mpr (List.Nodup.of_map (·.podName) ?_)
      exact h.nodup_podNames.sublist (filter_sublist.map _)
    exact hnodup.sublist (map_snd_zip_isInitial _ _).sublist
  · intro move hmove
    obtain ⟨⟨⟨shardIdx, source⟩, dest⟩, hpair, rfl⟩ := mem_map.mp hmove
    obtain ⟨hsurplus, hdest⟩ := of_mem_zip hpair
    rw [mem_insertionSort, hsurpluses.mem_iff] at hsurplus
    rw [mem_insertionSort] at hdest
    obtain ⟨hsource, kept, rest, hperm, hrest, hle⟩ := mem_surpluses hsurplus
    have hmoved : shardIdx ∈ source.shardIndices shards :=
      hperm.mem_iff.mpr (mem_cons_of_mem _ hrest)
    have hne : kept ≠ shardIdx := by
      rintro rfl
      exact (nodup_cons.mp (hperm.nodup_iff.mp (h.nodup_shardIndices hsource))).1 hrest
    refine ⟨hdest, hsource, ?_, kept, hperm.mem_iff.mpr mem_cons_self, shardIdx, hmoved,
      lt_of_le_of_ne hle hne, rfl⟩
    rw [← h.map_shardRange hsource]
    exact mem_map_of_mem hmoved

end Plan

section Step

variable {shards : ℕ} {gt gt' : ClusterGroundTruth} {move : ReshardMove}

/-- Only slots move. -/
theorem transfer_rest (move : ReshardMove) (node : ClusterNodeState) :
    (node.transfer move).podName = node.podName ∧ (node.transfer move).role = node.role ∧
      (node.transfer move).reachable = node.reachable := by
  unfold ClusterNodeState.transfer
  split
  · exact ⟨rfl, rfl, rfl⟩
  split
  · exact ⟨rfl, rfl, rfl⟩
  · exact ⟨rfl, rfl, rfl⟩

/-- The masters stay. -/
theorem reachableMasters_transfer (gt : ClusterGroundTruth) (move : ReshardMove) :
    (gt.transfer move).reachableMasters = gt.reachableMasters.map (·.transfer move) := by
  rw [ClusterGroundTruth.reachableMasters, ClusterGroundTruth.transfer, values_mapValues, filter_map]
  congr 1
  refine filter_congr fun node _ => ?_
  obtain ⟨-, hrole, hreach⟩ := transfer_rest move node
  simp only [Function.comp_apply, hrole, hreach]

/-- Source and destination among the masters. -/
theorem ReshardMove.Sound.exists_rest (hmove : move.Sound gt shards) (h : gt.WholeRanges shards) :
    ∃ rest, gt.reachableMasters.Perm (move.source :: move.dest :: rest) ∧
      move.dest.podName ≠ move.source.podName ∧
      ∀ node ∈ rest, node.podName ≠ move.source.podName ∧ node.podName ≠ move.dest.podName := by
  obtain ⟨hdest, hempty⟩ := mem_filter.mp hmove.dest
  have hne : move.dest ≠ move.source := by
    intro heq
    have howned := hmove.owned
    rw [← heq, ClusterNodeState.ranges, isEmpty_iff.mp hempty] at howned
    cases howned
  have hperm : gt.reachableMasters.Perm
      (move.source :: move.dest :: (gt.reachableMasters.erase move.source).erase move.dest) :=
    (perm_cons_erase hmove.source).trans
      ((perm_cons_erase ((mem_erase_of_ne hne).mpr hdest)).cons _)
  have hnames := (hperm.map (·.podName)).nodup_iff.mp h.nodup_podNames
  rw [map_cons, map_cons, nodup_cons, nodup_cons, mem_cons, not_or] at hnames
  obtain ⟨⟨hsource, hsources⟩, hdests, -⟩ := hnames
  refine ⟨_, hperm, Ne.symm hsource, fun node hnode => ⟨?_, ?_⟩⟩
  · intro heq
    exact hsources (heq ▸ mem_map_of_mem hnode)
  · intro heq
    exact hdests (heq ▸ mem_map_of_mem hnode)

/-- The masters after a move. -/
theorem ReshardMove.Sound.exists_masters (hmove : move.Sound gt shards) (h : gt.WholeRanges shards)
    (hperm : gt'.nodes.entries.Perm (gt.transfer move).nodes.entries) :
    ∃ rest, gt.reachableMasters.Perm (move.source :: move.dest :: rest) ∧ gt'.reachableMasters.Perm
        (move.source.transfer move :: { move.dest with slots := [formatSlotRange move.range] } :: rest) := by
  obtain ⟨rest, hmasters, hne, hrest⟩ := hmove.exists_rest h
  refine ⟨rest, hmasters, (reachableMasters_perm hperm).trans ?_⟩
  rw [reachableMasters_transfer]
  refine (hmasters.map _).trans (List.Perm.of_eq ?_)
  have hdest : move.dest.transfer move = { move.dest with slots := [formatSlotRange move.range] } := by
    rw [ClusterNodeState.transfer, if_neg hne, if_pos rfl,
      isEmpty_iff.mp (mem_filter.mp hmove.dest).2, nil_append]
  have hsame : rest.map (·.transfer move) = rest := by
    refine (map_congr_left fun node hnode => ?_).trans (map_id _)
    rw [ClusterNodeState.transfer, if_neg (hrest node hnode).1, if_neg (hrest node hnode).2, id]
  rw [map_cons, map_cons, hdest, hsame]

/-- All ranges are read. -/
theorem ClusterGroundTruth.WholeRanges.length_ranges (h : gt.WholeRanges shards) {node : ClusterNodeState}
    (hnode : node ∈ gt.reachableMasters) : node.ranges.length = node.slots.length := by
  rw [ClusterNodeState.ranges, filterMap_length_eq_length]
  intro slotText htext
  obtain ⟨range, -, hparsed⟩ := h.whole node hnode slotText htext
  rw [hparsed]
  rfl

variable (hmove : move.Sound gt shards)
include hmove

/-- The source loses the range. -/
theorem ReshardMove.Sound.ranges_source (h : gt.WholeRanges shards) :
    move.source.ranges.Perm (move.range :: (move.source.transfer move).ranges) := by
  have hranges : (move.source.transfer move).ranges = move.source.ranges.filter (· != move.range) := by
    rw [ClusterNodeState.transfer, if_pos rfl, ClusterNodeState.ranges, ClusterNodeState.ranges,
      filterMap_filter, filter_filterMap]
    refine filterMap_congr fun slotText htext => ?_
    obtain ⟨range, -, hparsed⟩ := h.whole move.source hmove.source slotText htext
    by_cases heq : range = move.range
    · simp [hparsed, heq, Option.filter]
    · simp [hparsed, heq, Option.filter]
  have hnodup := (nodup_flatMap.mp h.apart).1 move.source hmove.source
  rw [hranges, ← hnodup.erase_eq_filter]
  exact perm_cons_erase hmove.owned

/-- The range is read back. -/
theorem ReshardMove.Sound.parse_range :
    move.range ∈ generateSlotRanges shards ∧ parseSlotRange (formatSlotRange move.range) = some move.range := by
  obtain ⟨kept, hkept, moved, hmoved, hlt, hrange⟩ := hmove.kept
  have hmovedLt := lt_of_mem_shardIndices hmoved
  exact ⟨mem_generateSlotRanges.mpr ⟨moved, hmovedLt, hrange⟩, hrange ▸ parseSlotRange_shardRange hmovedLt⟩

variable (h : gt.WholeRanges shards)
include h

variable (hperm : gt'.nodes.entries.Perm (gt.transfer move).nodes.entries)
include hperm

/-- No range is lost. -/
theorem ReshardMove.Sound.ranges_perm :
    (gt'.reachableMasters.flatMap (·.ranges)).Perm (gt.reachableMasters.flatMap (·.ranges)) := by
  obtain ⟨rest, hbefore, hafter⟩ := hmove.exists_masters h hperm
  have hdest : move.dest.ranges = [] := by
    rw [ClusterNodeState.ranges, isEmpty_iff.mp (mem_filter.mp hmove.dest).2, filterMap_nil]
  refine (hafter.flatMap_right _).trans (List.Perm.trans ?_ (hbefore.flatMap_right _).symm)
  rw [flatMap_cons, flatMap_cons, flatMap_cons, flatMap_cons, hdest]
  have hnew : ({ move.dest with slots := [formatSlotRange move.range] } : ClusterNodeState).ranges =
      [move.range] := by
    rw [ClusterNodeState.ranges, filterMap_cons_some hmove.parse_range.2, filterMap_nil]
  rw [hnew, ← append_assoc]
  refine List.Perm.append_right _ ((hmove.ranges_source h).trans ?_).symm
  exact perm_append_singleton _ _ |>.symm

/-- Ranges stay whole. -/
theorem ReshardMove.Sound.wholeRanges : gt'.WholeRanges shards := by
  obtain ⟨rest, hbefore, hafter⟩ := hmove.exists_masters h hperm
  refine ⟨fun node hnode => ?_, ?_, ?_⟩
  · rcases mem_cons.mp (hafter.mem_iff.mp hnode) with rfl | hnode
    · intro slotText htext
      rw [ClusterNodeState.transfer, if_pos rfl] at htext
      exact h.whole move.source hmove.source slotText (mem_of_mem_filter htext)
    rcases mem_cons.mp hnode with rfl | hnode
    · intro slotText htext
      obtain rfl := mem_singleton.mp htext
      exact ⟨move.range, hmove.parse_range⟩
    · exact h.whole node (hbefore.mem_iff.mpr (mem_cons_of_mem _ (mem_cons_of_mem _ hnode)))
  · exact (hmove.ranges_perm h hperm).nodup_iff.mpr h.apart
  · have hnames : gt'.nodes.values.map (·.podName) |>.Perm (gt.nodes.values.map (·.podName)) := by
      refine ((values_perm hperm).map _).trans (List.Perm.of_eq ?_)
      rw [ClusterGroundTruth.transfer, values_mapValues, map_map]
      exact map_congr_left fun node _ => (transfer_rest move node).1
    exact hnames.nodup_iff.mpr h.names

/-- One surplus range and one master without slots less. -/
theorem ReshardMove.Sound.measures :
    gt'.surplus + 1 = gt.surplus ∧ gt'.emptyMasters.length + 1 = gt.emptyMasters.length := by
  obtain ⟨rest, hbefore, hafter⟩ := hmove.exists_masters h hperm
  have hwhole := hmove.wholeRanges h hperm
  have hdest := (mem_filter.mp hmove.dest).2
  have hsource := h.length_ranges hmove.source
  have hsource' := hwhole.length_ranges (hafter.mem_iff.mpr mem_cons_self)
  have hlost := (hmove.ranges_source h).length_eq
  rw [length_cons] at hlost
  -- The source has another range, so it is not empty after the move either.
  have hkept : 2 ≤ (move.source.shardIndices shards).length := by
    obtain ⟨kept, hkept, moved, hmoved, hlt, -⟩ := hmove.kept
    have hother := length_pos_of_mem ((mem_erase_of_ne (Nat.ne_of_lt hlt)).mpr hkept)
    rw [length_erase_of_mem hmoved] at hother
    omega
  rw [length_shardIndices (h.aligned _ hmove.source)] at hkept
  constructor
  · rw [ClusterGroundTruth.surplus, ClusterGroundTruth.surplus, (hafter.map _).sum_nat,
      (hbefore.map _).sum_nat]
    simp only [map_cons, sum_cons, length_singleton, isEmpty_iff.mp hdest, length_nil]
    omega
  · have hnonempty : (move.source.transfer move).slots.isEmpty = false := by
      rw [isEmpty_eq_false_iff, ← length_pos_iff]
      omega
    have hnonempty' : move.source.slots.isEmpty = false := by
      rw [isEmpty_eq_false_iff, ← length_pos_iff]
      omega
    rw [ClusterGroundTruth.emptyMasters, ClusterGroundTruth.emptyMasters, (hafter.filter _).length_eq,
      (hbefore.filter _).length_eq]
    simp [hnonempty, hnonempty', hdest]

end Step

section Run

variable {shards : ℕ} {gt gt' : ClusterGroundTruth}

/-- What one pass does. -/
theorem reshardStep_measures (hshards : 0 < shards) (h : gt.WholeRanges shards)
    (hstep : ReshardStep shards gt gt') :
    gt'.WholeRanges shards ∧ gt'.surplus + 1 = gt.surplus ∧
      gt'.emptyMasters.length + 1 = gt.emptyMasters.length := by
  obtain ⟨order, move, rest, hmoves, hperm⟩ := hstep
  have hmove : move.Sound gt shards := by
    refine (reshardPlan_sound hshards h order).2 move ?_
    rw [hmoves]
    exact mem_cons_self
  exact ⟨hmove.wholeRanges h hperm, hmove.measures h hperm⟩

/-- There is a move while both are left. -/
theorem exists_reshardStep_iff (hshards : 0 < shards) (h : gt.WholeRanges shards) :
    (∃ gt', ReshardStep shards gt gt') ↔ 0 < min gt.surplus gt.emptyMasters.length := by
  rw [← length_surpluses h.aligned, ← length_reshardPlan_moves hshards h.aligned .asGiven]
  constructor
  · rintro ⟨gt', order, move, rest, hmoves, -⟩
    rw [reshardPlan_of_perm hshards h (.refl _) order .asGiven, hmoves]
    exact Nat.succ_pos _
  · intro hpos
    obtain ⟨move, rest, hmoves⟩ := exists_cons_of_length_pos hpos
    exact ⟨gt.transfer move, .asGiven, move, rest, hmoves, .refl _⟩

/-- What several passes do. -/
theorem reshardRun_measures (hshards : 0 < shards) (h : gt.WholeRanges shards) {count : ℕ}
    (hrun : ReshardRun shards gt count gt') :
    gt'.WholeRanges shards ∧ gt'.surplus + count = gt.surplus ∧
      gt'.emptyMasters.length + count = gt.emptyMasters.length := by
  induction hrun with
  | refl => exact ⟨h, rfl, rfl⟩
  | step _ hstep ih =>
    obtain ⟨hwhole, hsurplus, hempty⟩ := ih
    obtain ⟨hwhole', hsurplus', hempty'⟩ := reshardStep_measures hshards hwhole hstep
    exact ⟨hwhole', by omega, by omega⟩

/-- Without surplus each master has one range. -/
theorem single_of_surplus_eq_zero (h : gt.surplus = 0) :
    ∀ node ∈ gt.reachableMasters, node.slots ≠ [] → node.slots.length = 1 := by
  intro node hnode hslots
  have hnone : node.slots.length - 1 = 0 :=
    List.sum_eq_zero_iff_forall_eq_nat.mp h _ (List.mem_map_of_mem hnode)
  have hpos := List.length_pos_iff.mpr hslots
  omega

/-- The plan does not depend on the order, its moves are sound, and each takes one surplus range away
until surplus or masters without slots run out. -/
theorem reshard_converges (hshards : 0 < shards) (h : gt.WholeRanges shards) :
    (∀ gt' order order', gt'.nodes.entries.Perm gt.nodes.entries →
      reshardPlan order' gt' shards = reshardPlan order gt shards) ∧
    (∀ order, ((reshardPlan order gt shards).moves.map (·.dest)).Nodup ∧
      ∀ move ∈ (reshardPlan order gt shards).moves, move.Sound gt shards) ∧
    ∀ count gt', ReshardRun shards gt count gt' → gt'.WholeRanges shards ∧ gt'.surplus + count = gt.surplus ∧
        count ≤ min gt.surplus gt.emptyMasters.length ∧
        ((∃ gt'', ReshardStep shards gt' gt'') ↔ count < min gt.surplus gt.emptyMasters.length) ∧
        (count = min gt.surplus gt.emptyMasters.length → gt.surplus ≤ gt.emptyMasters.length →
          ∀ node ∈ gt'.reachableMasters, node.slots ≠ [] → node.slots.length = 1) := by
  refine ⟨fun gt' order order' hperm => reshardPlan_of_perm hshards h hperm order order',
    reshardPlan_sound hshards h, fun count gt' hrun => ?_⟩
  obtain ⟨hwhole, hsurplus, hempty⟩ := reshardRun_measures hshards h hrun
  refine ⟨hwhole, hsurplus, by omega, ?_, fun hlast hle => ?_⟩
  · rw [exists_reshardStep_iff hshards hwhole]
    omega
  · exact single_of_surplus_eq_zero (by omega)

/-- One master owns two ranges, another one none. -/
def consolidatedTrio : ClusterGroundTruth :=
  { newClusterGroundTruth with
    nodes := GoMap.ofPairs
      [("lr-shard-0-0", ⟨"lr-shard-0-0", "10.0.0.1", "a", ["0-5461", "10923-16383"], .master, "-",
        .unknown, true⟩),
        ("lr-shard-1-0", ⟨"lr-shard-1-0", "10.0.0.2", "b", ["5462-10922"], .master, "-", .unknown, true⟩),
        ("lr-shard-2-0", ⟨"lr-shard-2-0", "10.0.0.3", "c", [], .master, "-", .unknown, true⟩)] }

/-- One move untangles them. -/
theorem consolidatedTrio_converges :
    consolidatedTrio.WholeRanges 3 ∧ (∃ gt', ReshardStep 3 consolidatedTrio gt') ∧
      ∀ gt', ReshardStep 3 consolidatedTrio gt' →
        ∀ node ∈ gt'.reachableMasters, node.slots ≠ [] → node.slots.length = 1 := by
  have hwhole : consolidatedTrio.WholeRanges 3 := by
    refine ⟨?_, by decide, by decide⟩
    decide
  obtain ⟨-, -, hruns⟩ := reshard_converges (by decide) hwhole
  refine ⟨hwhole, (hruns 0 _ .refl).2.2.2.1.mpr (by decide), fun gt' hstep => ?_⟩
  exact (hruns 1 gt' (.step .refl hstep)).2.2.2.2 (by decide) (by decide)

/-- Whatever is carried out, the masters own the ranges that they owned. -/
theorem reshardRun_keeps_ranges (hshards : 0 < shards) (h : gt.WholeRanges shards) {count : ℕ}
    {gt' : ClusterGroundTruth} (hrun : ReshardRun shards gt count gt') :
    (gt'.reachableMasters.flatMap (·.ranges)).Perm (gt.reachableMasters.flatMap (·.ranges)) := by
  induction hrun with
  | refl => exact .refl _
  | step hbefore hstep ih =>
    have hwhole := (reshardRun_measures hshards h hbefore).1
    obtain ⟨order, move, rest, hmoves, hperm⟩ := hstep
    have hmove := (reshardPlan_sound hshards hwhole order).2 move (hmoves ▸ mem_cons_self)
    exact (hmove.ranges_perm hwhole hperm).trans ih

/-- A move of the three masters. -/
theorem consolidatedTrio_keeps_ranges :
    (∃ gt', ReshardStep 3 consolidatedTrio gt') ∧ ∀ gt', ReshardStep 3 consolidatedTrio gt' →
      (gt'.reachableMasters.flatMap (·.ranges)).Perm
        (consolidatedTrio.reachableMasters.flatMap (·.ranges)) := by
  have hwhole : consolidatedTrio.WholeRanges 3 := ⟨by decide, by decide, by decide⟩
  exact ⟨(exists_reshardStep_iff (by decide) hwhole).mpr (by decide),
    fun gt' hstep => reshardRun_keeps_ranges (by decide) hwhole (.step .refl hstep)⟩

end Run

end LittleRed.Cluster
