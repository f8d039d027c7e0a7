import LittleRed.Cluster.SlotRepair
import LittleRed.Lib.ListLoops
import Mathlib.Data.String.Basic

/-!
# Plans against consolidated shards

A master that owns the ranges of several shards keeps the one with the lowest number, and the others go to
masters without slots. The two loops of the plan range over maps; a range that is no shard's own puts it off.
-/

namespace LittleRed.Cluster

open Lib List Option

/-- The moves of a plan, and why there are not more. -/
structure ReshardPlan where
  moves : List ReshardMove := []
  reason : String := ""
  deriving DecidableEq

/-- What the loop over the nodes collects. -/
structure CollectedMasters where
  ownedShards : List (ClusterNodeState × List ℕ) := []
  emptyMasters : List ClusterNodeState := []

/-- The shard whose range a reported text is, or why the plan is put off. -/
def alignedShard (expected : List SlotRange) (n : ClusterNodeState) (slotText : String) :
    Except String ℕ :=
  match parseSlotRange slotText with
  | none =>
    .error ("unparseable slot range " ++ quoteText slotText ++ " on " ++ n.podName ++ "; deferring")
  | some range =>
    match expected.findIdx? (· == range) with
    | none =>
      .error ("non-aligned slot range " ++ toString range.start ++ "-" ++ toString range.stop ++ " on " ++
        n.podName ++ "; deferring to avoid data loss")
    | some shardIdx => .ok shardIdx

/-- One turn of the loop over the nodes. -/
def collectMaster (expected : List SlotRange) (masters : CollectedMasters) (n : ClusterNodeState) :
    Except String CollectedMasters :=
  if n.role == .master && n.reachable then
    if n.slots.isEmpty then .ok { masters with emptyMasters := masters.emptyMasters ++ [n] }
    else do
      let shardIdxs ← n.slots.mapM (alignedShard expected n)
      .ok { masters with ownedShards := masters.ownedShards ++ [(n, shardIdxs)] }
  else .ok masters

/-- The ranges that a master has too many of: all but the one with the lowest number. -/
def surplusShards (node : ClusterNodeState) (shardIdxs : List ℕ) : List (ℕ × ClusterNodeState) :=
  ((shardIdxs.insertionSort (· ≤ ·)).drop 1).map fun shardIdx => (shardIdx, node)

/-- Pair the surplus ranges, by number, with the masters without slots, by pod name. -/
def pairMoves (expected : List SlotRange) (surpluses : List (ℕ × ClusterNodeState))
    (emptyMasters : List ClusterNodeState) : List ReshardMove :=
  ((surpluses.insertionSort (·.1 ≤ ·.1)).zip (emptyMasters.insertionSort fillsBefore)).filterMap
    fun ((shardIdx, source), dest) => expected[shardIdx]?.map fun range => ⟨range, source, dest⟩

/-- The plan for the surplus ranges and the masters without slots. -/
def planMoves (expected : List SlotRange) (surpluses : List (ℕ × ClusterNodeState))
    (emptyMasters : List ClusterNodeState) : ReshardPlan :=
  if surpluses.isEmpty then { reason := "one master per shard; no reshard needed" }
  else if emptyMasters.isEmpty then
    { reason := "over-consolidated master(s) present but no reachable empty master to receive " ++
        "surplus; deferring" }
  else
    { moves := pairMoves expected surpluses emptyMasters
      reason :=
        if emptyMasters.length < surpluses.length then
          toString surpluses.length ++ " surplus range(s) but " ++ toString emptyMasters.length ++
            " empty master(s); moving " ++ toString (min emptyMasters.length surpluses.length) ++
            " this pass"
        else "" }

/-- The whole plan. The second loop visits the masters found in an order of its own. -/
def reshardPlan (order : RangeOrder (ClusterNodeState × List ℕ)) (gt : ClusterGroundTruth)
    (shards : ℕ) : ReshardPlan :=
  if shards = 0 then { reason := "invalid shard count" }
  else
    let expected := generateSlotRanges shards
    match gt.nodes.values.foldlM (collectMaster expected) {} with
    | .error reason => { reason := reason }
    | .ok masters =>
      planMoves expected
        ((order.reorder masters.ownedShards).flatMap fun owned => surplusShards owned.1 owned.2)
        masters.emptyMasters

/-- The masters that answered. -/
def ClusterGroundTruth.reachableMasters (gt : ClusterGroundTruth) : List ClusterNodeState :=
  gt.nodes.values.filter fun node => node.role == .master && node.reachable

/-- Those of them that have no slots. -/
def ClusterGroundTruth.emptyMasters (gt : ClusterGroundTruth) : List ClusterNodeState :=
  gt.reachableMasters.filter fun node => node.slots.isEmpty

/-- The shard whose range the text is. -/
def shardOfText (shards : ℕ) (slotText : String) : Option ℕ :=
  (parseSlotRange slotText).bind fun range => (generateSlotRanges shards).findIdx? (· == range)

/-- The shards whose ranges the node has. -/
def ClusterNodeState.shardIndices (shards : ℕ) (node : ClusterNodeState) : List ℕ :=
  node.slots.filterMap (shardOfText shards)

/-- Every range of the node is a shard's own. -/
def ClusterNodeState.Aligned (shards : ℕ) (node : ClusterNodeState) : Prop :=
  ∀ slotText ∈ node.slots, (shardOfText shards slotText).isSome = true

/-- The masters with slots, and the shards whose ranges they report. -/
def ClusterGroundTruth.owningMasters (gt : ClusterGroundTruth) (shards : ℕ) :
    List (ClusterNodeState × List ℕ) :=
  (gt.reachableMasters.filter fun node => !node.slots.isEmpty).map fun node =>
    (node, node.shardIndices shards)

/-- The ranges that masters have too many of, in the order of the nodes. -/
def ClusterGroundTruth.surpluses (gt : ClusterGroundTruth) (shards : ℕ) : List (ℕ × ClusterNodeState) :=
  gt.reachableMasters.flatMap fun node => surplusShards node (node.shardIndices shards)

section Collect

variable {shards : ℕ} {node : ClusterNodeState}

variable {slotText : String} {nodes : List ClusterNodeState}

/-- A range that is a shard's own is recognized. -/
theorem alignedShard_eq_ok_iff {shardIdx : ℕ} :
    alignedShard (generateSlotRanges shards) node slotText = .ok shardIdx ↔
      shardOfText shards slotText = some shardIdx := by
  unfold alignedShard shardOfText
  cases parseSlotRange slotText with
  | none => simp
  | some range =>
    cases hfound : (generateSlotRanges shards).findIdx? (· == range) with
    | none | some => simp [hfound]

/-- An aligned node has its shards. -/
theorem mapM_alignedShard (h : node.Aligned shards) :
    node.slots.mapM (alignedShard (generateSlotRanges shards) node) = .ok (node.shardIndices shards) := by
  refine mapM_eq_pure fun slotText htext => ?_
  obtain ⟨shardIdx, hshard⟩ := isSome_iff_exists.mp (h slotText htext)
  exact ⟨shardIdx, hshard, alignedShard_eq_ok_iff.mpr hshard⟩

/-- Another range is an error. -/
theorem mapM_alignedShard_error (node : ClusterNodeState) {texts : List String} (hmem : slotText ∈ texts)
    (hnone : shardOfText shards slotText = none) :
    ∃ reason, texts.mapM (alignedShard (generateSlotRanges shards) node) = .error reason := by
  induction texts with
  | nil => cases hmem
  | cons first rest ih =>
    rw [mapM_cons]
    cases hfirst : alignedShard (generateSlotRanges shards) node first with
    | error reason => exact ⟨reason, rfl⟩
    | ok shardIdx =>
      have hrest : slotText ∈ rest := by
        refine (mem_cons.mp hmem).resolve_left ?_
        rintro rfl
        rw [alignedShard_eq_ok_iff, hnone] at hfirst
        cases hfirst
      obtain ⟨reason, hreason⟩ := ih hrest
      exact ⟨reason, by rw [hreason]; rfl⟩

/-- The loop collects the masters. -/
theorem foldlM_collectMaster (masters : CollectedMasters)
    (h : ∀ node ∈ nodes.filter fun node => node.role == .master && node.reachable, node.Aligned shards) :
    nodes.foldlM (collectMaster (generateSlotRanges shards)) masters = .ok
        { ownedShards := masters.ownedShards ++
            ((nodes.filter fun node => node.role == .master && node.reachable).filter
              fun node => !node.slots.isEmpty).map fun node => (node, node.shardIndices shards)
          emptyMasters := masters.emptyMasters ++
            (nodes.filter fun node => node.role == .master && node.reachable).filter
              fun node => node.slots.isEmpty } := by
  induction nodes generalizing masters with
  | nil => simp [pure, Except.pure]
  | cons node rest ih =>
    rw [foldlM_cons, collectMaster]
    cases hmaster : node.role == .master && node.reachable with
    | false =>
      rw [filter_cons_of_neg (by simp [hmaster])] at h ⊢
      exact ih masters h
    | true =>
      rw [filter_cons_of_pos (by simp [hmaster]), forall_mem_cons] at h
      rw [if_pos rfl, filter_cons_of_pos (by simp [hmaster])]
      cases hempty : node.slots.isEmpty with
      | true =>
        refine (ih { masters with emptyMasters := masters.emptyMasters ++ [node] } h.2).trans ?_
        simp [hempty]
      | false =>
        rw [mapM_alignedShard h.1]
        refine (ih { masters with
          ownedShards := masters.ownedShards ++ [(node, node.shardIndices shards)] } h.2).trans ?_
        simp [hempty]

/-- A node that is not aligned puts the plan off. -/
theorem foldlM_collectMaster_error (masters : CollectedMasters)
    (hmem : node ∈ nodes.filter fun node => node.role == .master && node.reachable)
    (hnot : ¬ node.Aligned shards) :
    ∃ reason, nodes.foldlM (collectMaster (generateSlotRanges shards)) masters = .error reason := by
  induction nodes generalizing masters with
  | nil => cases hmem
  | cons first rest ih =>
    rw [foldlM_cons]
    cases hfirst : collectMaster (generateSlotRanges shards) masters first with
    | error reason => exact ⟨reason, rfl⟩
    | ok next =>
      refine ih next ?_
      obtain ⟨hmem, hmaster⟩ := mem_filter.mp hmem
      refine mem_filter.mpr ⟨(mem_cons.mp hmem).resolve_left ?_, hmaster⟩
      rintro rfl
      simp only [ClusterNodeState.Aligned, not_forall, Bool.not_eq_true, isSome_eq_false_iff,
        isNone_iff_eq_none] at hnot
      obtain ⟨slotText, htext, hnone⟩ := hnot
      obtain ⟨reason, hreason⟩ := mapM_alignedShard_error node htext hnone
      have hslots : ¬ node.slots.isEmpty = true := by
        rw [List.isEmpty_iff]
        exact List.ne_nil_of_mem htext
      rw [collectMaster, if_pos hmaster, if_neg hslots, hreason] at hfirst
      cases hfirst

end Collect

section Plan

variable {shards : ℕ} {gt : ClusterGroundTruth}

/-- The plan for aligned masters. -/
theorem reshardPlan_eq (hshards : 0 < shards) (haligned : ∀ node ∈ gt.reachableMasters, node.Aligned shards)
    (order : RangeOrder (ClusterNodeState × List ℕ)) :
    reshardPlan order gt shards = planMoves (generateSlotRanges shards)
      ((order.reorder (gt.owningMasters shards)).flatMap fun owned => surplusShards owned.1 owned.2)
      gt.emptyMasters := by
  rw [reshardPlan, if_neg (Nat.pos_iff_ne_zero.mp hshards)]
  simp only [foldlM_collectMaster {} haligned, nil_append]
  rfl

variable {node : ClusterNodeState} {shardIdx : ℕ}

/-- No moves otherwise. -/
theorem reshardPlan_moves_of_not_aligned (hnode : node ∈ gt.reachableMasters) (hnot : ¬ node.Aligned shards)
    (order : RangeOrder (ClusterNodeState × List ℕ)) :
    (reshardPlan order gt shards).moves = [] := by
  rw [reshardPlan]
  split
  · rfl
  · obtain ⟨reason, hreason⟩ := foldlM_collectMaster_error {} hnode hnot
    simp only [hreason]

/-- The surplus of all masters. -/
theorem flatMap_owningMasters (gt : ClusterGroundTruth) (shards : ℕ) :
    ((gt.owningMasters shards).flatMap fun owned => surplusShards owned.1 owned.2) = gt.surpluses shards := by
  rw [ClusterGroundTruth.owningMasters, flatMap_map, ClusterGroundTruth.surpluses]
  induction gt.reachableMasters with
  | nil => rfl
  | cons node rest ih =>
    rw [flatMap_cons, ← ih]
    cases hempty : node.slots.isEmpty with
    | true =>
      have hnone : surplusShards node (node.shardIndices shards) = [] := by
        rw [ClusterNodeState.shardIndices, isEmpty_iff.mp hempty]
        rfl
      rw [filter_cons_of_neg (by simp [hempty]), hnone, nil_append]
    | false => rw [filter_cons_of_pos (by simp [hempty]), flatMap_cons]

/-- The order changes only its order. -/
theorem reorder_owningMasters_perm (order : RangeOrder (ClusterNodeState × List ℕ))
    (gt : ClusterGroundTruth) (shards : ℕ) :
    ((order.reorder (gt.owningMasters shards)).flatMap fun owned =>
      surplusShards owned.1 owned.2).Perm (gt.surpluses shards) := by
  rw [← flatMap_owningMasters]
  exact (order.perm _).flatMap_right _

/-- The moves are pairs. -/
theorem planMoves_moves (expected : List SlotRange) (surpluses : List (ℕ × ClusterNodeState))
    (emptyMasters : List ClusterNodeState) :
    (planMoves expected surpluses emptyMasters).moves = pairMoves expected surpluses emptyMasters := by
  unfold planMoves
  split
  · rename_i hempty
    rw [isEmpty_iff.mp hempty]
    rfl
  split
  · rename_i hempty
    rw [isEmpty_iff.mp hempty, pairMoves, insertionSort_nil, zip_nil_right]
    rfl
  · rfl

/-- The shards of an aligned node. -/
theorem ownedShards_of_aligned (h : node.Aligned shards) :
    ownedShards (generateSlotRanges shards) node = some (node.shardIndices shards) := by
  refine mapM_eq_pure fun slotText htext => ?_
  obtain ⟨shardIdx, hshard⟩ := isSome_iff_exists.mp (h slotText htext)
  exact ⟨shardIdx, hshard, hshard⟩

/-- In the given order it is the plan of the repair pass. -/
theorem reshardPlan_asGiven (gt : ClusterGroundTruth) (hshards : 0 < shards) :
    (reshardPlan .asGiven gt shards).moves = planReshard gt shards := by
  by_cases haligned : ∀ node ∈ gt.reachableMasters, node.Aligned shards
  · have howning : ((gt.reachableMasters.filter fun node => !node.slots.isEmpty).mapM fun node =>
        (ownedShards (generateSlotRanges shards) node).map fun shardIdxs => (node, shardIdxs)) =
          some (gt.owningMasters shards) := by
      rw [ClusterGroundTruth.owningMasters, ← filterMap_eq_map]
      refine mapM_eq_pure fun node hnode => ⟨_, rfl, ?_⟩
      rw [ownedShards_of_aligned (haligned node (mem_filter.mp hnode).1)]
      rfl
    rw [reshardPlan_eq hshards haligned, planMoves_moves]
    unfold planReshard
    dsimp only
    split
    · rename_i hnone
      cases howning.symm.trans hnone
    · rename_i owning hsome
      cases howning.symm.trans hsome
      rfl
  · push Not at haligned
    obtain ⟨node, hnode, hnot⟩ := haligned
    rw [reshardPlan_moves_of_not_aligned hnode hnot]
    simp only [ClusterNodeState.Aligned, not_forall, Bool.not_eq_true, isSome_eq_false_iff,
      isNone_iff_eq_none] at hnot
    obtain ⟨slotText, htext, hnone⟩ := hnot
    have hunread : ownedShards (generateSlotRanges shards) node = none := mapM_eq_none htext hnone
    have howns : (!node.slots.isEmpty) = true := by
      rw [Bool.not_eq_true', isEmpty_eq_false_iff]
      exact ne_nil_of_mem htext
    have howning : ((gt.reachableMasters.filter fun node => !node.slots.isEmpty).mapM fun node =>
        (ownedShards (generateSlotRanges shards) node).map fun shardIdxs => (node, shardIdxs)) = none :=
      mapM_eq_none (mem_filter.mpr ⟨hnode, howns⟩) (by rw [hunread]; rfl)
    unfold planReshard
    dsimp only
    split
    · rfl
    · rename_i owning hsome
      cases howning.symm.trans hsome

/-- The order in which masters are filled is total. -/
instance : Std.Total fillsBefore where
  total a b := by
    unfold fillsBefore
    by_cases heq : a.podName = b.podName
    · rw [if_neg (not_not.mpr heq), if_neg (not_not.mpr heq.symm)]
      exact le_total _ _
    · rw [if_pos heq, if_pos (Ne.symm heq)]
      exact lt_or_gt_of_ne heq

/-- The order in which masters are filled is transitive. -/
instance : IsTrans ClusterNodeState fillsBefore where
  trans a b c := by
    unfold fillsBefore
    intro hab hbc
    by_cases hab' : a.podName = b.podName
    · rw [if_neg (not_not.mpr hab')] at hab
      rw [hab']
      split at hbc
      · rename_i hne
        rwa [if_pos hne]
      · rename_i heq
        rw [if_neg heq]
        exact le_trans hab hbc
    · rw [if_pos hab'] at hab
      have hac : a.podName < c.podName := by
        split at hbc
        · exact lt_trans hab hbc
        · rename_i heq
          rwa [← not_not.mp heq]
      rwa [if_pos (ne_of_lt hac)]

/-- A surplus range is beside one with a lower number. -/
theorem mem_surpluses (h : (shardIdx, node) ∈ gt.surpluses shards) :
    node ∈ gt.reachableMasters ∧ ∃ kept rest, (node.shardIndices shards).Perm (kept :: rest) ∧
      shardIdx ∈ rest ∧ kept ≤ shardIdx := by
  obtain ⟨owner, howner, hmem⟩ := mem_flatMap.mp h
  obtain ⟨i, hi, heq⟩ := mem_map.mp hmem
  obtain ⟨rfl, rfl⟩ := Prod.mk.inj heq
  exact ⟨howner, exists_rel_of_mem_drop_insertionSort (· ≤ ·) hi⟩

/-- A recognized range is that of the shard. -/
theorem shardOfText_eq_some {slotText : String} (h : shardOfText shards slotText = some shardIdx) :
    shardIdx < shards ∧ parseSlotRange slotText = some (shardRange shards shardIdx) := by
  obtain ⟨range, hparsed, hfound⟩ := bind_eq_some_iff.mp h
  obtain ⟨hlt, rfl⟩ := shardRange_of_findIdx? hfound
  exact ⟨hlt, hparsed⟩

/-- Nodes own ranges of shards only. -/
theorem lt_of_mem_shardIndices (h : shardIdx ∈ node.shardIndices shards) : shardIdx < shards := by
  obtain ⟨slotText, -, hshard⟩ := mem_filterMap.mp h
  exact (shardOfText_eq_some hshard).1

/-- The moves by number of the shard. -/
theorem pairMoves_eq {surpluses : List (ℕ × ClusterNodeState)}
    (hlt : ∀ surplus ∈ surpluses, surplus.1 < shards) (emptyMasters : List ClusterNodeState) :
    pairMoves (generateSlotRanges shards) surpluses emptyMasters =
      ((surpluses.insertionSort (·.1 ≤ ·.1)).zip (emptyMasters.insertionSort fillsBefore)).map
        fun pair => ⟨shardRange shards pair.1.1, pair.1.2, pair.2⟩ := by
  rw [← filterMap_eq_map]
  refine filterMap_congr fun pair hpair => ?_
  have hmem := (mem_insertionSort _).mp (of_mem_zip hpair).1
  exact congrArg (Option.map fun range => (⟨range, pair.1.2, pair.2⟩ : ReshardMove))
    (getElem?_generateSlotRanges (hlt pair.1 hmem))

/-- A surplus is of a shard. -/
theorem lt_of_mem_surpluses {surplus : ℕ × ClusterNodeState} (h : surplus ∈ gt.surpluses shards) :
    surplus.1 < shards := by
  obtain ⟨-, kept, rest, hperm, hrest, -⟩ := mem_surpluses h
  exact lt_of_mem_shardIndices (hperm.mem_iff.mpr (mem_cons_of_mem _ hrest))

/-- An aligned node has one shard for each range. -/
theorem length_shardIndices (h : node.Aligned shards) :
    (node.shardIndices shards).length = node.slots.length := by
  rwa [ClusterNodeState.shardIndices, filterMap_length_eq_length]

/-- All of them but one are surplus. -/
theorem length_surplusShards (h : node.Aligned shards) :
    (surplusShards node (node.shardIndices shards)).length = node.slots.length - 1 := by
  rw [surplusShards, length_map, length_drop, length_insertionSort, length_shardIndices h]

/-- There are as many moves as pairs. -/
theorem length_reshardPlan_moves (hshards : 0 < shards)
    (haligned : ∀ node ∈ gt.reachableMasters, node.Aligned shards)
    (order : RangeOrder (ClusterNodeState × List ℕ)) :
    (reshardPlan order gt shards).moves.length = min (gt.surpluses shards).length gt.emptyMasters.length := by
  have hperm := reorder_owningMasters_perm order gt shards
  rw [reshardPlan_eq hshards haligned, planMoves_moves,
    pairMoves_eq fun surplus hsurplus => lt_of_mem_surpluses (hperm.mem_iff.mp hsurplus)]
  rw [length_map, length_zip, length_insertionSort, length_insertionSort, hperm.length_eq]

/-- There is a surplus when a master has two ranges. -/
theorem surpluses_ne_nil_iff (haligned : ∀ node ∈ gt.reachableMasters, node.Aligned shards) :
    gt.surpluses shards ≠ [] ↔ ∃ node ∈ gt.reachableMasters, 2 ≤ node.slots.length := by
  rw [ClusterGroundTruth.surpluses, ne_eq, flatMap_eq_nil_iff]
  push Not
  refine exists_congr fun node => and_congr_right fun hnode => ?_
  have hlength := length_surplusShards (haligned node hnode)
  rw [← length_pos_iff]
  omega

end Plan

end LittleRed.Cluster
