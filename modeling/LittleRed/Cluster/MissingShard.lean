import LittleRed.Cluster.SlotRepair
import LittleRed.Cluster.Takeover

/-!
# Missing shards and surviving replicas

Step 2 keeps the ghost that a replica still follows, but step 3 then assigns a range without an owner to the
first pod of its shard if that is an empty master, whether or not a replica of the lost master survives.
-/

namespace LittleRed.Cluster

open Lib List

/-- The shard whose range is reported. -/
def reportedShard (expectedRanges : List SlotRange) (slotText : String) : Option ℕ :=
  (parseSlotRange slotText).bind fun range => expectedRanges.findIdx? (· == range)

/-- A reported text stands for a range that is not a shard's own. -/
def misaligned (expectedRanges : List SlotRange) (slotText : String) : Bool :=
  (parseSlotRange slotText).isSome && (reportedShard expectedRanges slotText).isNone

/-- The node reports the shard. -/
def reportsShard (expectedRanges : List SlotRange) (shardIdx : ℕ) (node : ClusterNodeState) : Bool :=
  node.slots.any fun slotText => reportedShard expectedRanges slotText == some shardIdx

/-- The node ID that step 3 notes for a shard: that of the last node that reports its range. -/
def shardOwner (expectedRanges : List SlotRange) (nodes : List ClusterNodeState) (shardIdx : ℕ) :
    Option String :=
  (nodes.reverse.find? (reportsShard expectedRanges shardIdx)).map ClusterNodeState.nodeID

variable (expectedRanges : List SlotRange) (spec : ClusterSpec) (nodeID : String) (env : RepairEnv)

/-- What one reported range does. -/
theorem ownerTurn_eq (owners : List String) (slotText : String) :
    ownerTurn expectedRanges nodeID owners slotText =
      if misaligned expectedRanges slotText then none
      else some (match reportedShard expectedRanges slotText with
        | none => owners
        | some shardIdx => owners.set shardIdx nodeID) := by
  unfold ownerTurn misaligned reportedShard
  cases parseSlotRange slotText with
  | none => rfl
  | some range =>
    dsimp only [Option.bind_some]
    split
    · rename_i hnone
      simp [hnone]
    · rename_i shardIdx hsome
      simp [hsome]

/-- The ranges of one node. -/
theorem foldlM_ownerTurn (slots owners : List String) :
    (slots.any (misaligned expectedRanges) = true →
        slots.foldlM (ownerTurn expectedRanges nodeID) owners = none) ∧
      (slots.any (misaligned expectedRanges) = false →
        ∃ noted, slots.foldlM (ownerTurn expectedRanges nodeID) owners = some noted ∧
          noted.length = owners.length ∧ ∀ i < owners.length, noted[i]? =
            if slots.any fun slotText => reportedShard expectedRanges slotText == some i then some nodeID
            else owners[i]?) := by
  induction slots generalizing owners with
  | nil => simp
  | cons slotText rest ih =>
    rw [foldlM_cons, ownerTurn_eq, any_cons]
    cases hmisaligned : misaligned expectedRanges slotText with
    | true => simp
    | false =>
      rw [Bool.false_or, if_neg Bool.false_ne_true]
      cases hshard : reportedShard expectedRanges slotText with
      | none =>
        simpa [hshard] using ih owners
      | some shardIdx =>
        obtain ⟨hrefused, hnoted⟩ := ih (owners.set shardIdx nodeID)
        refine ⟨hrefused, fun haligned => ?_⟩
        obtain ⟨noted, hfold, hlength, hget⟩ := hnoted haligned
        rw [length_set] at hlength hget
        refine ⟨noted, hfold, hlength, fun i hi => ?_⟩
        rw [hget i hi, any_cons, hshard]
        by_cases hi' : shardIdx = i
        · subst hi'
          simp [hi]
        · simp [hi']

/-- The ranges of all nodes: refused if one is no shard's own, else the last reporter owns the shard. -/
theorem foldlM_owners (nodes : List ClusterNodeState) (owners : List String) :
    (nodes.any (·.slots.any (misaligned expectedRanges)) = true → nodes.foldlM (fun owners node =>
          node.slots.foldlM (ownerTurn expectedRanges node.nodeID) owners) owners = none) ∧
      (nodes.any (·.slots.any (misaligned expectedRanges)) = false → ∃ noted, nodes.foldlM (fun owners node =>
            node.slots.foldlM (ownerTurn expectedRanges node.nodeID) owners) owners = some noted ∧
          noted.length = owners.length ∧ ∀ i < owners.length, noted[i]? =
            (shardOwner expectedRanges nodes i).or owners[i]?) := by
  induction nodes generalizing owners with
  | nil => simp [shardOwner]
  | cons node rest ih =>
    obtain ⟨hrefused, hnoted⟩ := foldlM_ownerTurn expectedRanges node.nodeID node.slots owners
    rw [foldlM_cons, any_cons]
    cases hmisaligned : node.slots.any (misaligned expectedRanges) with
    | true => simp [hrefused hmisaligned]
    | false =>
      obtain ⟨first, hfirst, hlength, hget⟩ := hnoted hmisaligned
      rw [hfirst, Bool.false_or]
      obtain ⟨hrefusedRest, hnotedRest⟩ := ih first
      refine ⟨hrefusedRest, fun haligned => ?_⟩
      obtain ⟨noted, hfold, hlengthRest, hgetRest⟩ := hnotedRest haligned
      rw [hlength] at hlengthRest hgetRest
      refine ⟨noted, hfold, hlengthRest, fun i hi => ?_⟩
      rw [hgetRest i hi, hget i hi]
      unfold shardOwner
      rw [reverse_cons, List.find?_append, List.find?_singleton, reportsShard]
      cases List.find? (reportsShard expectedRanges i) rest.reverse with
      | some owner => rfl
      | none =>
        by_cases hreports :
            (node.slots.any fun slotText => reportedShard expectedRanges slotText == some i) = true
        · simp [hreports]
        · simp [hreports]

/-- Some gathered range is not a shard's own. -/
def hasMisaligned (shards : ℕ) (gt : ClusterGroundTruth) : Bool :=
  gt.nodes.values.any (·.slots.any (misaligned (generateSlotRanges shards)))

/-- Nobody with a node ID owns the range of the shard. -/
def shardMissing (shards : ℕ) (gt : ClusterGroundTruth) (shardIdx : ℕ) : Bool :=
  (shardOwner (generateSlotRanges shards) gt.nodes.values shardIdx).getD "" == ""

/-- The missing shards are those nobody reports. -/
theorem shardOwners_spec (shards : ℕ) (gt : ClusterGroundTruth) :
    (hasMisaligned shards gt = true → shardOwners shards gt = none) ∧
      (hasMisaligned shards gt = false → ∃ owners, shardOwners shards gt = some owners ∧
        ∀ i, i ∈ missingShardIndices owners ↔ i < shards ∧ shardMissing shards gt i = true) := by
  obtain ⟨hrefused, hnoted⟩ := foldlM_owners (generateSlotRanges shards) gt.nodes.values
    (List.replicate shards "")
  refine ⟨hrefused, fun haligned => ?_⟩
  obtain ⟨owners, hfold, hlength, hget⟩ := hnoted haligned
  rw [length_replicate] at hlength hget
  refine ⟨owners, hfold, fun i => ?_⟩
  rw [missingShardIndices, mem_filter, mem_range, hlength]
  refine and_congr_right fun hi => ?_
  rw [hget i hi, shardMissing]
  cases shardOwner (generateSlotRanges shards) gt.nodes.values i with
  | none => simp [hi]
  | some owner => simp

/-- Attaching assigns no range. -/
theorem addSlots_notMem_reattach (env : SlotEnv) (gt : ClusterGroundTruth) (expectedReplicas : ℕ)
    (emptyMasters : List ClusterNodeState) (podIP : String) (range : SlotRange) :
    .addSlots podIP range ∉ (reattach env gt expectedReplicas emptyMasters).1 := by
  induction emptyMasters with
  | nil => simp [reattach]
  | cons em rest ih =>
    unfold reattach
    split
    · exact ih
    split
    · split
      · simp
      · simpa using ih
    · exact ih

variable {gt : ClusterGroundTruth}

/-- Ranges are assigned in step 3. -/
theorem addSlots_mem_slotRepair {spec : SlotSpec} {env : SlotEnv} (hreplicas : gt.hasReplicas = true)
    {owners : List String} (howners : shardOwners spec.shards gt = some owners) (podIP : String)
    (range : SlotRange) :
    .addSlots podIP range ∈ slotRepair spec env gt ↔
      .addSlots podIP range ∈ assignMissing spec gt (missingShardIndices owners) := by
  have hreattach := addSlots_notMem_reattach env gt (spec.replicasPerShard.getD 1) gt.getEmptyMasters
    podIP range
  unfold slotRepair
  rw [howners]
  dsimp only
  split
  · rfl
  split
  · simp
  have hnone : .addSlots podIP range ∉
      (if spec.replicasPerShard = some 0 then ([], false)
        else reattach env gt (spec.replicasPerShard.getD 1) gt.getEmptyMasters).1 := by
    split
    · exact not_mem_nil
    · exact hreattach
  rw [if_neg (fun h : gt.totalSlots = 0 ∧ gt.hasReplicas = false => by simp [hreplicas] at h), ite_self,
    mem_append, or_iff_left hnone]

/-- A range goes to the first pod of its shard. -/
theorem assignShard_eq_some {spec : SlotSpec} {shardIdx : ℕ} {command : SlotCommand} :
    assignShard spec gt shardIdx = some command ↔
      ∃ target, intendedMaster spec.name gt shardIdx = some target ∧
        ∃ range, (generateSlotRanges spec.shards)[shardIdx]? = some range ∧
          command = .addSlots target.podIP range := by
  simp only [assignShard, Option.bind_eq_bind, Option.bind_eq_some_iff, Option.some.injEq]
  exact exists_congr fun target => and_congr_right fun _ => exists_congr fun range =>
    and_congr_right fun _ => eq_comm

/-- Healing does not reach the slots. -/
theorem healPartitions_outcome (gt : ClusterGroundTruth) (orphans : List OrphanedReplicaInfo) :
    (healPartitions spec env gt orphans).outcome ≠ .slotRepair := by
  unfold healPartitions
  dsimp only
  split
  · simp
  · simp
  · split
    · simp
    · simp

/-- A reachable replica follows a master that is not among the gathered pods. -/
def orphanSurvives (gt : ClusterGroundTruth) : Bool :=
  gt.nodes.values.any fun node => node.reachable && gt.isOrphan node

/-- No takeover restores the quorum, there are no partitions, and only followed ghosts and no older pods. -/
def ReachesSlots (spec : ClusterSpec) (env : RepairEnv) (gt : ClusterGroundTruth) : Prop :=
  (gt.quorumLost spec = true →
      ∀ node ∈ gt.nodes.values, gt.isOrphan node = true → env.quorumTakeover node = false) ∧
    gt.hasPartitions = false ∧
    (gt.hasGhostNodes = true →
      env.legacyExists = false ∧ ∀ ghostID ∈ gt.ghostNodes, protectedMaster gt ghostID = true)

/-- When the pass reaches the slots. -/
theorem repairCluster_outcome_slotRepair (gt : ClusterGroundTruth) (orphans : List OrphanedReplicaInfo) :
    (repairCluster spec env gt orphans).outcome = .slotRepair ↔ ReachesSlots spec env gt := by
  have hrestored := quorumRecovery_promoted spec env gt
  have hremoved : (ghostsToRemove gt).isEmpty = true ↔
      ∀ ghostID ∈ gt.ghostNodes, protectedMaster gt ghostID = true := by
    simp [ghostsToRemove]
  unfold repairCluster ReachesSlots
  dsimp only
  split
  · rename_i hpromoted
    obtain ⟨hlost, node, hnode, horphan, htakeover⟩ := hrestored.mp hpromoted
    refine iff_of_false (by simp) fun ⟨hquorum, _⟩ => ?_
    rw [hquorum hlost node hnode horphan] at htakeover
    cases htakeover
  · rename_i hpromoted
    have hquorum : gt.quorumLost spec = true →
        ∀ node ∈ gt.nodes.values, gt.isOrphan node = true → env.quorumTakeover node = false := by
      intro hlost node hnode horphan
      by_contra htakeover
      exact hpromoted (hrestored.mpr ⟨hlost, node, hnode, horphan, by simpa using htakeover⟩)
    rw [and_iff_right hquorum]
    split
    · rename_i hpartitions
      exact iff_of_false (healPartitions_outcome spec env gt orphans) (by simp [hpartitions])
    · rename_i hpartitions
      rw [and_iff_right (by simpa using hpartitions)]
      cases hghosts : gt.hasGhostNodes with
      | false => simp
      | true =>
        cases env.legacyExists with
        | true => simp
        | false =>
          rw [← hremoved]
          cases (ghostsToRemove gt).isEmpty with
          | true | false => simp

/-- A surviving orphan is a replica. -/
theorem hasReplicas_of_orphanSurvives (h : orphanSurvives gt = true) :
    gt.hasReplicas = true := by
  obtain ⟨node, hnode, horphan⟩ := any_eq_true.mp h
  refine any_eq_true.mpr ⟨node, hnode, ?_⟩
  simp only [ClusterGroundTruth.isOrphan, Bool.and_eq_true] at horphan
  exact horphan.2.1.1.1

/-- A missing range is assigned when its first pod may take it. -/
theorem exists_addSlots_mem_assignMissing (spec : SlotSpec) (gt : ClusterGroundTruth)
    {missing : List ℕ} (hmissing : ∀ i ∈ missing, i < spec.shards) :
    (∃ podIP range, .addSlots podIP range ∈ assignMissing spec gt missing) ↔
      ∃ i ∈ missing, intendedMaster spec.name gt i ≠ none := by
  constructor
  · rintro ⟨podIP, range, hmem⟩
    obtain ⟨i, hi, hassign⟩ := mem_filterMap.mp hmem
    obtain ⟨target, htarget, -⟩ := assignShard_eq_some.mp hassign
    exact ⟨i, hi, by simp [htarget]⟩
  · rintro ⟨i, hi, hintended⟩
    obtain ⟨target, htarget⟩ := Option.ne_none_iff_exists'.mp hintended
    have hrange : i < (generateSlotRanges spec.shards).length := by
      rw [generateSlotRanges_length]
      exact hmissing i hi
    exact ⟨target.podIP, (generateSlotRanges spec.shards)[i],
      mem_filterMap.mpr ⟨i, hi, assignShard_eq_some.mpr
        ⟨target, htarget, _, List.getElem?_eq_getElem hrange, rfl⟩⟩⟩

/-- While a replica of a lost master survives, no range is assigned exactly when the pass ends before the
slots, refuses them, or finds no empty master for a missing one. -/
theorem survivor_keeps_slots_iff (spec : SlotSpec) (env : RepairEnv) (slotEnv : SlotEnv)
    (gt : ClusterGroundTruth) (orphans : List OrphanedReplicaInfo) :
    (orphanSurvives gt = true →
        ∀ podIP range, .addSlots podIP range ∉ repairSlots spec env slotEnv gt orphans) ↔
      orphanSurvives gt = false ∨ ¬ ReachesSlots spec.toClusterSpec env gt ∨
        hasMisaligned spec.shards gt = true ∨
        ∀ i < spec.shards, shardMissing spec.shards gt i = true → intendedMaster spec.name gt i = none := by
  cases hsurvives : orphanSurvives gt with
  | false => simp
  | true =>
    have hreplicas := hasReplicas_of_orphanSurvives hsurvives
    obtain ⟨hrefused, hnoted⟩ := shardOwners_spec spec.shards gt
    have houtcome := repairCluster_outcome_slotRepair spec.toClusterSpec env gt orphans
    unfold repairSlots
    by_cases hreaches : ReachesSlots spec.toClusterSpec env gt
    · rw [if_pos (houtcome.mpr hreaches)]
      cases hmisaligned : hasMisaligned spec.shards gt with
      | true => simp [slotRepair, hrefused hmisaligned]
      | false =>
        obtain ⟨owners, howners, hmissing⟩ := hnoted hmisaligned
        have hassigns := exists_addSlots_mem_assignMissing spec gt
          fun i hi => ((hmissing i).mp hi).1
        simp only [hmissing, and_assoc] at hassigns
        simp only [addSlots_mem_slotRepair hreplicas howners, hreaches, forall_const, not_true,
          Bool.true_eq_false, Bool.false_eq_true, false_or]
        rw [← not_iff_not]
        push Not
        exact hassigns
    · rw [if_neg (mt houtcome.mp hreaches)]
      simp [hreaches]

def promptSlotEnv : SlotEnv :=
  ⟨fun _ => true, fun _ => true, true, false, id, id, fun _ => false, fun _ => false⟩

def trioSpec : SlotSpec := ⟨⟨3, 15, 15000⟩, "lr", some 1⟩

/-- The first pod of the third shard is empty, and its replica survives. -/
def survivingTrio : ClusterGroundTruth where
  nodes := GoMap.ofPairs [
    ("lr-shard-0-0", ⟨"lr-shard-0-0", "10.0.0.1", "a", ["0-5461"], .master, "-", .unknown, true⟩),
    ("lr-shard-1-0", ⟨"lr-shard-1-0", "10.0.0.2", "b", ["5462-10922"], .master, "-", .unknown, true⟩),
    ("lr-shard-2-0", ⟨"lr-shard-2-0", "10.0.0.3", "d", [], .master, "-", .unknown, true⟩),
    ("lr-shard-2-1", ⟨"lr-shard-2-1", "10.0.0.4", "e", [], .replica, "c", .down, true⟩)]
  partitions := [["a", "b", "d", "e"]]
  ghostNodes := ["c"]
  clusterState := "ok"
  totalSlots := 10923
  allNodeIDs := ["a", "b", "c", "d", "e"]
  knownNodes := GoMap.ofPairs []

/-- The pass gives the range to the pod that came back empty, although the replica survives. -/
theorem survivingTrio_assigned :
    orphanSurvives survivingTrio = true ∧
      (repairCluster trioSpec.toClusterSpec promptEnv survivingTrio []).outcome = .slotRepair ∧
      repairSlots trioSpec promptEnv promptSlotEnv survivingTrio [] =
        [.addSlots "10.0.0.3" ⟨10923, 16383⟩] := by
  decide

end LittleRed.Cluster
