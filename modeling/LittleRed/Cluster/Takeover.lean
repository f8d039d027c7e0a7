import LittleRed.Cluster.Repair

/-!
# Forced takeovers

Both loops that force a takeover visit every gathered replica on its own and never ask
whether another replica of the same master was promoted already. So a pass promotes all
the candidates, and it promotes one replica per master exactly when no two candidates
share one.
-/

namespace LittleRed.Cluster

open Lib List

/-- An orphan of a ghost that has waited long enough for its natural failover. -/
def stuckOrphan (spec : ClusterSpec) (env : RepairEnv) (gt : ClusterGroundTruth)
    (orphans : List OrphanedReplicaInfo) (node : ClusterNodeState) : Bool :=
  gt.isOrphan node && gt.ghostNodes.contains node.masterNodeID &&
    decide (orphanTimeout spec ≤ env.now - (orphanInfo orphans env.now node).detectedAt)

variable (spec : ClusterSpec) (env : RepairEnv) (gt : ClusterGroundTruth)
  (orphans : List OrphanedReplicaInfo) (node : ClusterNodeState)

/-- The loop promotes all orphans. -/
theorem foldl_quorumTurn (env : RepairEnv) (nodes : List ClusterNodeState) (acc : List ClusterCommand × ℕ) :
    nodes.foldl (quorumTurn gt env) acc = (acc.1 ++ (nodes.filter gt.isOrphan).map .failoverTakeover,
        acc.2 + nodes.countP fun node => gt.isOrphan node && env.quorumTakeover node) := by
  induction nodes generalizing acc with
  | nil => simp
  | cons node rest ih =>
    rw [foldl_cons, ih]
    by_cases horphan : gt.isOrphan node
    · by_cases hsucceeds : env.quorumTakeover node
      · simp [quorumTurn, horphan, hsucceeds, Nat.add_assoc, Nat.add_comm 1]
      · simp [quorumTurn, horphan, hsucceeds]
    · simp [quorumTurn, horphan]

/-- An orphan that is not stuck. -/
def waitingOrphan (node : ClusterNodeState) : Bool :=
  (gt.isOrphan node && gt.ghostNodes.contains node.masterNodeID) && !stuckOrphan spec env gt orphans node

/-- What one node does. -/
theorem orphanTurn_eq (scan : OrphanScan) (node : ClusterNodeState) :
    orphanTurn spec env gt orphans scan node = if stuckOrphan spec env gt orphans node then { scan with
          commands := scan.commands ++ [.failoverTakeover node]
          promotedCount :=
            if env.orphanTakeover node then scan.promotedCount + 1 else scan.promotedCount }
      else if waitingOrphan spec env gt orphans node then
        { scan with
          currentOrphans := scan.currentOrphans ++ [orphanInfo orphans env.now node]
          hasBlockingOrphans := true }
      else scan := by
  unfold orphanTurn waitingOrphan stuckOrphan
  cases gt.isOrphan node && gt.ghostNodes.contains node.masterNodeID with
  | false => simp
  | true =>
    by_cases hexpired : orphanTimeout spec ≤ env.now - (orphanInfo orphans env.now node).detectedAt
    · simp [hexpired]
    · simp [hexpired]

/-- What the nodes do. -/
theorem foldl_orphanTurn (nodes : List ClusterNodeState) (scan : OrphanScan) :
    nodes.foldl (orphanTurn spec env gt orphans) scan =
      { commands := scan.commands ++ (nodes.filter (stuckOrphan spec env gt orphans)).map .failoverTakeover
        currentOrphans := scan.currentOrphans ++
          (nodes.filter (waitingOrphan spec env gt orphans)).map (orphanInfo orphans env.now)
        hasBlockingOrphans := scan.hasBlockingOrphans || nodes.any (waitingOrphan spec env gt orphans)
        promotedCount := scan.promotedCount +
          nodes.countP fun node => stuckOrphan spec env gt orphans node && env.orphanTakeover node } := by
  induction nodes generalizing scan with
  | nil => simp
  | cons node rest ih =>
    rw [foldl_cons, ih, orphanTurn_eq]
    cases hstuck : stuckOrphan spec env gt orphans node with
    | true =>
      have hwaiting : waitingOrphan spec env gt orphans node = false := by simp [waitingOrphan, hstuck]
      by_cases hsucceeds : env.orphanTakeover node
      · simp [hstuck, hwaiting, hsucceeds, Nat.add_assoc, Nat.add_comm 1]
      · simp [hstuck, hwaiting, hsucceeds]
    | false =>
      cases hwaiting : waitingOrphan spec env gt orphans node with
      | true | false => simp [hstuck, hwaiting]

/-- The scan divides the orphans into stuck and waiting ones. -/
theorem scanOrphans_eq :
    scanOrphans spec env gt orphans =
      { commands := (gt.nodes.values.filter (stuckOrphan spec env gt orphans)).map .failoverTakeover
        currentOrphans :=
          (gt.nodes.values.filter (waitingOrphan spec env gt orphans)).map (orphanInfo orphans env.now)
        hasBlockingOrphans := gt.nodes.values.any (waitingOrphan spec env gt orphans)
        promotedCount := gt.nodes.values.countP fun node =>
          stuckOrphan spec env gt orphans node && env.orphanTakeover node } := by
  rw [scanOrphans, foldl_orphanTurn]
  simp only [nil_append, Bool.false_or, Nat.zero_add]

/-- With the quorum lost all orphans are promoted. -/
theorem takeover_mem_quorumRecovery (command : ClusterCommand) :
    command ∈ (quorumRecovery spec env gt).1 ↔
      gt.quorumLost spec = true ∧ ∃ node ∈ gt.nodes.values, gt.isOrphan node = true ∧
        command = .failoverTakeover node := by
  unfold quorumRecovery
  split
  · rename_i hlost
    rw [foldl_quorumTurn, nil_append, mem_map]
    refine ⟨fun ⟨node, hmem, hcommand⟩ => ?_, fun ⟨_, node, hnode, horphan, hcommand⟩ => ?_⟩
    · obtain ⟨hnode, horphan⟩ := mem_filter.mp hmem
      exact ⟨hlost, node, hnode, horphan, hcommand.symm⟩
    · exact ⟨node, mem_filter.mpr ⟨hnode, horphan⟩, hcommand.symm⟩
  · rename_i hkept
    simp [hkept]

/-- When some takeover succeeds. -/
theorem quorumRecovery_promoted :
    0 < (quorumRecovery spec env gt).2 ↔ gt.quorumLost spec = true ∧
      ∃ node ∈ gt.nodes.values, gt.isOrphan node = true ∧ env.quorumTakeover node = true := by
  unfold quorumRecovery
  split
  · rename_i hlost
    rw [foldl_quorumTurn, Nat.zero_add, countP_pos_iff]
    simp [hlost]
  · rename_i hkept
    simp [hkept]

/-- Introductions only introduce. -/
theorem meetCommands_meet {env : RepairEnv} {gt : ClusterGroundTruth} {command : ClusterCommand}
    (h : command ∈ meetCommands env gt) : ∃ seed node, command = .meet seed node := by
  unfold meetCommands at h
  dsimp only at h
  split at h
  · cases h
  split at h
  · obtain ⟨node, -, rfl⟩ := mem_map.mp h
    exact ⟨_, node, rfl⟩
  · cases h

/-- Healing promotes, then introduces. -/
theorem healPartitions_commands :
    (healPartitions spec env gt orphans).commands = (scanOrphans spec env gt orphans).commands ∨
      (healPartitions spec env gt orphans).commands =
        (scanOrphans spec env gt orphans).commands ++ meetCommands env gt := by
  unfold healPartitions
  dsimp only
  split
  · exact .inl rfl
  · exact .inl rfl
  · split
    · exact .inl rfl
    · exact .inr rfl

theorem takeover_mem_healPartitions :
    .failoverTakeover node ∈ (healPartitions spec env gt orphans).commands ↔
      node ∈ gt.nodes.values ∧ stuckOrphan spec env gt orphans node = true := by
  have hscan : .failoverTakeover node ∈ (scanOrphans spec env gt orphans).commands ↔
      node ∈ gt.nodes.values ∧ stuckOrphan spec env gt orphans node = true := by
    rw [scanOrphans_eq]
    simp
  have hmeet : .failoverTakeover node ∉ meetCommands env gt := by
    intro hmem
    obtain ⟨_, _, hmeet⟩ := meetCommands_meet hmem
    cases hmeet
  rcases healPartitions_commands spec env gt orphans with hcommands | hcommands
  · rw [hcommands, hscan]
  · rw [hcommands, mem_append, hscan]
    exact or_iff_left hmeet

/-- All orphans with the quorum lost, else the stuck ones with partitions. -/
def takeoverCandidates (spec : ClusterSpec) (env : RepairEnv) (gt : ClusterGroundTruth)
    (orphans : List OrphanedReplicaInfo) : List ClusterNodeState :=
  if gt.quorumLost spec then gt.nodes.values.filter gt.isOrphan
  else if gt.hasPartitions then gt.nodes.values.filter (stuckOrphan spec env gt orphans)
  else []

/-- Who is a candidate. -/
theorem mem_takeoverCandidates_iff :
    node ∈ takeoverCandidates spec env gt orphans ↔ (node ∈ gt.nodes.values ∧ gt.isOrphan node = true) ∧
        (gt.quorumLost spec = true ∨ gt.hasPartitions = true ∧ node.masterNodeID ∈ gt.ghostNodes ∧
          orphanTimeout spec ≤ env.now - (orphanInfo orphans env.now node).detectedAt) := by
  rw [takeoverCandidates]
  cases hlost : gt.quorumLost spec with
  | true =>
    rw [if_pos rfl, mem_filter]
    exact (and_iff_left (.inl rfl)).symm
  | false =>
    rw [if_neg Bool.false_ne_true, or_iff_right Bool.false_ne_true]
    cases hparts : gt.hasPartitions with
    | true =>
      rw [if_pos rfl, mem_filter, stuckOrphan]
      simp only [Bool.and_eq_true, decide_eq_true_eq, contains_eq_mem, true_and, and_assoc]
    | false => simp

/-- The recovery promotes candidates. -/
theorem takeover_mem_recovery :
    .failoverTakeover node ∈ (quorumRecovery spec env gt).1 ↔
      gt.quorumLost spec = true ∧ node ∈ takeoverCandidates spec env gt orphans := by
  rw [takeover_mem_quorumRecovery]
  refine and_congr_right fun hlost => ?_
  rw [takeoverCandidates, if_pos hlost, mem_filter]
  refine ⟨fun ⟨node', hnode, horphan, hcommand⟩ => ?_, fun ⟨hnode, horphan⟩ => ?_⟩
  · obtain rfl := ClusterCommand.failoverTakeover.inj hcommand
    exact ⟨hnode, horphan⟩
  · exact ⟨node, hnode, horphan, rfl⟩

theorem takeover_mem_healed {gt : ClusterGroundTruth} (orphans : List OrphanedReplicaInfo)
    (node : ClusterNodeState) (hparts : gt.hasPartitions = true) :
    (.failoverTakeover node ∈ (healPartitions spec env gt orphans).commands →
        node ∈ takeoverCandidates spec env gt orphans) ∧
      (gt.quorumLost spec = false → node ∈ takeoverCandidates spec env gt orphans →
        .failoverTakeover node ∈ (healPartitions spec env gt orphans).commands) := by
  rw [takeover_mem_healPartitions]
  cases hlost : gt.quorumLost spec with
  | true =>
    refine ⟨fun ⟨hnode, hstuck⟩ => ?_, fun h => by cases h⟩
    rw [takeoverCandidates, if_pos hlost]
    simp only [stuckOrphan, Bool.and_eq_true] at hstuck
    exact mem_filter.mpr ⟨hnode, hstuck.1.1⟩
  | false =>
    rw [takeoverCandidates, hlost, if_neg Bool.false_ne_true, if_pos hparts, mem_filter]
    exact ⟨id, fun _ => id⟩

/-- A pass promotes exactly the candidates. -/
theorem takeover_mem_repairCluster :
    .failoverTakeover node ∈ (repairCluster spec env gt orphans).commands ↔
      node ∈ takeoverCandidates spec env gt orphans := by
  have hrecovery := takeover_mem_recovery spec env gt orphans node
  have hforget : .failoverTakeover node ∉ forgetCommands gt := by simp [forgetCommands]
  -- with the quorum kept and no partitions there are no candidates
  have hnone : gt.hasPartitions = false → node ∈ takeoverCandidates spec env gt orphans →
      gt.quorumLost spec = true := by
    intro hwhole hmem
    by_contra hkept
    simp [takeoverCandidates, hkept, hwhole] at hmem
  unfold repairCluster
  dsimp only
  split
  · rename_i hpromoted
    rw [hrecovery]
    exact and_iff_right ((quorumRecovery_promoted spec env gt).mp hpromoted).1
  · split
    · rename_i hparts
      obtain ⟨hsound, hcomplete⟩ := takeover_mem_healed spec env orphans node hparts
      rw [mem_append, hrecovery]
      refine ⟨fun h => h.elim And.right hsound, fun hmem => ?_⟩
      cases hlost : gt.quorumLost spec with
      | true => exact .inl ⟨rfl, hmem⟩
      | false => exact .inr (hcomplete hlost hmem)
    · rename_i hwhole
      have hiff : .failoverTakeover node ∈ (quorumRecovery spec env gt).1 ↔
          node ∈ takeoverCandidates spec env gt orphans :=
        hrecovery.trans (and_iff_right_of_imp (hnone (by simpa using hwhole)))
      split
      · exact hiff
      split
      · rw [mem_append, hiff]
        exact or_iff_left hforget
      · exact hiff

/-- No two follow one master. -/
def FollowDistinctMasters (nodes : List ClusterNodeState) : Prop :=
  ∀ a ∈ nodes, ∀ b ∈ nodes, a.masterNodeID = b.masterNodeID → a.podName = b.podName

/-- The takeovers among the commands go to one replica of each master. -/
def OneTakeoverPerMaster (commands : List ClusterCommand) : Prop :=
  ∀ a b, .failoverTakeover a ∈ commands → .failoverTakeover b ∈ commands →
    a.masterNodeID = b.masterNodeID → a.podName = b.podName

/-- A pass promotes one replica per missing master exactly when no two candidates follow the same one. -/
theorem oneTakeoverPerMaster_iff (spec : ClusterSpec) (env : RepairEnv) (gt : ClusterGroundTruth)
    (orphans : List OrphanedReplicaInfo) :
    (∀ node, .failoverTakeover node ∈ (repairCluster spec env gt orphans).commands ↔
      node ∈ takeoverCandidates spec env gt orphans) ∧
    (OneTakeoverPerMaster (repairCluster spec env gt orphans).commands ↔
      FollowDistinctMasters (takeoverCandidates spec env gt orphans)) := by
  have hiff := takeover_mem_repairCluster spec env gt orphans
  refine ⟨hiff, fun hone a ha b hb => hone a b ((hiff a).mpr ha) ((hiff b).mpr hb),
    fun hdistinct a b ha hb => hdistinct a ((hiff a).mp ha) b ((hiff b).mp hb)⟩

def leaderlessTrio : ClusterGroundTruth :=
  { newClusterGroundTruth with
    nodes := GoMap.ofPairs [
      ("c-shard-0-1", ⟨"c-shard-0-1", "10.0.0.2", "b", [], .replica, "a", .down, true⟩),
      ("c-shard-0-2", ⟨"c-shard-0-2", "10.0.0.3", "c", [], .replica, "a", .down, true⟩)]
    partitions := [["b", "c"]]
    ghostNodes := ["a"]
    allNodeIDs := ["a", "b", "c"] }

def promptEnv : RepairEnv := ⟨0, fun _ => true, fun _ => true, .ok, fun _ _ => true, false⟩

/-- With the quorum lost, both replicas of a dead master are promoted in one pass. -/
theorem two_takeovers_of_one_master :
    ¬ OneTakeoverPerMaster (repairCluster ⟨1, 15, 15000⟩ promptEnv leaderlessTrio []).commands := by
  intro hone
  have hsame := hone
    ⟨"c-shard-0-1", "10.0.0.2", "b", [], .replica, "a", .down, true⟩
    ⟨"c-shard-0-2", "10.0.0.3", "c", [], .replica, "a", .down, true⟩ (by decide) (by decide) rfl
  exact absurd hsame (by decide)

end LittleRed.Cluster
