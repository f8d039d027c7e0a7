import LittleRed.Cluster.MeetPlan

/-!
# The repair pass up to the slots

`repairCluster` first restores a lost quorum by force, then heals partitions, then forgets ghosts; each of
these steps may end the pass. What comes after them is a single outcome here. The commands are collected in
order, each with the node that it is sent to. How calls end is an input of the pass.
-/

namespace LittleRed.Cluster

open Lib

/-- The commands that the first steps of a repair pass issue. -/
inductive ClusterCommand where
  | failoverTakeover (node : ClusterNodeState)
  | forget (node : ClusterNodeState) (nodeID : String)
  | meet (seed node : ClusterNodeState)
  deriving DecidableEq

/-- The spec fields that a repair pass reads; times are in seconds and milliseconds. -/
structure ClusterSpec where
  shards : ℕ
  failoverGracePeriod : ℤ
  clusterNodeTimeout : ℤ

/-- A replica that waits for its natural failover, as the status keeps it. -/
structure OrphanedReplicaInfo where
  podName : String
  nodeID : String
  masterNodeID : String
  detectedAt : ℤ

inductive StatusUpdate where
  | ok
  | conflict
  | failed
  deriving DecidableEq

/-- What a pass finds when it acts: the time, and how its calls end. -/
structure RepairEnv where
  now : ℤ
  quorumTakeover : ClusterNodeState → Bool
  orphanTakeover : ClusterNodeState → Bool
  statusUpdate : StatusUpdate
  confirmPodIP : String → String → Bool
  legacyExists : Bool

/-- A fast requeue, a plain one, an error, or going on to the slots. -/
inductive RepairOutcome where
  | requeueFast
  | requeue
  | failed
  | slotRepair
  deriving DecidableEq

/-- What a pass has issued, what the status keeps, and how it ended. -/
structure RepairResult where
  commands : List ClusterCommand
  orphanedReplicas : List OrphanedReplicaInfo
  outcome : RepairOutcome

namespace ClusterGroundTruth

/-- The number of masters with slots. -/
def countMasters (gt : ClusterGroundTruth) : ℕ :=
  (gt.nodes.values.filter fun node => node.role == .master && !node.slots.isEmpty).length

/-- The answering nodes do not all see each other. -/
def hasPartitions (gt : ClusterGroundTruth) : Bool := decide (1 < gt.partitions.length)

def hasGhostNodes (gt : ClusterGroundTruth) : Bool := !gt.ghostNodes.isEmpty

def liveNodes (gt : ClusterGroundTruth) : List String := gt.nodes.values.map ClusterNodeState.nodeID

/-- A replica that names a master which is not among the gathered pods. -/
def isOrphan (gt : ClusterGroundTruth) (node : ClusterNodeState) : Bool :=
  node.role == .replica && node.masterNodeID != "" && node.masterNodeID != "-" &&
    !gt.liveNodes.contains node.masterNodeID

/-- Too few voting masters are left for the cluster to heal itself. -/
def quorumLost (gt : ClusterGroundTruth) (spec : ClusterSpec) : Bool :=
  decide (gt.countMasters ≤ spec.shards / 2)

end ClusterGroundTruth

/-- One turn of the quorum recovery; the counter counts the takeovers that succeeded. -/
def quorumTurn (gt : ClusterGroundTruth) (env : RepairEnv) (acc : List ClusterCommand × ℕ)
    (node : ClusterNodeState) : List ClusterCommand × ℕ :=
  if gt.isOrphan node then
    (acc.1 ++ [.failoverTakeover node], if env.quorumTakeover node then acc.2 + 1 else acc.2)
  else acc

/-- Step 0: with the quorum lost, promote every replica whose master is gone. -/
def quorumRecovery (spec : ClusterSpec) (env : RepairEnv) (gt : ClusterGroundTruth) :
    List ClusterCommand × ℕ :=
  if gt.quorumLost spec then gt.nodes.values.foldl (quorumTurn gt env) ([], 0) else ([], 0)

/-- How long an orphan waits for its natural failover, in nanoseconds. -/
def orphanTimeout (spec : ClusterSpec) : ℤ :=
  let gracePeriod := if 0 < spec.failoverGracePeriod then spec.failoverGracePeriod else 15
  spec.clusterNodeTimeout * 1000000 + gracePeriod * 1000000000

/-- The tracked orphans by pod. -/
def existingOrphans (orphans : List OrphanedReplicaInfo) : GoMap String OrphanedReplicaInfo :=
  GoMap.ofPairs (orphans.map fun orphan => (orphan.podName, orphan))

/-- The tracking entry of an orphan, a fresh one if it was not tracked before. -/
def orphanInfo (orphans : List OrphanedReplicaInfo) (now : ℤ) (node : ClusterNodeState) :
    OrphanedReplicaInfo :=
  ((existingOrphans orphans).lookup node.podName).getD
    ⟨node.podName, node.nodeID, node.masterNodeID, now⟩

/-- What the scan for orphans has found so far. -/
structure OrphanScan where
  commands : List ClusterCommand
  currentOrphans : List OrphanedReplicaInfo
  hasBlockingOrphans : Bool
  promotedCount : ℕ

/-- One turn of the scan: an orphan of a ghost is promoted once it has waited long enough. -/
def orphanTurn (spec : ClusterSpec) (env : RepairEnv) (gt : ClusterGroundTruth)
    (orphans : List OrphanedReplicaInfo) (scan : OrphanScan) (node : ClusterNodeState) : OrphanScan :=
  if gt.isOrphan node && gt.ghostNodes.contains node.masterNodeID then
    let info := orphanInfo orphans env.now node
    if orphanTimeout spec ≤ env.now - info.detectedAt then
      { scan with
        commands := scan.commands ++ [.failoverTakeover node]
        promotedCount :=
          if env.orphanTakeover node then scan.promotedCount + 1 else scan.promotedCount }
    else
      { scan with
        currentOrphans := scan.currentOrphans ++ [info]
        hasBlockingOrphans := true }
  else scan

/-- Divide the orphans into stuck and waiting ones. -/
def scanOrphans (spec : ClusterSpec) (env : RepairEnv) (gt : ClusterGroundTruth)
    (orphans : List OrphanedReplicaInfo) : OrphanScan :=
  gt.nodes.values.foldl (orphanTurn spec env gt orphans) ⟨[], [], false, 0⟩

/-- The introductions of one pass: the seed and every target are confirmed first. -/
def meetCommands (env : RepairEnv) (gt : ClusterGroundTruth) : List ClusterCommand :=
  let plan := gt.planPartitionMeets
  match plan.seed with
  | none => []
  | some seed =>
    if env.confirmPodIP seed.podName seed.podIP then
      (plan.targets.filter fun node => env.confirmPodIP node.podName node.podIP).map
        (ClusterCommand.meet seed)
    else []

/-- Step 1: promote stuck orphans, wait for the others, then introduce the partitions. -/
def healPartitions (spec : ClusterSpec) (env : RepairEnv) (gt : ClusterGroundTruth)
    (orphans : List OrphanedReplicaInfo) : RepairResult :=
  let scan := scanOrphans spec env gt orphans
  let changed := decide (orphans.length ≠ scan.currentOrphans.length ∨ 0 < scan.promotedCount)
  match changed, env.statusUpdate with
  | true, .failed => ⟨scan.commands, orphans, .failed⟩
  | true, .conflict => ⟨scan.commands, orphans, .requeue⟩
  | _, _ =>
    let kept := if changed then scan.currentOrphans else orphans
    if 0 < scan.promotedCount ∨ scan.hasBlockingOrphans then ⟨scan.commands, kept, .requeueFast⟩
    else ⟨scan.commands ++ meetCommands env gt, kept, .requeueFast⟩

/-- Some gathered replica names the node as its master. -/
def protectedMaster (gt : ClusterGroundTruth) (nodeID : String) : Bool :=
  gt.nodes.values.any fun node =>
    node.role == .replica && node.masterNodeID != "" && node.masterNodeID != "-" &&
      node.masterNodeID == nodeID

/-- The ghosts that step 2 removes. -/
def ghostsToRemove (gt : ClusterGroundTruth) : List String :=
  gt.ghostNodes.filter fun ghostID => !protectedMaster gt ghostID

/-- Step 2: every answering node is told to forget every ghost that no replica follows. -/
def forgetCommands (gt : ClusterGroundTruth) : List ClusterCommand :=
  (ghostsToRemove gt).flatMap fun ghostID =>
    (gt.nodes.values.filter ClusterNodeState.reachable).map fun node => .forget node ghostID

/-- The pass up to the slots. -/
def repairCluster (spec : ClusterSpec) (env : RepairEnv) (gt : ClusterGroundTruth)
    (orphans : List OrphanedReplicaInfo) : RepairResult :=
  let recovery := quorumRecovery spec env gt
  if 0 < recovery.2 then ⟨recovery.1, orphans, .requeueFast⟩
  else if gt.hasPartitions then
    let healed := healPartitions spec env gt orphans
    { healed with commands := recovery.1 ++ healed.commands }
  else if gt.hasGhostNodes && env.legacyExists then ⟨recovery.1, orphans, .requeueFast⟩
  else if gt.hasGhostNodes && !(ghostsToRemove gt).isEmpty then
    ⟨recovery.1 ++ forgetCommands gt, orphans, .requeueFast⟩
  else ⟨recovery.1, orphans, .slotRepair⟩

end LittleRed.Cluster
