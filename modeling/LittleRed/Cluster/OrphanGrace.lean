import LittleRed.Cluster.Takeover
import LittleRed.Lib.TransitionSystem
import LittleRed.Lib.Timed

/-!
# The grace period of orphans

Step 1 of a repair pass lets an orphan of a ghost wait for its natural failover and promotes it by force when
the wait has been too long. The wait is measured by a list in the status, keyed by pod name and written only
when its length changes or a takeover succeeded. It is right as long as pods are not confused: a tracked pod
is the same replica, no orphan replaces another one, and no promoted replica is an orphan in the next pass.
-/

namespace LittleRed.Cluster

open Lib

/-- The orphans of ghosts, which step 1 looks at. -/
def ghostOrphans (gt : ClusterGroundTruth) : List ClusterNodeState :=
  gt.nodes.values.filter fun node => gt.isOrphan node && gt.ghostNodes.contains node.masterNodeID

def replicaKey (node : ClusterNodeState) : String × String := (node.nodeID, node.masterNodeID)

/-- The replica of a master that a tracking entry is about. -/
def OrphanedReplicaInfo.key (info : OrphanedReplicaInfo) : String × String :=
  (info.nodeID, info.masterNodeID)

/-- A tracking entry as it reads after it was written to the status. -/
def OrphanedReplicaInfo.store (time : StoredTime) (info : OrphanedReplicaInfo) : OrphanedReplicaInfo :=
  { info with detectedAt := time.stored info.detectedAt }

/-- The view has the orphan. -/
def orphaned (key : String × String) (gt : ClusterGroundTruth) : Bool :=
  (ghostOrphans gt).any fun node => replicaKey node == key

/-- The nodes that commands promote by force. -/
def takeovers (commands : List ClusterCommand) : List ClusterNodeState :=
  commands.filterMap fun
    | .failoverTakeover node => some node
    | _ => none

/-- A takeover of step 0 succeeded, which ends the pass. -/
def endedByQuorum (spec : ClusterSpec) (env : RepairEnv) (gt : ClusterGroundTruth) : Bool :=
  decide (0 < (quorumRecovery spec env gt).2)

/-- What is tracked, the partitioned views with their times, and the takeovers of the last one. -/
structure OrphanState where
  orphanedReplicas : List OrphanedReplicaInfo
  clock : ℤ
  passes : List (ℤ × ClusterGroundTruth)
  promoted : Option (List ClusterNodeState)

structure RepairPass where
  gt : ClusterGroundTruth
  env : RepairEnv

section Run

variable (spec : ClusterSpec) (time : StoredTime)

/-- One pass whose status write succeeds; what is left alone stays as it was stored. -/
def OrphanState.step (s : OrphanState) (pass : RepairPass) : Option OrphanState :=
  if s.clock ≤ pass.env.now ∧ pass.env.statusUpdate = .ok then
    let result := repairCluster spec pass.env pass.gt s.orphanedReplicas
    let healed := healPartitions spec pass.env pass.gt s.orphanedReplicas
    some {
      orphanedReplicas := result.orphanedReplicas.map (OrphanedReplicaInfo.store time)
      clock := pass.env.now
      passes := if pass.gt.hasPartitions then (pass.env.now, pass.gt) :: s.passes else s.passes
      promoted :=
        if pass.gt.hasPartitions then
          if endedByQuorum spec pass.env pass.gt then none else some (takeovers healed.commands)
        else s.promoted }
  else none

/-- Runs of passes, from a status that tracks nothing. -/
def orphanSystem : System OrphanState RepairPass where
  initial s := s.orphanedReplicas = [] ∧ s.passes = [] ∧ s.promoted = none
  step := OrphanState.step spec time

/-- The entry of an orphan, with the time it was first seen. -/
def orphanEntry (passes : List (ℤ × ClusterGroundTruth)) (node : ClusterNodeState) :
    OrphanedReplicaInfo :=
  ⟨node.podName, node.nodeID, node.masterNodeID,
    time.stored ((heldSince (orphaned (replicaKey node)) passes).getD 0)⟩

/-- Step 1 promoted exactly the orphans of the whole timeout, and the status tracks the others since they
were first seen. -/
def GraceKept (s : OrphanState) : Prop :=
  ∀ now gt earlier promoted, s.passes = (now, gt) :: earlier → s.promoted = some promoted →
    (∀ node, node ∈ promoted ↔ node ∈ ghostOrphans gt ∧
      HeldFor (orphaned (replicaKey node)) (orphanTimeout spec) now s.passes) ∧
    (s.orphanedReplicas.map OrphanedReplicaInfo.podName).Nodup ∧
    ∀ info, info ∈ s.orphanedReplicas ↔ ∃ node ∈ ghostOrphans gt,
      ¬ HeldFor (orphaned (replicaKey node)) (orphanTimeout spec) now s.passes ∧
        info = orphanEntry time s.passes node

/-- The replica has been an orphan for as long as the timeout. -/
def timeUp (now : ℤ) (passes : List (ℤ × ClusterGroundTruth)) (node : ClusterNodeState) : Bool :=
  match heldSince (orphaned (replicaKey node)) passes with
  | some t => decide (orphanTimeout spec ≤ now - t)
  | none => false

/-- The last partitioned pass promoted the replica. -/
def wasPromoted (s : OrphanState) (node : ClusterNodeState) : Bool :=
  match s.passes with
  | [] => false
  | (now, _) :: _ => s.promoted.isSome && timeUp spec now s.passes node

/-- A tracked pod is an orphan exactly as the replica that is tracked. -/
def SameReplicas (tracked : List OrphanedReplicaInfo) (gt : ClusterGroundTruth) : Prop :=
  ∀ info ∈ tracked, ∀ node ∈ ghostOrphans gt,
    info.podName = node.podName ↔ info.key = replicaKey node

/-- Storing the time when an orphan was first seen does not decide whether its time is up. -/
def roundsSafely (now : ℤ) (passes : List (ℤ × ClusterGroundTruth)) (node : ClusterNodeState) : Bool :=
  match heldSince (orphaned (replicaKey node)) passes with
  | some t => decide (orphanTimeout spec ≤ now - time.stored t) == decide (orphanTimeout spec ≤ now - t)
  | none => true

/-- The orphans of the view are those that are tracked. -/
def SeesTracked (tracked : List OrphanedReplicaInfo) (gt : ClusterGroundTruth) : Prop :=
  (∀ node ∈ ghostOrphans gt, ∃ info ∈ tracked, info.podName = node.podName) ∧
    ∀ info ∈ tracked, ∃ node ∈ ghostOrphans gt, info.podName = node.podName

/-- No orphan is new in the pass in which a tracked one stops waiting, unless a takeover succeeds. -/
def NoneReplaced (tracked : List OrphanedReplicaInfo) (passes : List (ℤ × ClusterGroundTruth))
    (pass : RepairPass) : Prop :=
  (∃ node ∈ ghostOrphans pass.gt,
      timeUp spec pass.env.now passes node = true ∧ pass.env.orphanTakeover node = true) ∨
    (∀ node ∈ ghostOrphans pass.gt, ∃ info ∈ tracked, info.podName = node.podName) ∨
    ∀ info ∈ tracked, ∃ node ∈ ghostOrphans pass.gt,
      info.podName = node.podName ∧ timeUp spec pass.env.now passes node = false

/-- Orphans have different pods, a tracked pod is the same replica, none was promoted before or replaced
by another, and rounding decides nothing. -/
def Steady (s : OrphanState) (pass : RepairPass) : Prop :=
  pass.gt.hasPartitions = true →
    ((ghostOrphans pass.gt).map ClusterNodeState.podName).Nodup ∧
    SameReplicas s.orphanedReplicas pass.gt ∧
    (∀ node ∈ ghostOrphans pass.gt, wasPromoted spec s node = false) ∧
    (∀ node ∈ ghostOrphans pass.gt, roundsSafely spec time pass.env.now s.passes node = true) ∧
    if endedByQuorum spec pass.env pass.gt then SeesTracked s.orphanedReplicas pass.gt
    else NoneReplaced spec s.orphanedReplicas ((pass.env.now, pass.gt) :: s.passes) pass

instance (s : OrphanState) (pass : RepairPass) : Decidable (Steady spec time s pass) := by
  unfold Steady SameReplicas SeesTracked NoneReplaced
  infer_instance

end Run

section Scan

variable (spec : ClusterSpec) (env : RepairEnv) (gt : ClusterGroundTruth)
  (orphans : List OrphanedReplicaInfo)

/-- The list is written when its length changes or a takeover succeeded. -/
theorem healPartitions_orphanedReplicas (hupdate : env.statusUpdate = .ok) :
    (healPartitions spec env gt orphans).orphanedReplicas =
      if orphans.length ≠ (scanOrphans spec env gt orphans).currentOrphans.length ∨
        0 < (scanOrphans spec env gt orphans).promotedCount
      then (scanOrphans spec env gt orphans).currentOrphans else orphans := by
  unfold healPartitions
  rw [hupdate]
  dsimp only
  by_cases hchanged : orphans.length ≠ (scanOrphans spec env gt orphans).currentOrphans.length ∨
      0 < (scanOrphans spec env gt orphans).promotedCount
  · rw [if_pos hchanged, decide_eq_true hchanged]
    dsimp only
    split
    · rfl
    · rfl
  · rw [if_neg hchanged, decide_eq_false hchanged]
    dsimp only
    split
    · rfl
    · rfl

/-- A pass that does not heal leaves it. -/
theorem repairCluster_orphanedReplicas_of_not_healed
    (h : gt.hasPartitions = true → endedByQuorum spec env gt = true) :
    (repairCluster spec env gt orphans).orphanedReplicas = orphans := by
  unfold repairCluster
  dsimp only
  split
  · rfl
  rename_i hrestored
  split
  · rename_i hparts
    exact absurd (of_decide_eq_true (h hparts)) hrestored
  · split
    · rfl
    · split
      · rfl
      · rfl

/-- A pass that heals leaves what healing does. -/
theorem repairCluster_orphanedReplicas_of_healed (hparts : gt.hasPartitions = true)
    (hended : endedByQuorum spec env gt = false) :
    (repairCluster spec env gt orphans).orphanedReplicas =
      (healPartitions spec env gt orphans).orphanedReplicas := by
  unfold repairCluster
  dsimp only
  rw [if_neg (of_decide_eq_false hended), if_pos hparts]

end Scan

end LittleRed.Cluster
