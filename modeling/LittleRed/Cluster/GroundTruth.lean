import LittleRed.Cluster.SlotRange
import LittleRed.Lib.GoMap

/-!
# The gathered view of a Redis Cluster

`ClusterGroundTruth` is what one pass of the operator knows about the mesh: one entry for
each pod that it probed, the node IDs that the mesh mentions, and who knows whom. The
pods of a cluster are named after their shard and their ordinal within it.
-/

namespace LittleRed.Cluster

open Lib

/-- The role a node reports; unknown until its own line of `CLUSTER NODES` was read. -/
inductive Role where
  | unknown
  | master
  | replica
  deriving DecidableEq

/-- The state of the replication link that `INFO` reports; unknown until it was read. -/
inductive LinkStatus where
  | unknown
  | down
  | up
  deriving DecidableEq

/-- The state of one pod's node. -/
structure ClusterNodeState where
  podName : String
  podIP : String
  nodeID : String
  slots : List String
  role : Role
  masterNodeID : String
  linkStatus : LinkStatus
  reachable : Bool
  deriving DecidableEq

/-- The entry of a pod that did not answer the identity probe. -/
def unreachableNode (podName podIP : String) : ClusterNodeState :=
  ⟨podName, podIP, "", [], .unknown, "", .unknown, false⟩

/-- The combined view of the mesh. -/
structure ClusterGroundTruth where
  nodes : GoMap String ClusterNodeState
  partitions : List (List String)
  ghostNodes : List String
  clusterState : String
  totalSlots : ℤ
  allNodeIDs : List String
  knownNodes : GoMap String (List String)

def newClusterGroundTruth : ClusterGroundTruth := ⟨∅, [], [], "", 0, [], ∅⟩

/-- A replica of the node whose link is up. -/
def isLinkUpReplicaOf (rep : ClusterNodeState) (masterNodeID : String) : Bool :=
  rep.role == .replica && rep.masterNodeID == masterNodeID && rep.linkStatus == .up

/-- The name of a pod. -/
def clusterShardPodName (name : String) (shardIdx ordinal : ℕ) : String :=
  name ++ "-shard-" ++ toString shardIdx ++ "-" ++ toString ordinal

/-- Ordinals have different names. -/
theorem clusterShardPodName_inj (name : String) (shardIdx : ℕ) {a b : ℕ} :
    clusterShardPodName name shardIdx a = clusterShardPodName name shardIdx b ↔ a = b := by
  constructor
  · intro h
    exact toString_injective (by simpa [clusterShardPodName] using h)
  · rintro rfl
    rfl

structure ClusterPodRef where
  name : String
  shardIdx : ℕ
  ordinal : ℕ
  isMaster : Bool

/-- Every pod of the cluster, shard by shard and ordinal by ordinal. -/
def clusterPodRefs (name : String) (shards replicasPerShard : ℕ) : List ClusterPodRef :=
  (List.range shards).flatMap fun shardIdx =>
    (List.range (replicasPerShard + 1)).map fun ordinal =>
      ⟨clusterShardPodName name shardIdx ordinal, shardIdx, ordinal, ordinal == 0⟩

end LittleRed.Cluster
