import LittleRed.Cluster.Repair
import Mathlib.Data.List.Sort

/-!
# The repair pass from the slots on

A pass that reaches the slots checks that every reported range is a shard's own, assigns the ranges that
nobody owns to the first pods of their shards, untangles masters that own several ranges, attaches masters
without slots as replicas, and bootstraps a cluster that has neither slots nor replicas.
-/

namespace LittleRed.Cluster

open Lib

/-- A range to move from a master that owns several to one that owns none. -/
structure ReshardMove where
  range : SlotRange
  source : ClusterNodeState
  dest : ClusterNodeState
  deriving DecidableEq

/-- The commands that the later steps of a repair pass issue. -/
inductive SlotCommand where
  | addSlots (podIP : String) (range : SlotRange)
  | moveSlots (move : ReshardMove)
  | replicate (podIP masterNodeID : String)
  deriving DecidableEq

/-- The spec fields that the later steps read as well. -/
structure SlotSpec extends ClusterSpec where
  name : String
  replicasPerShard : Option ℕ

/-- How the calls end, whether a bootstrap gets as far as the slots, and what it reads then. -/
structure SlotEnv where
  addSlots : ℕ → Bool
  replicate : ClusterNodeState → Bool
  bootstrapReady : Bool
  skipSlotAssignment : Bool
  podIP : String → String
  nodeID : String → String
  hasSlots : ℕ → Bool
  attached : String → Bool

def shardMasterPodName (name : String) (shardIdx : ℕ) : String := clusterShardPodName name shardIdx 0

/-- A reachable master without slots may be given a range that nobody owns. -/
def safeMissingShardTarget (node : ClusterNodeState) : Bool :=
  node.reachable && node.role == .master && node.slots.isEmpty

/-- Note the owner of a range; what does not parse is passed over, what is no shard's own is refused. -/
def ownerTurn (expectedRanges : List SlotRange) (nodeID : String) (owners : List String)
    (slotText : String) : Option (List String) :=
  match parseSlotRange slotText with
  | none => some owners
  | some range =>
    match expectedRanges.findIdx? (· == range) with
    | none => none
    | some shardIdx => some (owners.set shardIdx nodeID)

/-- The node IDs of the owners by shard, unless some range is not a shard's own. -/
def shardOwners (shards : ℕ) (gt : ClusterGroundTruth) : Option (List String) :=
  gt.nodes.values.foldlM
    (fun owners node => node.slots.foldlM (ownerTurn (generateSlotRanges shards) node.nodeID) owners)
    (List.replicate shards "")

/-- The shards without an owner. -/
def missingShardIndices (owners : List String) : List ℕ :=
  (List.range owners.length).filter fun shardIdx => owners[shardIdx]? == some ""

/-- The node that may be given the range of a shard. -/
def intendedMaster (name : String) (gt : ClusterGroundTruth) (shardIdx : ℕ) :
    Option ClusterNodeState :=
  (gt.nodes.lookup (shardMasterPodName name shardIdx)).filter safeMissingShardTarget

/-- Assign the range of a shard to its first pod. -/
def assignShard (spec : SlotSpec) (gt : ClusterGroundTruth) (shardIdx : ℕ) : Option SlotCommand := do
  let target ← intendedMaster spec.name gt shardIdx
  let range ← (generateSlotRanges spec.shards)[shardIdx]?
  some (.addSlots target.podIP range)

/-- Step 3: assign the missing shards whose first pod may take them. -/
def assignMissing (spec : SlotSpec) (gt : ClusterGroundTruth) (missing : List ℕ) :
    List SlotCommand :=
  missing.filterMap (assignShard spec gt)

/-- The shards whose ranges a master owns, unless some range is not a shard's own. -/
def ownedShards (expectedRanges : List SlotRange) (node : ClusterNodeState) : Option (List ℕ) :=
  node.slots.mapM fun slotText => do
    let range ← parseSlotRange slotText
    expectedRanges.findIdx? (· == range)

/-- The order in which masters without slots are filled. -/
def fillsBefore (a b : ClusterNodeState) : Prop :=
  if a.podName ≠ b.podName then a.podName < b.podName else a.nodeID ≤ b.nodeID

instance : DecidableRel fillsBefore := fun a b =>
  inferInstanceAs (Decidable (if a.podName ≠ b.podName then _ else _))

/-- A master keeps the lowest of its shards, and the others go to masters without slots. -/
def planReshard (gt : ClusterGroundTruth) (shards : ℕ) : List ReshardMove :=
  let expectedRanges := generateSlotRanges shards
  let masters := gt.nodes.values.filter fun node => node.role == .master && node.reachable
  let owning := (masters.filter fun node => !node.slots.isEmpty).mapM fun node =>
    (ownedShards expectedRanges node).map fun shardIdxs => (node, shardIdxs)
  match owning with
  | none => []
  | some owning =>
    let surpluses := (owning.flatMap fun (node, shardIdxs) =>
      ((shardIdxs.insertionSort (· ≤ ·)).drop 1).map fun shardIdx => (shardIdx, node)).insertionSort
        (·.1 ≤ ·.1)
    let emptyMasters := (masters.filter fun node => node.slots.isEmpty).insertionSort fillsBefore
    (surpluses.zip emptyMasters).filterMap fun ((shardIdx, source), dest) =>
      expectedRanges[shardIdx]?.map fun range => ⟨range, source, dest⟩

def isNumeral (s : String) : Bool := !s.isEmpty && s.toList.all fun c => (digitValue c).isSome

/-- The shard that a pod name ends with, if it has the form of a pod of a shard. -/
def shardIndexFromPodName (podName : String) : Option ℤ :=
  match (splitText '-' podName).reverse with
  | ordinal :: shardIdx :: "shard" :: _ :: _ =>
    if isNumeral ordinal && isNumeral shardIdx then atoi shardIdx else none
  | _ => none

namespace ClusterGroundTruth

/-- The masters without slots. -/
def getEmptyMasters (gt : ClusterGroundTruth) : List ClusterNodeState :=
  gt.nodes.values.filter fun node => node.role == .master && node.slots.isEmpty

/-- The number of gathered replicas that name the master. -/
def replicaCount (gt : ClusterGroundTruth) (masterNodeID : String) : ℕ :=
  gt.nodes.values.countP fun node =>
    node.role == .replica && node.masterNodeID != "-" && node.masterNodeID == masterNodeID

/-- A node has another one in its own view of the cluster. -/
def nodeKnows (gt : ClusterGroundTruth) (observerID targetID : String) : Bool :=
  ((gt.knownNodes.lookup observerID).getD []).contains targetID

def hasReplicas (gt : ClusterGroundTruth) : Bool := gt.nodes.values.any (·.role == .replica)

end ClusterGroundTruth

/-- A master of the own shard that lacks a replica, or else the first that does. -/
def chooseReattachTarget (emptyPodName : String) (gt : ClusterGroundTruth) (expectedReplicas : ℕ) :
    Option ClusterNodeState :=
  let candidates := (gt.nodes.values.insertionSort (·.podName ≤ ·.podName)).filter fun m =>
    m.role == .master && !m.slots.isEmpty && decide (gt.replicaCount m.nodeID < expectedReplicas)
  let sameShard := fun m : ClusterNodeState =>
    (shardIndexFromPodName emptyPodName).isSome &&
      shardIndexFromPodName m.podName == shardIndexFromPodName emptyPodName
  (candidates.find? sameShard).or candidates.head?

/-- Step 4: attach masters without slots, until one attachment succeeds. -/
def reattach (env : SlotEnv) (gt : ClusterGroundTruth) (expectedReplicas : ℕ) :
    List ClusterNodeState → List SlotCommand × Bool
  | [] => ([], false)
  | em :: rest =>
    match chooseReattachTarget em.podName gt expectedReplicas with
    | none => reattach env gt expectedReplicas rest
    | some target =>
      if gt.nodeKnows em.nodeID target.nodeID then
        if env.replicate em then ([.replicate em.podIP target.nodeID], true)
        else
          let later := reattach env gt expectedReplicas rest
          (.replicate em.podIP target.nodeID :: later.1, later.2)
      else reattach env gt expectedReplicas rest

def clusterReplicasPerShard (spec : SlotSpec) : ℕ := spec.replicasPerShard.getD 0

/-- First pods without slots get the range of their shard, and the others follow them. -/
def bootstrapCluster (spec : SlotSpec) (env : SlotEnv) : List SlotCommand :=
  if env.bootstrapReady then
    let assigned :=
      if env.skipSlotAssignment then []
      else (generateSlotRanges spec.shards).zipIdx.filterMap fun (range, shardIdx) =>
        if env.hasSlots shardIdx then none
        else some (SlotCommand.addSlots (env.podIP (shardMasterPodName spec.name shardIdx)) range)
    let attached := (clusterPodRefs spec.name spec.shards (clusterReplicasPerShard spec)).filterMap
      fun ref =>
        if ref.isMaster || env.attached ref.name then none
        else some (SlotCommand.replicate (env.podIP ref.name)
          (env.nodeID (shardMasterPodName spec.name ref.shardIdx)))
    assigned ++ attached
  else []

/-- Steps 3 and later. -/
def slotRepair (spec : SlotSpec) (env : SlotEnv) (gt : ClusterGroundTruth) : List SlotCommand :=
  match shardOwners spec.shards gt with
  | none => []
  | some owners =>
    let missing := missingShardIndices owners
    let assigned := assignMissing spec gt missing
    if missing.any fun shardIdx => (assignShard spec gt shardIdx).isSome && env.addSlots shardIdx then
      assigned
    else
      match planReshard gt spec.shards with
      | move :: _ => assigned ++ [.moveSlots move]
      | [] =>
        let reattached :=
          if spec.replicasPerShard = some 0 then ([], false)
          else reattach env gt (spec.replicasPerShard.getD 1) gt.getEmptyMasters
        if reattached.2 then assigned ++ reattached.1
        else if gt.totalSlots = 0 ∧ gt.hasReplicas = false then
          assigned ++ reattached.1 ++ bootstrapCluster spec env
        else assigned ++ reattached.1

/-- The commands that a whole pass issues from the slots on, if it gets there. -/
def repairSlots (spec : SlotSpec) (env : RepairEnv) (slotEnv : SlotEnv) (gt : ClusterGroundTruth)
    (orphans : List OrphanedReplicaInfo) : List SlotCommand :=
  if (repairCluster spec.toClusterSpec env gt orphans).outcome = .slotRepair then
    slotRepair spec slotEnv gt
  else []

end LittleRed.Cluster
