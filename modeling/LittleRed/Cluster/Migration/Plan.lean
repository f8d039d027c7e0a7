import LittleRed.Cluster.SlotRepair
import LittleRed.Lib.ListLoops

/-!
# Planning the migration to one StatefulSet per shard

A cluster that was set up as one StatefulSet moves to one per shard while it serves: new pods join the mesh,
replicate the owner of their shard's range, and take it over one shard at a time; then the old pods are
dropped. Each pass plans the actions of the least advanced phase that still has work.
-/

namespace LittleRed.Cluster

open Lib List

/-- The phase that a pass finds; unset without shards. -/
inductive MigrationPhase where
  | unset
  | standup
  | meet
  | replicate
  | failover
  | decommission
  | complete
  deriving DecidableEq

/-- Make the node at an address replicate a master. -/
structure ReplicaAttach where
  replicaAddr : String
  masterID : String
  deriving DecidableEq

/-- Where to introduce pods, which nodes are old, and where the new pods listen. -/
structure LegacyFacts where
  seedAddrs : List String
  legacyNodeIDs : List String
  newPodAddrs : GoMap String String

/-- The address of a new pod, empty while it has none. -/
def LegacyFacts.addr (legacy : LegacyFacts) (podName : String) : String :=
  (legacy.newPodAddrs.lookup podName).getD ""

structure FailoverAction where
  addr : String
  force : Bool
  deriving DecidableEq

/-- The plan of one pass. -/
structure MigrationPlan where
  phase : MigrationPhase := .unset
  meets : List String := []
  replicates : List ReplicaAttach := []
  failovers : List FailoverAction := []
  forgets : List String := []
  deleteLegacy : Bool := false
  shardsMoved : ℕ := 0
  totalShards : ℕ
  reason : String := ""
  deriving DecidableEq

/-- The node reports the range. -/
def nodeOwnsRange (node : ClusterNodeState) (range : SlotRange) : Bool :=
  node.slots.any fun slotText => parseSlotRange slotText == some range

/-- The first node that does. -/
def ownerOfRange (order : RangeOrder ClusterNodeState) (gt : ClusterGroundTruth) (range : SlotRange) :
    Option ClusterNodeState :=
  (order.reorder gt.nodes.values).find? fun node => nodeOwnsRange node range

def ownerNodeID (owner : Option ClusterNodeState) : String := (owner.map ClusterNodeState.nodeID).getD ""

def newReplicaPodName (name : String) (k m : ℕ) : String := clusterShardPodName name k m

def newMasterPodName (name : String) (k : ℕ) : String := clusterShardPodName name k 0

/-- The new pods of a shard. -/
def shardNewPods (name : String) (k replicasPerShard : ℕ) : List String :=
  newMasterPodName name k :: (List.range' 1 replicasPerShard).map (newReplicaPodName name k)

/-- All new pods. -/
def expectedNewPods (name : String) (shards replicasPerShard : ℕ) : List String :=
  (List.range shards).flatMap fun k => shardNewPods name k replicasPerShard

/-- All of them are in the view. -/
def allNewPodsMet (gt : ClusterGroundTruth) (name : String) (shards replicasPerShard : ℕ) : Bool :=
  (expectedNewPods name shards replicasPerShard).all fun podName => (gt.nodes.lookup podName).isSome

/-- The addresses of the new pods that are no members yet, where known. -/
def missingNewPodMeets (gt : ClusterGroundTruth) (name : String) (shards replicasPerShard : ℕ)
    (legacy : LegacyFacts) : List String :=
  (expectedNewPods name shards replicasPerShard).filterMap fun podName =>
    if (gt.nodes.lookup podName).isSome then none
    else if legacy.addr podName = "" then none
    else some (legacy.addr podName)

/-- The shard whose range the text is. -/
def alignedRangeIndex (ranges : List SlotRange) (slotText : String) : Option ℕ :=
  (parseSlotRange slotText).bind fun range => ranges.findIdx? (· == range)

/-- How many ranges have moved. -/
def countShardsOnNewMasters (gt : ClusterGroundTruth) (name : String) (ranges : List SlotRange) : ℕ :=
  ranges.zipIdx.countP fun (range, k) =>
    (gt.nodes.lookup (newMasterPodName name k)).any fun master => nodeOwnsRange master range

/-- What the loop over the new pods has collected. -/
structure ReplicateScan where
  replicates : List ReplicaAttach := []
  deferred : ℕ := 0
  unsynced : Bool := false

/-- A pod that follows the owner is waited for; one that does not know it yet is left for later. -/
def scanNewPod (gt : ClusterGroundTruth) (legacy : LegacyFacts) (range : SlotRange)
    (owner : Option ClusterNodeState) (scan : ReplicateScan) (podName : String) : ReplicateScan :=
  match gt.nodes.lookup podName with
  | none => scan
  | some node =>
    if nodeOwnsRange node range then scan
    else if isLinkUpReplicaOf node (ownerNodeID owner) then scan
    else
      let scan := { scan with unsynced := true }
      match owner with
      | none => scan
      | some owner =>
        if node.role = .replica ∧ node.masterNodeID = owner.nodeID then scan
        else if !gt.nodeKnows node.nodeID owner.nodeID then { scan with deferred := scan.deferred + 1 }
        else { scan with replicates := scan.replicates ++ [⟨legacy.addr podName, owner.nodeID⟩] }

/-- Look at every new pod. Each shard's search for the owner visits the nodes in its own order. -/
def planReplicates (orders : ℕ → RangeOrder ClusterNodeState) (gt : ClusterGroundTruth) (name : String)
    (shards replicasPerShard : ℕ) (ranges : List SlotRange) (legacy : LegacyFacts) : ReplicateScan :=
  ((List.range shards).zip ranges).foldl
    (fun scan (k, range) => (shardNewPods name k replicasPerShard).foldl
      (scanNewPod gt legacy range (ownerOfRange (orders k) gt range)) scan) {}

/-- Promote the first new master without its range, by force if the owner is silent and it is in sync. -/
def nextFailover (orders : ℕ → RangeOrder ClusterNodeState) (gt : ClusterGroundTruth) (name : String)
    (shards : ℕ) (ranges : List SlotRange) (legacy : LegacyFacts) : Option (FailoverAction × ℕ) :=
  ((List.range shards).zip ranges).findSome? fun (k, range) =>
    let master := gt.nodes.lookup (newMasterPodName name k)
    if master.any (nodeOwnsRange · range) then none
    else
      let owner := ownerOfRange (orders k) gt range
      let force := owner.any fun owner =>
        !owner.reachable && master.any (isLinkUpReplicaOf · owner.nodeID)
      some (⟨legacy.addr (newMasterPodName name k), force⟩, k)

/-- The old nodes in the view. -/
def presentLegacyNodes (gt : ClusterGroundTruth) (legacyIDs : List String) : List ClusterNodeState :=
  gt.nodes.values.filter fun node => legacyIDs.contains node.nodeID

/-- The IDs of the nodes that are old, in ascending order. -/
def presentLegacyIDsSorted (gt : ClusterGroundTruth) (legacyIDs : List String) : List String :=
  ((presentLegacyNodes gt legacyIDs).map ClusterNodeState.nodeID).insertionSort (· ≤ ·)

/-- One of them has slots. -/
def anyLegacyOwnsSlots (gt : ClusterGroundTruth) (legacyIDs : List String) : Bool :=
  (presentLegacyNodes gt legacyIDs).any fun node => !node.slots.isEmpty

/-- Introduce new pods, if there are any with an address and a node to introduce them to. -/
def planStandupOrMeet (plan : MigrationPlan) (gt : ClusterGroundTruth) (name : String)
    (shards replicasPerShard : ℕ) (legacy : LegacyFacts) : MigrationPlan :=
  let meets := missingNewPodMeets gt name shards replicasPerShard legacy
  if 0 < meets.length ∧ 0 < legacy.seedAddrs.length then
    { plan with
      phase := .meet
      meets := meets
      reason := "MEET " ++ toString meets.length ++ " new pod(s) into the cluster" }
  else { plan with phase := .standup, reason := "waiting for new shard pods to come up" }

/-- The orders in which a pass visits the nodes: one for each search for an owner. -/
structure PlanOrders where
  replicates : ℕ → RangeOrder ClusterNodeState
  failovers : ℕ → RangeOrder ClusterNodeState

/-- The plan of a pass. -/
def planClusterMigration (orders : PlanOrders) (gt : ClusterGroundTruth) (shards replicasPerShard : ℕ)
    (name : String) (legacy : LegacyFacts) : MigrationPlan :=
  let plan : MigrationPlan := { totalShards := shards }
  if shards = 0 then { plan with reason := "invalid shard count" }
  else
    let ranges := generateSlotRanges shards
    let plan := { plan with shardsMoved := countShardsOnNewMasters gt name ranges }
    if (presentLegacyNodes gt legacy.legacyNodeIDs).isEmpty then
      { plan with phase := .complete, reason := "no legacy nodes remain; migration complete" }
    else if !allNewPodsMet gt name shards replicasPerShard then
      planStandupOrMeet plan gt name shards replicasPerShard legacy
    else
      let scan := planReplicates orders.replicates gt name shards replicasPerShard ranges legacy
      if scan.unsynced then
        { plan with
          phase := .replicate
          replicates := scan.replicates
          reason := "replicating " ++ toString scan.replicates.length ++
            " new pod(s) onto their range owner" ++
            if 0 < scan.deferred then
              "; " ++ toString scan.deferred ++ " deferred (owner not yet known via gossip)"
            else "" }
      else
        match nextFailover orders.failovers gt name shards ranges legacy with
        | some (failover, k) =>
          { plan with
            phase := .failover
            failovers := [failover]
            reason := "promoting " ++ newMasterPodName name k ++ " to own range " ++
              (ranges[k]?.map formatSlotRange).getD "" ++ " (" ++
              (if failover.force then "forced TAKEOVER (range owner unreachable, replica synced)"
              else "coordinated") ++ ")" }
        | none =>
          let forgets := presentLegacyIDsSorted gt legacy.legacyNodeIDs
          { plan with
            phase := .decommission
            forgets := forgets
            deleteLegacy := !anyLegacyOwnsSlots gt legacy.legacyNodeIDs
            reason := "decommissioning " ++ toString forgets.length ++ " legacy node(s)" }

/-- Count one old master, unless it has something else than one whole range of its own. -/
def countLegacyMaster (ranges : List SlotRange) (owned : List ℕ) (node : ClusterNodeState) :
    Option (List ℕ) :=
  if node.role ≠ .master ∨ node.slots.isEmpty then some owned
  else
    match node.slots with
    | [slotText] =>
      (alignedRangeIndex ranges slotText).bind fun idx =>
        if owned.contains idx then none else some (idx :: owned)
    | _ => none

/-- The old cluster has the shape of the new one. -/
def legacyShapePreserved (gt : ClusterGroundTruth) (shards replicasPerShard : ℕ) : Bool :=
  if shards = 0 then false
  else if gt.nodes.entries.length ≠ shards * (1 + replicasPerShard) then false
  else
    match gt.nodes.values.foldlM (countLegacyMaster (generateSlotRanges shards)) [] with
    | none => false
    | some owned => owned.length == shards

/-- What a plan does. -/
def MigrationPlan.HasActions (plan : MigrationPlan) (phase : MigrationPhase) (meets : List String)
    (replicates : List ReplicaAttach) (failovers : List FailoverAction) (deleteLegacy : Bool) : Prop :=
  plan.phase = phase ∧ plan.meets = meets ∧ plan.replicates = replicates ∧ plan.failovers = failovers ∧
    plan.deleteLegacy = deleteLegacy

section Cases

variable (orders : PlanOrders) (gt : ClusterGroundTruth) (shards replicasPerShard : ℕ) (name : String)
  (legacy : LegacyFacts)

/-- The cases of a plan, from the least advanced phase on. -/
inductive Planned (plan : MigrationPlan) : Prop
  | unset (hshards : shards = 0) (h : plan.HasActions .unset [] [] [] false)
  | complete (hshards : 0 < shards) (hlegacy : presentLegacyNodes gt legacy.legacyNodeIDs = [])
      (h : plan.HasActions .complete [] [] [] false)
  | standup (hshards : 0 < shards) (hlegacy : presentLegacyNodes gt legacy.legacyNodeIDs ≠ [])
      (hmet : allNewPodsMet gt name shards replicasPerShard = false)
      (hmeets : missingNewPodMeets gt name shards replicasPerShard legacy = [] ∨ legacy.seedAddrs = [])
      (h : plan.HasActions .standup [] [] [] false)
  | meet (hshards : 0 < shards) (hlegacy : presentLegacyNodes gt legacy.legacyNodeIDs ≠ [])
      (hmet : allNewPodsMet gt name shards replicasPerShard = false)
      (h : plan.HasActions .meet (missingNewPodMeets gt name shards replicasPerShard legacy) [] [] false)
      (hmeets : missingNewPodMeets gt name shards replicasPerShard legacy ≠ [])
  | replicate (hshards : 0 < shards) (hlegacy : presentLegacyNodes gt legacy.legacyNodeIDs ≠ [])
      (hmet : allNewPodsMet gt name shards replicasPerShard = true)
      (hunsynced : (planReplicates orders.replicates gt name shards replicasPerShard
        (generateSlotRanges shards) legacy).unsynced = true)
      (h : plan.HasActions .replicate [] (planReplicates orders.replicates gt name shards replicasPerShard
        (generateSlotRanges shards) legacy).replicates [] false)
  | failover (hshards : 0 < shards) (hlegacy : presentLegacyNodes gt legacy.legacyNodeIDs ≠ [])
      (hmet : allNewPodsMet gt name shards replicasPerShard = true)
      (hsynced : (planReplicates orders.replicates gt name shards replicasPerShard
        (generateSlotRanges shards) legacy).unsynced = false)
      (action : FailoverAction) (k : ℕ)
      (hnext : nextFailover orders.failovers gt name shards (generateSlotRanges shards) legacy =
        some (action, k))
      (h : plan.HasActions .failover [] [] [action] false)
  | decommission (hshards : 0 < shards) (hlegacy : presentLegacyNodes gt legacy.legacyNodeIDs ≠ [])
      (hmet : allNewPodsMet gt name shards replicasPerShard = true)
      (hsynced : (planReplicates orders.replicates gt name shards replicasPerShard
        (generateSlotRanges shards) legacy).unsynced = false)
      (hnext : nextFailover orders.failovers gt name shards (generateSlotRanges shards) legacy = none)
      (hforgets : plan.forgets = presentLegacyIDsSorted gt legacy.legacyNodeIDs)
      (h : plan.HasActions .decommission [] [] [] (!anyLegacyOwnsSlots gt legacy.legacyNodeIDs))

/-- Which plan a pass comes to. -/
theorem planned_planClusterMigration :
    Planned orders gt shards replicasPerShard name legacy
      (planClusterMigration orders gt shards replicasPerShard name legacy) := by
  unfold planClusterMigration
  dsimp only
  split
  · rename_i hshards
    exact .unset hshards ⟨rfl, rfl, rfl, rfl, rfl⟩
  rename_i hshards
  have hshards := Nat.pos_of_ne_zero hshards
  split
  · rename_i hlegacy
    exact .complete hshards (isEmpty_iff.mp hlegacy) ⟨rfl, rfl, rfl, rfl, rfl⟩
  rename_i hlegacy
  rw [List.isEmpty_iff] at hlegacy
  split
  · rename_i hmet
    rw [Bool.not_eq_true'] at hmet
    unfold planStandupOrMeet
    dsimp only
    split
    · rename_i hmeets
      exact .meet hshards hlegacy hmet ⟨rfl, rfl, rfl, rfl, rfl⟩ (length_pos_iff.mp hmeets.1)
    · rename_i hmeets
      refine .standup hshards hlegacy hmet ?_ ⟨rfl, rfl, rfl, rfl, rfl⟩
      rwa [length_pos_iff, length_pos_iff, not_and_or, not_not, not_not] at hmeets
  rename_i hmet
  rw [Bool.not_eq_true', Bool.not_eq_false] at hmet
  split
  · rename_i hunsynced
    exact .replicate hshards hlegacy hmet hunsynced ⟨rfl, rfl, rfl, rfl, rfl⟩
  rename_i hsynced
  rw [Bool.not_eq_true] at hsynced
  split
  · rename_i action k hnext
    exact .failover hshards hlegacy hmet hsynced action k hnext ⟨rfl, rfl, rfl, rfl, rfl⟩
  · rename_i hnext
    exact .decommission hshards hlegacy hmet hsynced hnext rfl ⟨rfl, rfl, rfl, rfl, rfl⟩

end Cases

end LittleRed.Cluster
