import LittleRed.Cluster.GroundTruth
import LittleRed.Lib.StatefulSet

/-!
# The rollout gate of one shard

`planShardRolloutPartition` decides the partition of one shard's StatefulSet from data alone, which
`buildShardRolloutInput` assembles from the live objects and the gathered view. Both are used twice in a pass:
before the gather, without pods and without a view, and after it with both.
-/

namespace LittleRed.Cluster.Rollout

open Lib

/-- Content-addressed revisions, and the hash that the operator stamps on each template. -/
structure PodTemplates (Template : Type*) extends RevisionNaming Template where
  podSpecHash : Template → String
  podSpecHash_injective : Function.Injective podSpecHash

variable {Template : Type*}

/-- The rollout of the set has ended. -/
def statefulSetRolloutSettled (naming : RevisionNaming Template)
    (sts : StatefulSet Template) : Bool :=
  match sts.spec.replicas with
  | none => false
  | some want =>
    sts.status.observedGeneration == sts.generation &&
      naming.name sts.status.updateTemplate != "" &&
      naming.name sts.status.updateTemplate == naming.name sts.status.currentTemplate &&
      sts.status.updatedReplicas == want &&
      sts.status.readyReplicas == want &&
      sts.status.replicas == want

/-- What a pass decided about one shard. -/
inductive ShardRolloutVerdict where
  | ungated
  | start
  | advance
  | hold
  | complete
  deriving DecidableEq

/-- The clause that a hold is waiting on. -/
inductive ShardRolloutHold where
  | none
  | podAbsent
  | revision
  | readiness
  | redundancy
  | settling
  deriving DecidableEq

/-- For how many seconds a replaced pod may be ready and unattached before a stall is reported. -/
def clusterRolloutReattachBudget : ℤ := 120

/-- One shard pod's facts; `readySince` is unset when no transition time is known. -/
structure ShardRolloutPod where
  ordinal : ℕ
  revision : String
  ready : Bool
  readySince : Option ℤ
  attachedToOwner : Bool
  syncedWithOwner : Bool
  isOwner : Bool
  deriving DecidableEq

/-- Everything the gate decides from. -/
structure ShardRolloutInput where
  shardIdx : ℕ
  replicasPerShard : ℕ
  desiredHash : String
  appliedHash : String
  generation : ℕ
  observedGeneration : ℕ
  updateRevision : String
  currentRevision : String
  appliedPartition : Option ℤ
  pods : List ShardRolloutPod
  now : ℤ

/-- The decision; a `holdPod` of `-1` means that nothing is holding. -/
structure ShardRolloutPlan where
  verdict : ShardRolloutVerdict
  partition : Option ℤ
  hold : ShardRolloutHold
  holdPod : ℤ
  blocked : Bool
  blockedPods : List ℕ
  deriving DecidableEq

namespace ShardRolloutInput

/-- A shard is sized one more than its replicas, so this is its last ordinal. -/
def highestOrdinal (input : ShardRolloutInput) : ℕ := input.replicasPerShard

/-- The applied partition, clamped to the ordinals of the shard. -/
def currentPartition (input : ShardRolloutInput) : ℕ :=
  let p := (input.appliedPartition.getD 0).toNat
  if input.highestOrdinal < p then input.highestOrdinal else p

/-- The shard's pods by ordinal, the later of two entries winning. -/
def byOrdinal (input : ShardRolloutInput) : GoMap ℕ ShardRolloutPod :=
  GoMap.ofPairs (input.pods.map fun pod => (pod.ordinal, pod))

/-- A pod has been ready for the whole budget without any attachment to the owner. -/
def podStalled (input : ShardRolloutInput) (pod : ShardRolloutPod) : Bool :=
  if pod.isOwner || pod.attachedToOwner then false
  else
    match pod.readySince with
    | none => false
    | some since => decide (since + clusterRolloutReattachBudget ≤ input.now)

end ShardRolloutInput

/-- Record a failing clause, unless an earlier one is already recorded. -/
def ShardRolloutPlan.recordHold (plan : ShardRolloutPlan) (reason : ShardRolloutHold)
    (ordinal : ℕ) : ShardRolloutPlan :=
  if plan.hold = .none then { plan with hold := reason, holdPod := ordinal } else plan

/-- Look at one ordinal. -/
def scanOrdinal (input : ShardRolloutInput) (plan : ShardRolloutPlan) (ordinal : ℕ) :
    ShardRolloutPlan :=
  match input.byOrdinal.lookup ordinal with
  | none => plan.recordHold .podAbsent ordinal
  | some pod =>
    if input.updateRevision = "" ∨ pod.revision ≠ input.updateRevision then
      plan.recordHold .revision ordinal
    else if !pod.ready then plan.recordHold .readiness ordinal
    else if !pod.syncedWithOwner then
      let held := plan.recordHold .redundancy ordinal
      if input.podStalled pod then
        { held with blocked := true, blockedPods := held.blockedPods ++ [ordinal] }
      else held
    else plan

/-- The ordinals from the partition up to the highest one, in ascending order. -/
def ShardRolloutInput.gatedOrdinals (input : ShardRolloutInput) : List ℕ :=
  List.range' input.currentPartition (input.highestOrdinal + 1 - input.currentPartition)

/-- The decision about the partition. -/
def planShardRolloutPartition (input : ShardRolloutInput) : ShardRolloutPlan :=
  let plan : ShardRolloutPlan := ⟨.hold, none, .none, -1, false, []⟩
  if input.replicasPerShard = 0 then { plan with verdict := .ungated }
  else if input.appliedHash ≠ input.desiredHash then
    { plan with verdict := .start, partition := some input.highestOrdinal }
  else
    let partition := input.currentPartition
    if input.observedGeneration = input.generation ∧ input.updateRevision ≠ "" ∧
        input.updateRevision = input.currentRevision then
      { plan with verdict := .complete, partition := some 0 }
    else
      let scanned := input.gatedOrdinals.foldl (scanOrdinal input)
        { plan with partition := some partition }
      if scanned.hold ≠ .none then { scanned with verdict := .hold }
      else if 0 < partition then
        { scanned with verdict := .advance, partition := some ((partition : ℤ) - 1) }
      else { scanned with verdict := .hold, hold := .settling }

/-- The node that serves the first slot of a shard's range, in the order of the pods. -/
def shardSlotOwner (gt : Option ClusterGroundTruth) (name : String)
    (shards replicasPerShard shardIdx : ℕ) : Option ClusterNodeState := do
  let gt ← gt
  let range ← (generateSlotRanges shards)[shardIdx]?
  (clusterPodRefs name shards replicasPerShard).findSome? fun ref => do
    let node ← gt.nodes.lookup ref.name
    if node.role = .master ∧ node.slots.any (slotTextCovers range.start) then some node else none

/-- The gathered node of a pod, if there is a view at all. -/
def gtNode (gt : Option ClusterGroundTruth) (podName : String) : Option ClusterNodeState := do
  let gt ← gt
  gt.nodes.lookup podName

/-- One pod's facts, judged against the gathered view and the owner's node ID. -/
def shardRolloutPod (naming : RevisionNaming Template) (gt : Option ClusterGroundTruth)
    (ownerID podName : String) (ordinal : ℕ) (pod : StsPod Template) : ShardRolloutPod :=
  let facts : ShardRolloutPod :=
    ⟨ordinal, naming.revision pod.template, pod.containerReady, pod.readySince, false, false, false⟩
  match gtNode gt podName with
  | some node =>
    if ownerID ≠ "" then
      { facts with
        syncedWithOwner := isLinkUpReplicaOf node ownerID
        attachedToOwner := node.role == .replica && node.masterNodeID == ownerID
        isOwner := node.nodeID == ownerID }
    else facts
  | none => facts

/-- The data of the decision. -/
def buildShardRolloutInput (templates : PodTemplates Template) (name : String)
    (shards shardIdx replicasPerShard : ℕ) (desiredHash : String)
    (sts : Option (StatefulSet Template)) (pods : GoMap String (StsPod Template))
    (gt : Option ClusterGroundTruth) (now : ℤ) : ShardRolloutInput :=
  let ownerID := ((shardSlotOwner gt name shards replicasPerShard shardIdx).map
    ClusterNodeState.nodeID).getD ""
  { shardIdx := shardIdx
    replicasPerShard := replicasPerShard
    desiredHash := desiredHash
    appliedHash := (sts.map fun sts => templates.podSpecHash sts.spec.template).getD ""
    generation := (sts.map StatefulSet.generation).getD 0
    observedGeneration := (sts.map fun sts => sts.status.observedGeneration).getD 0
    updateRevision := (sts.map fun sts => templates.name sts.status.updateTemplate).getD ""
    currentRevision := (sts.map fun sts => templates.name sts.status.currentTemplate).getD ""
    appliedPartition := sts.bind fun sts => sts.spec.partition
    pods := (List.range (replicasPerShard + 1)).filterMap fun ordinal =>
      let podName := clusterShardPodName name shardIdx ordinal
      (pods.lookup podName).map
        (shardRolloutPod templates.toRevisionNaming gt ownerID podName ordinal)
    now := now }

/-- The shard's pods as the gate reads them: terminating pods are left out. -/
def shardRolloutPods (name : String) (shardIdx replicasPerShard : ℕ)
    (pods : ℕ → Option (StsPod Template)) : GoMap String (StsPod Template) :=
  GoMap.ofPairs <| (List.range (replicasPerShard + 1)).filterMap fun ordinal =>
    match pods ordinal with
    | none => none
    | some pod =>
      if pod.terminating then none else some (clusterShardPodName name shardIdx ordinal, pod)

end LittleRed.Cluster.Rollout
