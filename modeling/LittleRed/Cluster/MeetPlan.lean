import LittleRed.Cluster.GroundTruth

/-!
# Which nodes a pass introduces to each other

`CLUSTER MEET` binds a fresh identity to an address, so before the operator introduces a
pod it asks whether the gathered view attributes the address to the instance. The plan
names the seed that the command is issued at, the targets, and what was left out and why.
-/

namespace LittleRed.Cluster

open Lib

/-- The attribution of one candidate. -/
inductive MeetVerdict where
  | allowMember
  | allowFresh
  | denyNoAddress
  | denyUnidentified
  | denyNoView
  | denyUnattributed
  deriving DecidableEq

/-- The verdict permits a `CLUSTER MEET` on the evidence of the bus alone. -/
def MeetVerdict.allowed (verdict : MeetVerdict) : Bool :=
  verdict == .allowMember || verdict == .allowFresh

/-- The verdict permits a `CLUSTER MEET` once the API server has confirmed the address. -/
def MeetVerdict.admissibleWhenConfirmed (verdict : MeetVerdict) : Bool :=
  verdict.allowed || verdict == .denyUnattributed

/-- The evidence about one address. -/
structure MeetCandidate where
  podIP : String
  nodeID : String
  identified : Bool
  viewKnown : Bool
  knownIDs : List String

/-- Decide whether an address is attributed to the instance. -/
def attributeMeetTarget (candidate : MeetCandidate) (ourNodeIDs : List String) : MeetVerdict :=
  if candidate.podIP = "" then .denyNoAddress
  else if candidate.identified = false ∨ candidate.nodeID = "" then .denyUnidentified
  else if candidate.viewKnown = false then .denyNoView
  else
    let peers := candidate.knownIDs.filter fun id => id != "" && id != candidate.nodeID
    if peers.any ourNodeIDs.contains then .allowMember
    else if !peers.isEmpty then .denyUnattributed
    else .allowFresh

/-- The node of a partition's first member; without partitions, any node. -/
def ClusterGroundTruth.getLargestPartitionSeed (gt : ClusterGroundTruth) : Option ClusterNodeState :=
  match gt.partitions with
  | [] => gt.nodes.values.head?
  | first :: rest =>
    let largest := rest.foldl (fun best next => if best.length < next.length then next else best) first
    largest.head?.bind fun targetID => gt.nodes.values.find? fun node => node.nodeID == targetID

/-- A gathered node as attribution evidence. -/
def ClusterGroundTruth.meetCandidate (gt : ClusterGroundTruth) (node : ClusterNodeState) :
    MeetCandidate where
  podIP := node.podIP
  nodeID := node.nodeID
  identified := node.reachable && node.nodeID != ""
  viewKnown := node.nodeID != "" && (gt.knownNodes.lookup node.nodeID).isSome
  knownIDs := (gt.knownNodes.lookup node.nodeID).getD []

/-- A candidate that bus evidence does not attribute to the instance. -/
structure MeetSkip where
  podName : String
  podIP : String
  nodeID : String
  verdict : MeetVerdict
  deriving DecidableEq

/-- The plan of one pass; without a seed, nothing is introduced. -/
structure MeetPlan where
  seed : Option ClusterNodeState
  seedVerdict : MeetVerdict
  targets : List ClusterNodeState
  skipped : List MeetSkip
  unattributed : List MeetSkip

/-- Judge one node as a target. -/
def ClusterGroundTruth.judgeMeetTarget (gt : ClusterGroundTruth) (seed : ClusterNodeState)
    (ourIDs : List String) (plan : MeetPlan) (node : ClusterNodeState) : MeetPlan :=
  if node.nodeID ≠ "" ∧ node.nodeID = seed.nodeID then plan
  else
    let verdict := attributeMeetTarget (gt.meetCandidate node) ourIDs
    let skip : MeetSkip := ⟨node.podName, node.podIP, node.nodeID, verdict⟩
    if verdict.admissibleWhenConfirmed then
      { plan with
        targets := plan.targets ++ [node]
        unattributed := if verdict.allowed then plan.unattributed else plan.unattributed ++ [skip] }
    else { plan with skipped := plan.skipped ++ [skip] }

/-- Plan the introductions of one pass, in the order of the pod names. -/
def ClusterGroundTruth.planPartitionMeets (gt : ClusterGroundTruth) : MeetPlan :=
  let ourIDs := (gt.nodes.values.filter fun node => node.reachable && node.nodeID != "").map
    ClusterNodeState.nodeID
  match gt.getLargestPartitionSeed with
  | none => ⟨none, .denyUnidentified, [], [], []⟩
  | some seed =>
    let verdict := attributeMeetTarget (gt.meetCandidate seed) ourIDs
    if verdict.admissibleWhenConfirmed then
      let names := gt.nodes.keys.mergeSort fun a b => decide (a ≤ b)
      (names.filterMap gt.nodes.lookup).foldl (gt.judgeMeetTarget seed ourIDs)
        ⟨some seed, verdict, [], [], []⟩
    else ⟨none, verdict, [], [], []⟩

end LittleRed.Cluster
