import LittleRed.Cluster.GroundTruth

/-!
# Gathering the view

One pass asks every pod for its node ID and, where it answers, for its replication state, its `CLUSTER INFO`
and its `CLUSTER NODES`. Every question may go unanswered. A pod's own line gives its role and slots, an ID
without an answering pod is a ghost, and the answering nodes fall into partitions along the views.
-/

namespace LittleRed.Cluster

open Lib

/-- One line of `CLUSTER NODES`. -/
structure ClusterNodeInfo where
  nodeID : String
  flags : List String
  masterID : String
  slots : List String
  deriving DecidableEq

def ClusterNodeInfo.isReplica (line : ClusterNodeInfo) : Bool := line.flags.contains "slave"

/-- The node is failed or unknown. -/
def nodeFlagsFailed (flags : List String) : Bool :=
  flags.any fun flag => flag == "fail" || flag == "noaddr" || flag == "handshake"

/-- The fields of `CLUSTER INFO` that the merge reads. -/
structure ClusterInfo where
  state : String
  slotsAssigned : ℤ
  deriving DecidableEq

/-- What one pod answers to the questions of one gather; `none` is a failed probe. -/
structure ProbeReplies where
  clusterID : Option String
  linkStatus : Option LinkStatus
  clusterInfo : Option ClusterInfo
  clusterNodes : Option (List ClusterNodeInfo)
  deriving DecidableEq

/-- The pods of an instance by their address; each pod is listed under one address. -/
structure ClusterPods where
  names : GoMap String String
  names_nodup : names.values.Nodup

/-- The node of a pod by its answer. -/
def identifyNode (ip podName : String) (replies : ProbeReplies) : ClusterNodeState :=
  match replies.clusterID with
  | none => unreachableNode podName ip
  | some id =>
    { unreachableNode podName ip with
      nodeID := id
      linkStatus := replies.linkStatus.getD .unknown
      reachable := true }

/-- The nodes of all pods. -/
def gatherNodeIdentities (pods : ClusterPods) (replies : String → ProbeReplies) :
    List ClusterNodeState :=
  pods.names.entries.map fun entry => identifyNode entry.1 entry.2 (replies entry.1)

/-- One node's contribution to the merged topology. -/
structure TopoView where
  info : Option ClusterInfo
  seenIDs : List String
  known : List String
  hasNodes : Bool

/-- Read one line of a node's view: its own line gives its role, slots and master. -/
def readNodeLine (node : ClusterNodeState) (line : ClusterNodeInfo) : ClusterNodeState :=
  if line.nodeID = node.nodeID then
    { node with
      slots := line.slots
      role := if line.isReplica then .replica else .master
      masterNodeID := line.masterID }
  else node

/-- Query one node's topology and fold its own role and slots in. -/
def probeNodeTopology (replies : ProbeReplies) (node : ClusterNodeState) :
    ClusterNodeState × TopoView :=
  match replies.clusterNodes with
  | none => (node, ⟨replies.clusterInfo, [], [], false⟩)
  | some lines =>
    (lines.foldl readNodeLine node,
      { info := replies.clusterInfo
        seenIDs := lines.map ClusterNodeInfo.nodeID
        known := (lines.filter fun line => !nodeFlagsFailed line.flags).map ClusterNodeInfo.nodeID
        hasNodes := true })

/-- Merge one node's `CLUSTER INFO` and the node IDs it has seen. -/
def mergeView (gt : ClusterGroundTruth) (view : TopoView) : ClusterGroundTruth :=
  let gt :=
    match view.info with
    | none => gt
    | some info =>
      { gt with
        clusterState :=
          if info.state = "ok" then "ok"
          else if gt.clusterState = "" ∨ gt.clusterState = "unknown" then info.state
          else gt.clusterState
        totalSlots := if gt.totalSlots < info.slotsAssigned then info.slotsAssigned else gt.totalSlots }
  { gt with allNodeIDs := view.seenIDs.foldl (fun ids id => ids.insert id) gt.allNodeIDs }

/-- Query the topology of all reachable nodes, fold their roles in, and merge their views. -/
def gatherTopology (replies : String → ProbeReplies) (gt : ClusterGroundTruth) :
    ClusterGroundTruth :=
  let reachable := gt.nodes.values.filter ClusterNodeState.reachable
  let views := reachable.map fun node => (node.nodeID, (probeNodeTopology (replies node.podIP) node).2)
  let merged := (views.map Prod.snd).foldl mergeView gt
  { merged with
    nodes := gt.nodes.mapValues fun _ node =>
      if node.reachable then (probeNodeTopology (replies node.podIP) node).1 else node
    knownNodes := GoMap.ofPairs <| (views.filter fun view => view.2.hasNodes).map fun view =>
      (view.1, view.2.known) }

/-- Enqueue a live neighbour that is new. -/
def visitNeighbor (live : String → Bool) (front : List String × List String) (neighbor : String) :
    List String × List String :=
  if live neighbor && !front.2.contains neighbor then
    (front.1 ++ [neighbor], neighbor :: front.2)
  else front

/-- Work a queue off breadth-first; the result is the partition and the visited nodes. -/
def explore (live : String → Bool) (adj : String → List String) :
    ℕ → List String → List String → List String → List String × List String
  | 0, _, visited, partition => (partition, visited)
  | _ + 1, [], visited, partition => (partition, visited)
  | fuel + 1, curr :: queue, visited, partition =>
    let front := (adj curr).foldl (visitNeighbor live) (queue, visited)
    explore live adj fuel front.1 front.2 (partition ++ [curr])

/-- Search from a live node that no partition has; each is enqueued once, so their number bounds it. -/
def startPartition (live : List String) (adj : String → List String)
    (acc : List (List String) × List String) (id : String) : List (List String) × List String :=
  if acc.2.contains id then acc
  else
    let explored := explore live.contains adj live.length [id] (id :: acc.2) []
    (acc.1 ++ [explored.1], explored.2)

/-- Group the live nodes along their views. -/
def computePartitions (live : List String) (adj : String → List String) : List (List String) :=
  (live.foldl (startPartition live adj) ([], [])).1

/-- Build the view of one pass from the answers of the pods. -/
def gatherClusterGroundTruth (pods : ClusterPods) (replies : String → ProbeReplies) :
    ClusterGroundTruth :=
  let identities := gatherNodeIdentities pods replies
  let nodeIDtoPod : GoMap String String := GoMap.ofPairs <|
    (identities.filter ClusterNodeState.reachable).map fun node => (node.nodeID, node.podName)
  let gt := gatherTopology replies
    { newClusterGroundTruth with
      nodes := GoMap.ofPairs (identities.map fun node => (node.podName, node)) }
  { gt with
    ghostNodes := gt.allNodeIDs.filter fun id => (nodeIDtoPod.lookup id).isNone
    clusterState := if gt.clusterState = "" then "unknown" else gt.clusterState
    partitions := computePartitions nodeIDtoPod.keys fun id => (gt.knownNodes.lookup id).getD [] }

end LittleRed.Cluster
