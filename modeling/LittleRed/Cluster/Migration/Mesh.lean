import LittleRed.Cluster.Migration.Facts

/-!
# A mesh that is migrated

The old pods are members of one mesh. The new pods come up some passes after their StatefulSets were created,
each as an empty master of its own. A pod that is introduced joins the mesh, one that is attached follows its
master and is in sync some passes later, and one that is promoted gets the slots of its master, which follows
it with its other replicas. How many passes a pod takes to come up or to be in sync is left open.
-/

namespace LittleRed.Cluster

open Lib List

/-- The evidence about an address from what is answered there to `CLUSTER NODES`. -/
def meetCandidateFromNodes (podIP nodeID : String) (view : List ClusterNodeInfo) : MeetCandidate :=
  let nodeID :=
    if nodeID = "" then
      ((view.find? fun line => line.flags.contains "myself").map ClusterNodeInfo.nodeID).getD ""
    else nodeID
  { podIP := podIP
    nodeID := nodeID
    identified := nodeID != ""
    viewKnown := nodeID != ""
    knownIDs := (view.filter fun line => !nodeFlagsFailed line.flags).map ClusterNodeInfo.nodeID }

namespace Migration

structure PodIdentity where
  podName : String
  ip : String
  nodeID : String
  deriving DecidableEq

/-- The passes until it is up, whether it joined, whether it follows and whom, its slots, and the passes
until it is in sync. -/
structure NodeState where
  boot : ℕ
  met : Bool
  replica : Bool
  masterNodeID : String
  slots : List String
  link : ℕ
  deriving DecidableEq

structure Member extends PodIdentity, NodeState
  deriving DecidableEq

namespace Member

/-- The pod with another state. -/
def set (m : Member) (node : NodeState) : Member :=
  { toPodIdentity := m.toPodIdentity, toNodeState := node }

def up (m : Member) : Bool := m.boot == 0

def role (m : Member) : Role := if m.replica then .replica else .master

/-- The link it reports. -/
def linkStatus (m : Member) : LinkStatus :=
  if m.replica then if m.link = 0 then .up else .down else .unknown

/-- What a pass sees of it. -/
def view (m : Member) : ClusterNodeState :=
  ⟨m.podName, m.ip, m.nodeID, m.slots, m.role, m.masterNodeID, m.linkStatus, true⟩

/-- Its line in the answer of another one. -/
def lineOf (observer m : Member) : ClusterNodeInfo where
  nodeID := m.nodeID
  flags := (if m.nodeID = observer.nodeID then ["myself"] else []) ++ [if m.replica then "slave" else "master"]
  masterID := m.masterNodeID
  slots := m.slots

end Member

/-- Pods with different names, addresses and node IDs. The addresses can be dialled. -/
@[ext]
structure Mesh where
  members : List Member
  podName_nodup : (members.map fun m => m.podName).Nodup
  ip_nodup : (members.map fun m => m.ip).Nodup
  nodeID_nodup : (members.map fun m => m.nodeID).Nodup
  ip_ne : ∀ m ∈ members, m.ip ≠ ""
  ip_plain : ∀ m ∈ members, ':' ∉ m.ip.toList
  nodeID_ne : ∀ m ∈ members, m.nodeID ≠ ""

namespace Mesh

/-- Change the state of every pod. -/
def update (mesh : Mesh) (f : Member → NodeState) : Mesh where
  members := mesh.members.map fun m => m.set (f m)
  podName_nodup := by
    rw [map_map]
    exact mesh.podName_nodup
  ip_nodup := by
    rw [map_map]
    exact mesh.ip_nodup
  nodeID_nodup := by
    rw [map_map]
    exact mesh.nodeID_nodup
  ip_ne := forall_mem_map.mpr mesh.ip_ne
  ip_plain := forall_mem_map.mpr mesh.ip_plain
  nodeID_ne := forall_mem_map.mpr mesh.nodeID_ne

/-- The members that are kept. -/
def keep (mesh : Mesh) (p : Member → Bool) : Mesh where
  members := mesh.members.filter p
  podName_nodup := mesh.podName_nodup.sublist (filter_sublist.map _)
  ip_nodup := mesh.ip_nodup.sublist (filter_sublist.map _)
  nodeID_nodup := mesh.nodeID_nodup.sublist (filter_sublist.map _)
  ip_ne := fun m hm => mesh.ip_ne m (mem_of_mem_filter hm)
  ip_plain := fun m hm => mesh.ip_plain m (mem_of_mem_filter hm)
  nodeID_ne := fun m hm => mesh.nodeID_ne m (mem_of_mem_filter hm)

def upMembers (mesh : Mesh) : List Member := mesh.members.filter Member.up

/-- The pods that are listed. -/
def podList (mesh : Mesh) : MigPodList where
  pods := mesh.upMembers.map fun m => ⟨m.podName, m.ip, true⟩
  names_nodup := by
    rw [map_map]
    exact mesh.podName_nodup.sublist (filter_sublist.map _)

/-- What a node lists: the mesh if it has joined it, else itself. -/
def clusterNodes (mesh : Mesh) (observer : Member) : List ClusterNodeInfo :=
  if observer.met then (mesh.upMembers.filter fun m => m.met).map observer.lineOf
  else [observer.lineOf observer]

/-- What is answered at an address. -/
def replies (mesh : Mesh) (ip : String) : ProbeReplies :=
  match mesh.upMembers.find? fun m => m.ip == ip with
  | none => ⟨none, none, none, none⟩
  | some m => ⟨some m.nodeID, some m.linkStatus, some ⟨"ok", totalSlots⟩, some (mesh.clusterNodes m)⟩

/-- What is gathered. -/
def gathered (mesh : Mesh) : ClusterGroundTruth :=
  gatherClusterGroundTruth mesh.podList.clusterPods mesh.replies

/-- The pod at an address joins the mesh. -/
def meet (mesh : Mesh) (ip : String) : Mesh :=
  mesh.update fun m => if m.ip = ip then { m.toNodeState with met := true } else m.toNodeState

/-- A node follows a master, and is in sync after a delay. -/
def follow (node : NodeState) (masterID : String) (delay : ℕ) : NodeState :=
  { node with replica := true, masterNodeID := masterID, link := delay }

/-- `CLUSTER REPLICATE`: refused by a node that has slots or does not know the master. -/
def replicate (mesh : Mesh) (addr masterID : String) (delay : String → ℕ) : Mesh :=
  mesh.update fun m =>
    if addrOf m.ip = addr ∧ m.up ∧ m.slots = [] ∧ (mesh.clusterNodes m).any (·.nodeID == masterID) then
      follow m.toNodeState masterID (delay m.nodeID)
    else m.toNodeState

/-- What becomes of a node when a replica takes over from its master. -/
def takeOver (replica owner m : Member) (delay : String → ℕ) : NodeState :=
  if m.nodeID = replica.nodeID then
    { m.toNodeState with replica := false, masterNodeID := "-", slots := owner.slots }
  else if m.nodeID = owner.nodeID then
    follow { m.toNodeState with slots := [] } replica.nodeID (delay m.nodeID)
  else if m.replica ∧ m.masterNodeID = owner.nodeID then
    follow m.toNodeState replica.nodeID (delay m.nodeID)
  else m.toNodeState

/-- `CLUSTER FAILOVER`, refused unless the node is in sync with its master; a takeover does not ask the
master. -/
def failover (mesh : Mesh) (addr : String) (force : Bool) (delay : String → ℕ) : Mesh :=
  match mesh.upMembers.find? fun m => addrOf m.ip == addr with
  | none => mesh
  | some replica =>
    match mesh.members.find? fun m => m.nodeID == replica.masterNodeID with
    | none => mesh
    | some owner =>
      if replica.replica ∧ (force ∨ (owner.up ∧ replica.link = 0)) then
        mesh.update fun m => takeOver replica owner m delay
      else mesh

end Mesh

/-- The instance and its new shape, in machine integers. -/
structure Setup where
  name : String
  shards : ℕ
  replicasPerShard : ℕ
  shards_lt : shards < 2 ^ 63
  replicasPerShard_lt : replicasPerShard < 2 ^ 63

/-- The mesh, and whether the new StatefulSets were created. -/
structure State where
  mesh : Mesh
  created : Bool

/-- The orders of the loops, and the delays of nodes that follow a new master. -/
structure PassEnv where
  orders : PlanOrders
  delay : String → ℕ

/-- The host of an address; without a port, the whole address. -/
def hostOf (addr : String) : String :=
  match splitText ':' addr with
  | [host, _] => host
  | _ => addr

/-- The API server has a pod with the name and the address. -/
def confirmPodIP (mesh : Mesh) (podName ip : String) : Bool :=
  podName != "" && ip != "" && mesh.upMembers.any fun m => m.podName == podName && m.ip == ip

section Pass

variable (setup : Setup)

/-- What a pass sees and knows. -/
def State.view (s : State) : ClusterGroundTruth × LegacyFacts :=
  migrationView s.mesh.podList s.mesh.replies setup.name

/-- The plan of a pass. -/
def State.plan (s : State) (orders : PlanOrders) : MigrationPlan :=
  planClusterMigration orders (s.view setup).1 setup.shards setup.replicasPerShard setup.name (s.view setup).2

/-- Introduce one pod, if its address is confirmed and it answers. -/
def executeMeet (gt : ClusterGroundTruth) (facts : LegacyFacts) (mesh : Mesh) (addr : String) : Mesh :=
  let ourIDs := (gt.nodes.values.filter fun node => node.reachable && node.nodeID != "").map
    ClusterNodeState.nodeID
  let podNameOfAddr : GoMap String String :=
    GoMap.ofPairs (facts.newPodAddrs.entries.map fun entry => (entry.2, entry.1))
  let host := hostOf addr
  if confirmPodIP mesh ((podNameOfAddr.lookup addr).getD "") host then
    let candidate :=
      match (mesh.replies host).clusterNodes with
      | some view => meetCandidateFromNodes host "" view
      | none => ⟨host, "", false, false, []⟩
    if (attributeMeetTarget candidate ourIDs).admissibleWhenConfirmed then mesh.meet host else mesh
  else mesh

/-- Attach one pod, unless it has no address or would follow itself. -/
def executeReplicate (gt : ClusterGroundTruth) (delay : String → ℕ) (mesh : Mesh) (attach : ReplicaAttach) :
    Mesh :=
  let selfID : GoMap String String := GoMap.ofPairs <|
    (gt.nodes.values.filter fun node => node.podIP != "").map fun node => (addrOf node.podIP, node.nodeID)
  if attach.replicaAddr = "" then mesh
  else if (selfID.lookup attach.replicaAddr).getD "" = attach.masterID then mesh
  else mesh.replicate attach.replicaAddr attach.masterID delay

/-- Promote one pod, if it has an address. -/
def executeFailover (delay : String → ℕ) (mesh : Mesh) (action : FailoverAction) : Mesh :=
  if action.addr = "" then mesh else mesh.failover action.addr action.force delay

/-- Carry a plan out; forgotten nodes leave the mesh, and old pods go with their StatefulSet. -/
def executeMigrationPhase (env : PassEnv) (s : State) (plan : MigrationPlan) : State :=
  match plan.phase with
  | .standup => { s with created := true }
  | .meet =>
    { s with mesh := plan.meets.foldl (executeMeet (s.view setup).1 (s.view setup).2) s.mesh }
  | .replicate =>
    { s with mesh := plan.replicates.foldl (executeReplicate (s.view setup).1 env.delay) s.mesh }
  | .failover => { s with mesh := plan.failovers.foldl (executeFailover env.delay) s.mesh }
  | .decommission =>
    let forgotten := s.mesh.update fun m =>
      if plan.forgets.contains m.nodeID then { m.toNodeState with met := false } else m.toNodeState
    { s with
      mesh :=
        if plan.deleteLegacy then forgotten.keep fun m => !isLegacyClusterPod m.podName setup.name
        else forgotten }
  | .complete | .unset => s

/-- Time passes: pods come up once they were created, and links too. -/
def State.tick (s : State) : State :=
  { s with
    mesh := s.mesh.update fun m =>
      { m.toNodeState with boot := if s.created then m.boot - 1 else m.boot, link := m.link - 1 } }

/-- One pass. -/
def pass (env : PassEnv) (s : State) : State :=
  (executeMigrationPhase setup env s (s.plan setup env.orders)).tick

/-- The state after a number of passes. -/
def run (envs : ℕ → PassEnv) (s : State) : ℕ → State
  | 0 => s
  | n + 1 => pass setup (envs n) (run envs s n)

end Pass

end Migration

end LittleRed.Cluster
