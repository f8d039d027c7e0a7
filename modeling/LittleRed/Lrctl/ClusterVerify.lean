import LittleRed.Cluster.Colocation

/-!
# The two verdicts of lrctl on a cluster

`lrctl verify` renders its verdict on a cluster as text, with an exit code, and as JSON, with a flag. The
text expects a node for every pod and fails when a replica follows a master in another shard; the JSON
expects as many nodes as were gathered, and does not look at the shards. Otherwise the two agree.
-/

namespace LittleRed.Lrctl

open Lib Cluster List GoMap

/-- A pod of a cluster; its address is empty while it is pending. -/
structure ClusterPod where
  name : String
  ip : String

/-- The pods of a cluster. No two have the same name. -/
structure ClusterPodList where
  items : List ClusterPod
  distinct : (items.map (·.name)).Nodup

namespace ClusterPodList

variable (pods : ClusterPodList)

/-- The pods that have an address. -/
def addressed : List (String × String) :=
  pods.items.filterMap fun p => if p.ip = "" then none else some (p.ip, p.name)

/-- A pod is addressed by what the list shows. -/
theorem mem_addressed_iff {ip name : String} :
    (ip, name) ∈ pods.addressed ↔ ip ≠ "" ∧ ⟨name, ip⟩ ∈ pods.items := by
  rw [addressed, mem_filterMap]
  constructor
  · intro h
    obtain ⟨p, hp, hsome⟩ := h
    split at hsome
    · cases hsome
    rename_i hip
    obtain ⟨rfl, rfl⟩ := Prod.mk.inj (Option.some.inj hsome)
    exact ⟨hip, hp⟩
  · intro h
    exact ⟨⟨name, ip⟩, h.2, if_neg h.1⟩

/-- The pods by address, in the order in which a loop visits them. -/
def clusterPods (order : RangeOrder (Σ _ : String, String)) : ClusterPods where
  names := (GoMap.ofPairs pods.addressed).reordered order
  names_nodup := by
    rw [(values_reordered _ order).nodup_iff]
    apply List.Nodup.map_on
    · intro a ha b hb hname
      have hpair := fun (entry : Σ _ : String, String) (h : entry ∈ (GoMap.ofPairs pods.addressed).entries) =>
        (pods.mem_addressed_iff.mp (mem_of_lookup_ofPairs (AList.mem_lookup_iff.mpr h))).2
      have hsame := inj_on_of_nodup_map pods.distinct (hpair a ha) (hpair b hb) hname
      rw [ClusterPod.mk.injEq] at hsame
      exact Sigma.ext hsame.2 (heq_of_eq hsame.1)
    · exact List.NodupKeys.nodup (GoMap.ofPairs pods.addressed).nodupKeys

end ClusterPodList

/-- A node in the JSON. -/
structure ClusterNodeVerifyJSON where
  podName : String
  podIP : String
  nodeID : String
  role : Role
  masterNodeID : String
  slots : List String
  linkStatus : LinkStatus
  reachable : Bool
  deriving DecidableEq

/-- A declared operation in the JSON. -/
structure OperationJSON where
  name : String
  startedAt : ℤ
  reason : String
  pending : List String
  message : String
  needsAction : Bool
  deriving DecidableEq

/-- The verdict as JSON. -/
structure ClusterVerifyJSON where
  name : String
  namespaceName : String
  mode : String
  clusterState : String
  totalSlots : ℤ
  ghostNodes : List String
  partitions : List (List String)
  nodes : List ClusterNodeVerifyJSON
  healthy : Bool
  operation : Option OperationJSON := none
  deriving DecidableEq

/-- The JSON of a gathered cluster. It expects the nodes and masters that were gathered. -/
def buildClusterVerifyJSON (name namespaceName : String) (gt : ClusterGroundTruth) : ClusterVerifyJSON where
  name := name
  namespaceName := namespaceName
  mode := "cluster"
  clusterState := gt.clusterState
  totalSlots := gt.totalSlots
  ghostNodes := gt.ghostNodes
  partitions := gt.partitions
  nodes := gt.nodes.values.map fun n =>
    ⟨n.podName, n.podIP, n.nodeID, n.role, if n.masterNodeID = "-" then "" else n.masterNodeID, n.slots,
      n.linkStatus, n.reachable⟩
  healthy := gt.isHealthy gt.nodes.values.length gt.countMasters

/-- An operation that needs somebody to act makes the instance unhealthy. -/
def ClusterVerifyJSON.applyOperation (json : ClusterVerifyJSON) (op : Option OperationJSON) :
    ClusterVerifyJSON :=
  { json with
    operation := op
    healthy := if op.any (·.needsAction) then false else json.healthy }

/-- The verdict as an exit code. It expects a node for each pod, and each shard in one place. -/
def verifyCluster (namespaceName name : String) (pods : List ClusterPod) (gt : ClusterGroundTruth) :
    Except String Unit :=
  if !gt.isHealthy pods.length gt.countMasters || !gt.checkShardColocation.isEmpty then
    .error ("cluster " ++ namespaceName ++ "/" ++ name ++ " has topology or health issues")
  else .ok ()

/-- Every replica is in the shard of its master, where both have one. -/
def Colocated (gt : ClusterGroundTruth) : Prop :=
  ∀ node ∈ gt.nodes.values, node.role = .replica →
    ∀ master, gt.byID.lookup node.masterNodeID = some master →
      ∀ shard, shardIndexFromPodName node.podName = some shard →
        ∀ masterShard, shardIndexFromPodName master.podName = some masterShard → shard = masterShard

section Verdicts

variable {gt : ClusterGroundTruth} {pods : ClusterPodList}

/-- Nothing is found about a node in its shard. -/
theorem colocationTurn_eq_none_iff {node : ClusterNodeState} :
    gt.colocationTurn node = none ↔
      (node.role = .replica → ∀ master, gt.byID.lookup node.masterNodeID = some master →
        ∀ shard, shardIndexFromPodName node.podName = some shard →
          ∀ masterShard, shardIndexFromPodName master.podName = some masterShard → shard = masterShard) := by
  unfold ClusterGroundTruth.colocationTurn
  by_cases hrole : node.role = .replica
  · rw [if_pos hrole]
    cases hmaster : gt.byID.lookup node.masterNodeID with
    | none => simp
    | some master =>
      cases hshard : shardIndexFromPodName node.podName with
      | none => simp
      | some shard =>
        cases hmasterShard : shardIndexFromPodName master.podName with
        | none => simp [hmasterShard]
        | some masterShard => simp [hmasterShard, hrole]
  · simp [hrole]

/-- Nothing is found when all are. -/
theorem checkShardColocation_eq_nil_iff : gt.checkShardColocation = [] ↔ Colocated gt := by
  have hsorted : gt.checkShardColocation = [] ↔ gt.nodes.values.filterMap gt.colocationTurn = [] := by
    rw [ClusterGroundTruth.checkShardColocation, ← length_eq_zero_iff, ← length_eq_zero_iff,
      length_insertionSort]
  rw [hsorted, filterMap_eq_nil_iff]
  constructor
  · intro h node hnode
    exact colocationTurn_eq_none_iff.mp (h node hnode)
  · intro h node hnode
    exact colocationTurn_eq_none_iff.mpr (h node hnode)

/-- A healthy state is that for one number of nodes. -/
theorem isHealthy_expected_iff {expected shards : ℕ} (h : gt.isHealthy gt.nodes.values.length shards = true) :
    gt.isHealthy expected shards = true ↔ expected = gt.nodes.values.length := by
  constructor
  · intro hexpected
    unfold ClusterGroundTruth.isHealthy at h hexpected
    by_cases hids : gt.allNodeIDs.length = gt.nodes.values.length
    · by_cases hids' : gt.allNodeIDs.length = expected
      · omega
      · simp [hids'] at hexpected
    · simp [hids] at h
  · intro hexpected
    rwa [hexpected]

/-- One node is gathered for each address. -/
theorem length_gather_nodes (pods : ClusterPods) (replies : String → ProbeReplies) :
    (gatherClusterGroundTruth pods replies).nodes.values.length = pods.names.entries.length := by
  have hnodes : (gatherClusterGroundTruth pods replies).nodes.values.length =
      (GoMap.ofPairs ((gatherNodeIdentities pods replies).map fun node =>
        (node.podName, node))).values.length := by
    change (((GoMap.ofPairs _).mapValues _).entries.map Sigma.snd).length = _
    rw [GoMap.mapValues, GoMap.values, length_map, length_map, length_map]
  rw [hnodes, (values_ofPairs_perm (gatherNodeIdentities_nodup pods replies)).length_eq,
    gatherNodeIdentities, length_map, length_map, length_map]

/-- All pods are addressed when each has an address. -/
theorem length_addressed_eq_items_iff (pods : ClusterPodList) :
    pods.addressed.length = pods.items.length ↔ ∀ p ∈ pods.items, p.ip ≠ "" := by
  rw [ClusterPodList.addressed, filterMap_length_eq_length]
  constructor
  · intro h p hp hip
    have hsome := h p hp
    rw [if_pos hip] at hsome
    cases hsome
  · intro h p hp
    rw [if_neg (h p hp)]
    rfl

/-- Then the addresses are those of the list. -/
theorem map_fst_addressed (h : ∀ p ∈ pods.items, p.ip ≠ "") :
    pods.addressed.map Prod.fst = pods.items.map (·.ip) := by
  have hmap : pods.addressed = pods.items.map fun p => (p.ip, p.name) := by
    rw [ClusterPodList.addressed, ← filterMap_eq_map]
    apply filterMap_congr
    intro p hp
    exact if_neg (h p hp)
  rw [hmap, map_map]
  rfl

/-- As many addresses as pods means one for each. -/
theorem length_addressed_eq_iff (pods : ClusterPodList) :
    pods.items.length = (GoMap.ofPairs pods.addressed).entries.length ↔
      (∀ p ∈ pods.items, p.ip ≠ "") ∧ (pods.items.map (·.ip)).Nodup := by
  have hle := length_entries_ofPairs_le pods.addressed
  have hadded : pods.addressed.length ≤ pods.items.length := length_filterMap_le _ _
  constructor
  · intro hlength
    have haddressed := (length_addressed_eq_items_iff pods).mp (by omega)
    have hnodup := (length_entries_ofPairs_eq_iff pods.addressed).mp (by omega)
    rw [map_fst_addressed haddressed] at hnodup
    exact ⟨haddressed, hnodup⟩
  · rintro ⟨haddressed, hnodup⟩
    rw [← map_fst_addressed haddressed] at hnodup
    have hentries := (length_entries_ofPairs_eq_iff pods.addressed).mpr hnodup
    have hlength := (length_addressed_eq_items_iff pods).mpr haddressed
    omega

/-- The exit code is that of a healthy state with all replicas in their shards. -/
theorem verifyCluster_ok_iff {namespaceName name : String} {items : List ClusterPod} :
    verifyCluster namespaceName name items gt = .ok () ↔
      gt.isHealthy items.length gt.countMasters = true ∧ Colocated gt := by
  rw [← checkShardColocation_eq_nil_iff, verifyCluster]
  cases hhealthy : gt.isHealthy items.length gt.countMasters with
  | false => simp
  | true =>
    cases hviolations : gt.checkShardColocation with
    | nil | cons => simp

/-- The flag is that of the gathered nodes. -/
theorem isHealthy_of_json {name namespaceName : String} {op : Option OperationJSON}
    (h : ((buildClusterVerifyJSON name namespaceName gt).applyOperation op).healthy = true) :
    gt.isHealthy gt.nodes.values.length gt.countMasters = true := by
  unfold ClusterVerifyJSON.applyOperation at h
  dsimp only at h
  split at h
  · cases h
  · exact h

/-- When the JSON says healthy, the exit code agrees exactly if every pod has its own address and every
replica is in its shard. -/
theorem verifyCluster_agrees_iff (name namespaceName : String) (pods : ClusterPodList)
    (order : RangeOrder (Σ _ : String, String)) (replies : String → ProbeReplies) (op : Option OperationJSON)
    (hhealthy : ((buildClusterVerifyJSON name namespaceName
      (gatherClusterGroundTruth (pods.clusterPods order) replies)).applyOperation op).healthy = true) :
    verifyCluster namespaceName name pods.items
        (gatherClusterGroundTruth (pods.clusterPods order) replies) = .ok () ↔
      ((∀ p ∈ pods.items, p.ip ≠ "") ∧ (pods.items.map (·.ip)).Nodup) ∧
        Colocated (gatherClusterGroundTruth (pods.clusterPods order) replies) := by
  have hnames : (pods.clusterPods order).names.entries.length =
      (GoMap.ofPairs pods.addressed).entries.length :=
    (order.perm (GoMap.ofPairs pods.addressed).entries).length_eq
  rw [verifyCluster_ok_iff, isHealthy_expected_iff (isHealthy_of_json hhealthy), length_gather_nodes, hnames,
    length_addressed_eq_iff]

end Verdicts

/-- The answers of a master and its replica. -/
def pairReplies (ip : String) : ProbeReplies :=
  let lines : List ClusterNodeInfo :=
    [⟨"aa", ["master"], "-", ["0-16383"]⟩, ⟨"bb", ["slave"], "aa", []⟩]
  if ip = "10.0.0.1" then ⟨some "aa", none, some ⟨"ok", 16384⟩, some lines⟩
  else ⟨some "bb", some .up, some ⟨"ok", 16384⟩, some lines⟩

def shardPods : ClusterPodList where
  items := [⟨"lr-shard-0-0", "10.0.0.1"⟩, ⟨"lr-shard-0-1", "10.0.0.2"⟩]
  distinct := by decide

/-- For a shard of two pods with their addresses the two agree that all is well. -/
theorem shardPods_agree :
    let gt := gatherClusterGroundTruth (shardPods.clusterPods .asGiven) pairReplies
    ((buildClusterVerifyJSON "lr" "prod" gt).applyOperation none).healthy = true ∧
      verifyCluster "prod" "lr" shardPods.items gt = .ok () := by
  have hhealthy : ((buildClusterVerifyJSON "lr" "prod" (gatherClusterGroundTruth
      (shardPods.clusterPods .asGiven) pairReplies)).applyOperation none).healthy = true := by
    decide
  have hcolocated : Colocated (gatherClusterGroundTruth (shardPods.clusterPods .asGiven) pairReplies) :=
    checkShardColocation_eq_nil_iff.mp (by decide)
  exact ⟨hhealthy, (verifyCluster_agrees_iff "lr" "prod" shardPods .asGiven pairReplies none hhealthy).mpr
    ⟨⟨by decide, by decide⟩, hcolocated⟩⟩

def pendingPods : ClusterPodList where
  items := [⟨"lr-shard-0-0", "10.0.0.1"⟩, ⟨"lr-shard-0-1", "10.0.0.2"⟩, ⟨"lr-shard-0-2", ""⟩]
  distinct := by decide

/-- The replica is in another shard. -/
def strayPods : ClusterPodList where
  items := [⟨"lr-shard-0-0", "10.0.0.1"⟩, ⟨"lr-shard-1-0", "10.0.0.2"⟩]
  distinct := by decide

/-- With either the JSON says healthy and the exit code fails. -/
theorem pendingPods_disagree :
    let healthy := fun pods : ClusterPodList =>
      ((buildClusterVerifyJSON "lr" "prod" (gatherClusterGroundTruth (pods.clusterPods .asGiven)
        pairReplies)).applyOperation none).healthy
    let verified := fun pods : ClusterPodList =>
      verifyCluster "prod" "lr" pods.items (gatherClusterGroundTruth (pods.clusterPods .asGiven) pairReplies)
    (healthy pendingPods = true ∧ verified pendingPods =
      .error "cluster prod/lr has topology or health issues") ∧
    (healthy strayPods = true ∧ verified strayPods =
      .error "cluster prod/lr has topology or health issues") := by
  decide

end LittleRed.Lrctl
