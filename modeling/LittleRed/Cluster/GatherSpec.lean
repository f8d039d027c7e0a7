import LittleRed.Cluster.Gather
import Mathlib.Tactic.Tauto

/-!
# What the gathered view says about the pods

The nodes of the view are the pods, each with what it answered itself. The ghosts are the
node IDs that some answering pod lists and no pod answered with.
-/

namespace LittleRed.Cluster

open Lib List GoMap

/-- The node of a pod, from the pod's own answers. -/
def probedNode (ip podName : String) (replies : ProbeReplies) : ClusterNodeState :=
  let node := identifyNode ip podName replies
  if node.reachable then (probeNodeTopology replies node).1 else node

/-- A line does not change who the node is. -/
theorem readNodeLine_identity (node : ClusterNodeState) (line : ClusterNodeInfo) :
    (readNodeLine node line).podName = node.podName ∧ (readNodeLine node line).podIP = node.podIP ∧
      (readNodeLine node line).nodeID = node.nodeID ∧
      (readNodeLine node line).reachable = node.reachable := by
  unfold readNodeLine
  split <;> exact ⟨rfl, rfl, rfl, rfl⟩

theorem probeNodeTopology_identity (replies : ProbeReplies) (node : ClusterNodeState) :
    (probeNodeTopology replies node).1.podName = node.podName ∧
      (probeNodeTopology replies node).1.nodeID = node.nodeID ∧
      (probeNodeTopology replies node).1.reachable = node.reachable := by
  unfold probeNodeTopology
  cases replies.clusterNodes with
  | none => exact ⟨rfl, rfl, rfl⟩
  | some lines =>
    induction lines generalizing node with
    | nil => exact ⟨rfl, rfl, rfl⟩
    | cons line rest ih =>
      obtain ⟨hname, -, hid, hreachable⟩ := readNodeLine_identity node line
      obtain ⟨hname', hid', hreachable'⟩ := ih (readNodeLine node line)
      exact ⟨hname'.trans hname, hid'.trans hid, hreachable'.trans hreachable⟩

/-- The node has the ID that was answered. -/
theorem probedNode_nodeID (ip podName : String) (replies : ProbeReplies) :
    (probedNode ip podName replies).nodeID = replies.clusterID.getD "" ∧
      (probedNode ip podName replies).reachable = replies.clusterID.isSome := by
  unfold probedNode
  cases hid : replies.clusterID with
  | none => simp [identifyNode, hid, unreachableNode]
  | some id =>
    have hnode : (identifyNode ip podName replies).nodeID = id ∧
        (identifyNode ip podName replies).reachable = true := by simp [identifyNode, hid]
    obtain ⟨-, hid', hreachable⟩ :=
      probeNodeTopology_identity replies (identifyNode ip podName replies)
    rwa [if_pos hnode.2, hid', hreachable]

/-- The pods in the order of the gather, each with its address. -/
def ClusterPods.Listed (pods : ClusterPods) (ip podName : String) : Prop :=
  pods.names.lookup ip = some podName

/-- The identities are those of the listed pods. -/
theorem mem_gatherNodeIdentities (pods : ClusterPods) (replies : String → ProbeReplies)
    (node : ClusterNodeState) :
    node ∈ gatherNodeIdentities pods replies ↔
      ∃ ip podName, pods.Listed ip podName ∧ node = identifyNode ip podName (replies ip) := by
  unfold gatherNodeIdentities ClusterPods.Listed
  rw [mem_map]
  constructor
  · rintro ⟨⟨ip, podName⟩, hmem, rfl⟩
    exact ⟨ip, podName, AList.mem_lookup_iff.mpr hmem, rfl⟩
  · rintro ⟨ip, podName, hlookup, rfl⟩
    exact ⟨⟨ip, podName⟩, AList.mem_lookup_iff.mp hlookup, rfl⟩

theorem identifyNode_own (ip podName : String) (replies : ProbeReplies) :
    (identifyNode ip podName replies).podName = podName ∧ (identifyNode ip podName replies).podIP = ip := by
  unfold identifyNode
  split <;> exact ⟨rfl, rfl⟩

/-- Each pod is asked once. -/
theorem gatherNodeIdentities_nodup (pods : ClusterPods) (replies : String → ProbeReplies) :
    (((gatherNodeIdentities pods replies).map fun node => (node.podName, node)).map Prod.fst).Nodup := by
  have hnames : ((gatherNodeIdentities pods replies).map fun node => (node.podName, node)).map
      Prod.fst = pods.names.values := by
    unfold gatherNodeIdentities GoMap.values
    rw [map_map, map_map]
    refine map_congr_left fun entry _ => ?_
    exact (identifyNode_own entry.1 entry.2 (replies entry.1)).1
  rw [hnames]
  exact pods.names_nodup

theorem mem_identities_values (pods : ClusterPods) (replies : String → ProbeReplies)
    (node : ClusterNodeState) :
    node ∈ (GoMap.ofPairs ((gatherNodeIdentities pods replies).map fun node => (node.podName, node))).values ↔
      ∃ ip podName, pods.Listed ip podName ∧ node = identifyNode ip podName (replies ip) := by
  rw [mem_values_ofPairs (gatherNodeIdentities_nodup pods replies), ← mem_gatherNodeIdentities]
  constructor
  · rintro ⟨key, hpair⟩
    obtain ⟨identity, hidentity, hpair⟩ := mem_map.mp hpair
    obtain rfl := congrArg Prod.snd hpair
    exact hidentity
  · intro hidentity
    exact ⟨node.podName, mem_map.mpr ⟨node, hidentity, rfl⟩⟩

/-- The topology is asked where the identity was answered. -/
theorem probedNode_of_identity (ip podName : String) (replies : String → ProbeReplies) :
    (if (identifyNode ip podName (replies ip)).reachable then
        (probeNodeTopology (replies (identifyNode ip podName (replies ip)).podIP)
          (identifyNode ip podName (replies ip))).1
      else identifyNode ip podName (replies ip)) = probedNode ip podName (replies ip) := by
  rw [(identifyNode_own ip podName (replies ip)).2]
  rfl

variable {podName ip id : String}

/-- The node of a pod is what it answered. -/
theorem lookup_gather_nodes (pods : ClusterPods) (replies : String → ProbeReplies) {node : ClusterNodeState} :
    (gatherClusterGroundTruth pods replies).nodes.lookup podName = some node ↔
      ∃ ip, pods.Listed ip podName ∧ node = probedNode ip podName (replies ip) := by
  have hnodes : (gatherClusterGroundTruth pods replies).nodes.lookup podName = some node ↔
      ∃ identity, (podName, identity) ∈ (gatherNodeIdentities pods replies).map (fun node =>
          (node.podName, node)) ∧
        (if identity.reachable then (probeNodeTopology (replies identity.podIP) identity).1 else identity) =
          node :=
    lookup_mapValues_eq_some.trans (exists_congr fun identity => and_congr_left fun _ =>
      lookup_ofPairs_eq_some (gatherNodeIdentities_nodup pods replies))
  rw [hnodes]
  constructor
  · rintro ⟨identity, hmem, rfl⟩
    obtain ⟨identity', hidentity, hpair⟩ := mem_map.mp hmem
    obtain ⟨hname, rfl⟩ := Prod.mk.inj hpair
    obtain ⟨ip, podName', hlisted, rfl⟩ := (mem_gatherNodeIdentities pods replies identity').mp hidentity
    rw [(identifyNode_own ip podName' (replies ip)).1] at hname
    subst hname
    exact ⟨ip, hlisted, probedNode_of_identity ip podName' replies⟩
  · rintro ⟨ip, hlisted, rfl⟩
    have hidentity := (mem_gatherNodeIdentities pods replies _).mpr ⟨ip, podName, hlisted, rfl⟩
    refine ⟨_, mem_map.mpr ⟨_, hidentity, ?_⟩, probedNode_of_identity ip podName replies⟩
    rw [(identifyNode_own ip podName (replies ip)).1]

/-- The nodes are those of the listed pods. -/
theorem mem_gather_nodes (pods : ClusterPods) (replies : String → ProbeReplies) (node : ClusterNodeState) :
    node ∈ (gatherClusterGroundTruth pods replies).nodes.values ↔
      ∃ ip podName, pods.Listed ip podName ∧ node = probedNode ip podName (replies ip) := by
  constructor
  · intro hnode
    obtain ⟨podName, hlookup⟩ := exists_lookup_of_mem_values hnode
    obtain ⟨ip, hlisted, hprobed⟩ := (lookup_gather_nodes pods replies).mp hlookup
    exact ⟨ip, podName, hlisted, hprobed⟩
  · rintro ⟨ip, podName, hlisted, hprobed⟩
    exact mem_values_of_lookup ((lookup_gather_nodes pods replies).mpr ⟨ip, hlisted, hprobed⟩)

/-- The loop collects IDs. -/
theorem mem_foldl_insert (ids acc : List String) (id : String) :
    id ∈ ids.foldl (fun acc id => acc.insert id) acc ↔ id ∈ acc ∨ id ∈ ids := by
  induction ids generalizing acc with
  | nil => simp
  | cons first rest ih =>
    rw [foldl_cons, ih, mem_insert_iff, mem_cons]
    tauto

/-- The views are merged. -/
theorem mem_foldl_mergeView (views : List TopoView) (gt : ClusterGroundTruth) (id : String) :
    id ∈ (views.foldl mergeView gt).allNodeIDs ↔ id ∈ gt.allNodeIDs ∨ ∃ view ∈ views, id ∈ view.seenIDs := by
  induction views generalizing gt with
  | nil => simp
  | cons view rest ih =>
    have hids : (mergeView gt view).allNodeIDs =
        view.seenIDs.foldl (fun acc id => acc.insert id) gt.allNodeIDs := by
      unfold mergeView
      cases view.info <;> rfl
    rw [foldl_cons, ih, hids, mem_foldl_insert]
    simp [or_assoc]

/-- Some answering pod lists the node ID in its `CLUSTER NODES`. -/
def SeenID (pods : ClusterPods) (replies : String → ProbeReplies) (id : String) : Prop :=
  ∃ ip podName, pods.Listed ip podName ∧ (replies ip).clusterID.isSome ∧
    ∃ lines, (replies ip).clusterNodes = some lines ∧ ∃ line ∈ lines, line.nodeID = id

/-- A listed pod answered with the ID. -/
def AnsweredID (pods : ClusterPods) (replies : String → ProbeReplies) (id : String) : Prop :=
  ∃ ip podName, pods.Listed ip podName ∧ (replies ip).clusterID = some id

/-- A view has the IDs of its lines. -/
theorem mem_probe_seenIDs (replies : ProbeReplies) (node : ClusterNodeState) (id : String) :
    id ∈ (probeNodeTopology replies node).2.seenIDs ↔
      ∃ lines, replies.clusterNodes = some lines ∧ ∃ line ∈ lines, line.nodeID = id := by
  unfold probeNodeTopology
  cases replies.clusterNodes with
  | none | some => simp

theorem identifyNode_nodeID {replies : ProbeReplies}
    (hid : replies.clusterID = some id) : (identifyNode ip podName replies).nodeID = id := by
  simp [identifyNode, hid]

theorem identifyNode_reachable (ip podName : String) (replies : ProbeReplies) :
    (identifyNode ip podName replies).reachable = replies.clusterID.isSome := by
  unfold identifyNode
  split <;> simp_all [unreachableNode]

/-- All IDs that were seen are there. -/
theorem mem_gather_allNodeIDs (pods : ClusterPods) (replies : String → ProbeReplies) (id : String) :
    id ∈ (gatherClusterGroundTruth pods replies).allNodeIDs ↔ SeenID pods replies id := by
  let identities := GoMap.ofPairs ((gatherNodeIdentities pods replies).map fun node =>
    (node.podName, node))
  have hids : (gatherClusterGroundTruth pods replies).allNodeIDs =
      (((identities.values.filter ClusterNodeState.reachable).map fun node =>
        (node.nodeID, (probeNodeTopology (replies node.podIP) node).2)).map Prod.snd |>.foldl mergeView
          { newClusterGroundTruth with nodes := identities }).allNodeIDs := rfl
  rw [hids, mem_foldl_mergeView, map_map]
  constructor
  · rintro (hempty | ⟨view, hview, hseen⟩)
    · cases hempty
    · obtain ⟨node, hnode, rfl⟩ := mem_map.mp hview
      obtain ⟨hvalue, hreachable⟩ := mem_filter.mp hnode
      obtain ⟨ip, podName, hlisted, rfl⟩ := (mem_identities_values pods replies node).mp hvalue
      rw [identifyNode_reachable] at hreachable
      refine ⟨ip, podName, hlisted, hreachable, ?_⟩
      rwa [Function.comp_apply, mem_probe_seenIDs, (identifyNode_own ip podName (replies ip)).2] at hseen
  · rintro ⟨ip, podName, hlisted, hanswered, hseen⟩
    refine .inr ⟨_, mem_map.mpr ⟨identifyNode ip podName (replies ip), mem_filter.mpr
      ⟨(mem_identities_values pods replies _).mpr ⟨ip, podName, hlisted, rfl⟩, ?_⟩, rfl⟩, ?_⟩
    · rwa [identifyNode_reachable]
    · rwa [Function.comp_apply, mem_probe_seenIDs, (identifyNode_own ip podName (replies ip)).2]

/-- The reachable IDs are those answered. -/
theorem exists_identityPair_iff (pods : ClusterPods) (replies : String → ProbeReplies) (id : String) :
    (∃ podName, (id, podName) ∈ ((gatherNodeIdentities pods replies).filter ClusterNodeState.reachable).map
      fun node => (node.nodeID, node.podName)) ↔ AnsweredID pods replies id := by
  constructor
  · rintro ⟨podName, hpair⟩
    obtain ⟨node, hnode, hpair⟩ := mem_map.mp hpair
    obtain ⟨hidentity, hreachable⟩ := mem_filter.mp hnode
    obtain ⟨ip, podName', hlisted, rfl⟩ := (mem_gatherNodeIdentities pods replies node).mp hidentity
    rw [identifyNode_reachable] at hreachable
    obtain ⟨id', hid'⟩ := Option.isSome_iff_exists.mp hreachable
    obtain rfl : id' = id := (identifyNode_nodeID hid').symm.trans (congrArg Prod.fst hpair)
    exact ⟨ip, podName', hlisted, hid'⟩
  · rintro ⟨ip, podName, hlisted, hid⟩
    refine ⟨podName, mem_map.mpr ⟨identifyNode ip podName (replies ip), mem_filter.mpr ⟨?_, ?_⟩, ?_⟩⟩
    · exact (mem_gatherNodeIdentities pods replies _).mpr ⟨ip, podName, hlisted, rfl⟩
    · rw [identifyNode_reachable, hid]
      rfl
    · simp [identifyNode, hid, unreachableNode]

/-- Ghosts were seen but did not answer. -/
theorem mem_gather_ghostNodes (pods : ClusterPods) (replies : String → ProbeReplies) (id : String) :
    id ∈ (gatherClusterGroundTruth pods replies).ghostNodes ↔
      SeenID pods replies id ∧ ¬ AnsweredID pods replies id := by
  have hghosts : (gatherClusterGroundTruth pods replies).ghostNodes =
      (gatherClusterGroundTruth pods replies).allNodeIDs.filter fun id =>
        ((GoMap.ofPairs (((gatherNodeIdentities pods replies).filter ClusterNodeState.reachable).map
          fun node => (node.nodeID, node.podName))).lookup id).isNone := rfl
  rw [hghosts, mem_filter, mem_gather_allNodeIDs, lookup_ofPairs_isNone, ← not_exists,
    exists_identityPair_iff]

variable {replies : String → ProbeReplies} {pods : ClusterPods} {lines : List ClusterNodeInfo}

/-- The node IDs of the entries of a view that are not failed. -/
def liveIDs (view : List ClusterNodeInfo) : List String :=
  (view.filter fun line => !nodeFlagsFailed line.flags).map ClusterNodeInfo.nodeID

/-- A pod answers with this node ID and a view in which these nodes are alive. -/
def AnsweredView (pods : ClusterPods) (replies : String → ProbeReplies) (id : String)
    (live : List String) : Prop :=
  ∃ ip podName lines, pods.Listed ip podName ∧ (replies ip).clusterID = some id ∧
    (replies ip).clusterNodes = some lines ∧ liveIDs lines = live

/-- The views that the gather stores are those of the answering pods, each under the pod's node ID. -/
theorem exists_knownNodes (pods : ClusterPods) (replies : String → ProbeReplies) :
    ∃ pairs, (gatherClusterGroundTruth pods replies).knownNodes = GoMap.ofPairs pairs ∧
      ∀ id live, (id, live) ∈ pairs ↔ AnsweredView pods replies id live := by
  let identities := GoMap.ofPairs ((gatherNodeIdentities pods replies).map fun node => (node.podName, node))
  let views := (identities.values.filter ClusterNodeState.reachable).map fun node =>
    (node.nodeID, (probeNodeTopology (replies node.podIP) node).2)
  refine ⟨(views.filter fun view => view.2.hasNodes).map fun view => (view.1, view.2.known), rfl,
    fun id live => ?_⟩
  constructor
  · intro hmem
    obtain ⟨view, hview, hfound⟩ := mem_map.mp hmem
    obtain ⟨hin, hnodes⟩ := mem_filter.mp hview
    obtain ⟨node, hnode, rfl⟩ := mem_map.mp hin
    obtain ⟨hvalue, hreachable⟩ := mem_filter.mp hnode
    obtain ⟨ip, podName, hlisted, rfl⟩ := (mem_identities_values pods replies node).mp hvalue
    rw [identifyNode_reachable] at hreachable
    obtain ⟨id', hid⟩ := Option.isSome_iff_exists.mp hreachable
    obtain ⟨rfl, rfl⟩ := Prod.mk.inj hfound
    rw [(identifyNode_own ip podName (replies ip)).2] at hnodes ⊢
    rw [identifyNode_nodeID hid]
    cases hlines : (replies ip).clusterNodes with
    | none => simp [probeNodeTopology, hlines] at hnodes
    | some lines => exact ⟨ip, podName, lines, hlisted, hid, hlines,
        by simp only [probeNodeTopology, hlines, liveIDs]⟩
  · rintro ⟨ip, podName, lines, hlisted, hid, hlines, rfl⟩
    have hview : (id, (probeNodeTopology (replies ip) (identifyNode ip podName (replies ip))).2) ∈ views := by
      refine mem_map.mpr ⟨identifyNode ip podName (replies ip), mem_filter.mpr ⟨?_, ?_⟩, ?_⟩
      · exact (mem_identities_values pods replies _).mpr ⟨ip, podName, hlisted, rfl⟩
      · rw [identifyNode_reachable, hid]
        rfl
      · rw [identifyNode_nodeID hid, (identifyNode_own ip podName (replies ip)).2]
    refine mem_map.mpr ⟨_, mem_filter.mpr ⟨hview, ?_⟩, ?_⟩
    · simp [probeNodeTopology, hlines]
    · simp [probeNodeTopology, hlines, liveIDs]

/-- A pod that alone answers with its node ID has its view stored there. -/
theorem lookup_gather_knownNodes (hlisted : pods.Listed ip podName) (hid : (replies ip).clusterID = some id)
    (hunique : ∀ ip' podName', pods.Listed ip' podName' → (replies ip').clusterID = some id → ip' = ip)
    (hlines : (replies ip).clusterNodes = some lines) :
    (gatherClusterGroundTruth pods replies).knownNodes.lookup id = some (liveIDs lines) := by
  obtain ⟨pairs, hknown, hpairs⟩ := exists_knownNodes pods replies
  rw [hknown]
  refine lookup_ofPairs_of_agree ((hpairs id _).mpr ⟨ip, podName, lines, hlisted, hid, hlines, rfl⟩) ?_
  intro live hmem
  obtain ⟨ip', podName', lines', hlisted', hid', hlines', rfl⟩ := (hpairs id live).mp hmem
  obtain rfl := hunique ip' podName' hlisted' hid'
  rw [hlines] at hlines'
  rw [Option.some.inj hlines']

/-- The partitions are of the nodes that answered. -/
theorem exists_live_gather (pods : ClusterPods) (replies : String → ProbeReplies) :
    ∃ live : List String, live.Nodup ∧ (∀ id, id ∈ live ↔ AnsweredID pods replies id) ∧
      (gatherClusterGroundTruth pods replies).partitions = computePartitions live fun id =>
        ((gatherClusterGroundTruth pods replies).knownNodes.lookup id).getD [] := by
  let nodeIDtoPod : GoMap String String := GoMap.ofPairs <|
    ((gatherNodeIdentities pods replies).filter ClusterNodeState.reachable).map fun node =>
      (node.nodeID, node.podName)
  refine ⟨nodeIDtoPod.keys, nodeIDtoPod.keys_nodup, fun id => ?_, rfl⟩
  rw [← AList.mem_keys, mem_ofPairs, exists_identityPair_iff]

end LittleRed.Cluster
