import LittleRed.Cluster.MeetSound
import LittleRed.Cluster.Migration.Mesh

/-!
# Two ways to attribute an address

An address is judged from what its pod answers to CLUSTER NODES, either directly or from the view that the
gather has stored under the pod's node ID. Both see the same evidence, but the gather keeps one view per node
ID, so another pod with the same ID can put its own view in the place.
-/

namespace LittleRed.Cluster

open Lib List

/-- Exactly one entry of the view is flagged as the node's own, and it has this ID. -/
def OwnEntry (view : List ClusterNodeInfo) (id : String) : Prop :=
  (view.filter fun line => line.flags.contains "myself").map ClusterNodeInfo.nodeID = [id]

/-- Pods with this ID that list nodes list the same ones as alive. -/
def ViewsAgree (pods : ClusterPods) (replies : String → ProbeReplies) (id : String)
    (live : List String) : Prop :=
  ∀ ip podName view, pods.Listed ip podName → (replies ip).clusterID = some id →
    (replies ip).clusterNodes = some view → ∀ node, node ∈ liveIDs view ↔ node ∈ live

variable {view : List ClusterNodeInfo} {id : String}

/-- The verdict depends on which nodes are known, not on their order. -/
theorem attributeMeetTarget_congr (ip id : String) (identified viewKnown : Bool) {known known' : List String}
    (h : ∀ node, node ∈ known ↔ node ∈ known') (ourNodeIDs : List String) :
    attributeMeetTarget ⟨ip, id, identified, viewKnown, known⟩ ourNodeIDs =
      attributeMeetTarget ⟨ip, id, identified, viewKnown, known'⟩ ourNodeIDs := by
  have hpeers : ∀ node, node ∈ (known.filter fun peer => peer != "" && peer != id) ↔
      node ∈ known'.filter fun peer => peer != "" && peer != id := by
    intro node
    rw [mem_filter, mem_filter, h]
  have hany : (known.filter fun peer => peer != "" && peer != id).any ourNodeIDs.contains =
      (known'.filter fun peer => peer != "" && peer != id).any ourNodeIDs.contains := by
    rw [Bool.eq_iff_iff, any_eq_true, any_eq_true]
    exact exists_congr fun node => and_congr_left fun _ => hpeers node
  have hempty : (known.filter fun peer => peer != "" && peer != id).isEmpty =
      (known'.filter fun peer => peer != "" && peer != id).isEmpty := by
    rw [Bool.eq_iff_iff, List.isEmpty_iff, List.isEmpty_iff, List.eq_nil_iff_forall_not_mem,
      List.eq_nil_iff_forall_not_mem]
    exact forall_congr' fun node => not_congr (hpeers node)
  simp only [attributeMeetTarget, hany, hempty]

/-- A view with one entry of its own gives the evidence directly. -/
theorem meetCandidateFromNodes_ownEntry (hown : OwnEntry view id) (ip : String) :
    meetCandidateFromNodes ip "" view = ⟨ip, id, id != "", id != "", liveIDs view⟩ := by
  have hfind : ((view.find? fun line => line.flags.contains "myself").map
    ClusterNodeInfo.nodeID).getD "" = id := by
    rw [← List.head?_filter, ← List.head?_map, hown]
    rfl
  unfold meetCandidateFromNodes
  rw [if_pos rfl, hfind]
  rfl

/-- The gathered evidence differs from it at most in the order of the known nodes. -/
theorem meetCandidate_gathered {pods : ClusterPods} {replies : String → ProbeReplies} {ip podName : String}
    (hlisted : pods.Listed ip podName) (hid : (replies ip).clusterID = some id)
    (hview : (replies ip).clusterNodes = some view) (hagree : ViewsAgree pods replies id (liveIDs view)) :
    ∃ known, (∀ node, node ∈ liveIDs view ↔ node ∈ known) ∧
      (gatherClusterGroundTruth pods replies).meetCandidate (probedNode ip podName (replies ip)) =
        ⟨ip, id, id != "", id != "", known⟩ := by
  obtain ⟨hnodeID, hreachable⟩ := probedNode_nodeID ip podName (replies ip)
  have hip := (probedNode_own ip podName (replies ip)).2
  rw [hid, Option.getD_some] at hnodeID
  rw [hid, Option.isSome_some] at hreachable
  -- whatever is stored under the ID came from a pod that answered with it, and so agrees with this one
  obtain ⟨pairs, hknown, hpairs⟩ := exists_knownNodes pods replies
  have hstored : (id, liveIDs view) ∈ pairs := (hpairs id _).mpr ⟨ip, podName, view, hlisted, hid, hview, rfl⟩
  obtain ⟨known, hlookup⟩ : ∃ known, (gatherClusterGroundTruth pods replies).knownNodes.lookup id =
    some known := by
    rw [hknown, ← Option.isSome_iff_exists, AList.lookup_isSome, GoMap.mem_ofPairs]
    exact ⟨_, hstored⟩
  obtain ⟨ip', podName', view', hlisted', hid', hview', rfl⟩ :=
    (hpairs id known).mp (GoMap.mem_of_lookup_ofPairs (hknown ▸ hlookup))
  refine ⟨liveIDs view', fun node => (hagree ip' podName' view' hlisted' hid' hview' node).symm, ?_⟩
  unfold ClusterGroundTruth.meetCandidate
  rw [hip, hnodeID, hreachable, hlookup, Option.isSome_some, Bool.true_and, Bool.and_true]
  rfl

/-- An address gets the same verdict from its pod's answer as from the gathered view, unless a pod with
the same ID lists other nodes as alive. -/
theorem meetPaths_agree {pods : ClusterPods} {replies : String → ProbeReplies} {ip podName id : String}
    {view : List ClusterNodeInfo} (hlisted : pods.Listed ip podName) (hid : (replies ip).clusterID = some id)
    (hview : (replies ip).clusterNodes = some view) (hown : OwnEntry view id)
    (hagree : ViewsAgree pods replies id (liveIDs view)) :
    ∃ node, (gatherClusterGroundTruth pods replies).nodes.lookup podName = some node ∧
      ∀ ourNodeIDs, attributeMeetTarget (meetCandidateFromNodes ip "" view) ourNodeIDs =
        attributeMeetTarget ((gatherClusterGroundTruth pods replies).meetCandidate node) ourNodeIDs := by
  refine ⟨probedNode ip podName (replies ip), (lookup_gather_nodes pods replies).mpr ⟨ip, hlisted, rfl⟩, ?_⟩
  intro ourNodeIDs
  obtain ⟨known, hsame, hgathered⟩ := meetCandidate_gathered hlisted hid hview hagree
  rw [meetCandidateFromNodes_ownEntry hown, hgathered]
  exact attributeMeetTarget_congr ip id _ _ hsame ourNodeIDs

/-- One pod, whose own entry is failed. -/
def loneReplies (_ : String) : ProbeReplies :=
  ⟨some "a", none, none, some [⟨"a", ["myself", "master", "fail"], "-", []⟩, ⟨"b", ["master"], "-", []⟩]⟩

def lonePod : ClusterPods where
  names := GoMap.ofPairs [("10.0.0.1", "lr-shard-0-0")]
  names_nodup := by decide

/-- It is a member on both ways. -/
theorem loneMember_agrees :
    ∃ node, (gatherClusterGroundTruth lonePod loneReplies).nodes.lookup "lr-shard-0-0" = some node ∧
      attributeMeetTarget ((gatherClusterGroundTruth lonePod loneReplies).meetCandidate node) ["b"] =
        .allowMember := by
  obtain ⟨node, hnode, hverdict⟩ := @meetPaths_agree lonePod loneReplies "10.0.0.1" "lr-shard-0-0" "a" _
    rfl rfl rfl rfl fun ip podName view _ _ hview node => by rw [← Option.some.inj hview]
  refine ⟨node, hnode, (hverdict ["b"]).symm.trans ?_⟩
  decide

def isolatedView : List ClusterNodeInfo := [⟨"a", ["myself", "master"], "-", []⟩]

/-- Two pods answer with one ID. -/
def twinReplies (ip : String) : ProbeReplies :=
  if ip = "10.0.0.1" then ⟨some "a", none, none, some isolatedView⟩
  else ⟨some "a", none, none, some [⟨"a", ["myself", "master"], "-", []⟩, ⟨"z", ["master"], "-", []⟩]⟩

def twinPods : ClusterPods where
  names := GoMap.ofPairs [("10.0.0.1", "lr-shard-0-0"), ("10.0.0.2", "lr-shard-1-0")]
  names_nodup := by decide

/-- The isolated pod is taken for a stranger by the view of its twin. -/
theorem twins_disagree :
    twinPods.Listed "10.0.0.1" "lr-shard-0-0" ∧ (twinReplies "10.0.0.1").clusterID = some "a" ∧
      (twinReplies "10.0.0.1").clusterNodes = some isolatedView ∧ OwnEntry isolatedView "a" ∧
      ((gatherClusterGroundTruth twinPods twinReplies).nodes.lookup "lr-shard-0-0").map (fun node =>
        attributeMeetTarget ((gatherClusterGroundTruth twinPods twinReplies).meetCandidate node) []) =
          some .denyUnattributed ∧
      attributeMeetTarget (meetCandidateFromNodes "10.0.0.1" "" isolatedView) [] = .allowFresh :=
  ⟨rfl, rfl, rfl, rfl, by decide, by decide⟩

end LittleRed.Cluster
