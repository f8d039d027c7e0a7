import LittleRed.Cluster.PodNames
import LittleRed.Cluster.Reattach
import LittleRed.Lib.TransitionSystem

/-!
# Shards and their StatefulSets

A shard is to live inside one StatefulSet. A restart brings a pod back as an empty master under a new node
ID, a native failover moves the slots of a master to one of its replicas, and the repair pass assigns ranges
that nobody owns (step 3) and attaches empty masters (step 4). None of these leaves the StatefulSet, except
step 4 when the StatefulSet of the pod has no owner that lacks a replica.
-/

namespace LittleRed.Cluster

open Lib List GoMap AList

/-- A replica whose master is a pod of another StatefulSet. -/
structure ShardColocationViolation where
  replicaPod : String
  replicaShard : ℤ
  masterPod : String
  masterShard : ℤ
  deriving DecidableEq

namespace ClusterGroundTruth

/-- Some master has no slots. -/
def hasEmptyMasters (gt : ClusterGroundTruth) : Bool :=
  gt.nodes.values.any fun node => node.role == .master && node.slots.isEmpty

/-- The cluster is as it was set up to be. -/
def isHealthy (gt : ClusterGroundTruth) (expectedNodes expectedShards : ℕ) : Bool :=
  if gt.nodes.values.length < expectedNodes then false
  else if gt.allNodeIDs.length ≠ expectedNodes then false
  else if gt.hasPartitions then false
  else if gt.countMasters ≠ expectedShards then false
  else if gt.hasEmptyMasters then false
  else gt.clusterState == "ok" && gt.totalSlots == 16384

/-- The nodes by ID. -/
def byID (gt : ClusterGroundTruth) : GoMap String ClusterNodeState :=
  GoMap.ofPairs (gt.nodes.values.map fun node => (node.nodeID, node))

/-- What is wrong with the placement of a node; masters not gathered and other names are passed over. -/
def colocationTurn (gt : ClusterGroundTruth) (node : ClusterNodeState) : Option ShardColocationViolation :=
  if node.role = .replica then do
    let master ← gt.byID.lookup node.masterNodeID
    let replicaShard ← shardIndexFromPodName node.podName
    let masterShard ← shardIndexFromPodName master.podName
    if replicaShard ≠ masterShard then some ⟨node.podName, replicaShard, master.podName, masterShard⟩
    else none
  else none

/-- The replicas whose master is a pod of another StatefulSet. -/
def checkShardColocation (gt : ClusterGroundTruth) : List ShardColocationViolation :=
  (gt.nodes.values.filterMap gt.colocationTurn).insertionSort (·.replicaPod ≤ ·.replicaPod)

end ClusterGroundTruth

/-- The nodes of the pods, and those that restarts replaced, which replicas may still follow. -/
structure ShardedCluster where
  nodes : GoMap String ClusterNodeState
  lost : List ClusterNodeState

/-- What happens to a cluster. The passes that act on it range over its nodes in some order. -/
inductive ShardEvent where
  | restart (podName podIP nodeID : String)
  | failover (podName : String)
  | assign (order : RangeOrder (Σ _ : String, ClusterNodeState)) (shardIdx : ℕ)
  | reattach (order : RangeOrder (Σ _ : String, ClusterNodeState)) (podName : String)

/-- A pod comes back as an empty master. -/
def ClusterNodeState.restarted (node : ClusterNodeState) (podIP nodeID : String) : ClusterNodeState :=
  { node with
    podIP := podIP
    nodeID := nodeID
    slots := []
    role := .master
    masterNodeID := "-"
    linkStatus := .unknown
    reachable := true }

/-- The node without some slots. -/
def ClusterNodeState.release (slots : List String) (node : ClusterNodeState) : ClusterNodeState :=
  { node with slots := node.slots.filter (!slots.contains ·) }

/-- The old master and its other replicas follow the new one. -/
def ClusterNodeState.afterFailover (node master promoted : ClusterNodeState) : ClusterNodeState :=
  if node.nodeID = promoted.nodeID then
    { node with role := .master, masterNodeID := "-", slots := master.slots }
  else if node.nodeID = master.nodeID ∨ (node.role = .replica ∧ node.masterNodeID = master.nodeID) then
    { node.release master.slots with role := .replica, masterNodeID := promoted.nodeID }
  else node.release master.slots

namespace ShardedCluster

def known (s : ShardedCluster) : List ClusterNodeState := s.nodes.values ++ s.lost

/-- What a pass gathers. -/
def gathered (s : ShardedCluster) (order : RangeOrder (Σ _ : String, ClusterNodeState)) :
    ClusterGroundTruth :=
  { newClusterGroundTruth with nodes := s.nodes.reordered order }

/-- A restarted pod has a node ID that was never seen. -/
def restart (s : ShardedCluster) (podName podIP nodeID : String) : Option ShardedCluster := do
  let node ← s.nodes.lookup podName
  if nodeID ∈ s.known.map (·.nodeID) then none
  else some {
    nodes := s.nodes.mapValues fun key node => if key = podName then node.restarted podIP nodeID else node
    lost := node :: s.lost }

/-- A replica takes over the slots of its master, whether that still runs or not. -/
def failover (s : ShardedCluster) (podName : String) : Option ShardedCluster := do
  let promoted ← s.nodes.lookup podName
  let master ← s.known.find? (·.nodeID == promoted.masterNodeID)
  if promoted.role = .replica ∧ master.slots ≠ [] then
    some {
      nodes := s.nodes.mapValues fun _ node => node.afterFailover master promoted
      lost := s.lost.map (·.release master.slots) }
  else none

/-- Step 3 assigns a range that nobody owns. -/
def assign (name : String) (shards : ℕ) (s : ShardedCluster)
    (order : RangeOrder (Σ _ : String, ClusterNodeState)) (shardIdx : ℕ) : Option ShardedCluster := do
  let gt := s.gathered order
  let owners ← shardOwners shards gt
  let target ← intendedMaster name gt shardIdx
  let range ← (generateSlotRanges shards)[shardIdx]?
  if shardIdx ∈ missingShardIndices owners then
    some {
      nodes := gt.nodes.mapValues fun _ node =>
        if node.nodeID = target.nodeID then { node with slots := [formatSlotRange range] } else node
      lost := s.lost.map (·.release [formatSlotRange range]) }
  else none

/-- Step 4 attaches an empty master. -/
def reattach (replicasPerShard : ℕ) (s : ShardedCluster)
    (order : RangeOrder (Σ _ : String, ClusterNodeState)) (podName : String) : Option ShardedCluster := do
  let gt := s.gathered order
  let em ← gt.nodes.lookup podName
  let target ← chooseReattachTarget em.podName gt replicasPerShard
  if em.role = .master ∧ em.slots = [] then
    some { s with nodes := (gt.attach em target).nodes }
  else none

/-- Every shard's range is owned by one of its pods, and its other pods follow that one. -/
structure Fresh (name : String) (shards replicasPerShard : ℕ) (s : ShardedCluster) : Prop where
  lost : s.lost = []
  distinct : (s.nodes.values.map (·.nodeID)).Nodup
  pods : ∀ podName, podName ∈ s.nodes ↔
    podName ∈ (clusterPodRefs name shards replicasPerShard).map (·.name)
  named : ∀ podName node, s.nodes.lookup podName = some node → node.podName = podName
  owned : ∀ shardIdx < shards, ∃ ordinal ≤ replicasPerShard, ∃ owner,
    s.nodes.lookup (clusterShardPodName name shardIdx ordinal) = some owner ∧ owner.role = .master ∧
      owner.slots = [formatSlotRange (shardRange shards shardIdx)] ∧
      ∀ other ≤ replicasPerShard, other ≠ ordinal → ∃ node,
        s.nodes.lookup (clusterShardPodName name shardIdx other) = some node ∧ node.role = .replica ∧
          node.masterNodeID = owner.nodeID ∧ node.slots = []

end ShardedCluster

/-- The runs of a cluster from a fresh one on. -/
def shardedSystem (name : String) (shards replicasPerShard : ℕ) : System ShardedCluster ShardEvent where
  initial := ShardedCluster.Fresh name shards replicasPerShard
  step
    | s, .restart podName podIP nodeID => s.restart podName podIP nodeID
    | s, .failover podName => s.failover podName
    | s, .assign order shardIdx => s.assign name shards order shardIdx
    | s, .reattach order podName => s.reattach replicasPerShard order podName

/-- An owner of the pod's own shard lacks a replica. -/
def HomeTarget (replicasPerShard : ℕ) (s : ShardedCluster) (podName : String) : Prop :=
  ∃ owner ∈ s.nodes.values, owner.ownsSlots = true ∧
    (s.gathered .asGiven).replicaCount owner.nodeID < replicasPerShard ∧
    (shardIndexFromPodName podName).isSome ∧
    shardIndexFromPodName owner.podName = shardIndexFromPodName podName

/-- Whatever happens, a pod that is attached finds a target in its own shard. -/
def AttachedAtHome (replicasPerShard : ℕ) (s : ShardedCluster) : ShardEvent → Prop
  | .reattach _ podName => HomeTarget replicasPerShard s podName
  | _ => True

/-- All nodes have IDs of their own, and each replica follows a node of its shard. -/
structure ShardedCluster.Homed (name : String) (shards : ℕ) (s : ShardedCluster) : Prop where
  distinct : (s.known.map (·.nodeID)).Nodup
  home : ∀ node ∈ s.nodes.values, node.role = .replica → ∃ master ∈ s.known,
    master.nodeID = node.masterNodeID ∧
      shardIndexFromPodName master.podName = shardIndexFromPodName node.podName
  named : ∀ podName node, s.nodes.lookup podName = some node → node.podName = podName
  pods : ∀ podName ∈ s.nodes, ∃ shardIdx < shards, ∃ ordinal,
    podName = clusterShardPodName name shardIdx ordinal

section Steps

variable {name : String} {shards replicas : ℕ} {s s' : ShardedCluster}

/-- Changes node by node that keep IDs, pods and homes. -/
theorem ShardedCluster.Homed.of_map (h : s.Homed name shards) {f g : ClusterNodeState → ClusterNodeState}
    (hnodes : s'.nodes.entries.Perm (s.nodes.mapValues fun _ node => f node).entries)
    (hlost : s'.lost = s.lost.map g)
    (hf : ∀ node, (f node).nodeID = node.nodeID ∧ (f node).podName = node.podName)
    (hg : ∀ node, (g node).nodeID = node.nodeID ∧ (g node).podName = node.podName)
    (hreplica : ∀ node ∈ s.nodes.values, (f node).role = .replica →
      (node.role = .replica ∧ (f node).masterNodeID = node.masterNodeID) ∨
        ∃ master ∈ s.known, master.nodeID = (f node).masterNodeID ∧
          shardIndexFromPodName master.podName = shardIndexFromPodName node.podName) :
    s'.Homed name shards := by
  have hvalues : s'.nodes.values.Perm (s.nodes.values.map f) := by
    rw [← values_mapValues]
    exact values_perm hnodes
  have hknown : s'.known.Perm (s.nodes.values.map f ++ s.lost.map g) := by
    rw [ShardedCluster.known, hlost]
    exact hvalues.append_right _
  have hkept : ∀ master ∈ s.known, ∃ master' ∈ s'.known, master'.nodeID = master.nodeID ∧
      master'.podName = master.podName := by
    intro master hmaster
    rcases mem_append.mp hmaster with hlive | hgone
    · exact ⟨f master, hknown.mem_iff.mpr (mem_append_left _ (mem_map_of_mem hlive)), hf master⟩
    · exact ⟨g master, hknown.mem_iff.mpr (mem_append_right _ (mem_map_of_mem hgone)), hg master⟩
  have hlookup : ∀ podName node', s'.nodes.lookup podName = some node' →
      ∃ node, s.nodes.lookup podName = some node ∧ f node = node' := by
    intro podName node' hnode'
    have hentry : (⟨podName, node'⟩ : Σ _ : String, ClusterNodeState) ∈ s'.nodes.entries :=
      mem_lookup_iff.mp hnode'
    exact lookup_mapValues_eq_some.mp (mem_lookup_iff.mpr (hnodes.mem_iff.mp hentry))
  refine ⟨?_, fun node' hnode' hrole => ?_, fun podName node' hnode' => ?_, fun podName hpod => ?_⟩
  · rw [(hknown.map _).nodup_iff, map_append, map_map, map_map]
    have hIDs := h.distinct
    rw [ShardedCluster.known, map_append] at hIDs
    have hlive : s.nodes.values.map ((·.nodeID) ∘ f) = s.nodes.values.map (·.nodeID) :=
      map_congr_left fun node _ => (hf node).1
    have hgone : s.lost.map ((·.nodeID) ∘ g) = s.lost.map (·.nodeID) :=
      map_congr_left fun node _ => (hg node).1
    rwa [hlive, hgone]
  · obtain ⟨node, hnode, rfl⟩ := mem_map.mp (hvalues.mem_iff.mp hnode')
    rw [(hf node).2]
    have hmaster : ∃ master ∈ s.known, master.nodeID = (f node).masterNodeID ∧
        shardIndexFromPodName master.podName = shardIndexFromPodName node.podName := by
      rcases hreplica node hnode hrole with ⟨hwas, hsame⟩ | hnew
      · rw [hsame]
        exact h.home node hnode hwas
      · exact hnew
    obtain ⟨master, hmem, hID, hshard⟩ := hmaster
    obtain ⟨master', hmem', hID', hname'⟩ := hkept master hmem
    exact ⟨master', hmem', hID'.trans hID, hname' ▸ hshard⟩
  · obtain ⟨node, hnode, rfl⟩ := hlookup podName node' hnode'
    rw [(hf node).2]
    exact h.named podName node hnode
  · obtain ⟨node', hnode'⟩ := Option.isSome_iff_exists.mp (lookup_isSome.mpr hpod)
    obtain ⟨node, hnode, -⟩ := hlookup podName node' hnode'
    exact h.pods podName (lookup_isSome.mp (Option.isSome_of_eq_some hnode))

theorem ShardedCluster.Homed.eq_of_nodeID (h : s.Homed name shards) {a b : ClusterNodeState}
    (ha : a ∈ s.known) (hb : b ∈ s.known) (hID : a.nodeID = b.nodeID) : a = b :=
  inj_on_of_nodup_map h.distinct ha hb hID

theorem ShardedCluster.mem_known {node : ClusterNodeState} (h : node ∈ s.nodes.values) : node ∈ s.known :=
  mem_append_left _ h

variable {podName : String} {order : RangeOrder (Σ _ : String, ClusterNodeState)}

/-- A restart keeps the replicas at home. -/
theorem ShardedCluster.Homed.restart (h : s.Homed name shards) {podIP nodeID : String}
    (hstep : s.restart podName podIP nodeID = some s') : s'.Homed name shards := by
  obtain ⟨node, hnode, hstep⟩ := Option.bind_eq_some_iff.mp hstep
  split at hstep
  · cases hstep
  rename_i hfresh
  cases hstep
  obtain ⟨rest, hbefore, hafter⟩ :=
    exists_perm_update hnode fun node => node.restarted podIP nodeID
  have hold : s.known.Perm (node :: (rest ++ s.lost)) := hbefore.append_right _
  have hnew := hafter.append_right (node :: s.lost)
  have hknown : ∀ master ∈ s.known, master ∈
      (⟨s.nodes.mapValues fun key node => if key = podName then node.restarted podIP nodeID else node,
        node :: s.lost⟩ : ShardedCluster).known := by
    intro master hmaster
    refine hnew.mem_iff.mpr ?_
    have hmem := hold.mem_iff.mp hmaster
    simp only [mem_cons, mem_append] at hmem ⊢
    tauto
  refine ⟨?_, fun node' hnode' hrole => ?_, fun key node' hnode' => ?_, fun key hkey => ?_⟩
  · refine (hnew.map _).nodup_iff.mpr ?_
    have hIDs := (hold.map (·.nodeID)).nodup_iff.mp h.distinct
    have hperm : (node.restarted podIP nodeID :: rest ++ node :: s.lost).Perm
        (node.restarted podIP nodeID :: node :: (rest ++ s.lost)) := perm_middle.cons _
    rw [(hperm.map _).nodup_iff, map_cons, nodup_cons]
    exact ⟨fun hmem => hfresh (((hold.map _).mem_iff).mpr hmem), hIDs⟩
  · rcases mem_cons.mp (hafter.mem_iff.mp hnode') with rfl | hrest
    · cases hrole
    · obtain ⟨master, hmaster, hID, hshard⟩ :=
        h.home node' (hbefore.mem_iff.mpr (mem_cons_of_mem _ hrest)) hrole
      exact ⟨master, hknown master hmaster, hID, hshard⟩
  · obtain ⟨old, hold', rfl⟩ := lookup_mapValues_eq_some.mp hnode'
    have hname := h.named key old hold'
    split
    · exact hname
    · exact hname
  · obtain ⟨node', hnode'⟩ := Option.isSome_iff_exists.mp (lookup_isSome.mpr hkey)
    obtain ⟨old, hold', -⟩ := lookup_mapValues_eq_some.mp hnode'
    exact h.pods key (lookup_isSome.mp (Option.isSome_of_eq_some hold'))

/-- So does a failover, since all its parties are of one shard. -/
theorem ShardedCluster.Homed.failover (h : s.Homed name shards)
    (hstep : s.failover podName = some s') : s'.Homed name shards := by
  obtain ⟨promoted, hpromoted, hstep⟩ := Option.bind_eq_some_iff.mp hstep
  obtain ⟨master, hmaster, hstep⟩ := Option.bind_eq_some_iff.mp hstep
  have hlive : promoted ∈ s.nodes.values := mem_values_of_lookup hpromoted
  have hmasterKnown : master ∈ s.known := mem_of_find?_eq_some hmaster
  have hmasterID : master.nodeID = promoted.masterNodeID := by simpa using List.find?_some hmaster
  obtain ⟨hready, rfl⟩ := of_ite_some hstep
  have hshared : shardIndexFromPodName master.podName = shardIndexFromPodName promoted.podName := by
    obtain ⟨other, hother, hID, hshard⟩ := h.home promoted hlive hready.1
    rwa [h.eq_of_nodeID hother hmasterKnown (hID.trans hmasterID.symm)] at hshard
  refine h.of_map (f := (·.afterFailover master promoted)) (g := (·.release master.slots)) (.refl _) rfl
    (fun node => ?_) (fun node => ⟨rfl, rfl⟩) (fun node hnode hrole => ?_)
  · unfold ClusterNodeState.afterFailover
    split
    · exact ⟨rfl, rfl⟩
    · split <;> exact ⟨rfl, rfl⟩
  · unfold ClusterNodeState.afterFailover at hrole ⊢
    split at hrole
    · cases hrole
    rename_i hother
    rw [if_neg hother]
    split
    · rename_i hfollowed
      refine .inr ⟨promoted, ShardedCluster.mem_known hlive, rfl, hshared.symm.trans ?_⟩
      rcases hfollowed with hself | ⟨hreplica, hfollows⟩
      · rw [h.eq_of_nodeID (ShardedCluster.mem_known hnode) hmasterKnown hself]
      · obtain ⟨own, hown, hID, hshard⟩ := h.home node hnode hreplica
        rwa [h.eq_of_nodeID hown hmasterKnown (hID.trans hfollows)] at hshard
    · rename_i hfree
      rw [if_neg hfree] at hrole
      exact .inl ⟨hrole, rfl⟩

theorem ShardedCluster.Homed.assign (h : s.Homed name shards) {shardIdx : ℕ}
    (hstep : s.assign name shards order shardIdx = some s') : s'.Homed name shards := by
  obtain ⟨owners, -, hstep⟩ := Option.bind_eq_some_iff.mp hstep
  obtain ⟨target, -, hstep⟩ := Option.bind_eq_some_iff.mp hstep
  obtain ⟨range, -, hstep⟩ := Option.bind_eq_some_iff.mp hstep
  obtain ⟨-, rfl⟩ := of_ite_some hstep
  refine h.of_map (f := fun node => if node.nodeID = target.nodeID then
      { node with slots := [formatSlotRange range] } else node)
    (g := (·.release [formatSlotRange range])) ((order.perm _).map _) rfl
    (fun node => ?_) (fun node => ⟨rfl, rfl⟩) (fun node _ hrole => .inl ?_)
  · split <;> exact ⟨rfl, rfl⟩
  · split at hrole
    · rename_i hassigned
      rw [if_pos hassigned]
      exact ⟨hrole, rfl⟩
    · rename_i hother
      rw [if_neg hother]
      exact ⟨hrole, rfl⟩

/-- An owner of the own shard that lacks a replica is preferred. -/
theorem chooseReattachTarget_home {gt : ClusterGroundTruth} {target : ClusterNodeState}
    (hchosen : chooseReattachTarget podName gt replicas = some target) {owner : ClusterNodeState}
    (howner : owner ∈ gt.slotOwners) (hlacks : gt.replicaCount owner.nodeID < replicas)
    (hpod : (shardIndexFromPodName podName).isSome)
    (hshard : shardIndexFromPodName owner.podName = shardIndexFromPodName podName) :
    shardIndexFromPodName target.podName = shardIndexFromPodName podName := by
  have hmem := mem_candidates.mpr ⟨howner, hlacks⟩
  rw [chooseReattachTarget, Option.or_eq_some_iff] at hchosen
  rcases hchosen with hfound | ⟨hnone, -⟩
  · have htest := List.find?_some hfound
    rw [Bool.and_eq_true, beq_iff_eq] at htest
    exact htest.2
  · have htest := List.find?_eq_none.mp hnone owner hmem
    rw [Bool.and_eq_true, beq_iff_eq] at htest
    exact absurd ⟨hpod, hshard⟩ htest

/-- What step 4 did: an empty master follows an owner that lacked a replica. -/
structure ShardedCluster.Attached (replicas : ℕ) (s s' : ShardedCluster)
    (order : RangeOrder (Σ _ : String, ClusterNodeState)) (podName : String) (em target : ClusterNodeState) :
    Prop where
  pod : s.nodes.lookup podName = some em
  empty : em.role = .master ∧ em.slots = []
  chosen : chooseReattachTarget em.podName (s.gathered order) replicas = some target
  live : target ∈ s.nodes.values
  owns : target.ownsSlots = true
  lacked : (s.gathered .asGiven).replicaCount target.nodeID < replicas
  result : s' = { s with nodes := ((s.gathered order).attach em target).nodes }

/-- The order does not change the number of replicas. -/
theorem ShardedCluster.replicaCount_gathered (s : ShardedCluster)
    (order : RangeOrder (Σ _ : String, ClusterNodeState)) (nodeID : String) :
    (s.gathered order).replicaCount nodeID = (s.gathered .asGiven).replicaCount nodeID :=
  (s.nodes.values_reordered order).countP_eq _

/-- What step 4 does. -/
theorem ShardedCluster.attached_of_reattach (hstep : s.reattach replicas order podName = some s') :
    ∃ em target, s.Attached replicas s' order podName em target := by
  obtain ⟨em, hem, hstep⟩ := Option.bind_eq_some_iff.mp hstep
  obtain ⟨target, htarget, hstep⟩ := Option.bind_eq_some_iff.mp hstep
  have hentry : (⟨podName, em⟩ : Σ _ : String, ClusterNodeState) ∈ s.nodes.entries :=
    (order.perm _).mem_iff.mp (mem_lookup_iff.mp hem)
  obtain ⟨howner, hlacked⟩ := chooseReattachTarget_spec htarget
  obtain ⟨hlive, howns⟩ := mem_filter.mp howner
  rw [replicaCount_gathered] at hlacked
  split at hstep
  · rename_i hempty
    exact ⟨em, target, mem_lookup_iff.mpr hentry, hempty, htarget,
      (s.nodes.values_reordered order).mem_iff.mp hlive, howns, hlacked, (Option.some.inj hstep).symm⟩
  · cases hstep

/-- With a target at home it keeps the replicas there. -/
theorem ShardedCluster.Homed.reattach (h : s.Homed name shards) (hhome : HomeTarget replicas s podName)
    (hstep : s.reattach replicas order podName = some s') :
    s'.Homed name shards := by
  obtain ⟨em, target, hattached⟩ := attached_of_reattach hstep
  have hlive : em ∈ s.nodes.values := mem_values_of_lookup hattached.pod
  obtain ⟨owner, howner, howns, hlacks, hpod, hshard⟩ := hhome
  rw [← h.named podName em hattached.pod] at hpod hshard
  have htargetHome : shardIndexFromPodName target.podName = shardIndexFromPodName em.podName := by
    refine chooseReattachTarget_home hattached.chosen (mem_filter.mpr
      ⟨(s.nodes.values_reordered order).mem_iff.mpr howner, howns⟩) ?_ hpod hshard
    rwa [replicaCount_gathered]
  obtain rfl := hattached.result
  refine h.of_map (f := fun node => if node.nodeID = em.nodeID then
      { node with role := .replica, masterNodeID := target.nodeID } else node) (g := id)
    ((order.perm _).map _) (map_id _).symm (fun node => ?_) (fun node => ⟨rfl, rfl⟩)
    (fun node hnode hrole => ?_)
  · split <;> exact ⟨rfl, rfl⟩
  · split at hrole
    · rename_i hself
      rw [if_pos hself, h.eq_of_nodeID (mem_known hnode) (mem_known hlive) hself]
      exact .inr ⟨target, mem_known hattached.live, rfl, htargetHome⟩
    · rename_i hother
      rw [if_neg hother]
      exact .inl ⟨hrole, rfl⟩

end Steps

section Placement

variable {name : String} {shards replicas : ℕ} {s s' : ShardedCluster} {gt : ClusterGroundTruth}

/-- A fresh cluster is at home. -/
theorem ShardedCluster.Fresh.homed (h : s.Fresh name shards replicas) : s.Homed name shards := by
  have hpods : ∀ podName ∈ s.nodes, ∃ shardIdx < shards, ∃ ordinal ≤ replicas,
      podName = clusterShardPodName name shardIdx ordinal := by
    intro podName hpod
    obtain ⟨ref, href, rfl⟩ := mem_map.mp ((h.pods podName).mp hpod)
    obtain ⟨shardIdx, hshard, href⟩ := mem_flatMap.mp href
    obtain ⟨ordinal, hordinal, rfl⟩ := mem_map.mp href
    exact ⟨shardIdx, mem_range.mp hshard, ordinal, Nat.le_of_lt_succ (mem_range.mp hordinal), rfl⟩
  refine ⟨?_, fun node hnode hrole => ?_, h.named, fun podName hpod => ?_⟩
  · rw [ShardedCluster.known, h.lost, append_nil]
    exact h.distinct
  · obtain ⟨podName, hlookup⟩ := exists_lookup_of_mem_values hnode
    obtain ⟨shardIdx, hshard, ordinal, hordinal, rfl⟩ :=
      hpods podName (lookup_isSome.mp (Option.isSome_of_eq_some hlookup))
    obtain ⟨first, -, owner, howner, hmaster, -, hothers⟩ := h.owned shardIdx hshard
    have hother : ordinal ≠ first := by
      rintro rfl
      cases hlookup.symm.trans howner
      rw [hmaster] at hrole
      cases hrole
    obtain ⟨other, hlookup', -, hfollows, -⟩ := hothers ordinal hordinal hother
    cases hlookup.symm.trans hlookup'
    refine ⟨owner, ShardedCluster.mem_known (mem_values_of_lookup howner), hfollows.symm, ?_⟩
    rw [h.named _ owner howner, h.named _ node hlookup, shardIndexFromPodName_clusterShardPodName,
      shardIndexFromPodName_clusterShardPodName]
  · obtain ⟨shardIdx, hshard, ordinal, -, hname⟩ := hpods podName hpod
    exact ⟨shardIdx, hshard, ordinal, hname⟩

/-- At home nothing is found. -/
theorem ShardedCluster.Homed.checkShardColocation_eq_nil (h : s.Homed name shards)
    (hperm : gt.nodes.entries.Perm s.nodes.entries) : gt.checkShardColocation = [] := by
  have hvalues : gt.nodes.values.Perm s.nodes.values := values_perm hperm
  have hnone : gt.nodes.values.filterMap gt.colocationTurn = [] := by
    refine filterMap_eq_nil_iff.mpr fun node hnode => ?_
    rw [ClusterGroundTruth.colocationTurn]
    split
    · rename_i hrole
      cases hfound : gt.byID.lookup node.masterNodeID with
      | none => rfl
      | some master =>
        obtain ⟨master', hmaster, heq⟩ := mem_map.mp (mem_of_lookup_ofPairs hfound)
        obtain ⟨hID, rfl⟩ := Prod.mk.inj heq
        obtain ⟨other, hother, hotherID, hshard⟩ := h.home node (hvalues.mem_iff.mp hnode) hrole
        rw [h.eq_of_nodeID hother (mem_known (hvalues.mem_iff.mp hmaster)) (hotherID.trans hID.symm)]
          at hshard
        rw [Option.bind_eq_bind, Option.bind_some, hshard]
        cases shardIndexFromPodName node.podName with
        | none => rfl
        | some shard => simp
    · rfl
  rw [ClusterGroundTruth.checkShardColocation, hnone, insertionSort_nil]

/-- A replica away from home is found. -/
theorem checkShardColocation_ne_nil (hdistinct : (gt.nodes.values.map (·.nodeID)).Nodup)
    (node master : ClusterNodeState) (hnode : node ∈ gt.nodes.values) (hmaster : master ∈ gt.nodes.values)
    (hrole : node.role = .replica) (hfollows : node.masterNodeID = master.nodeID)
    {replicaShard masterShard : ℤ} (hreplicaShard : shardIndexFromPodName node.podName = some replicaShard)
    (hmasterShard : shardIndexFromPodName master.podName = some masterShard)
    (hne : replicaShard ≠ masterShard) : gt.checkShardColocation ≠ [] := by
  have hfound : gt.byID.lookup node.masterNodeID = some master := by
    rw [hfollows, ClusterGroundTruth.byID, lookup_ofPairs_eq_some]
    · exact mem_map.mpr ⟨master, hmaster, rfl⟩
    · rwa [map_map]
  have hturn : gt.colocationTurn node =
      some ⟨node.podName, replicaShard, master.podName, masterShard⟩ := by
    rw [ClusterGroundTruth.colocationTurn, if_pos hrole, hfound, hreplicaShard]
    simp [hmasterShard, hne]
  have hmem : (⟨node.podName, replicaShard, master.podName, masterShard⟩ : ShardColocationViolation) ∈
      gt.checkShardColocation :=
    (mem_insertionSort _).mpr (mem_filterMap.mpr ⟨node, hnode, hturn⟩)
  exact ne_nil_of_mem hmem

/-- Every pod has a shard. -/
theorem ShardedCluster.Homed.exists_shard (h : s.Homed name shards) (hshards : shards ≤ 2 ^ 63)
    {node : ClusterNodeState} (hnode : node ∈ s.nodes.values) :
    ∃ shard, shardIndexFromPodName node.podName = some shard := by
  obtain ⟨podName, hlookup⟩ := exists_lookup_of_mem_values hnode
  obtain ⟨shardIdx, hshard, ordinal, rfl⟩ :=
    h.pods podName (lookup_isSome.mp (Option.isSome_of_eq_some hlookup))
  rw [h.named _ node hlookup, shardIndexFromPodName_clusterShardPodName, atoi_toString (by omega)]
  exact ⟨_, rfl⟩

/-- Without a target at home the pod is attached elsewhere. -/
theorem ShardedCluster.Homed.reattach_away (h : s.Homed name shards) (hshards : shards ≤ 2 ^ 63)
    {order : RangeOrder (Σ _ : String, ClusterNodeState)} {podName : String}
    (haway : ¬HomeTarget replicas s podName) (hstep : s.reattach replicas order podName = some s')
    (hperm : gt.nodes.entries.Perm s'.nodes.entries) : gt.checkShardColocation ≠ [] := by
  obtain ⟨em, target, hattached⟩ := attached_of_reattach hstep
  have hlive : em ∈ s.nodes.values := mem_values_of_lookup hattached.pod
  obtain ⟨emShard, hemShard⟩ := h.exists_shard hshards hlive
  obtain ⟨targetShard, htargetShard⟩ := h.exists_shard hshards hattached.live
  have hother : target.nodeID ≠ em.nodeID := by
    intro hsame
    have howns := hattached.owns
    rw [h.eq_of_nodeID (mem_known hattached.live) (mem_known hlive) hsame, ClusterNodeState.ownsSlots,
      hattached.empty.2] at howns
    simp at howns
  have hshards' : emShard ≠ targetShard := by
    rintro rfl
    have hname := h.named podName em hattached.pod
    refine haway ⟨target, hattached.live, hattached.owns, hattached.lacked, ?_, ?_⟩
    · rw [← hname, hemShard]
      rfl
    · rw [htargetShard, ← hname, hemShard]
  -- what is gathered now are the nodes that were gathered, with the attached one changed
  obtain rfl := hattached.result
  have hvalues : gt.nodes.values.Perm (s.nodes.values.map fun node =>
      if node.nodeID = em.nodeID then { node with role := .replica, masterNodeID := target.nodeID }
      else node) := by
    refine .trans ?_ ((s.nodes.values_reordered order).map _)
    rw [← values_mapValues]
    exact values_perm hperm
  have hIDs : (gt.nodes.values.map (·.nodeID)).Perm (s.nodes.values.map (·.nodeID)) := by
    refine (hvalues.map _).trans (.of_eq ?_)
    rw [map_map]
    refine map_congr_left fun node _ => ?_
    simp only [Function.comp_apply]
    split <;> rfl
  have hnodup : (s.nodes.values.map (·.nodeID)).Nodup := by
    have hdistinct := h.distinct
    rw [ShardedCluster.known, map_append] at hdistinct
    exact (nodup_append.mp hdistinct).1
  refine checkShardColocation_ne_nil (hIDs.nodup_iff.mpr hnodup)
    { em with role := .replica, masterNodeID := target.nodeID } target
    (hvalues.mem_iff.mpr ?_) (hvalues.mem_iff.mpr ?_) rfl rfl hemShard htargetShard hshards'
  · refine mem_map.mpr ⟨em, hlive, ?_⟩
    rw [if_pos rfl]
  · refine mem_map.mpr ⟨target, hattached.live, ?_⟩
    rw [if_neg hother]

/-- As long as every attached pod finds a target in its own shard no replica follows a master of another
one, and the first that finds none does. -/
theorem shards_stay_home (name : String) (shards replicas : ℕ) (s : ShardedCluster)
    (h : (shardedSystem name shards replicas).Reachable (AttachedAtHome replicas) s) :
    (∀ gt : ClusterGroundTruth, gt.nodes.entries.Perm s.nodes.entries → gt.checkShardColocation = []) ∧
      (shards ≤ 2 ^ 63 → ∀ order podName s', ¬HomeTarget replicas s podName →
        (shardedSystem name shards replicas).step s (.reattach order podName) = some s' →
        ∀ gt : ClusterGroundTruth, gt.nodes.entries.Perm s'.nodes.entries →
          gt.checkShardColocation ≠ []) := by
  have hhomed : s.Homed name shards := by
    refine h.invariant (ShardedCluster.Homed name shards) (fun _ => ShardedCluster.Fresh.homed) ?_
    intro s event s' hs hguard hstep
    cases event with
    | restart podName podIP nodeID => exact hs.restart hstep
    | failover podName => exact hs.failover hstep
    | assign order shardIdx => exact hs.assign hstep
    | reattach order podName => exact hs.reattach hguard hstep
  refine ⟨fun gt hperm => hhomed.checkShardColocation_eq_nil hperm, ?_⟩
  intro hshards order podName s' haway hstep gt hperm
  exact hhomed.reattach_away hshards haway hstep hperm

end Placement

instance (replicas : ℕ) (s : ShardedCluster) (podName : String) : Decidable (HomeTarget replicas s podName) :=
  inferInstanceAs (Decidable (∃ owner ∈ s.nodes.values, _))

instance (replicas : ℕ) (s : ShardedCluster) (event : ShardEvent) :
    Decidable (AttachedAtHome replicas s event) :=
  match event with
  | .restart _ _ _ => .isTrue trivial
  | .failover _ => .isTrue trivial
  | .assign _ _ => .isTrue trivial
  | .reattach _ podName => inferInstanceAs (Decidable (HomeTarget replicas s podName))

def threeShards : ShardedCluster where
  nodes := GoMap.ofPairs <| List.map (fun node => (node.podName, node)) <| List.reverse
    [nodeAs "lr-shard-0-0" "a0" .master ["0-5461"] "-", nodeAs "lr-shard-0-1" "a1" .replica [] "a0",
      nodeAs "lr-shard-1-0" "b0" .master ["5462-10922"] "-", nodeAs "lr-shard-1-1" "b1" .replica [] "b0",
      nodeAs "lr-shard-2-0" "c0" .master ["10923-16383"] "-", nodeAs "lr-shard-2-1" "c1" .replica [] "c0"]
  lost := []

theorem fresh_threeShards : threeShards.Fresh "lr" 3 1 := by
  have hkeys : threeShards.nodes.keys = (clusterPodRefs "lr" 3 1).map (·.name) := by decide
  have hnamed : ∀ entry ∈ threeShards.nodes.entries, entry.2.podName = entry.1 := by decide
  have howned : ∀ shardIdx < 3, ∃ owner ∈ threeShards.nodes.values, ∃ node ∈ threeShards.nodes.values,
      threeShards.nodes.lookup (clusterShardPodName "lr" shardIdx 0) = some owner ∧ owner.role = .master ∧
        owner.slots = [formatSlotRange (shardRange 3 shardIdx)] ∧
        threeShards.nodes.lookup (clusterShardPodName "lr" shardIdx 1) = some node ∧ node.role = .replica ∧
        node.masterNodeID = owner.nodeID ∧ node.slots = [] := by decide +kernel
  refine ⟨rfl, by decide, fun podName => ?_, fun podName node hnode => ?_, fun shardIdx hshard => ?_⟩
  · rw [AList.mem_keys, hkeys]
  · exact hnamed ⟨podName, node⟩ (AList.mem_lookup_iff.mp hnode)
  · obtain ⟨owner, -, node, -, hlookup, hrole, hslots, hother⟩ := howned shardIdx hshard
    refine ⟨0, Nat.zero_le 1, owner, hlookup, hrole, hslots, fun other hle hne => ?_⟩
    obtain rfl : other = 1 := by omega
    exact ⟨node, hother⟩

/-- A replaced replica is attached to its own shard again. -/
theorem replacedReplica_home :
    ∃ s, (shardedSystem "lr" 3 1).Reachable (AttachedAtHome 1) s ∧ s.lost ≠ [] ∧
      ∀ gt : ClusterGroundTruth, gt.nodes.entries.Perm s.nodes.entries → gt.checkShardColocation = [] := by
  have hrun : ((shardedSystem "lr" 3 1).driveIf (AttachedAtHome 1) threeShards
      [fun _ => .restart "lr-shard-0-1" "10.0.0.1" "a2", fun _ => .reattach .asGiven "lr-shard-0-1"]).any
        (fun s => decide (s.lost ≠ [])) = true := by
    decide +kernel
  obtain ⟨s, hs, hlost⟩ := (Option.any_eq_true _ _).mp hrun
  have hreach := System.Reachable.of_driveIf (.initial fresh_threeShards) hs
  exact ⟨s, hreach, of_decide_eq_true hlost, (shards_stay_home "lr" 3 1 s hreach).1⟩

/-- What a pass gathers when all nodes know each other and the given ones are gone. -/
def ShardedCluster.view (s : ShardedCluster) (ghosts : List String) : ClusterGroundTruth where
  nodes := s.nodes
  partitions := [s.nodes.values.map (·.nodeID)]
  ghostNodes := ghosts
  clusterState := "ok"
  totalSlots := 16384
  allNodeIDs := s.nodes.values.map (·.nodeID) ++ ghosts
  knownNodes := GoMap.ofPairs (s.nodes.values.map fun node => (node.nodeID, s.nodes.values.map (·.nodeID)))

/-- The repair pass. -/
def passDuringFailover (gt : ClusterGroundTruth) : List SlotCommand :=
  repairSlots ⟨⟨3, 15, 15000⟩, "lr", some 1⟩
    ⟨0, fun _ => true, fun _ => true, .ok, fun _ _ => true, false⟩ everyCallSucceeds.env gt []

/-- The owner of the first shard is lost after a failover, and a replica restarts. -/
def losses : List ShardEvent :=
  [.failover "lr-shard-0-1", .restart "lr-shard-0-1" "10.0.0.1" "a2",
    .restart "lr-shard-1-1" "10.0.0.2" "b2"]

/-- The two pods are attached. -/
def crossings : List ShardEvent :=
  [.reattach .asGiven "lr-shard-0-1", .failover "lr-shard-0-0", .reattach .asGiven "lr-shard-1-1"]

/-- The pass attaches the pod of the lost owner elsewhere, and ends with two misplaced replicas in a
healthy cluster. -/
theorem crossed_healthy :
    ∃ lossy s, (shardedSystem "lr" 3 1).Reachable System.anyStep lossy ∧
      passDuringFailover (lossy.view ["a1"]) = [.replicate "10.0.0.1" "b0"] ∧
      (shardedSystem "lr" 3 1).Reachable System.anyStep s ∧ (s.view []).isHealthy 6 3 = true ∧
      (s.view []).checkShardColocation =
        [⟨"lr-shard-0-1", 0, "lr-shard-1-0", 1⟩, ⟨"lr-shard-1-1", 1, "lr-shard-0-0", 0⟩] := by
  have hlosses : ((shardedSystem "lr" 3 1).follow threeShards losses).any (fun s =>
      decide (passDuringFailover (s.view ["a1"]) = [.replicate "10.0.0.1" "b0"])) = true := by
    decide +kernel
  have hcrossings : ((shardedSystem "lr" 3 1).follow threeShards (losses ++ crossings)).any (fun s =>
      (s.view []).isHealthy 6 3 && decide ((s.view []).checkShardColocation =
        [⟨"lr-shard-0-1", 0, "lr-shard-1-0", 1⟩, ⟨"lr-shard-1-1", 1, "lr-shard-0-0", 0⟩])) = true := by
    decide +kernel
  obtain ⟨lossy, hlossy, hpass⟩ := (Option.any_eq_true _ _).mp hlosses
  obtain ⟨s, hs, hcrossed⟩ := (Option.any_eq_true _ _).mp hcrossings
  rw [Bool.and_eq_true] at hcrossed
  have hstart : (shardedSystem "lr" 3 1).Reachable System.anyStep threeShards := .initial fresh_threeShards
  exact ⟨lossy, s, hstart.of_follow hlossy, of_decide_eq_true hpass, hstart.of_follow hs, hcrossed.1,
    of_decide_eq_true hcrossed.2⟩

end LittleRed.Cluster
