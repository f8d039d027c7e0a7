import LittleRed.Cluster.Migration.Safety

/-!
# An old master that dies during the migration

The plan can promote a new master by force when the owner of its range does not answer. But the gathered view
keeps neither the node ID nor the slots of such a pod, so the range has no owner, the new pods of its shard
are in sync with nobody, and the plan waits for them.
-/

namespace LittleRed.Cluster

open Lib

def silence : ProbeReplies := ⟨none, none, none, none⟩

/-- The new pods are in sync with the old master of one shard, which alone owned the range and does not
answer. -/
structure SilentOwner (list : MigPodList) (replies : String → ProbeReplies) (name : String)
    (shards replicasPerShard k : ℕ) (dead : MigPodFact) (deadID : String) : Prop where
  shard : k < shards
  listed : dead ∈ list.pods
  old : isLegacyClusterPod dead.name name = true
  silent : replies dead.ip = silence
  nodeID : deadID ≠ ""
  unowned : ∀ pod ∈ list.pods, pod ≠ dead →
    nodeOwnsRange (probedNode pod.ip pod.name (replies pod.ip)) (shardRange shards k) = false
  following : ∀ podName ∈ shardNewPods name k replicasPerShard, ∃ node,
    (migrationView list replies name).1.nodes.lookup podName = some node ∧ isLinkUpReplicaOf node deadID = true
  others : ∀ j < shards, j ≠ k → ∀ podName ∈ shardNewPods name j replicasPerShard,
    InSync (migrationView list replies name).1 shards j podName

section Silent

variable {list : MigPodList} {replies : String → ProbeReplies} {name : String}
  {shards replicasPerShard k : ℕ} {dead : MigPodFact} {deadID : String}

theorem nodeOwnsRange_silence (ip podName : String) (range : SlotRange) :
    nodeOwnsRange (probedNode ip podName silence) range = false := rfl

theorem SilentOwner.not_owned (h : SilentOwner list replies name shards replicasPerShard k dead deadID)
    {node : ClusterNodeState} (hnode : node ∈ (migrationView list replies name).1.nodes.values) :
    nodeOwnsRange node (shardRange shards k) = false := by
  obtain ⟨podName, hlookup⟩ := GoMap.exists_lookup_of_mem_values hnode
  have hgathered := GoMap.mem_values_of_lookup (lookup_of_restrictToLegacyMesh hlookup)
  obtain ⟨ip, podName', hlisted, rfl⟩ := (mem_gather_nodes ..).mp hgathered
  obtain ⟨pod, hpod, rfl, rfl⟩ := exists_of_listed hlisted
  by_cases hdead : pod = dead
  · rw [hdead, h.silent, nodeOwnsRange_silence]
  · exact h.unowned pod hpod hdead

theorem SilentOwner.failovers_eq_nil
    (h : SilentOwner list replies name shards replicasPerShard k dead deadID) (orders : PlanOrders) :
    (planClusterMigration orders (migrationView list replies name).1 shards replicasPerShard name
      (migrationView list replies name).2).failovers = [] := by
  -- A promotion would need the new master of the shard to be in sync with an owner in the view.
  have hunsynced : (planReplicates orders.replicates (migrationView list replies name).1 name shards
      replicasPerShard (generateSlotRanges shards) (migrationView list replies name).2).unsynced ≠ false := by
    intro hsynced
    have hpod : newMasterPodName name k ∈ shardNewPods name k replicasPerShard := List.mem_cons_self
    obtain ⟨node, hnode, hlink⟩ := h.following _ hpod
    have hsettled := (planReplicates_synced_iff ..).mp hsynced k h.shard _ hpod
    have howner : ownerOfShard orders.replicates (migrationView list replies name).1 shards k = none := by
      refine List.find?_eq_none.mpr fun other hother => ?_
      rw [RangeOrder.mem_reorder] at hother
      rw [h.not_owned hother]
      exact Bool.false_ne_true
    rw [settled, hnode, Option.all_some, h.not_owned (GoMap.mem_values_of_lookup hnode), Bool.false_or,
      howner] at hsettled
    simp only [isLinkUpReplicaOf, ownerNodeID, Bool.and_eq_true, beq_iff_eq] at hlink hsettled
    exact h.nodeID (hlink.1.2.symm.trans hsettled.1.2)
  cases planned_planClusterMigration orders (migrationView list replies name).1 shards replicasPerShard name
    (migrationView list replies name).2 with
  | unset _ hacts => exact hacts.2.2.2.1
  | complete _ _ hacts => exact hacts.2.2.2.1
  | standup _ _ _ _ hacts => exact hacts.2.2.2.1
  | meet _ _ _ hacts => exact hacts.2.2.2.1
  | replicate _ _ _ _ hacts => exact hacts.2.2.2.1
  | failover _ _ _ hsynced => exact absurd hsynced hunsynced
  | decommission _ _ _ _ _ _ hacts => exact hacts.2.2.2.1

/-- The new master is promoted by force when its shard is the first that has not moved exactly if it is
not the first. -/
theorem forcedFailover_iff (h : SilentOwner list replies name shards replicasPerShard k dead deadID)
    (orders : PlanOrders) :
    ((∀ j < k, Moved (migrationView list replies name).1 shards name j) →
        (planClusterMigration orders (migrationView list replies name).1 shards replicasPerShard name
            (migrationView list replies name).2).failovers =
          [⟨(migrationView list replies name).2.addr (newMasterPodName name k), true⟩]) ↔
      ∃ j < k, ¬ Moved (migrationView list replies name).1 shards name j := by
  rw [h.failovers_eq_nil orders]
  constructor
  · intro hforced
    by_contra hnone
    push Not at hnone
    cases hforced hnone
  · rintro ⟨j, hj, hnot⟩ hmoved
    exact absurd (hmoved j hj) hnot

end Silent

section Examples

/-- A line of a node. -/
def lineOf (nodeID : String) (flags : List String) (masterID : String) (slots : List String) :
    ClusterNodeInfo := ⟨nodeID, flags, masterID, slots⟩

def followerLines : List ClusterNodeInfo :=
  [lineOf "1a" ["master", "fail?"] "-" ["0-16383"], lineOf "2b" ["slave"] "1a" [],
    lineOf "3c" ["slave"] "1a" [], lineOf "4d" ["slave"] "1a" []]

def followerPods : MigPodList where
  pods := [⟨"lr-cluster-0", "10.0.0.1", false⟩, ⟨"lr-cluster-1", "10.0.0.2", true⟩,
    ⟨"lr-shard-0-0", "10.0.0.3", true⟩, ⟨"lr-shard-0-1", "10.0.0.4", true⟩]
  names_nodup := by decide

def followerReplies (ip : String) : ProbeReplies :=
  if ip = "10.0.0.2" then ⟨some "2b", some .up, some ⟨"ok", 16384⟩, some followerLines⟩
  else if ip = "10.0.0.3" then ⟨some "3c", some .up, some ⟨"ok", 16384⟩, some followerLines⟩
  else if ip = "10.0.0.4" then ⟨some "4d", some .up, some ⟨"ok", 16384⟩, some followerLines⟩
  else silence

theorem followers_silentOwner :
    SilentOwner followerPods followerReplies "lr" 1 1 0 ⟨"lr-cluster-0", "10.0.0.1", false⟩ "1a" where
  shard := by decide
  listed := by decide
  old := by decide
  silent := by decide
  nodeID := by decide
  unowned := by decide
  following := by
    intro podName hpod
    have hlinks : ∀ podName ∈ shardNewPods "lr" 0 1,
        ((migrationView followerPods followerReplies "lr").1.nodes.lookup podName).any
          (isLinkUpReplicaOf · "1a") = true := by decide
    exact (Option.any_eq_true _ _).mp (hlinks podName hpod)
  others := fun j hj hne => absurd (Nat.lt_one_iff.mp hj) hne

def givenOrders : PlanOrders := ⟨fun _ => .asGiven, fun _ => .asGiven⟩

/-- The only shard is the first that has not moved, and yet its new master is not promoted by force. -/
theorem followers_notForced :
    ¬ ((∀ j < 0, Moved (migrationView followerPods followerReplies "lr").1 1 "lr" j) →
      (planClusterMigration givenOrders (migrationView followerPods followerReplies "lr").1 1 1 "lr"
          (migrationView followerPods followerReplies "lr").2).failovers =
        [⟨(migrationView followerPods followerReplies "lr").2.addr (newMasterPodName "lr" 0), true⟩]) := by
  intro hforced
  obtain ⟨j, hj, -⟩ := (forcedFailover_iff followers_silentOwner givenOrders).mp hforced
  exact absurd hj (Nat.not_lt_zero j)

/-- The plan waits for the new pods, although they are in sync with the old master that died. -/
theorem followers_wait :
    SilentOwner followerPods followerReplies "lr" 1 1 0 ⟨"lr-cluster-0", "10.0.0.1", false⟩ "1a" ∧
      (planClusterMigration givenOrders (migrationView followerPods followerReplies "lr").1 1 1 "lr"
        (migrationView followerPods followerReplies "lr").2).phase = .replicate ∧
      (planClusterMigration givenOrders (migrationView followerPods followerReplies "lr").1 1 1 "lr"
        (migrationView followerPods followerReplies "lr").2).failovers = [] :=
  ⟨followers_silentOwner, by decide, by decide⟩

end Examples

end LittleRed.Cluster
