import LittleRed.Cluster.PodNames

/-!
# What a migration plan never does

The phases come in a strict order: a range is taken over only when every new pod is in sync with the owner of
its range, and the old pods are dropped only when the new masters own the ranges.
-/

namespace LittleRed.Cluster

open Lib List AList

theorem zip_generateSlotRanges (shards : ℕ) :
    (List.range shards).zip (generateSlotRanges shards) =
      (List.range shards).map fun k => (k, shardRange shards k) := by
  rw [generateSlotRanges_eq, map_prod_left_eq_zip]

section Scan

variable (gt : ClusterGroundTruth) (legacy : LegacyFacts) (range : SlotRange)
  (owner : Option ClusterNodeState)

/-- A new pod needs nothing: it is not there, has the range, or is in sync with the owner. -/
def settled (podName : String) : Bool :=
  (gt.nodes.lookup podName).all fun node =>
    nodeOwnsRange node range || isLinkUpReplicaOf node (ownerNodeID owner)

/-- The command for a new pod, if there is one. -/
def attachOf (podName : String) : Option ReplicaAttach := do
  let node ← gt.nodes.lookup podName
  let owner ← owner
  if nodeOwnsRange node range || isLinkUpReplicaOf node owner.nodeID ||
      (node.role == .replica && node.masterNodeID == owner.nodeID) ||
      !gt.nodeKnows node.nodeID owner.nodeID then none
  else some ⟨legacy.addr podName, owner.nodeID⟩

/-- What one new pod adds to the scan. -/
theorem scanNewPod_spec (scan : ReplicateScan) (podName : String) :
    (scanNewPod gt legacy range owner scan podName).replicates =
        scan.replicates ++ (attachOf gt legacy range owner podName).toList ∧
      (scanNewPod gt legacy range owner scan podName).unsynced =
        (scan.unsynced || !settled gt range owner podName) := by
  unfold scanNewPod attachOf settled
  cases gt.nodes.lookup podName with
  | none => simp
  | some node =>
    cases hrange : nodeOwnsRange node range with
    | true => cases owner <;> simp [hrange]
    | false =>
      cases owner with
      | none => cases hlink : isLinkUpReplicaOf node (ownerNodeID none) <;> simp [hrange, hlink]
      | some owner =>
        have hid : ownerNodeID (some owner) = owner.nodeID := rfl
        rw [hid]
        cases hlink : isLinkUpReplicaOf node owner.nodeID with
        | true => simp [hrange, hlink]
        | false =>
          by_cases hfollows : node.role = .replica ∧ node.masterNodeID = owner.nodeID
          · simp [hrange, hlink, hfollows]
          · cases hknows : gt.nodeKnows node.nodeID owner.nodeID <;> simp [hrange, hlink, hfollows, hknows]

end Scan

section Replicates

variable (orders : ℕ → RangeOrder ClusterNodeState) (gt : ClusterGroundTruth) (name : String)
  (shards replicasPerShard : ℕ) (legacy : LegacyFacts)

/-- The new pods with their shards. -/
def newPods : List (ℕ × String) :=
  (List.range shards).flatMap fun k => (shardNewPods name k replicasPerShard).map fun podName => (k, podName)

theorem mem_newPods {k : ℕ} {podName : String} :
    (k, podName) ∈ newPods name shards replicasPerShard ↔
      k < shards ∧ podName ∈ shardNewPods name k replicasPerShard := by
  simp [newPods]

theorem map_snd_newPods :
    (newPods name shards replicasPerShard).map Prod.snd = expectedNewPods name shards replicasPerShard := by
  simp [newPods, expectedNewPods, map_flatMap, Function.comp_def]

abbrev ownerOfShard (k : ℕ) : Option ClusterNodeState := ownerOfRange (orders k) gt (shardRange shards k)

/-- The scan goes over the new pods. -/
theorem planReplicates_eq_foldl :
    planReplicates orders gt name shards replicasPerShard (generateSlotRanges shards) legacy =
      (newPods name shards replicasPerShard).foldl (fun scan pod =>
        scanNewPod gt legacy (shardRange shards pod.1)
          (ownerOfShard orders gt shards pod.1) scan pod.2) {} := by
  simp only [planReplicates, newPods, zip_generateSlotRanges, foldl_map, foldl_flatMap]

theorem planReplicates_replicates :
    (planReplicates orders gt name shards replicasPerShard (generateSlotRanges shards) legacy).replicates =
      (newPods name shards replicasPerShard).filterMap fun pod =>
        attachOf gt legacy (shardRange shards pod.1) (ownerOfShard orders gt shards pod.1) pod.2 := by
  rw [planReplicates_eq_foldl]
  exact foldl_collect ReplicateScan.replicates
    (fun scan pod => (scanNewPod_spec gt legacy _ _ scan pod.2).1) _ _

/-- All are in sync when each is settled. -/
theorem planReplicates_synced_iff :
    (planReplicates orders gt name shards replicasPerShard (generateSlotRanges shards) legacy).unsynced =
        false ↔ ∀ k < shards, ∀ podName ∈ shardNewPods name k replicasPerShard,
        settled gt (shardRange shards k) (ownerOfShard orders gt shards k) podName = true := by
  have hflag := foldl_flag ReplicateScan.unsynced (fun scan pod =>
    (scanNewPod_spec gt legacy (shardRange shards pod.1) (ownerOfShard orders gt shards pod.1) scan pod.2).2)
    (newPods name shards replicasPerShard) {}
  rw [planReplicates_eq_foldl, hflag, Bool.false_or, any_eq_false]
  constructor
  · intro h k hk podName hpod
    have hpod := h (k, podName) ((mem_newPods name shards replicasPerShard).mpr ⟨hk, hpod⟩)
    rwa [Bool.not_eq_true, Bool.not_eq_false'] at hpod
  · rintro h ⟨k, podName⟩ hpod
    obtain ⟨hk, hpod⟩ := (mem_newPods name shards replicasPerShard).mp hpod
    rw [Bool.not_eq_true, Bool.not_eq_false']
    exact h k hk podName hpod

/-- The promotion is for the first shard that has not moved. -/
theorem nextFailover_some {action : FailoverAction} {k : ℕ}
    (h : nextFailover orders gt name shards (generateSlotRanges shards) legacy = some (action, k)) :
    k < shards ∧ action.addr = legacy.addr (newMasterPodName name k) ∧
      (gt.nodes.lookup (newMasterPodName name k)).any (nodeOwnsRange · (shardRange shards k)) = false ∧
      ∀ j < k,
        (gt.nodes.lookup (newMasterPodName name j)).any (nodeOwnsRange · (shardRange shards j)) = true := by
  unfold nextFailover at h
  rw [zip_generateSlotRanges, List.findSome?_map] at h
  obtain ⟨k', hk, hfound, hbefore⟩ := exists_of_findSome?_range h
  simp only [Function.comp_apply] at hfound hbefore
  split at hfound
  · cases hfound
  rename_i hnot
  obtain ⟨rfl, rfl⟩ := Prod.mk.inj (Option.some.inj hfound)
  refine ⟨hk, rfl, Bool.not_eq_true _ ▸ hnot, fun j hj => ?_⟩
  have hj := hbefore j hj
  split at hj
  · assumption
  · cases hj

theorem nextFailover_none
    (h : nextFailover orders gt name shards (generateSlotRanges shards) legacy = none) {k : ℕ}
    (hk : k < shards) :
    (gt.nodes.lookup (newMasterPodName name k)).any (nodeOwnsRange · (shardRange shards k)) = true := by
  unfold nextFailover at h
  rw [zip_generateSlotRanges, List.findSome?_map, List.findSome?_eq_none_iff] at h
  have hk := h k (mem_range.mpr hk)
  simp only [Function.comp_apply] at hk
  split at hk
  · assumption
  · cases hk

end Replicates

section Safe

variable (gt : ClusterGroundTruth) (shards replicasPerShard : ℕ) (name : String) (legacy : LegacyFacts)

/-- Ranges have at most one owner, nodes different IDs, and replicas a master. -/
structure Attributable : Prop where
  owner : ∀ range ∈ generateSlotRanges shards, ∀ podName node podName' node',
    gt.nodes.lookup podName = some node → gt.nodes.lookup podName' = some node' →
    nodeOwnsRange node range = true → nodeOwnsRange node' range = true → podName = podName'
  nodeID : ∀ podName node podName' node', gt.nodes.lookup podName = some node →
    gt.nodes.lookup podName' = some node' → node.nodeID = node'.nodeID → podName = podName'
  masterID : ∀ podName node, gt.nodes.lookup podName = some node → node.role = .replica →
    node.masterNodeID ≠ ""

/-- The new master of a shard owns its range. -/
def Moved (k : ℕ) : Prop :=
  ∃ master, gt.nodes.lookup (newMasterPodName name k) = some master ∧
    nodeOwnsRange master (shardRange shards k) = true

/-- A node owns the range of a shard, and no other one does. -/
def UniqueOwner (k : ℕ) (owner : ClusterNodeState) : Prop :=
  owner ∈ gt.nodes.values ∧ nodeOwnsRange owner (shardRange shards k) = true ∧
    ∀ other ∈ gt.nodes.values, nodeOwnsRange other (shardRange shards k) = true → other = owner

/-- A pod owns the range of its shard, or is in sync with the one node that does. -/
def InSync (k : ℕ) (podName : String) : Prop :=
  ∃ node, gt.nodes.lookup podName = some node ∧ (nodeOwnsRange node (shardRange shards k) = true ∨
    ∃ owner, UniqueOwner gt shards k owner ∧ isLinkUpReplicaOf node owner.nodeID = true)

/-- What a plan keeps to. -/
structure SafePlan (plan : MigrationPlan) : Prop where
  failovers : plan.failovers = [] ∨ ∃ k < shards, ∃ action, plan.failovers = [action] ∧
    action.addr = legacy.addr (newMasterPodName name k) ∧ ¬ Moved gt shards name k ∧
    (∀ j < k, Moved gt shards name j) ∧
    ∀ j < shards, ∀ podName ∈ shardNewPods name j replicasPerShard, InSync gt shards j podName
  replicates : ∃ pods, pods.Sublist (expectedNewPods name shards replicasPerShard) ∧
    List.Forall₂ (fun podName attach => attach.replicaAddr = legacy.addr podName ∧
      ∃ node, gt.nodes.lookup podName = some node ∧ attach.masterID ≠ node.nodeID ∧
        gt.nodeKnows node.nodeID attach.masterID = true) pods plan.replicates
  deleteLegacy : plan.deleteLegacy = true →
    (∀ k < shards, ∃ master, gt.nodes.lookup (newMasterPodName name k) = some master ∧
      nodeOwnsRange master (shardRange shards k) = true ∧
      ∀ m, 1 ≤ m → m ≤ replicasPerShard → ∃ replica,
        gt.nodes.lookup (newReplicaPodName name k m) = some replica ∧
          isLinkUpReplicaOf replica master.nodeID = true) ∧
    ∀ node ∈ gt.nodes.values, node.nodeID ∈ legacy.legacyNodeIDs → node.slots = []

variable {gt shards replicasPerShard name legacy}

variable {k : ℕ} {podName : String}

/-- A shard has moved when its new master owns the range. -/
theorem moved_iff :
    Moved gt shards name k ↔
      (gt.nodes.lookup (newMasterPodName name k)).any (nodeOwnsRange · (shardRange shards k)) = true := by
  unfold Moved
  cases gt.nodes.lookup (newMasterPodName name k) with
  | none | some => simp

/-- The owner that is found is the only one. -/
theorem Attributable.ownerOfRange_eq_some (h : Attributable gt shards) (order : RangeOrder ClusterNodeState)
    (hk : k < shards) {owner : ClusterNodeState}
    (hfound : ownerOfRange order gt (shardRange shards k) = some owner) : UniqueOwner gt shards k owner := by
  have hmem := (RangeOrder.mem_reorder order).mp (mem_of_find?_eq_some hfound)
  have howns := List.find?_some hfound
  refine ⟨hmem, howns, fun other hother hother' => ?_⟩
  obtain ⟨podName, hlookup⟩ := GoMap.exists_lookup_of_mem_values hmem
  obtain ⟨podName', hlookup'⟩ := GoMap.exists_lookup_of_mem_values hother
  have hrange := mem_generateSlotRanges.mpr ⟨k, hk, rfl⟩
  have hpods := h.owner _ hrange _ _ _ _ hlookup' hlookup hother' howns
  rw [hpods, hlookup] at hlookup'
  exact (Option.some.inj hlookup').symm

/-- A settled pod is in sync. -/
theorem Attributable.inSync_of_settled (h : Attributable gt shards) (order : RangeOrder ClusterNodeState)
    (hk : k < shards) (hmet : (gt.nodes.lookup podName).isSome = true)
    (hsettled : settled gt (shardRange shards k) (ownerOfRange order gt (shardRange shards k)) podName = true) :
    InSync gt shards k podName := by
  obtain ⟨node, hnode⟩ := Option.isSome_iff_exists.mp hmet
  rw [settled, hnode, Option.all_some, Bool.or_eq_true] at hsettled
  refine ⟨node, hnode, hsettled.imp_right fun hlink => ?_⟩
  cases howner : ownerOfRange order gt (shardRange shards k) with
  | some owner =>
    rw [howner] at hlink
    exact ⟨owner, h.ownerOfRange_eq_some order hk howner, hlink⟩
  | none =>
    -- Without an owner the pod would follow the empty node ID.
    rw [howner] at hlink
    simp only [isLinkUpReplicaOf, ownerNodeID, Bool.and_eq_true, beq_iff_eq] at hlink
    exact absurd hlink.1.2 (h.masterID podName node hnode hlink.1.1)

/-- A new pod that was met is in the view. -/
theorem isSome_of_allNewPodsMet (hmet : allNewPodsMet gt name shards replicasPerShard = true)
    (hk : k < shards) (hpod : podName ∈ shardNewPods name k replicasPerShard) :
    (gt.nodes.lookup podName).isSome = true :=
  all_eq_true.mp hmet podName (mem_flatMap.mpr ⟨k, mem_range.mpr hk, hpod⟩)

/-- A pod is attached to another node that it knows. -/
theorem Attributable.of_attachOf (h : Attributable gt shards) (order : RangeOrder ClusterNodeState)
    (hk : k < shards) {attach : ReplicaAttach}
    (hattach : attachOf gt legacy (shardRange shards k) (ownerOfRange order gt (shardRange shards k)) podName =
      some attach) :
    attach.replicaAddr = legacy.addr podName ∧ ∃ node, gt.nodes.lookup podName = some node ∧
      attach.masterID ≠ node.nodeID ∧ gt.nodeKnows node.nodeID attach.masterID = true := by
  obtain ⟨node, hnode, hattach⟩ := Option.bind_eq_some_iff.mp hattach
  obtain ⟨owner, howner, hattach⟩ := Option.bind_eq_some_iff.mp hattach
  split at hattach
  · cases hattach
  rename_i hneeds
  simp only [Bool.not_eq_true, Bool.or_eq_false_iff, Bool.not_eq_false'] at hneeds
  cases hattach
  refine ⟨rfl, node, hnode, fun hid => ?_, hneeds.2⟩
  obtain ⟨hmem, howns, -⟩ := h.ownerOfRange_eq_some order hk howner
  obtain ⟨podName', hlookup⟩ := GoMap.exists_lookup_of_mem_values hmem
  have hpods := h.nodeID _ _ _ _ hlookup hnode hid
  rw [hpods, hnode] at hlookup
  cases hlookup
  rw [hneeds.1.1.1] at howns
  cases howns

/-- New replicas follow the new master that owns the range. -/
theorem Attributable.follows (h : Attributable gt shards) (hk : k < shards) {master : ClusterNodeState}
    (hmaster : gt.nodes.lookup (newMasterPodName name k) = some master)
    (howns : nodeOwnsRange master (shardRange shards k) = true) {m : ℕ} (hm : 1 ≤ m)
    (hsync : InSync gt shards k (newReplicaPodName name k m)) :
    ∃ replica, gt.nodes.lookup (newReplicaPodName name k m) = some replica ∧
      isLinkUpReplicaOf replica master.nodeID = true := by
  obtain ⟨replica, hreplica, hsync⟩ := hsync
  refine ⟨replica, hreplica, ?_⟩
  rcases hsync with howns' | ⟨owner, ⟨-, -, hunique⟩, hlink⟩
  · have hrange := mem_generateSlotRanges.mpr ⟨k, hk, rfl⟩
    have hpods := h.owner _ hrange _ _ _ _ hreplica hmaster howns' howns
    have hzero : m = 0 := (clusterShardPodName_inj name k).mp hpods
    omega
  · rwa [hunique master (GoMap.mem_values_of_lookup hmaster) howns]

/-- A plan without actions is safe. -/
theorem safePlan_of_noActions {plan : MigrationPlan} (hreplicates : plan.replicates = [])
    (hfailovers : plan.failovers = []) (hdelete : plan.deleteLegacy = false) :
    SafePlan gt shards replicasPerShard name legacy plan where
  failovers := .inl hfailovers
  replicates := ⟨[], nil_sublist _, hreplicates ▸ .nil⟩
  deleteLegacy := fun h => absurd (hdelete.symm.trans h) Bool.false_ne_true

/-- All attachments are for different pods and to nodes they know. -/
theorem Attributable.replicates (h : Attributable gt shards) (orders : ℕ → RangeOrder ClusterNodeState) :
    ∃ pods, pods.Sublist (expectedNewPods name shards replicasPerShard) ∧
      List.Forall₂ (fun podName attach => attach.replicaAddr = legacy.addr podName ∧
        ∃ node, gt.nodes.lookup podName = some node ∧ attach.masterID ≠ node.nodeID ∧
          gt.nodeKnows node.nodeID attach.masterID = true) pods
        (planReplicates orders gt name shards replicasPerShard
          (generateSlotRanges shards) legacy).replicates := by
  rw [planReplicates_replicates, ← map_snd_newPods]
  have hattach := forall₂_filterMap (fun pod : ℕ × String =>
    attachOf gt legacy (shardRange shards pod.1) (ownerOfShard orders gt shards pod.1) pod.2)
    (newPods name shards replicasPerShard)
  refine ⟨_, filter_sublist.map Prod.snd, forall₂_map_left_iff.mpr (hattach.imp ?_)⟩
  rintro ⟨k, podName⟩ attach ⟨hpod, hattach⟩
  exact h.of_attachOf _ ((mem_newPods name shards replicasPerShard).mp hpod).1 hattach

/-- Every plan for a view that can be attributed is safe. -/
theorem planClusterMigration_safe (orders : PlanOrders) (h : Attributable gt shards) :
    SafePlan gt shards replicasPerShard name legacy
      (planClusterMigration orders gt shards replicasPerShard name legacy) := by
  -- After the replicate phase, every new pod is in sync.
  have hsync : allNewPodsMet gt name shards replicasPerShard = true →
      (planReplicates orders.replicates gt name shards replicasPerShard (generateSlotRanges shards)
        legacy).unsynced = false →
      ∀ j < shards, ∀ podName ∈ shardNewPods name j replicasPerShard, InSync gt shards j podName := by
    intro hmet hsynced j hj podName hpod
    exact h.inSync_of_settled _ hj (isSome_of_allNewPodsMet hmet hj hpod)
      ((planReplicates_synced_iff ..).mp hsynced j hj podName hpod)
  cases planned_planClusterMigration orders gt shards replicasPerShard name legacy with
  | unset _ hacts => exact safePlan_of_noActions hacts.2.2.1 hacts.2.2.2.1 hacts.2.2.2.2
  | complete _ _ hacts => exact safePlan_of_noActions hacts.2.2.1 hacts.2.2.2.1 hacts.2.2.2.2
  | standup _ _ _ _ hacts => exact safePlan_of_noActions hacts.2.2.1 hacts.2.2.2.1 hacts.2.2.2.2
  | meet _ _ _ hacts => exact safePlan_of_noActions hacts.2.2.1 hacts.2.2.2.1 hacts.2.2.2.2
  | replicate _ _ _ _ hacts =>
    obtain ⟨-, -, hreplicates, hfailovers, hdelete⟩ := hacts
    refine ⟨.inl hfailovers, ?_, fun h => absurd (hdelete.symm.trans h) Bool.false_ne_true⟩
    rw [hreplicates]
    exact h.replicates orders.replicates
  | failover _ _ hmet hsynced action k hnext hacts =>
    obtain ⟨-, -, hreplicates, hfailovers, hdelete⟩ := hacts
    obtain ⟨hk, haddr, hnot, hbefore⟩ := nextFailover_some _ _ _ _ _ hnext
    refine ⟨.inr ⟨k, hk, action, hfailovers, haddr, ?_, ?_, hsync hmet hsynced⟩,
      ⟨[], nil_sublist _, hreplicates ▸ .nil⟩, fun h => absurd (hdelete.symm.trans h) Bool.false_ne_true⟩
    · rw [moved_iff, hnot]
      exact Bool.false_ne_true
    · exact fun j hj => moved_iff.mpr (hbefore j hj)
  | decommission _ _ hmet hsynced hnext _ hacts =>
    obtain ⟨-, -, hreplicates, hfailovers, hdelete⟩ := hacts
    refine ⟨.inl hfailovers, ⟨[], nil_sublist _, hreplicates ▸ .nil⟩,
      fun hdelete' => ⟨fun k hk => ?_, ?_⟩⟩
    · obtain ⟨master, hmaster, howns⟩ := moved_iff.mpr (nextFailover_none _ _ _ _ _ hnext hk)
      refine ⟨master, hmaster, howns, fun m hm hle => h.follows hk hmaster howns hm ?_⟩
      exact hsync hmet hsynced k hk _ (mem_shardNewPods.mpr ⟨m, hle, rfl⟩)
    · intro node hnode hlegacy
      rw [hdelete, Bool.not_eq_true', anyLegacyOwnsSlots, any_eq_false] at hdelete'
      have hslots := hdelete' node (mem_filter.mpr ⟨hnode, contains_iff_mem.mpr hlegacy⟩)
      rwa [Bool.not_eq_true, Bool.not_eq_false', List.isEmpty_iff] at hslots

/-- Attributable, entry by entry. -/
theorem attributable_of_entries
    (howner : ∀ range ∈ generateSlotRanges shards, ∀ entry ∈ gt.nodes.entries, ∀ entry' ∈ gt.nodes.entries,
      nodeOwnsRange entry.2 range = true → nodeOwnsRange entry'.2 range = true → entry.1 = entry'.1)
    (hid : ∀ entry ∈ gt.nodes.entries, ∀ entry' ∈ gt.nodes.entries,
      entry.2.nodeID = entry'.2.nodeID → entry.1 = entry'.1)
    (hmaster : ∀ entry ∈ gt.nodes.entries, entry.2.role = .replica → entry.2.masterNodeID ≠ "") :
    Attributable gt shards where
  owner range hrange _ _ _ _ h h' :=
    howner range hrange ⟨_, _⟩ (mem_lookup_iff.mp h) ⟨_, _⟩ (mem_lookup_iff.mp h')
  nodeID _ _ _ _ h h' := hid ⟨_, _⟩ (mem_lookup_iff.mp h) ⟨_, _⟩ (mem_lookup_iff.mp h')
  masterID _ _ h := hmaster ⟨_, _⟩ (mem_lookup_iff.mp h)

/-- A new master and its replica are in sync with the owner. -/
def syncedPair : ClusterGroundTruth :=
  { newClusterGroundTruth with
    nodes := GoMap.ofPairs
      [("lr-cluster-0", ⟨"lr-cluster-0", "10.0.0.1", "1a", ["0-16383"], .master, "-", .unknown, true⟩),
        ("lr-shard-0-0", ⟨"lr-shard-0-0", "10.0.0.2", "2b", [], .replica, "1a", .up, true⟩),
        ("lr-shard-0-1", ⟨"lr-shard-0-1", "10.0.0.3", "3c", [], .replica, "1a", .up, true⟩)] }

def pairFacts : LegacyFacts :=
  ⟨["10.0.0.1:6379"], ["1a"],
    GoMap.ofPairs [("lr-shard-0-0", "10.0.0.2:6379"), ("lr-shard-0-1", "10.0.0.3:6379")]⟩

/-- The new master is promoted. -/
theorem syncedPair_safe :
    SafePlan syncedPair 1 1 "lr" pairFacts
        (planClusterMigration ⟨fun _ => .asGiven, fun _ => .asGiven⟩ syncedPair 1 1 "lr" pairFacts) ∧
      (planClusterMigration ⟨fun _ => .asGiven, fun _ => .asGiven⟩ syncedPair 1 1 "lr" pairFacts).failovers =
        [⟨"10.0.0.2:6379", false⟩] :=
  ⟨planClusterMigration_safe _ (attributable_of_entries (by decide) (by decide) (by decide)), by decide⟩

end Safe

end LittleRed.Cluster
