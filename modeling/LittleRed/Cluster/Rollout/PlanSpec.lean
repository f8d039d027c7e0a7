import LittleRed.Cluster.Rollout.Plan
import Mathlib.Tactic.Tauto

/-!
# What the rollout gate asks for

The gate lowers a partition exactly when every ordinal from it on is released: its pod is at the update
revision, ready, and a link-up replica of the shard's slot owner.
-/

namespace LittleRed.Cluster.Rollout

open Lib List Option

variable {Template : Type*}

/-- The pod of an ordinal satisfies all three clauses of the gate. -/
def PodReleased (input : ShardRolloutInput) (ordinal : ℕ) : Prop :=
  ∃ pod, input.byOrdinal.lookup ordinal = some pod ∧ input.updateRevision ≠ "" ∧
    pod.revision = input.updateRevision ∧ pod.ready = true ∧ pod.syncedWithOwner = true

/-- A hold is recorded. -/
theorem recordHold_hold_ne_none (plan : ShardRolloutPlan) {reason : ShardRolloutHold}
    (hreason : reason ≠ .none) (ordinal : ℕ) : (plan.recordHold reason ordinal).hold ≠ .none := by
  unfold ShardRolloutPlan.recordHold
  split
  · exact hreason
  · assumption

variable {input : ShardRolloutInput} {ordinal : ℕ}

/-- A released ordinal changes nothing. -/
theorem scanOrdinal_of_released (h : PodReleased input ordinal) (plan : ShardRolloutPlan) :
    scanOrdinal input plan ordinal = plan := by
  obtain ⟨pod, hlookup, hupdate, hrevision, hready, hsynced⟩ := h
  simp [scanOrdinal, hlookup, hupdate, hrevision, hready, hsynced]

/-- Another one is held. -/
theorem scanOrdinal_hold_ne_none (h : ¬ PodReleased input ordinal) (plan : ShardRolloutPlan) :
    (scanOrdinal input plan ordinal).hold ≠ .none := by
  unfold scanOrdinal
  split
  · exact recordHold_hold_ne_none plan (by decide) ordinal
  rename_i pod hlookup
  split
  · exact recordHold_hold_ne_none plan (by decide) ordinal
  rename_i hrevision
  rw [not_or, not_not] at hrevision
  split
  · exact recordHold_hold_ne_none plan (by decide) ordinal
  rename_i hready
  split
  · have hheld := recordHold_hold_ne_none plan
      (by decide : ShardRolloutHold.redundancy ≠ .none) ordinal
    dsimp only
    split <;> exact hheld
  · rename_i hsynced
    exact absurd ⟨pod, hlookup, hrevision.1, hrevision.2, by simpa using hready,
      by simpa using hsynced⟩ h

/-- Nothing is held when all are released. -/
theorem scan_hold_eq_none_iff (input : ShardRolloutInput) (ordinals : List ℕ) (plan : ShardRolloutPlan) :
    (ordinals.foldl (scanOrdinal input) plan).hold = .none ↔
      plan.hold = .none ∧ ∀ ordinal ∈ ordinals, PodReleased input ordinal := by
  induction ordinals generalizing plan with
  | nil => simp
  | cons ordinal rest ih =>
    rw [foldl_cons, ih, forall_mem_cons]
    by_cases hreleased : PodReleased input ordinal
    · rw [scanOrdinal_of_released hreleased]
      simp [hreleased]
    · simp [hreleased, scanOrdinal_hold_ne_none hreleased plan]

/-- Released pods leave the plan as it is. -/
theorem scan_of_released {ordinals : List ℕ} (h : ∀ ordinal ∈ ordinals, PodReleased input ordinal)
    (plan : ShardRolloutPlan) :
    ordinals.foldl (scanOrdinal input) plan = plan := by
  induction ordinals generalizing plan with
  | nil => rfl
  | cons ordinal rest ih =>
    rw [forall_mem_cons] at h
    rw [foldl_cons, scanOrdinal_of_released h.1, ih h.2]

/-- The partition is at most the highest ordinal. -/
theorem currentPartition_le (input : ShardRolloutInput) :
    input.currentPartition ≤ input.highestOrdinal := by
  unfold ShardRolloutInput.currentPartition
  dsimp only
  split <;> omega

/-- The ordinals from the partition on. -/
theorem mem_gatedOrdinals (input : ShardRolloutInput) (ordinal : ℕ) :
    ordinal ∈ input.gatedOrdinals ↔ input.currentPartition ≤ ordinal ∧ ordinal ≤ input.highestOrdinal := by
  simp only [ShardRolloutInput.gatedOrdinals, mem_range'_1]
  omega

/-- The shard has settled on the template it was given, as the gate sees it. -/
def GateComplete (input : ShardRolloutInput) : Prop :=
  input.observedGeneration = input.generation ∧ input.updateRevision ≠ "" ∧
    input.updateRevision = input.currentRevision

/-- The conditions under which the gate lowers a partition. -/
structure AdvanceReady (input : ShardRolloutInput) : Prop where
  gated : input.replicasPerShard ≠ 0
  applied : input.appliedHash = input.desiredHash
  unsettled : ¬ GateComplete input
  released : ∀ ordinal, input.currentPartition ≤ ordinal → ordinal ≤ input.highestOrdinal →
    PodReleased input ordinal
  above : 0 < input.currentPartition

/-- The gate is open. -/
theorem planShardRolloutPartition_of_ready (h : AdvanceReady input) :
    planShardRolloutPartition input =
      ⟨.advance, some ((input.currentPartition : ℤ) - 1), .none, -1, false, []⟩ := by
  have hreleased : ∀ ordinal ∈ input.gatedOrdinals, PodReleased input ordinal := by
    intro ordinal hmem
    obtain ⟨hlow, hhigh⟩ := (mem_gatedOrdinals input ordinal).mp hmem
    exact h.released ordinal hlow hhigh
  have hscan := scan_of_released hreleased
  have hunsettled := h.unsettled
  unfold GateComplete at hunsettled
  simp [planShardRolloutPartition, h.gated, h.applied, hunsettled, hscan, h.above]

/-- Only then the partition is lowered. -/
theorem advanceReady_of_verdict
    (h : (planShardRolloutPartition input).verdict = .advance) : AdvanceReady input := by
  unfold planShardRolloutPartition at h
  split at h
  · cases h
  rename_i hgated
  split at h
  · cases h
  rename_i happlied
  dsimp only at h
  split at h
  · cases h
  rename_i hunsettled
  split at h
  · cases h
  rename_i hhold
  split at h
  · rename_i habove
    rw [not_not, scan_hold_eq_none_iff] at hhold
    exact ⟨hgated, not_not.mp happlied, hunsettled,
      fun ordinal hlow hhigh => hhold.2 ordinal ((mem_gatedOrdinals input ordinal).mpr ⟨hlow, hhigh⟩),
      habove⟩
  · cases h

/-- A new template starts at the highest ordinal. -/
theorem planShardRolloutPartition_of_changed (hgated : input.replicasPerShard ≠ 0)
    (happlied : input.appliedHash ≠ input.desiredHash) :
    (planShardRolloutPartition input).partition = some (input.highestOrdinal : ℤ) := by
  simp [planShardRolloutPartition, hgated, happlied]

/-- A complete shard is opened. -/
theorem planShardRolloutPartition_of_complete (hgated : input.replicasPerShard ≠ 0)
    (happlied : input.appliedHash = input.desiredHash) (hcomplete : GateComplete input) :
    (planShardRolloutPartition input).partition = some 0 := by
  unfold planShardRolloutPartition
  rw [if_neg hgated, if_neg (not_not.mpr happlied)]
  exact congrArg ShardRolloutPlan.partition (if_pos hcomplete)

/-- A settled set has one revision. -/
theorem settled_revisions {naming : RevisionNaming Template} {sts : StatefulSet Template}
    (h : statefulSetRolloutSettled naming sts = true) :
    sts.status.observedGeneration = sts.generation ∧ naming.name sts.status.updateTemplate ≠ "" ∧
      naming.name sts.status.updateTemplate = naming.name sts.status.currentTemplate := by
  unfold statefulSetRolloutSettled at h
  split at h
  · cases h
  simp only [Bool.and_eq_true, beq_iff_eq, bne_iff_ne] at h
  obtain ⟨⟨⟨⟨⟨hobserved, hupdate⟩, hcurrent⟩, -⟩, -⟩, -⟩ := h
  exact ⟨hobserved, hupdate, hcurrent⟩

variable (naming : RevisionNaming Template) (templates : PodTemplates Template) (name : String)
  (shards shardIdx replicasPerShard : ℕ) (gt : ClusterGroundTruth) (desiredHash : String)

/-- When a set has settled. -/
theorem statefulSetRolloutSettled_iff {sts : StatefulSet Template} {want : ℕ}
    (hreplicas : sts.spec.replicas = some want) :
    statefulSetRolloutSettled naming sts = true ↔ sts.status.observedGeneration = sts.generation ∧
        (∃ template, sts.status.updateTemplate = some template ∧ sts.status.currentTemplate = some template) ∧
        sts.status.updatedReplicas = want ∧ sts.status.readyReplicas = want ∧ sts.status.replicas = want := by
  have hrevision : naming.name sts.status.updateTemplate ≠ "" ∧
      naming.name sts.status.updateTemplate = naming.name sts.status.currentTemplate ↔
        ∃ template, sts.status.updateTemplate = some template ∧
          sts.status.currentTemplate = some template := by
    rw [Ne, naming.name_eq_empty_iff, naming.name_inj]
    cases sts.status.updateTemplate with
    | none => simp
    | some template => simp [eq_comm]
  rw [← hrevision]
  simp only [statefulSetRolloutSettled, hreplicas, Bool.and_eq_true, beq_iff_eq, bne_iff_ne]
  tauto

/-- In the view, the pod of an ordinal is a link-up replica of the shard's slot owner. -/
def syncedReplica (gt : ClusterGroundTruth) (name : String)
    (shards replicasPerShard shardIdx ordinal : ℕ) : Bool :=
  match shardSlotOwner (some gt) name shards replicasPerShard shardIdx,
      gt.nodes.lookup (clusterShardPodName name shardIdx ordinal) with
  | some owner, some node => owner.nodeID != "" && isLinkUpReplicaOf node owner.nodeID
  | _, _ => false

/-- When an ordinal is a linked replica of the slot owner. -/
theorem syncedReplica_iff (name : String) (shards replicasPerShard shardIdx ordinal : ℕ) :
    syncedReplica gt name shards replicasPerShard shardIdx ordinal = true ↔
      ∃ owner node, shardSlotOwner (some gt) name shards replicasPerShard shardIdx = some owner ∧
        owner.nodeID ≠ "" ∧ gt.nodes.lookup (clusterShardPodName name shardIdx ordinal) = some node ∧
        isLinkUpReplicaOf node owner.nodeID = true := by
  unfold syncedReplica
  cases shardSlotOwner (some gt) name shards replicasPerShard shardIdx <;>
    cases gt.nodes.lookup (clusterShardPodName name shardIdx ordinal) <;> simp

/-- The pod, unless it is terminating. -/
def livePod : Option (StsPod Template) → Option (StsPod Template)
  | none => none
  | some pod => if pod.terminating then none else some pod

/-- A live pod is there and stays. -/
theorem livePod_eq_some_iff (pod? : Option (StsPod Template)) (pod : StsPod Template) :
    livePod pod? = some pod ↔ pod? = some pod ∧ pod.terminating = false := by
  cases pod? with
  | none => simp [livePod]
  | some p =>
    cases hterminating : p.terminating
    · simp only [livePod, hterminating, Bool.false_eq_true, if_false, Option.some.injEq]
      exact ⟨fun h => ⟨h, h ▸ hterminating⟩, And.left⟩
    · simp only [livePod, hterminating, if_true, Option.some.injEq]
      refine ⟨fun h => (nomatch h), fun h => ?_⟩
      rw [← h.1, hterminating] at h
      cases h.2

/-- The live pods by name. -/
theorem shardRolloutPods_lookup (shardIdx replicasPerShard : ℕ)
    (pods : ℕ → Option (StsPod Template)) (h : ordinal ≤ replicasPerShard) :
    (shardRolloutPods name shardIdx replicasPerShard pods).lookup
      (clusterShardPodName name shardIdx ordinal) = livePod (pods ordinal) := by
  have hpairs : shardRolloutPods name shardIdx replicasPerShard pods =
      GoMap.ofPairs ((List.range (replicasPerShard + 1)).filterMap fun ordinal =>
        (livePod (pods ordinal)).map fun pod => (clusterShardPodName name shardIdx ordinal, pod)) := by
    unfold shardRolloutPods
    congr 2
    funext ordinal
    cases pods ordinal with
    | none => rfl
    | some pod => cases hterminating : pod.terminating <;> simp [livePod, hterminating]
  rw [hpairs]
  exact GoMap.lookup_ofPairs_filterMap _
    (fun a b hab => (clusterShardPodName_inj name shardIdx).mp hab) _ (by omega)

/-- The live pods by ordinal. -/
theorem buildShardRolloutInput_byOrdinal (sts : Option (StatefulSet Template))
    (pods : GoMap String (StsPod Template)) (gt : Option ClusterGroundTruth) (now : ℤ)
    (h : ordinal ≤ replicasPerShard) :
    (buildShardRolloutInput templates name shards shardIdx replicasPerShard desiredHash sts pods gt
      now).byOrdinal.lookup ordinal = (pods.lookup (clusterShardPodName name shardIdx ordinal)).map
        (shardRolloutPod templates.toRevisionNaming gt
          (((shardSlotOwner gt name shards replicasPerShard shardIdx).map
            ClusterNodeState.nodeID).getD "") (clusterShardPodName name shardIdx ordinal) ordinal) := by
  unfold ShardRolloutInput.byOrdinal buildShardRolloutInput
  dsimp only
  rw [map_filterMap]
  refine Eq.trans ?_ (GoMap.lookup_ofPairs_filterMap (replicasPerShard + 1)
    (fun _ _ hab => hab) (fun ordinal => (pods.lookup (clusterShardPodName name shardIdx ordinal)).map
        (shardRolloutPod templates.toRevisionNaming gt
          (((shardSlotOwner gt name shards replicasPerShard shardIdx).map
            ClusterNodeState.nodeID).getD "")
          (clusterShardPodName name shardIdx ordinal) ordinal)) (i := ordinal) (by omega))
  congr 3
  funext j
  rw [Option.map_map, Option.map_map]
  congr 1
  funext pod
  have hordinal : ∀ ownerID, (shardRolloutPod templates.toRevisionNaming gt ownerID
      (clusterShardPodName name shardIdx j) j pod).ordinal = j := by
    intro ownerID
    unfold shardRolloutPod
    dsimp only
    split
    · split <;> rfl
    · rfl
  simp [hordinal]

/-- When a pod is synced. -/
theorem shardRolloutPod_synced_iff (ownerID podName : String) (ordinal : ℕ) (pod : StsPod Template) :
    (shardRolloutPod naming (some gt) ownerID podName ordinal pod).syncedWithOwner = true ↔
      ownerID ≠ "" ∧ ∃ node, gt.nodes.lookup podName = some node ∧ isLinkUpReplicaOf node ownerID = true := by
  unfold shardRolloutPod gtNode
  by_cases howner : ownerID = ""
  · cases hnode : gt.nodes.lookup podName <;> simp [hnode, howner]
  · cases hnode : gt.nodes.lookup podName <;> simp [hnode, howner]

/-- Revision and readiness are those of the pod. -/
theorem shardRolloutPod_own (gt : Option ClusterGroundTruth) (ownerID podName : String)
    (ordinal : ℕ) (pod : StsPod Template) :
    (shardRolloutPod naming gt ownerID podName ordinal pod).revision = naming.revision pod.template ∧
      (shardRolloutPod naming gt ownerID podName ordinal pod).ready = pod.containerReady := by
  unfold shardRolloutPod
  dsimp only
  split
  · split <;> exact ⟨rfl, rfl⟩
  · exact ⟨rfl, rfl⟩

/-- What releases an ordinal, on the live objects that a pass reads. -/
structure ReleasedOn (sts : StatefulSet Template) (pods : ℕ → Option (StsPod Template))
    (gt : ClusterGroundTruth) (name : String) (shards replicasPerShard shardIdx ordinal : ℕ)
    (pod : StsPod Template) : Prop where
  present : pods ordinal = some pod
  live : pod.terminating = false
  updated : sts.status.updateTemplate = some pod.template
  ready : pod.containerReady = true
  synced : syncedReplica gt name shards replicasPerShard shardIdx ordinal = true

/-- When an ordinal is released, in terms of the objects. -/
theorem podReleased_build_iff (sts : StatefulSet Template) (pods : ℕ → Option (StsPod Template))
    (gt : ClusterGroundTruth) (now : ℤ) (h : ordinal ≤ replicasPerShard) :
    PodReleased (buildShardRolloutInput templates name shards shardIdx replicasPerShard desiredHash
        (some sts) (shardRolloutPods name shardIdx replicasPerShard pods) (some gt) now) ordinal ↔
      ∃ pod, ReleasedOn sts pods gt name shards replicasPerShard shardIdx ordinal pod := by
  have hupdate : ∀ pod : StsPod Template,
      (templates.name sts.status.updateTemplate ≠ "" ∧
        templates.revision pod.template = templates.name sts.status.updateTemplate) ↔
        sts.status.updateTemplate = some pod.template := by
    intro pod
    cases htemplate : sts.status.updateTemplate with
    | none => simp [RevisionNaming.name]
    | some template =>
      simp only [RevisionNaming.name, map_some, getD_some, Option.some.injEq, ne_eq,
        templates.nonempty, not_false_eq_true, true_and]
      exact ⟨fun hrevision => (templates.injective hrevision).symm, fun heq => by rw [heq]⟩
  unfold PodReleased
  rw [buildShardRolloutInput_byOrdinal _ _ _ _ _ _ _ _ _ _ h, shardRolloutPods_lookup _ _ _ _ h]
  constructor
  · rintro ⟨facts, hfacts, hname, hrevision, hready, hsynced⟩
    obtain ⟨pod, hlive, rfl⟩ := map_eq_some_iff.mp hfacts
    obtain ⟨hown, hownReady⟩ := shardRolloutPod_own templates.toRevisionNaming (some gt)
      (((shardSlotOwner (some gt) name shards replicasPerShard shardIdx).map
        ClusterNodeState.nodeID).getD "") (clusterShardPodName name shardIdx ordinal) ordinal pod
    obtain ⟨hownerID, node, hnode, hlink⟩ :=
      (shardRolloutPod_synced_iff _ _ _ _ _ _).mp hsynced
    obtain ⟨hpresent, hterminating⟩ := (livePod_eq_some_iff _ _).mp hlive
    refine ⟨pod, hpresent, hterminating, (hupdate pod).mp ⟨hname, hown.symm.trans hrevision⟩,
      hownReady.symm.trans hready, ?_⟩
    · cases howner : shardSlotOwner (some gt) name shards replicasPerShard shardIdx with
      | none => simp [howner] at hownerID
      | some owner =>
        exact (syncedReplica_iff _ _ _ _ _ _).mpr ⟨owner, node, howner,
          by simpa [howner] using hownerID, hnode, by simpa [howner] using hlink⟩
  · rintro ⟨pod, hpresent, hlive, hupdated, hready, hsynced⟩
    obtain ⟨owner, node, howner, hid, hnode, hlink⟩ := (syncedReplica_iff _ _ _ _ _ _).mp hsynced
    have hpod := (livePod_eq_some_iff (pods ordinal) pod).mpr ⟨hpresent, hlive⟩
    obtain ⟨hown, hownReady⟩ := shardRolloutPod_own templates.toRevisionNaming (some gt)
      owner.nodeID (clusterShardPodName name shardIdx ordinal) ordinal pod
    obtain ⟨hname, hrevision⟩ := (hupdate pod).mpr hupdated
    refine ⟨shardRolloutPod templates.toRevisionNaming (some gt) owner.nodeID
      (clusterShardPodName name shardIdx ordinal) ordinal pod, ?_, hname, hown.trans hrevision,
      hownReady.trans hready, ?_⟩
    · simp [hpod, howner]
    · exact (shardRolloutPod_synced_iff _ _ _ _ _ _).mpr ⟨hid, node, hnode, hlink⟩

end LittleRed.Cluster.Rollout
