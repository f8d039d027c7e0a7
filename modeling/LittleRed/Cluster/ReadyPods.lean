import LittleRed.Cluster.GatherSpec
import LittleRed.Cluster.Takeover

/-!
# Repair and pods that did not answer

A pod that is ready but does not answer the identity probe looks to the repair like a pod that is gone: its
node is a ghost and its replicas are orphans. Whether the pass acts against it depends on the quorum, on the
partitions and on its replicas.
-/

namespace LittleRed.Cluster

open Lib List

/-- The pods, the node in each, and what each answers: its own ID or nothing. -/
structure MeshProbe where
  pods : ClusterPods
  nodeOf : String → String
  replies : String → ProbeReplies
  truthful : ∀ ip id, (replies ip).clusterID = some id → id = nodeOf ip
  valid : ∀ ip podName, pods.Listed ip podName → nodeOf ip ≠ "" ∧ nodeOf ip ≠ "-"
  distinct : ∀ ip podName ip' podName', pods.Listed ip podName → pods.Listed ip' podName' →
    nodeOf ip = nodeOf ip' → ip = ip'

/-- What is gathered. -/
def MeshProbe.view (probe : MeshProbe) : ClusterGroundTruth :=
  gatherClusterGroundTruth probe.pods probe.replies

/-- No command forgets a node of the instance or promotes a replica of it. -/
def SparesPods (probe : MeshProbe) (commands : List ClusterCommand) : Prop :=
  ∀ ip podName, probe.pods.Listed ip podName →
    (∀ node, .forget node (probe.nodeOf ip) ∉ commands) ∧
    ∀ node, .failoverTakeover node ∈ commands → node.masterNodeID ≠ probe.nodeOf ip

/-- A pod that answers as a replica of the node in the pod at the address. -/
def MeshProbe.Follows (probe : MeshProbe) (node : ClusterNodeState) (ip : String) : Prop :=
  (∃ ip' podName', probe.pods.Listed ip' podName' ∧
    node = probedNode ip' podName' (probe.replies ip')) ∧
    node.role = .replica ∧ node.masterNodeID = probe.nodeOf ip

/-- If replicas answer, the quorum holds and none waited too long in a partitioned mesh that lists the
pod; if none does, the pass ends before it forgets the pod. -/
structure SilentPodSafe (spec : ClusterSpec) (env : RepairEnv) (probe : MeshProbe)
    (orphans : List OrphanedReplicaInfo) (ip : String) : Prop where
  followed : ∀ node, probe.Follows node ip → probe.view.quorumLost spec = false ∧
    (probe.view.hasPartitions = true → SeenID probe.pods probe.replies (probe.nodeOf ip) →
      env.now - (orphanInfo orphans env.now node).detectedAt < orphanTimeout spec)
  alone : (∀ node, ¬ probe.Follows node ip) →
    SeenID probe.pods probe.replies (probe.nodeOf ip) →
    probe.view.hasPartitions = true ∨ env.legacyExists = true ∨
      probe.view.quorumLost spec = true ∧ ∃ node ∈ probe.view.nodes.values,
        probe.view.isOrphan node = true ∧ env.quorumTakeover node = true

variable (spec : ClusterSpec) (env : RepairEnv) (gt : ClusterGroundTruth) (probe : MeshProbe)
  (orphans : List OrphanedReplicaInfo) (node : ClusterNodeState) (id : String)

theorem forget_notMem_quorumRecovery : .forget node id ∉ (quorumRecovery spec env gt).1 := by
  rw [takeover_mem_quorumRecovery]
  rintro ⟨-, _, -, -, hcommand⟩
  cases hcommand

theorem forget_notMem_healPartitions : .forget node id ∉ (healPartitions spec env gt orphans).commands := by
  have hscan : .forget node id ∉ (scanOrphans spec env gt orphans).commands := by
    rw [scanOrphans_eq]
    simp
  rcases healPartitions_commands spec env gt orphans with hcommands | hcommands
  · rwa [hcommands]
  · rw [hcommands, mem_append, not_or]
    refine ⟨hscan, fun hmem => ?_⟩
    obtain ⟨_, _, hmeet⟩ := meetCommands_meet hmem
    cases hmeet

theorem forget_mem_forgetCommands :
    .forget node id ∈ forgetCommands gt ↔
      id ∈ ghostsToRemove gt ∧ node ∈ gt.nodes.values ∧ node.reachable = true := by
  simp [forgetCommands]

/-- When a pass forgets a node. -/
theorem forget_mem_repairCluster :
    .forget node id ∈ (repairCluster spec env gt orphans).commands ↔
      ¬ 0 < (quorumRecovery spec env gt).2 ∧ gt.hasPartitions = false ∧ env.legacyExists = false ∧
        id ∈ ghostsToRemove gt ∧ node ∈ gt.nodes.values ∧ node.reachable = true := by
  have hrecovery := forget_notMem_quorumRecovery spec env gt node id
  have hhealed := forget_notMem_healPartitions spec env gt orphans node id
  have hforget := forget_mem_forgetCommands gt node id
  have hghost : id ∈ ghostsToRemove gt → gt.hasGhostNodes = true := by
    intro hmem
    rw [ClusterGroundTruth.hasGhostNodes, Bool.not_eq_true', isEmpty_eq_false_iff]
    exact ne_nil_of_mem (mem_filter.mp hmem).1
  unfold repairCluster
  dsimp only
  split
  · simp_all
  rename_i hpromoted
  split
  · rename_i hparts
    rw [mem_append]
    simp [hrecovery, hhealed, hparts]
  · rename_i hwhole
    split
    · rename_i hlegacy
      rw [Bool.and_eq_true] at hlegacy
      simp [hrecovery, hlegacy.2]
    · rename_i hlegacy
      split
      · rename_i hremove
        rw [Bool.and_eq_true] at hremove
        rw [mem_append, hforget]
        simp_all
      · rename_i hremove
        refine iff_of_false hrecovery ?_
        rintro ⟨-, -, -, hmem, -⟩
        refine hremove ?_
        rw [Bool.and_eq_true, Bool.not_eq_true', isEmpty_eq_false_iff]
        exact ⟨hghost hmem, ne_nil_of_mem hmem⟩

namespace MeshProbe

variable {probe : MeshProbe} {ip podName : String}

/-- The node of a pod answered if the pod did. -/
theorem answeredID_iff (hlisted : probe.pods.Listed ip podName) :
    AnsweredID probe.pods probe.replies (probe.nodeOf ip) ↔ (probe.replies ip).clusterID ≠ none := by
  constructor
  · rintro ⟨ip', podName', hlisted', hid⟩
    obtain rfl := probe.distinct ip podName ip' podName' hlisted hlisted' (probe.truthful ip' _ hid)
    rw [hid]
    nofun
  · intro hanswered
    obtain ⟨id, hid⟩ := Option.ne_none_iff_exists'.mp hanswered
    exact ⟨ip, podName, hlisted, by rw [hid, probe.truthful ip id hid]⟩

theorem mem_liveNodes_iff (hlisted : probe.pods.Listed ip podName) :
    probe.nodeOf ip ∈ probe.view.liveNodes ↔ (probe.replies ip).clusterID ≠ none := by
  rw [← answeredID_iff hlisted, ClusterGroundTruth.liveNodes, mem_map]
  constructor
  · rintro ⟨node, hnode, hid⟩
    obtain ⟨ip', podName', hlisted', rfl⟩ := (mem_gather_nodes _ _ _).mp hnode
    rw [(probedNode_nodeID ip' podName' (probe.replies ip')).1] at hid
    cases hreply : (probe.replies ip').clusterID with
    | none =>
      rw [hreply] at hid
      exact absurd hid.symm (probe.valid ip podName hlisted).1
    | some id =>
      rw [hreply] at hid
      exact ⟨ip', podName', hlisted', by rw [hreply]; exact congrArg some hid⟩
  · rintro ⟨ip', podName', hlisted', hid⟩
    refine ⟨_, (mem_gather_nodes _ _ _).mpr ⟨ip', podName', hlisted', rfl⟩, ?_⟩
    rw [(probedNode_nodeID ip' podName' (probe.replies ip')).1, hid]
    rfl

/-- A replica of a silent pod is an orphan. -/
theorem isOrphan_iff (hlisted : probe.pods.Listed ip podName) {node : ClusterNodeState}
    (hnode : node ∈ probe.view.nodes.values) (hmaster : node.masterNodeID = probe.nodeOf ip) :
    probe.view.isOrphan node = true ↔ probe.Follows node ip ∧ (probe.replies ip).clusterID = none := by
  have hlive := mem_liveNodes_iff hlisted
  obtain ⟨hempty, hdash⟩ := probe.valid ip podName hlisted
  have hgathered := (mem_gather_nodes _ _ _).mp hnode
  simp only [ClusterGroundTruth.isOrphan, hmaster, Bool.and_eq_true, beq_iff_eq, bne_iff_ne,
    Bool.not_eq_true', contains_eq_mem, decide_eq_false_iff_not, hlive, not_not]
  refine ⟨fun ⟨⟨⟨hrole, _⟩, _⟩, hsilent⟩ => ⟨⟨hgathered, hrole, hmaster⟩, hsilent⟩,
    fun ⟨⟨_, hrole, _⟩, hsilent⟩ => ⟨⟨⟨hrole, hempty⟩, hdash⟩, hsilent⟩⟩

theorem Follows.mem_nodes {node : ClusterNodeState} (h : probe.Follows node ip) :
    node ∈ probe.view.nodes.values :=
  (mem_gather_nodes _ _ _).mpr h.1

/-- Who has replicas is protected. -/
theorem protectedMaster_iff (hlisted : probe.pods.Listed ip podName) :
    protectedMaster probe.view (probe.nodeOf ip) = true ↔ ∃ node, probe.Follows node ip := by
  obtain ⟨hempty, hdash⟩ := probe.valid ip podName hlisted
  simp only [protectedMaster, any_eq_true, Bool.and_eq_true, beq_iff_eq, bne_iff_ne]
  constructor
  · rintro ⟨node, hnode, ⟨⟨hrole, -⟩, -⟩, hmaster⟩
    exact ⟨node, (mem_gather_nodes _ _ _).mp hnode, hrole, hmaster⟩
  · rintro ⟨node, hfollows⟩
    refine ⟨node, hfollows.mem_nodes, ⟨⟨hfollows.2.1, ?_⟩, ?_⟩, hfollows.2.2⟩
    · rwa [hfollows.2.2]
    · rwa [hfollows.2.2]

/-- A silent pod without replicas is to be removed. -/
theorem mem_ghostsToRemove_iff (hlisted : probe.pods.Listed ip podName) :
    probe.nodeOf ip ∈ ghostsToRemove probe.view ↔
      SeenID probe.pods probe.replies (probe.nodeOf ip) ∧ (probe.replies ip).clusterID = none ∧
        ∀ node, ¬ probe.Follows node ip := by
  rw [ghostsToRemove, mem_filter, Bool.not_eq_true', ← Bool.not_eq_true,
    protectedMaster_iff hlisted, not_exists, view, mem_gather_ghostNodes, answeredID_iff hlisted,
    not_not, and_assoc]

/-- Somebody who answers has seen the ID. -/
theorem exists_reachable {id : String} (hseen : SeenID probe.pods probe.replies id) :
    ∃ node ∈ probe.view.nodes.values, node.reachable = true := by
  obtain ⟨ip', podName', hlisted', hanswered, -⟩ := hseen
  refine ⟨_, (mem_gather_nodes _ _ _).mpr ⟨ip', podName', hlisted', rfl⟩, ?_⟩
  rwa [(probedNode_nodeID ip' podName' (probe.replies ip')).2]

end MeshProbe

variable {ip podName : String}

/-- When a pod is forgotten. -/
theorem forget_pod_iff (hlisted : probe.pods.Listed ip podName) :
    (∃ node, .forget node (probe.nodeOf ip) ∈ (repairCluster spec env probe.view orphans).commands) ↔
      (probe.replies ip).clusterID = none ∧ (∀ node, ¬ probe.Follows node ip) ∧
        SeenID probe.pods probe.replies (probe.nodeOf ip) ∧
        ¬ (probe.view.hasPartitions = true ∨ env.legacyExists = true ∨
          probe.view.quorumLost spec = true ∧ ∃ node ∈ probe.view.nodes.values,
            probe.view.isOrphan node = true ∧ env.quorumTakeover node = true) := by
  rw [← quorumRecovery_promoted, not_or, not_or, Bool.not_eq_true, Bool.not_eq_true]
  constructor
  · rintro ⟨node, hmem⟩
    obtain ⟨hpromoted, hwhole, hlegacy, hghost, -⟩ := (forget_mem_repairCluster _ _ _ _ _ _).mp hmem
    obtain ⟨hseen, hsilent, halone⟩ := (MeshProbe.mem_ghostsToRemove_iff hlisted).mp hghost
    exact ⟨hsilent, halone, hseen, hwhole, hlegacy, hpromoted⟩
  · rintro ⟨hsilent, halone, hseen, hwhole, hlegacy, hpromoted⟩
    obtain ⟨node, hnode, hreachable⟩ := MeshProbe.exists_reachable hseen
    exact ⟨node, (forget_mem_repairCluster _ _ _ _ _ _).mpr ⟨hpromoted, hwhole, hlegacy,
      (MeshProbe.mem_ghostsToRemove_iff hlisted).mpr ⟨hseen, hsilent, halone⟩, hnode, hreachable⟩⟩

/-- When a replica of it is promoted. -/
theorem takeover_pod_iff (hlisted : probe.pods.Listed ip podName) (node : ClusterNodeState) :
    .failoverTakeover node ∈ (repairCluster spec env probe.view orphans).commands ∧
        node.masterNodeID = probe.nodeOf ip ↔ (probe.replies ip).clusterID = none ∧ probe.Follows node ip ∧
        (probe.view.quorumLost spec = true ∨ probe.view.hasPartitions = true ∧
          SeenID probe.pods probe.replies (probe.nodeOf ip) ∧
          orphanTimeout spec ≤ env.now - (orphanInfo orphans env.now node).detectedAt) := by
  have hghost : (probe.replies ip).clusterID = none →
      (probe.nodeOf ip ∈ probe.view.ghostNodes ↔
        SeenID probe.pods probe.replies (probe.nodeOf ip)) := by
    intro hsilent
    rw [MeshProbe.view, mem_gather_ghostNodes, MeshProbe.answeredID_iff hlisted, not_not]
    exact and_iff_left hsilent
  rw [takeover_mem_repairCluster, mem_takeoverCandidates_iff]
  constructor
  · rintro ⟨⟨⟨hnode, horphan⟩, hcause⟩, hmaster⟩
    obtain ⟨hfollows, hsilent⟩ := (MeshProbe.isOrphan_iff hlisted hnode hmaster).mp horphan
    rw [hmaster, hghost hsilent] at hcause
    exact ⟨hsilent, hfollows, hcause⟩
  · rintro ⟨hsilent, hfollows, hcause⟩
    have hmaster := hfollows.2.2
    have horphan : probe.view.isOrphan node = true :=
      (MeshProbe.isOrphan_iff hlisted hfollows.mem_nodes hmaster).mpr ⟨hfollows, hsilent⟩
    rw [hmaster, hghost hsilent]
    exact ⟨⟨⟨hfollows.mem_nodes, horphan⟩, hcause⟩, rfl⟩

/-- A pass spares the pods of the instance exactly when every pod that does not answer is safe. -/
theorem repairCluster_spares_iff (spec : ClusterSpec) (env : RepairEnv) (probe : MeshProbe)
    (orphans : List OrphanedReplicaInfo) :
    SparesPods probe (repairCluster spec env probe.view orphans).commands ↔
      ∀ ip podName, probe.pods.Listed ip podName → (probe.replies ip).clusterID = none →
        SilentPodSafe spec env probe orphans ip := by
  constructor
  · intro hspares ip podName hlisted hsilent
    obtain ⟨hforget, htakeover⟩ := hspares ip podName hlisted
    constructor
    · intro node hfollows
      have hnot : ¬ (probe.view.quorumLost spec = true ∨ probe.view.hasPartitions = true ∧
          SeenID probe.pods probe.replies (probe.nodeOf ip) ∧
          orphanTimeout spec ≤ env.now - (orphanInfo orphans env.now node).detectedAt) := by
        intro hcause
        obtain ⟨hmem, hmaster⟩ := (takeover_pod_iff spec env probe orphans hlisted node).mpr
          ⟨hsilent, hfollows, hcause⟩
        exact htakeover node hmem hmaster
      rw [not_or, Bool.not_eq_true] at hnot
      exact ⟨hnot.1, fun hparts hseen => Int.not_le.mp fun hle => hnot.2 ⟨hparts, hseen, hle⟩⟩
    · intro halone hseen
      by_contra hgoes
      obtain ⟨node, hmem⟩ := (forget_pod_iff spec env probe orphans hlisted).mpr
        ⟨hsilent, halone, hseen, hgoes⟩
      exact hforget node hmem
  · intro hsafe ip podName hlisted
    refine ⟨fun node hmem => ?_, fun node hmem hmaster => ?_⟩
    · obtain ⟨hsilent, halone, hseen, hgoes⟩ :=
        (forget_pod_iff spec env probe orphans hlisted).mp ⟨node, hmem⟩
      exact hgoes ((hsafe ip podName hlisted hsilent).alone halone hseen)
    · obtain ⟨hsilent, hfollows, hcause⟩ :=
        (takeover_pod_iff spec env probe orphans hlisted node).mp ⟨hmem, hmaster⟩
      obtain ⟨hkept, hwaits⟩ := (hsafe ip podName hlisted hsilent).followed node hfollows
      rcases hcause with hlost | ⟨hparts, hseen, hexpired⟩
      · rw [hkept] at hlost
        cases hlost
      · exact absurd hexpired (Int.not_le.mpr (hwaits hparts hseen))

def pairPods : ClusterPods where
  names := GoMap.ofPairs [("10.0.0.1", "c-shard-0-0"), ("10.0.0.2", "c-shard-0-1")]
  names_nodup := by decide

/-- Their nodes. -/
def pairNodeOf (ip : String) : String :=
  if ip = "10.0.0.1" then "a" else if ip = "10.0.0.2" then "b" else ip

def pairLines : List ClusterNodeInfo :=
  [⟨"a", ["master"], "-", ["0-16383"]⟩, ⟨"b", ["slave"], "a", []⟩]

/-- One of them does not answer. -/
def pairReplies (silent : String) (ip : String) : ProbeReplies :=
  if ip = silent then ⟨none, none, none, none⟩
  else ⟨some (pairNodeOf ip), some .up, some ⟨"ok", 16384⟩, some pairLines⟩

/-- Their addresses. -/
theorem pairPods_listed (h : pairPods.Listed ip podName) :
    ip = "10.0.0.1" ∨ ip = "10.0.0.2" := by
  have hkey : ip ∈ pairPods.names := AList.lookup_isSome.mp (by
    rw [show pairPods.names.lookup ip = some podName from h]
    rfl)
  obtain ⟨name, hmem⟩ := (GoMap.mem_ofPairs _ ip).mp hkey
  simp only [mem_cons, Prod.mk.injEq, not_mem_nil, or_false] at hmem
  exact hmem.imp And.left And.left

/-- The probe of the pair. -/
def pairProbe (silent : String) : MeshProbe where
  pods := pairPods
  nodeOf := pairNodeOf
  replies := pairReplies silent
  truthful := by
    intro ip id hid
    unfold pairReplies at hid
    split at hid
    · cases hid
    · exact (Option.some.inj hid).symm
  valid := by
    intro ip podName hlisted
    rcases pairPods_listed hlisted with rfl | rfl <;> decide
  distinct := by
    intro ip podName ip' podName' hlisted hlisted' heq
    rcases pairPods_listed hlisted with rfl | rfl <;> rcases pairPods_listed hlisted' with rfl | rfl
    · rfl
    · exact absurd heq (by decide)
    · exact absurd heq (by decide)
    · rfl

/-- A replica silent once is forgotten by its master, and a master silent once is deposed. -/
theorem silent_pods_not_spared :
    ¬ SparesPods (pairProbe "10.0.0.2")
        (repairCluster ⟨1, 15, 15000⟩ promptEnv (pairProbe "10.0.0.2").view []).commands ∧
      ¬ SparesPods (pairProbe "10.0.0.1")
        (repairCluster ⟨1, 15, 15000⟩ promptEnv (pairProbe "10.0.0.1").view []).commands := by
  constructor
  · intro hspares
    refine (hspares "10.0.0.2" "c-shard-0-1" rfl).1
      ⟨"c-shard-0-0", "10.0.0.1", "a", ["0-16383"], .master, "-", .up, true⟩ ?_
    decide
  · intro hspares
    refine (hspares "10.0.0.1" "c-shard-0-0" rfl).2
      ⟨"c-shard-0-1", "10.0.0.2", "b", [], .replica, "a", .up, true⟩ ?_ ?_
    · decide
    · decide

end LittleRed.Cluster
