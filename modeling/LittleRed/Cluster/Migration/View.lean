import LittleRed.Cluster.Migration.Mesh
import LittleRed.Cluster.Migration.Safety
import LittleRed.Cluster.Partitions

/-!
# What a pass sees of the mesh

When every pod that is up answers, the gathered view is the mesh. The nodes that have joined it are one
partition, and each of the others is one of its own, so what is left for the plan are the members.
-/

namespace LittleRed.Cluster

open Lib Relation List

namespace Migration

namespace Mesh

variable {mesh : Mesh}

variable {m m' : Member}

theorem mem_upMembers : m ∈ mesh.upMembers ↔ m ∈ mesh.members ∧ m.boot = 0 := by
  rw [upMembers, mem_filter, Member.up, beq_iff_eq]

theorem eq_of_podName (hm : m ∈ mesh.members) (hm' : m' ∈ mesh.members)
    (h : m.podName = m'.podName) : m = m' := inj_on_of_nodup_map mesh.podName_nodup hm hm' h

theorem eq_of_ip (hm : m ∈ mesh.members) (hm' : m' ∈ mesh.members) (h : m.ip = m'.ip) :
    m = m' := inj_on_of_nodup_map mesh.ip_nodup hm hm' h

theorem eq_of_nodeID (hm : m ∈ mesh.members) (hm' : m' ∈ mesh.members)
    (h : m.nodeID = m'.nodeID) : m = m' := inj_on_of_nodup_map mesh.nodeID_nodup hm hm' h

/-- The pods that are up are listed. -/
theorem listed_iff {ip podName : String} :
    mesh.podList.clusterPods.Listed ip podName ↔ ∃ m ∈ mesh.upMembers, m.ip = ip ∧ m.podName = podName := by
  constructor
  · intro h
    obtain ⟨pod, hpod, hip, hname⟩ := exists_of_listed h
    obtain ⟨m, hm, rfl⟩ := mem_map.mp hpod
    exact ⟨m, hm, hip, hname⟩
  · rintro ⟨m, hm, rfl, rfl⟩
    have hup : m ∈ mesh.members := (mem_upMembers.mp hm).1
    refine GoMap.lookup_insertAll_of_mem ∅ ?_
      (mem_map.mpr ⟨⟨m.podName, m.ip, true⟩, mem_filter.mpr ⟨?_, ?_⟩, rfl⟩)
    · rw [List.map_map]
      refine List.Nodup.sublist (List.filter_sublist.map _) ?_
      rw [podList, List.map_map]
      exact mesh.ip_nodup.sublist (filter_sublist.map _)
    · exact mem_map.mpr ⟨m, hm, rfl⟩
    · exact bne_iff_ne.mpr (mesh.ip_ne m hup)

/-- What a pod answers. -/
theorem replies_eq (hm : m ∈ mesh.upMembers) :
    mesh.replies m.ip =
      ⟨some m.nodeID, some m.linkStatus, some ⟨"ok", totalSlots⟩, some (mesh.clusterNodes m)⟩ := by
  have hnodup : (mesh.upMembers.map fun m => m.ip).Nodup :=
    mesh.ip_nodup.sublist (filter_sublist.map _)
  rw [replies, find?_key hnodup hm]

/-- It lists itself, and if it has joined the others that have. -/
theorem mem_clusterNodes (hm : m ∈ mesh.upMembers) {line : ClusterNodeInfo} :
    line ∈ mesh.clusterNodes m ↔
      ∃ other ∈ mesh.upMembers, line = m.lineOf other ∧ (other = m ∨ (m.met = true ∧ other.met = true)) := by
  unfold clusterNodes
  split
  · rename_i hmet
    rw [mem_map]
    constructor
    · rintro ⟨other, hother, rfl⟩
      obtain ⟨hother, hmet'⟩ := mem_filter.mp hother
      exact ⟨other, hother, rfl, .inr ⟨hmet, hmet'⟩⟩
    · rintro ⟨other, hother, rfl, rfl | ⟨-, hmet'⟩⟩
      · exact ⟨other, mem_filter.mpr ⟨hother, hmet⟩, rfl⟩
      · exact ⟨other, mem_filter.mpr ⟨hother, hmet'⟩, rfl⟩
  · rename_i hmet
    rw [mem_singleton]
    constructor
    · rintro rfl
      exact ⟨m, hm, rfl, .inl rfl⟩
    · rintro ⟨other, -, rfl, rfl | ⟨hmet', -⟩⟩
      · rfl
      · exact absurd hmet' hmet

end Mesh

/-- A pod is read from its own line. -/
theorem foldl_readNodeLine {own : ClusterNodeInfo} {lines : List ClusterNodeInfo} {node : ClusterNodeState}
    (hid : own.nodeID = node.nodeID) (hown : own ∈ lines)
    (hagree : ∀ line ∈ lines, line.nodeID = own.nodeID → line = own) :
    lines.foldl readNodeLine node = { node with
        slots := own.slots
        role := if own.isReplica then .replica else .master
        masterNodeID := own.masterID } := by
  -- Once the node has what its line says, the later lines change nothing.
  have hread : ∀ (rest : List ClusterNodeInfo), (∀ line ∈ rest, line.nodeID = own.nodeID → line = own) →
      rest.foldl readNodeLine (readNodeLine node own) = readNodeLine node own := by
    intro rest
    induction rest with
    | nil => exact fun _ => rfl
    | cons line rest ih =>
      intro hrest
      rw [forall_mem_cons] at hrest
      have hline : readNodeLine (readNodeLine node own) line = readNodeLine node own := by
        by_cases hline : line.nodeID = own.nodeID
        · rw [hrest.1 hline]
          simp [readNodeLine, hid]
        · rw [readNodeLine, if_neg]
          rwa [(readNodeLine_identity node own).2.2.1, ← hid]
      rw [foldl_cons, hline, ih hrest.2]
  have hfirst : readNodeLine node own =
      { node with
        slots := own.slots
        role := if own.isReplica then .replica else .master
        masterNodeID := own.masterID } := if_pos hid
  rw [← hfirst]
  induction lines with
  | nil => cases hown
  | cons line rest ih =>
    rw [forall_mem_cons] at hagree
    rw [foldl_cons]
    by_cases hline : line = own
    · rw [hline, hread rest hagree.2]
    · have hskip : readNodeLine node line = node :=
        if_neg fun h => hline (hagree.1 (h.trans hid.symm))
      rw [hskip]
      exact ih ((mem_cons.mp hown).resolve_left (Ne.symm hline)) hagree.2

namespace Mesh

variable {mesh : Mesh}

variable {m other : Member} {live : List String}

/-- A pod is seen as it is. -/
theorem probedNode_eq (hm : m ∈ mesh.upMembers) :
    probedNode m.ip m.podName (mesh.replies m.ip) = m.view := by
  have hown : m.lineOf m ∈ mesh.clusterNodes m := (mem_clusterNodes hm).mpr ⟨m, hm, rfl, .inl rfl⟩
  have hagree : ∀ line ∈ mesh.clusterNodes m, line.nodeID = (m.lineOf m).nodeID → line = m.lineOf m := by
    intro line hline hid
    obtain ⟨other, hother, rfl, -⟩ := (mem_clusterNodes hm).mp hline
    rw [eq_of_nodeID (mem_upMembers.mp hother).1 (mem_upMembers.mp hm).1 hid]
  have hreplica : (m.lineOf m).isReplica = m.replica := by
    cases hreplica : m.replica <;> simp [ClusterNodeInfo.isReplica, Member.lineOf, hreplica]
  rw [replies_eq hm]
  change (mesh.clusterNodes m).foldl readNodeLine
    { unreachableNode m.podName m.ip with
      nodeID := m.nodeID
      linkStatus := m.linkStatus
      reachable := true } = m.view
  rw [foldl_readNodeLine rfl hown hagree, hreplica]
  rfl

/-- The view has the pods that are up. -/
theorem lookup_gathered {podName : String} {node : ClusterNodeState} :
    mesh.gathered.nodes.lookup podName = some node ↔
      ∃ m ∈ mesh.upMembers, m.podName = podName ∧ node = m.view := by
  refine (lookup_gather_nodes _ _).trans ?_
  constructor
  · rintro ⟨ip, hlisted, rfl⟩
    obtain ⟨m, hm, rfl, rfl⟩ := listed_iff.mp hlisted
    exact ⟨m, hm, rfl, probedNode_eq hm⟩
  · rintro ⟨m, hm, rfl, rfl⟩
    exact ⟨m.ip, listed_iff.mpr ⟨m, hm, rfl, rfl⟩, (probedNode_eq hm).symm⟩

theorem lookup_known (hm : m ∈ mesh.upMembers) :
    mesh.gathered.knownNodes.lookup m.nodeID = some ((mesh.clusterNodes m).map ClusterNodeInfo.nodeID) := by
  have hlisted := listed_iff.mpr ⟨m, hm, rfl, rfl⟩
  have hunique : ∀ ip' podName', mesh.podList.clusterPods.Listed ip' podName' →
      (mesh.replies ip').clusterID = some m.nodeID → ip' = m.ip := by
    intro ip' podName' hlisted' hid
    obtain ⟨other, hother, rfl, rfl⟩ := listed_iff.mp hlisted'
    rw [replies_eq hother] at hid
    rw [eq_of_nodeID (mem_upMembers.mp hother).1 (mem_upMembers.mp hm).1 (Option.some.inj hid)]
  have hid : (mesh.replies m.ip).clusterID = some m.nodeID := by rw [replies_eq hm]
  have hlines : (mesh.replies m.ip).clusterNodes = some (mesh.clusterNodes m) := by rw [replies_eq hm]
  refine (lookup_gather_knownNodes hlisted hid hunique hlines).trans ?_
  rw [liveIDs, filter_eq_self.mpr]
  intro line hline
  obtain ⟨other, -, rfl, -⟩ := (mem_clusterNodes hm).mp hline
  unfold Member.lineOf nodeFlagsFailed
  split <;> cases other.replica <;> rfl

/-- Who lists whom. -/
theorem mem_known (hm : m ∈ mesh.upMembers) (hother : other ∈ mesh.upMembers) :
    other.nodeID ∈ (mesh.clusterNodes m).map ClusterNodeInfo.nodeID ↔
      other = m ∨ (m.met = true ∧ other.met = true) := by
  rw [mem_map]
  constructor
  · rintro ⟨line, hline, hid⟩
    obtain ⟨other', hother', rfl, hknown⟩ := (mem_clusterNodes hm).mp hline
    rwa [← eq_of_nodeID (mem_upMembers.mp hother').1 (mem_upMembers.mp hother).1 hid]
  · intro hknown
    exact ⟨m.lineOf other, (mem_clusterNodes hm).mpr ⟨other, hother, rfl, hknown⟩, rfl⟩

/-- Who is up answers. -/
theorem answeredID_iff {id : String} :
    AnsweredID mesh.podList.clusterPods mesh.replies id ↔ ∃ m ∈ mesh.upMembers, m.nodeID = id := by
  constructor
  · rintro ⟨ip, podName, hlisted, hid⟩
    obtain ⟨m, hm, rfl, rfl⟩ := listed_iff.mp hlisted
    rw [replies_eq hm] at hid
    exact ⟨m, hm, Option.some.inj hid⟩
  · rintro ⟨m, hm, rfl⟩
    refine ⟨m.ip, m.podName, listed_iff.mpr ⟨m, hm, rfl, rfl⟩, ?_⟩
    rw [replies_eq hm]

variable (mesh) in
def known (id : String) : List String := (mesh.gathered.knownNodes.lookup id).getD []

variable (mesh) in
/-- The pods that are up are partitioned by what they list. -/
theorem exists_live :
    ∃ live : List String, live.Nodup ∧ (∀ id, id ∈ live ↔ ∃ m ∈ mesh.upMembers, m.nodeID = id) ∧
      mesh.gathered.partitions = computePartitions live mesh.known := by
  obtain ⟨live, hnodup, hlive, hpartitions⟩ := exists_live_gather mesh.podList.clusterPods mesh.replies
  exact ⟨live, hnodup, fun id => (hlive id).trans answeredID_iff, hpartitions⟩

/-- Members list each other. -/
theorem lists_iff (hlive : ∀ id, id ∈ live ↔ ∃ m ∈ mesh.upMembers, m.nodeID = id) (hm : m ∈ mesh.upMembers)
    (hother : other ∈ mesh.upMembers) :
    Lists live mesh.known m.nodeID other.nodeID ↔ other = m ∨ (m.met = true ∧ other.met = true) := by
  rw [Lists, known, lookup_known hm, Option.getD_some, mem_known hm hother]
  exact ⟨fun h => h.2.2, fun h => ⟨(hlive _).mpr ⟨m, hm, rfl⟩, (hlive _).mpr ⟨other, hother, rfl⟩, h⟩⟩

/-- Only pods that are up are listed. -/
theorem exists_of_lists (hlive : ∀ id, id ∈ live ↔ ∃ m ∈ mesh.upMembers, m.nodeID = id) {a b : String}
    (h : Lists live mesh.known a b) :
    ∃ m ∈ mesh.upMembers, ∃ other ∈ mesh.upMembers, m.nodeID = a ∧ other.nodeID = b := by
  obtain ⟨ha, hb, -⟩ := h
  obtain ⟨m, hm, rfl⟩ := (hlive a).mp ha
  obtain ⟨other, hother, rfl⟩ := (hlive b).mp hb
  exact ⟨m, hm, other, hother, rfl, rfl⟩

/-- The members are one partition. -/
theorem partitions_spec :
    (∀ m ∈ mesh.upMembers, ∃ part ∈ mesh.gathered.partitions, m.nodeID ∈ part) ∧
      ∀ part ∈ mesh.gathered.partitions, ∀ m ∈ mesh.upMembers, m.met = true → m.nodeID ∈ part →
        ∀ other ∈ mesh.upMembers, other.nodeID ∈ part ↔ other.met = true := by
  obtain ⟨live, hnodup, hlive, hpartitions⟩ := mesh.exists_live
  have hback : WaysBack (Lists live mesh.known) := by
    intro a b hab
    obtain ⟨m, hm, other, hother, rfl, rfl⟩ := exists_of_lists hlive hab
    refine .single ((lists_iff hlive hother hm).mpr ?_)
    exact ((lists_iff hlive hm hother).mp hab).imp Eq.symm And.symm
  have hcomponents := components_of_waysBack hnodup hback
  rw [← hpartitions] at hcomponents
  constructor
  · intro m hm
    exact mem_flatten.mp (hcomponents.exact.mem_iff.mpr ((hlive _).mpr ⟨m, hm, rfl⟩))
  · intro part hpart m hm hmet hmpart other hother
    rw [hcomponents.connected part hpart _ hmpart, hback.connected_iff]
    constructor
    · -- Along the listings, members lead to members.
      intro hpath
      have hstep : ∀ a b, (∃ m ∈ mesh.upMembers, m.nodeID = a ∧ m.met = true) →
          Lists live mesh.known a b → ∃ m ∈ mesh.upMembers, m.nodeID = b ∧ m.met = true := by
        rintro a b ⟨m, hm, rfl, hmet⟩ hab
        obtain ⟨-, -, other, hother, -, rfl⟩ := exists_of_lists hlive hab
        refine ⟨other, hother, rfl, ?_⟩
        rcases (lists_iff hlive hm hother).mp hab with rfl | ⟨-, hmet'⟩
        · exact hmet
        · exact hmet'
      obtain ⟨other', hother', hid, hmet'⟩ := mem_of_reflTransGen hstep ⟨m, hm, rfl, hmet⟩ hpath
      rwa [← eq_of_nodeID (mem_upMembers.mp hother').1 (mem_upMembers.mp hother).1 hid]
    · intro hmet'
      exact .single ((lists_iff hlive hm hother).mpr (.inr ⟨hmet, hmet'⟩))

end Mesh

section Sees

variable (setup : Setup)

def Member.old (m : Member) : Bool := isLegacyClusterPod m.podName setup.name

/-- Pods are old members or new pods, members are up, and all have joined once the old ones are gone. -/
structure Joined (mesh : Mesh) : Prop where
  old : ∀ m ∈ mesh.members, m.old setup = true → m.met = true
  met : ∀ m ∈ mesh.members, m.met = true → m.boot = 0
  new : ∀ m ∈ mesh.members, m.old setup = false →
    m.podName ∈ expectedNewPods setup.name setup.shards setup.replicasPerShard
  gone : (∀ m ∈ mesh.members, m.old setup = false) → ∀ m ∈ mesh.members, m.met = true

variable {setup} {mesh : Mesh}

/-- An expected pod is a new one. -/
theorem isNewShardPod_of_mem {podName : String}
    (h : podName ∈ expectedNewPods setup.name setup.shards setup.replicasPerShard) :
    isNewShardPod podName setup.name = true ∧ isLegacyClusterPod podName setup.name = false := by
  obtain ⟨k, hk, hpod⟩ := mem_flatMap.mp h
  have hk : k < 2 ^ 63 := (mem_range.mp hk).trans setup.shards_lt
  have hreplicas := setup.replicasPerShard_lt
  obtain ⟨m, hm, rfl⟩ := mem_shardNewPods.mp hpod
  exact ⟨isNewShardPod_clusterShardPodName _ hk (by omega), isLegacyClusterPod_clusterShardPodName ..⟩

namespace Joined

variable (h : Joined setup mesh)
include h

/-- The old nodes are known. -/
theorem mem_legacyNodeIDs {id : String} :
    id ∈ (buildLegacyFactsFromPods mesh.podList.pods mesh.gathered setup.name).1.legacyNodeIDs ↔
      ∃ m ∈ mesh.members, m.old setup = true ∧ m.nodeID = id := by
  rw [legacyNodeIDs_eq, mem_filterMap]
  constructor
  · rintro ⟨pod, hpod, hid⟩
    obtain ⟨m, hm, rfl⟩ := mem_map.mp hpod
    rw [Option.ite_none_right_eq_some, Mesh.lookup_gathered.mpr ⟨m, hm, rfl, rfl⟩] at hid
    exact ⟨m, (Mesh.mem_upMembers.mp hm).1, hid.1, Option.some.inj hid.2⟩
  · rintro ⟨m, hm, hold, rfl⟩
    have hup := Mesh.mem_upMembers.mpr ⟨hm, h.met m hm (h.old m hm hold)⟩
    refine ⟨_, mem_map.mpr ⟨m, hup, rfl⟩, ?_⟩
    refine (if_pos hold).trans ?_
    rw [Mesh.lookup_gathered.mpr ⟨m, hup, rfl, rfl⟩]
    rfl

variable {m : Member}

/-- With an old pod there is where to introduce. -/
theorem seedAddrs_ne_nil (hm : m ∈ mesh.members) (hold : m.old setup = true) :
    (buildLegacyFactsFromPods mesh.podList.pods mesh.gathered setup.name).1.seedAddrs ≠ [] := by
  have hup := Mesh.mem_upMembers.mpr ⟨hm, h.met m hm (h.old m hm hold)⟩
  refine ne_nil_of_mem (a := addrOf m.ip) ?_
  rw [seedAddrs_eq, mem_filterMap]
  refine ⟨_, mem_map.mpr ⟨m, hup, rfl⟩, ?_⟩
  refine (if_pos hold).trans ?_
  rw [Mesh.lookup_gathered.mpr ⟨m, hup, rfl, rfl⟩]
  exact if_pos ⟨rfl, mesh.ip_ne m hm⟩

/-- Where new pods listen. -/
theorem lookup_newPodAddrs {podName addr : String} :
    (buildLegacyFactsFromPods mesh.podList.pods mesh.gathered setup.name).1.newPodAddrs.lookup podName =
        some addr ↔ ∃ m ∈ mesh.upMembers, m.old setup = false ∧ m.podName = podName ∧ addrOf m.ip = addr := by
  rw [newPodAddrs_eq, GoMap.lookup_ofPairs_eq_some, mem_filterMap]
  · constructor
    · rintro ⟨pod, hpod, haddr⟩
      obtain ⟨m, hm, rfl⟩ := mem_map.mp hpod
      simp only [newPodAddr, Option.ite_none_right_eq_some, Bool.and_eq_true, Bool.not_eq_true',
        Option.some.injEq, Prod.mk.injEq] at haddr
      exact ⟨m, hm, haddr.1.1.1, haddr.2.1, haddr.2.2⟩
    · rintro ⟨m, hm, hold, rfl, rfl⟩
      have hmem := (Mesh.mem_upMembers.mp hm).1
      refine ⟨_, mem_map.mpr ⟨m, hm, rfl⟩, if_pos ?_⟩
      rw [Bool.and_eq_true, Bool.and_eq_true, Bool.not_eq_true', bne_iff_ne]
      exact ⟨⟨hold, (isNewShardPod_of_mem (h.new m hmem hold)).1⟩, mesh.ip_ne m hmem⟩
  · rw [List.Nodup, pairwise_map, pairwise_filterMap]
    refine (pairwise_map.mp mesh.podList.names_nodup).imp fun hne pair hpair pair' hpair' heq => hne ?_
    rw [← newPodAddr_fst hpair, ← newPodAddr_fst hpair', heq]

/-- A pod that is up has its address. -/
theorem addr_eq (hm : m ∈ mesh.members) (hold : m.old setup = false) :
    (buildLegacyFactsFromPods mesh.podList.pods mesh.gathered setup.name).1.addr m.podName =
      if m.boot = 0 then addrOf m.ip else "" := by
  unfold LegacyFacts.addr
  split
  · rename_i hboot
    rw [h.lookup_newPodAddrs.mpr ⟨m, Mesh.mem_upMembers.mpr ⟨hm, hboot⟩, hold, rfl, rfl⟩]
    rfl
  · rename_i hboot
    cases hlookup : (buildLegacyFactsFromPods mesh.podList.pods mesh.gathered
        setup.name).1.newPodAddrs.lookup m.podName with
    | none => rfl
    | some addr =>
      obtain ⟨m', hm', -, hname, -⟩ := h.lookup_newPodAddrs.mp hlookup
      obtain ⟨hmem, hboot'⟩ := Mesh.mem_upMembers.mp hm'
      rw [Mesh.eq_of_podName hmem hm hname] at hboot'
      exact absurd hboot' hboot

/-- Without an old partition no old pod is left. -/
theorem not_old_of_partitions
    (hnone : ∀ part ∈ mesh.gathered.partitions, ¬ part.any (buildLegacyFactsFromPods mesh.podList.pods
      mesh.gathered setup.name).1.legacyNodeIDs.contains = true) :
    ∀ m ∈ mesh.members, m.old setup = false := by
  intro m hm
  by_contra hold
  rw [Bool.not_eq_false] at hold
  have hup := Mesh.mem_upMembers.mpr ⟨hm, h.met m hm (h.old m hm hold)⟩
  obtain ⟨part, hpart, hmem⟩ := Mesh.partitions_spec.1 m hup
  refine hnone part hpart (any_eq_true.mpr ⟨_, hmem, contains_iff_mem.mpr ?_⟩)
  exact h.mem_legacyNodeIDs.mpr ⟨m, hm, hold, rfl⟩

/-- The partition of the old nodes has the members. -/
theorem mem_part_iff {part : List String} (hpart : part ∈ mesh.gathered.partitions)
    (hany : part.any (buildLegacyFactsFromPods mesh.podList.pods mesh.gathered
      setup.name).1.legacyNodeIDs.contains = true)
    (hm : m ∈ mesh.upMembers) : m.nodeID ∈ part ↔ m.met = true := by
  obtain ⟨id, hid, hlegacy⟩ := any_eq_true.mp hany
  obtain ⟨old, hmem, hold, rfl⟩ := h.mem_legacyNodeIDs.mp (contains_iff_mem.mp hlegacy)
  have hmet := h.old old hmem hold
  have hup := Mesh.mem_upMembers.mpr ⟨hmem, h.met old hmem hmet⟩
  exact Mesh.partitions_spec.2 part hpart old hup hmet hid m hm

/-- What is left for the plan are the members. -/
theorem lookup_restricted {podName : String} {node : ClusterNodeState} :
    (migrationView mesh.podList mesh.replies setup.name).1.nodes.lookup podName = some node ↔
      ∃ m ∈ mesh.members, m.met = true ∧ m.podName = podName ∧ node = m.view := by
  change (restrictToLegacyMesh mesh.gathered (buildLegacyFactsFromPods mesh.podList.pods
    mesh.gathered setup.name).1.legacyNodeIDs setup.name).nodes.lookup podName = some node ↔ _
  unfold restrictToLegacyMesh
  split
  · -- Without old pods, every pod is a member.
    rename_i hnone
    have hgone := h.gone (h.not_old_of_partitions (List.find?_eq_none.mp hnone))
    rw [Mesh.lookup_gathered]
    constructor
    · rintro ⟨m, hm, hname, hview⟩
      have hmem := (Mesh.mem_upMembers.mp hm).1
      exact ⟨m, hmem, hgone m hmem, hname, hview⟩
    · rintro ⟨m, hm, hmet, hname, hview⟩
      exact ⟨m, Mesh.mem_upMembers.mpr ⟨hm, h.met m hm hmet⟩, hname, hview⟩
  · rename_i part hfound
    have hany := List.find?_some hfound
    have hpart := mem_of_find?_eq_some hfound
    refine GoMap.lookup_filterEntries_eq_some.trans ?_
    rw [Mesh.lookup_gathered]
    constructor
    · rintro ⟨⟨m, hm, rfl, rfl⟩, hkeep⟩
      have hmem := (Mesh.mem_upMembers.mp hm).1
      refine ⟨m, hmem, ?_, rfl, rfl⟩
      cases holdm : m.old setup with
      | true => exact h.old m hmem holdm
      | false =>
        rw [(isNewShardPod_of_mem (h.new m hmem holdm)).1, Bool.true_and, Bool.not_not,
          contains_iff_mem] at hkeep
        exact (h.mem_part_iff hpart hany hm).mp hkeep
    · rintro ⟨m, hm, hmet, rfl, rfl⟩
      have hup := Mesh.mem_upMembers.mpr ⟨hm, h.met m hm hmet⟩
      refine ⟨⟨m, hup, rfl, rfl⟩, ?_⟩
      have hin : part.contains m.view.nodeID = true :=
        contains_iff_mem.mpr ((h.mem_part_iff hpart hany hup).mpr hmet)
      rw [hin, Bool.not_true, Bool.and_false, Bool.not_false]

/-- Members know each other. -/
theorem nodeKnows {other : Member} (hm : m ∈ mesh.members) (hmet : m.met = true)
    (hother : other ∈ mesh.members) (hmet' : other.met = true) :
    (migrationView mesh.podList mesh.replies setup.name).1.nodeKnows m.nodeID other.nodeID = true := by
  have hknown : (migrationView mesh.podList mesh.replies setup.name).1.knownNodes =
      mesh.gathered.knownNodes := by
    unfold migrationView restrictToLegacyMesh
    dsimp only
    split <;> rfl
  have hup := Mesh.mem_upMembers.mpr ⟨hm, h.met m hm hmet⟩
  have hup' := Mesh.mem_upMembers.mpr ⟨hother, h.met other hother hmet'⟩
  rw [ClusterGroundTruth.nodeKnows, hknown, Mesh.lookup_known hup, Option.getD_some, contains_iff_mem,
    Mesh.mem_known hup hup']
  exact .inr ⟨hmet, hmet'⟩

end Joined

end Sees

end Migration

end LittleRed.Cluster
