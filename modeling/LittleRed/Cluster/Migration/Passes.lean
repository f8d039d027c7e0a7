import LittleRed.Cluster.Migration.Invariant

/-!
# What a pass plans and does

With one owner for each range, the plan can be read off the mesh: which pods are introduced, which are
attached and to whom, and which one is promoted. Carrying it out changes just these pods.
-/

namespace LittleRed.Cluster.Migration

open Lib List

theorem addrOf_inj {ip ip' : String} (h : addrOf ip = addrOf ip') : ip = ip' := by
  have hlist := congrArg String.toList h
  rw [addrOf, addrOf, String.toList_append, String.toList_append] at hlist
  exact String.toList_inj.mp (append_cancel_right hlist)

theorem addrOf_ne (ip : String) : addrOf ip ≠ "" := by
  intro h
  have hlist := congrArg String.toList h
  rw [addrOf, String.toList_append] at hlist
  exact absurd (append_eq_nil_iff.mp hlist).2 (by decide)

section Plans

variable {setup : Setup} {s : State}

variable {node : ClusterNodeState} {k : ℕ} {o m : Member}

variable (h : Sound setup s.mesh)
include h

theorem Sound.lookup_view {podName : String} :
    (s.view setup).1.nodes.lookup podName = some node ↔
      ∃ m ∈ s.mesh.members, m.met = true ∧ m.podName = podName ∧ node = m.view :=
  h.toJoined.lookup_restricted

/-- All of them. -/
theorem Sound.mem_view :
    node ∈ (s.view setup).1.nodes.values ↔ ∃ m ∈ s.mesh.members, m.met = true ∧ node = m.view := by
  constructor
  · intro hnode
    obtain ⟨podName, hlookup⟩ := GoMap.exists_lookup_of_mem_values hnode
    obtain ⟨m, hm, hmet, -, hview⟩ := h.lookup_view.mp hlookup
    exact ⟨m, hm, hmet, hview⟩
  · rintro ⟨m, hm, hmet, hview⟩
    exact GoMap.mem_values_of_lookup (h.lookup_view.mpr ⟨m, hm, hmet, rfl, hview⟩)

variable (order : RangeOrder ClusterNodeState)

/-- The owner of a range is found. -/
theorem Sound.ownerOfRange_view (hk : k < setup.shards) (ho : o ∈ s.mesh.members) (howns : o.Owns setup k) :
    ownerOfRange order (s.view setup).1 (shardRange setup.shards k) = some o.view := by
  have hmem := h.mem_view.mpr ⟨o, ho, h.member o ho howns.slots_ne_nil, rfl⟩
  cases hfound : ownerOfRange order (s.view setup).1 (shardRange setup.shards k) with
  | none =>
    have hnone := List.find?_eq_none.mp hfound o.view ((RangeOrder.mem_reorder order).mpr hmem)
    exact absurd howns hnone
  | some node =>
    have hnode := (RangeOrder.mem_reorder order).mp (mem_of_find?_eq_some hfound)
    have howns' := List.find?_some hfound
    obtain ⟨m, hm, -, rfl⟩ := h.mem_view.mp hnode
    rw [h.owner_unique hk hm ho howns' howns]

/-- No old pod is seen when none is left. -/
theorem Sound.presentLegacyNodes_eq_nil :
    presentLegacyNodes (s.view setup).1 (s.view setup).2.legacyNodeIDs = [] ↔
      ∀ m ∈ s.mesh.members, m.old setup = false := by
  have hids : ∀ id, id ∈ (s.view setup).2.legacyNodeIDs ↔
      ∃ m ∈ s.mesh.members, m.old setup = true ∧ m.nodeID = id := fun id => h.toJoined.mem_legacyNodeIDs
  rw [presentLegacyNodes, filter_eq_nil_iff]
  constructor
  · intro hnone m hm
    by_contra hold
    rw [Bool.not_eq_false] at hold
    refine hnone m.view (h.mem_view.mpr ⟨m, hm, h.old m hm hold, rfl⟩) (contains_iff_mem.mpr ?_)
    exact (hids _).mpr ⟨m, hm, hold, rfl⟩
  · intro hnone node _ hlegacy
    obtain ⟨m, hm, hold, -⟩ := (hids _).mp (contains_iff_mem.mp hlegacy)
    exact Bool.false_ne_true ((hnone m hm).symm.trans hold)

/-- All new pods are met when all are members. -/
theorem Sound.allNewPodsMet_iff :
    allNewPodsMet (s.view setup).1 setup.name setup.shards setup.replicasPerShard = true ↔
      ∀ m ∈ s.mesh.members, m.met = true := by
  rw [allNewPodsMet, all_eq_true]
  constructor
  · intro hall m hm
    cases hold : m.old setup with
    | true => exact h.old m hm hold
    | false =>
      obtain ⟨node, hnode⟩ := Option.isSome_iff_exists.mp (hall _ (h.new m hm hold))
      obtain ⟨m', hm', hmet, hname, -⟩ := h.lookup_view.mp hnode
      rwa [← Mesh.eq_of_podName hm' hm hname]
  · intro hall podName hpod
    obtain ⟨m, hm, rfl⟩ := h.present podName hpod
    rw [h.lookup_view.mpr ⟨m, hm, hall m hm, rfl, rfl⟩]
    rfl

/-- Pods that are up and no members are to be introduced. -/
theorem Sound.mem_missingNewPodMeets {addr : String} :
    addr ∈ missingNewPodMeets (s.view setup).1 setup.name setup.shards setup.replicasPerShard
        (s.view setup).2 ↔ ∃ m ∈ s.mesh.members, m.met = false ∧ m.boot = 0 ∧ addrOf m.ip = addr := by
  have haddr : ∀ m ∈ s.mesh.members, m.old setup = false → (s.view setup).2.addr m.podName =
      if m.boot = 0 then addrOf m.ip else "" := fun m hm hold => h.toJoined.addr_eq hm hold
  rw [missingNewPodMeets, mem_filterMap]
  constructor
  · rintro ⟨podName, hpod, hmeet⟩
    obtain ⟨m, hm, rfl⟩ := h.present podName hpod
    rw [haddr m hm (isNewShardPod_of_mem hpod).2] at hmeet
    split at hmeet
    · cases hmeet
    rename_i hmissing
    refine ⟨m, hm, ?_, ?_⟩
    · by_contra hmet
      rw [Bool.not_eq_false] at hmet
      rw [h.lookup_view.mpr ⟨m, hm, hmet, rfl, rfl⟩] at hmissing
      exact hmissing rfl
    · by_cases hboot : m.boot = 0
      · rw [if_pos hboot, if_neg (addrOf_ne m.ip)] at hmeet
        exact ⟨hboot, Option.some.inj hmeet⟩
      · rw [if_neg hboot, if_pos rfl] at hmeet
        cases hmeet
  · rintro ⟨m, hm, hmet, hboot, rfl⟩
    have hold : m.old setup = false := by
      by_contra hold
      rw [h.old m hm (Bool.not_eq_false _ ▸ hold)] at hmet
      cases hmet
    refine ⟨m.podName, h.new m hm hold, ?_⟩
    have hmissing : ((s.view setup).1.nodes.lookup m.podName).isSome = false := by
      cases hlookup : (s.view setup).1.nodes.lookup m.podName with
      | none => rfl
      | some node =>
        obtain ⟨m', hm', hmet', hname, -⟩ := h.lookup_view.mp hlookup
        rw [Mesh.eq_of_podName hm' hm hname, hmet] at hmet'
        cases hmet'
    rw [hmissing, if_neg Bool.false_ne_true, haddr m hm hold, if_pos hboot, if_neg (addrOf_ne m.ip)]

/-- A pod is settled when it owns its range or is in sync. -/
theorem Sound.settled_iff (hm : m ∈ s.mesh.members) (hmet : m.met = true)
    (hpod : (k, m.podName) ∈ newPods setup.name setup.shards setup.replicasPerShard) :
    settled (s.view setup).1 (shardRange setup.shards k)
        (ownerOfRange order (s.view setup).1 (shardRange setup.shards k)) m.podName = true ↔
      m.Owns setup k ∨ (m.replica = true ∧ m.link = 0) := by
  have hk := ((mem_newPods ..).mp hpod).1
  obtain ⟨o, ho, howns, -⟩ := h.owner k hk
  rw [settled, h.lookup_view.mpr ⟨m, hm, hmet, rfl, rfl⟩, h.ownerOfRange_view order hk ho howns,
    Option.all_some, Bool.or_eq_true]
  refine or_congr Iff.rfl ?_
  constructor
  · intro hlink
    simp only [isLinkUpReplicaOf, Bool.and_eq_true, beq_iff_eq, Member.view, Member.role,
      Member.linkStatus] at hlink
    cases hreplica : m.replica with
    | false => simp [hreplica] at hlink
    | true =>
      refine ⟨rfl, ?_⟩
      by_contra hdown
      simp [hreplica, hdown] at hlink
  · rintro ⟨hreplica, hlink⟩
    have hmaster := h.following m hm k hpod hreplica o ho howns
    simp [isLinkUpReplicaOf, Member.view, Member.role, Member.linkStatus, hreplica, hlink, hmaster,
      ownerNodeID]

/-- A pod that neither owns its range nor follows is to be attached. -/
theorem Sound.attachOf_eq (hm : m ∈ s.mesh.members) (hmet : m.met = true)
    (hpod : (k, m.podName) ∈ newPods setup.name setup.shards setup.replicasPerShard)
    (ho : o ∈ s.mesh.members) (howns : o.Owns setup k) {attach : ReplicaAttach} :
    attachOf (s.view setup).1 (s.view setup).2 (shardRange setup.shards k)
        (ownerOfRange order (s.view setup).1 (shardRange setup.shards k)) m.podName = some attach ↔
      ¬ m.Owns setup k ∧ m.replica = false ∧ attach = ⟨addrOf m.ip, o.nodeID⟩ := by
  have hk := ((mem_newPods ..).mp hpod).1
  have hknows : (s.view setup).1.nodeKnows m.nodeID o.nodeID = true :=
    h.toJoined.nodeKnows hm hmet ho (h.member o ho howns.slots_ne_nil)
  have haddr : (s.view setup).2.addr m.podName = addrOf m.ip :=
    (h.toJoined.addr_eq hm (not_old_of_newPods hpod)).trans (if_pos (h.met m hm hmet))
  have hfollows : ∀ hreplica : m.replica = true, m.masterNodeID = o.nodeID :=
    fun hreplica => h.following m hm k hpod hreplica o ho howns
  rw [attachOf, h.lookup_view.mpr ⟨m, hm, hmet, rfl, rfl⟩, h.ownerOfRange_view order hk ho howns, haddr]
  change (if nodeOwnsRange m.view (shardRange setup.shards k) || isLinkUpReplicaOf m.view o.nodeID ||
    (m.role == .replica && m.masterNodeID == o.nodeID) ||
    !(s.view setup).1.nodeKnows m.nodeID o.nodeID then none
    else some (⟨addrOf m.ip, o.nodeID⟩ : ReplicaAttach)) = some attach ↔ _
  rw [hknows]
  unfold Member.Owns
  cases nodeOwnsRange m.view (shardRange setup.shards k) with
  | true => simp
  | false =>
    cases hreplica : m.replica with
    | true =>
      simp [Member.role, hreplica, hfollows hreplica]
    | false =>
      have hrole : m.role = .master := by rw [Member.role, hreplica]; rfl
      have hlink : isLinkUpReplicaOf m.view o.nodeID = false := by
        simp [isLinkUpReplicaOf, Member.view, hrole]
      rw [hlink, hrole]
      change some (⟨addrOf m.ip, o.nodeID⟩ : ReplicaAttach) = some attach ↔ _
      rw [Option.some.injEq, eq_comm]
      exact ⟨fun h => ⟨Bool.false_ne_true, rfl, h⟩, fun h => h.2.2⟩

end Plans

end LittleRed.Cluster.Migration
