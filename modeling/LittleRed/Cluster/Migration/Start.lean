import LittleRed.Cluster.Migration.Invariant

/-!
# The mesh before the migration

A cluster that has the shape of the new one has one master for each range, which reports this range and
nothing else. So every range has one owner before the first pass.
-/

namespace LittleRed.Cluster

open Lib List Option

section Shape

/-- A master reports the range of a shard and nothing else. -/
def AlignedAt (shards : ℕ) (node : ClusterNodeState) (k : ℕ) : Prop :=
  node.role = .master ∧ ∃ slotText, node.slots = [slotText] ∧
    alignedRangeIndex (generateSlotRanges shards) slotText = some k

variable {shards : ℕ}

variable {node : ClusterNodeState}

variable {k : ℕ} {owned owned' : List ℕ}

/-- A node has one range. -/
theorem AlignedAt.unique {j : ℕ} (hj : AlignedAt shards node j) (hk : AlignedAt shards node k) : j = k := by
  obtain ⟨-, slotText, hslots, hindex⟩ := hj
  obtain ⟨-, slotText', hslots', hindex'⟩ := hk
  obtain rfl := (List.cons.inj (hslots.symm.trans hslots')).1
  exact Option.some.inj (hindex.symm.trans hindex')

theorem AlignedAt.parsed (h : AlignedAt shards node k) :
    k < shards ∧ (∃ slotText, node.slots = [slotText] ∧
        parseSlotRange slotText = some (shardRange shards k)) ∧
      (generateSlotRanges shards).findIdx? (· == shardRange shards k) = some k := by
  obtain ⟨-, slotText, hslots, hindex⟩ := h
  obtain ⟨range, hparsed, hfound⟩ := bind_eq_some_iff.mp hindex
  obtain ⟨hk, rfl⟩ := shardRange_of_findIdx? hfound
  exact ⟨hk, ⟨slotText, hslots, hparsed⟩, hfound⟩

/-- What one node does to the count. -/
theorem countLegacyMaster_spec (h : countLegacyMaster (generateSlotRanges shards) owned node = some owned') :
    (owned' = owned ∧ (∀ k, ¬ AlignedAt shards node k) ∧ (node.role = .master → node.slots = [])) ∨
      ∃ k ∉ owned, owned' = k :: owned ∧ AlignedAt shards node k := by
  unfold countLegacyMaster at h
  split at h
  · rename_i hskip
    refine .inl ⟨(Option.some.inj h).symm, fun k haligned => ?_, fun hmaster => ?_⟩
    · obtain ⟨hmaster, slotText, hslots, -⟩ := haligned
      simp [hmaster, hslots] at hskip
    · simpa [hmaster] using hskip
  · rename_i hcount
    rw [not_or, not_not] at hcount
    split at h
    · rename_i slotText hslots
      obtain ⟨k, hindex, h⟩ := bind_eq_some_iff.mp h
      rw [ite_none_left_eq_some, Option.some.injEq] at h
      exact .inr ⟨k, fun hmem => h.1 (contains_iff_mem.mpr hmem), h.2.symm, hcount.1, slotText, hslots,
        hindex⟩
    · cases h

/-- What all nodes do. -/
theorem foldlM_countLegacyMaster {nodes : List ClusterNodeState}
    (h : nodes.foldlM (countLegacyMaster (generateSlotRanges shards)) owned = some owned')
    (hnodup : owned.Nodup) :
    owned'.Nodup ∧ (∀ k, k ∈ owned' ↔ k ∈ owned ∨ ∃ node ∈ nodes, AlignedAt shards node k) ∧
      (∀ node ∈ nodes, node.role = .master → node.slots ≠ [] → ∃ k, AlignedAt shards node k) ∧
      (∀ node ∈ nodes, ∀ k, AlignedAt shards node k → k ∉ owned) ∧
      ∀ k, ∀ node ∈ nodes, AlignedAt shards node k →
        ∀ other ∈ nodes, AlignedAt shards other k → other = node := by
  induction nodes generalizing owned with
  | nil =>
    obtain rfl : owned = owned' := Option.some.inj h
    exact ⟨hnodup, by simp, by simp, by simp, by simp⟩
  | cons first rest ih =>
    rw [foldlM_cons, bind_eq_bind] at h
    obtain ⟨mid, hmid, hcount⟩ := bind_eq_some_iff.mp h
    rcases countLegacyMaster_spec hmid with ⟨rfl, hnone, hskip⟩ | ⟨k, hk, rfl, haligned⟩
    · obtain ⟨hnodup', hmem, hslots, hnew, hunique⟩ := ih hcount hnodup
      refine ⟨hnodup', fun k => ?_, ?_, ?_, fun k => ?_⟩
      · rw [hmem, exists_mem_cons_iff, or_iff_right (hnone k)]
      · exact forall_mem_cons.mpr ⟨fun hmaster hne => absurd (hskip hmaster) hne, hslots⟩
      · exact forall_mem_cons.mpr ⟨fun k hk => absurd hk (hnone k), hnew⟩
      · refine forall_mem_cons.mpr ⟨fun hk => absurd hk (hnone k), fun node hnode hk => ?_⟩
        exact forall_mem_cons.mpr ⟨fun hk => absurd hk (hnone k), hunique k node hnode hk⟩
    · obtain ⟨hnodup', hmem, hslots, hnew, hunique⟩ := ih hcount (nodup_cons.mpr ⟨hk, hnodup⟩)
      have hfirst : ∀ j, AlignedAt shards first j ↔ j = k :=
        fun j => ⟨fun hj => hj.unique haligned, fun hj => hj ▸ haligned⟩
      -- The shard of the first master was not owned when the others were counted.
      have hrest : ∀ node ∈ rest, ¬ AlignedAt shards node k :=
        fun node hnode hk => hnew node hnode k hk mem_cons_self
      refine ⟨hnodup', fun j => ?_, ?_, ?_, fun j => ?_⟩
      · rw [hmem, exists_mem_cons_iff, mem_cons, hfirst]
        tauto
      · exact forall_mem_cons.mpr ⟨fun _ _ => ⟨k, haligned⟩, hslots⟩
      · refine forall_mem_cons.mpr ⟨fun j hj => ?_, fun node hnode j hj hmem => ?_⟩
        · rwa [(hfirst j).mp hj]
        · exact hnew node hnode j hj (mem_cons_of_mem _ hmem)
      · refine forall_mem_cons.mpr ⟨fun hj => ?_, fun node hnode hj => ?_⟩
        · obtain rfl := (hfirst j).mp hj
          exact forall_mem_cons.mpr ⟨fun _ => rfl, fun other hother h => absurd h (hrest other hother)⟩
        · refine forall_mem_cons.mpr ⟨fun hj' => ?_, hunique j node hnode hj⟩
          obtain rfl := (hfirst j).mp hj'
          exact absurd hj (hrest node hnode)

/-- In the right shape every range has one owner, and no master has other slots. -/
theorem legacyShapePreserved_spec {gt : ClusterGroundTruth} {replicasPerShard : ℕ}
    (h : legacyShapePreserved gt shards replicasPerShard = true) :
    0 < shards ∧
      (∀ node ∈ gt.nodes.values, node.role = .master → node.slots ≠ [] → ∃ k, AlignedAt shards node k) ∧
      ∀ k < shards, ∃ node ∈ gt.nodes.values, AlignedAt shards node k ∧
        ∀ other ∈ gt.nodes.values, AlignedAt shards other k → other = node := by
  unfold legacyShapePreserved at h
  split at h
  · cases h
  rename_i hshards
  split at h
  · cases h
  split at h
  · cases h
  rename_i owned howned
  obtain ⟨hnodup, hmem, hslots, -, hunique⟩ := foldlM_countLegacyMaster howned nodup_nil
  have hmem : ∀ k, k ∈ owned ↔ ∃ node ∈ gt.nodes.values, AlignedAt shards node k :=
    fun k => (hmem k).trans (or_iff_right not_mem_nil)
  -- As many different shards are owned as there are shards.
  have hperm : owned.Perm (List.range shards) := by
    refine (subperm_of_subset hnodup fun k hk => ?_).perm_of_length_le ?_
    · obtain ⟨node, -, haligned⟩ := (hmem k).mp hk
      exact mem_range.mpr haligned.parsed.1
    · rw [length_range, beq_iff_eq.mp h]
  refine ⟨Nat.pos_of_ne_zero hshards, hslots, fun k hk => ?_⟩
  obtain ⟨node, hnode, haligned⟩ := (hmem k).mp (hperm.mem_iff.mpr (mem_range.mpr hk))
  exact ⟨node, hnode, haligned, hunique k node hnode haligned⟩

end Shape

namespace Migration

variable (setup : Setup)

/-- A reachable mesh of old pods with the shape of the new cluster, and no new pod that is up. -/
structure LegacyStart (s : State) : Prop where
  shape : legacyShapePreserved s.mesh.gathered setup.shards setup.replicasPerShard = true
  old : ∀ m ∈ s.mesh.members, m.old setup = true → m.met = true ∧ m.boot = 0 ∧
    (m.replica = true → m.slots = [])
  new : ∀ m ∈ s.mesh.members, m.old setup = false →
    m.podName ∈ expectedNewPods setup.name setup.shards setup.replicasPerShard ∧ m.met = false ∧
    0 < m.boot ∧ m.replica = false ∧ m.slots = []
  present : ∀ podName ∈ expectedNewPods setup.name setup.shards setup.replicasPerShard,
    ∃ m ∈ s.mesh.members, m.podName = podName

variable {setup} {s : State}

namespace LegacyStart

variable (h : LegacyStart setup s)
include h

/-- Who has slots is an old master. -/
theorem master_of_slots {m : Member} (hm : m ∈ s.mesh.members) (hslots : m.slots ≠ []) :
    m.old setup = true ∧ m.role = .master ∧ m.view ∈ s.mesh.gathered.nodes.values := by
  have hold : m.old setup = true := by
    by_contra hold
    exact hslots (h.new m hm (Bool.not_eq_true _ ▸ hold)).2.2.2.2
  obtain ⟨-, hboot, hreplica⟩ := h.old m hm hold
  refine ⟨hold, ?_, ?_⟩
  · rw [Member.role, if_neg fun hr => hslots (hreplica hr)]
  · have hup := Mesh.mem_upMembers.mpr ⟨hm, hboot⟩
    exact GoMap.mem_values_of_lookup (Mesh.lookup_gathered.mpr ⟨m, hup, rfl, rfl⟩)

/-- Shards have different ranges. -/
theorem distinct {j k : ℕ} (hj : j < setup.shards) (hk : k < setup.shards)
    (heq : shardRange setup.shards j = shardRange setup.shards k) : j = k := by
  obtain ⟨-, -, hall⟩ := legacyShapePreserved_spec h.shape
  obtain ⟨_, -, haligned, -⟩ := hall j hj
  obtain ⟨_, -, haligned', -⟩ := hall k hk
  have hfound := haligned.parsed.2.2
  rw [heq] at hfound
  exact Option.some.inj (hfound.symm.trans haligned'.parsed.2.2)

/-- An owner has exactly its range. -/
theorem owns_iff {m : Member} (hm : m ∈ s.mesh.members) {k : ℕ} (hk : k < setup.shards) :
    m.Owns setup k ↔ AlignedAt setup.shards m.view k := by
  have howns : ∀ {j : ℕ}, AlignedAt setup.shards m.view j →
      (m.Owns setup k ↔ shardRange setup.shards j = shardRange setup.shards k) := by
    intro j hj
    obtain ⟨-, ⟨slotText, hslots, hparsed⟩, -⟩ := hj.parsed
    have hslots : m.slots = [slotText] := hslots
    change (m.slots.any fun slotText => parseSlotRange slotText == some (shardRange setup.shards k)) =
      true ↔ _
    rw [hslots, any_cons, any_nil, Bool.or_false, hparsed, beq_iff_eq, Option.some.injEq]
  constructor
  · intro hm'
    obtain ⟨-, hmaster, hview⟩ := h.master_of_slots hm hm'.slots_ne_nil
    obtain ⟨j, hj⟩ := (legacyShapePreserved_spec h.shape).2.1 _ hview hmaster hm'.slots_ne_nil
    obtain rfl := h.distinct hj.parsed.1 hk ((howns hj).mp hm')
    exact hj
  · exact fun haligned => (howns haligned).mpr rfl

/-- Every range has one owner. -/
theorem owner {k : ℕ} (hk : k < setup.shards) :
    ∃ o ∈ s.mesh.members, o.Owns setup k ∧ ∀ other ∈ s.mesh.members, other.Owns setup k → other = o := by
  obtain ⟨-, -, hall⟩ := legacyShapePreserved_spec h.shape
  obtain ⟨node, hnode, haligned, hunique⟩ := hall k hk
  obtain ⟨podName, hlookup⟩ := GoMap.exists_lookup_of_mem_values hnode
  obtain ⟨o, ho, -, rfl⟩ := Mesh.lookup_gathered.mp hlookup
  have ho := (Mesh.mem_upMembers.mp ho).1
  refine ⟨o, ho, (h.owns_iff ho hk).mpr haligned, fun other hother howns => ?_⟩
  have hview := (h.master_of_slots hother howns.slots_ne_nil).2.2
  have heq := hunique other.view hview ((h.owns_iff hother hk).mp howns)
  exact Mesh.eq_of_nodeID hother ho (congrArg ClusterNodeState.nodeID heq)

/-- There is an old pod. -/
theorem exists_old : 0 < setup.shards ∧ ∃ m ∈ s.mesh.members, m.old setup = true := by
  have hshards := (legacyShapePreserved_spec h.shape).1
  obtain ⟨o, ho, howns, -⟩ := h.owner hshards
  exact ⟨hshards, o, ho, (h.master_of_slots ho howns.slots_ne_nil).1⟩

/-- The invariant holds at the start. -/
theorem sound :
    Sound setup s.mesh where
  old m hm hold := (h.old m hm hold).1
  met m hm hmet := by
    cases hold : m.old setup with
    | true => exact (h.old m hm hold).2.1
    | false => exact absurd ((h.new m hm hold).2.1.symm.trans hmet) Bool.false_ne_true
  new m hm hold := (h.new m hm hold).1
  gone hgone := by
    obtain ⟨-, m, hm, hold⟩ := h.exists_old
    exact absurd ((hgone m hm).symm.trans hold) Bool.false_ne_true
  present := h.present
  distinct _ hj _ hk := h.distinct hj hk
  whole m hm hslots := by
    obtain ⟨-, hmaster, hview⟩ := h.master_of_slots hm hslots
    obtain ⟨k, haligned⟩ := (legacyShapePreserved_spec h.shape).2.1 _ hview hmaster hslots
    obtain ⟨hk, htext, -⟩ := haligned.parsed
    exact ⟨k, hk, htext⟩
  owner _ hk := h.owner hk
  place m hm hold k _ howns := absurd (h.new m hm hold).2.2.2.2 howns.slots_ne_nil
  member m hm hslots := (h.old m hm (h.master_of_slots hm hslots).1).1
  following m hm k hpod hreplica := by
    have hnew := (h.new m hm (not_old_of_newPods hpod)).2.2.2.1
    exact absurd (hnew.symm.trans hreplica) Bool.false_ne_true

end LegacyStart

end Migration

end LittleRed.Cluster
