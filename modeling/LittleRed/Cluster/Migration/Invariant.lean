import LittleRed.Cluster.Migration.View

/-!
# What the passes keep

Every range has one owner, an old pod or the new master of its shard, and a new pod that is a replica follows
the owner of its shard's range. Introducing, attaching and promoting pods keep this, and so does dropping
the old ones when they have no slots left.
-/

namespace LittleRed.Cluster.Migration

open Lib List Mesh

section Owns

variable (setup : Setup)

def Member.Owns (m : Member) (k : ℕ) : Prop := nodeOwnsRange m.view (shardRange setup.shards k) = true

/-- What holds in every pass. -/
structure Sound (mesh : Mesh) : Prop extends Joined setup mesh where
  present : ∀ podName ∈ expectedNewPods setup.name setup.shards setup.replicasPerShard,
    ∃ m ∈ mesh.members, m.podName = podName
  distinct : ∀ j < setup.shards, ∀ k < setup.shards,
    shardRange setup.shards j = shardRange setup.shards k → j = k
  whole : ∀ m ∈ mesh.members, m.slots ≠ [] → ∃ k < setup.shards, ∃ slotText, m.slots = [slotText] ∧
    parseSlotRange slotText = some (shardRange setup.shards k)
  owner : ∀ k < setup.shards, ∃ o ∈ mesh.members, o.Owns setup k ∧
    ∀ other ∈ mesh.members, other.Owns setup k → other = o
  place : ∀ m ∈ mesh.members, m.old setup = false → ∀ k < setup.shards, m.Owns setup k →
    m.podName = newMasterPodName setup.name k
  member : ∀ m ∈ mesh.members, m.slots ≠ [] → m.met = true
  following : ∀ m ∈ mesh.members, ∀ k,
    (k, m.podName) ∈ newPods setup.name setup.shards setup.replicasPerShard → m.replica = true →
    ∀ o ∈ mesh.members, o.Owns setup k → m.masterNodeID = o.nodeID

variable {setup} {mesh : Mesh}

variable {m : Member} {k : ℕ}

/-- Owning a range depends on the slots. -/
theorem Member.owns_congr {m' : Member} (h : m.slots = m'.slots) (k : ℕ) :
    m.Owns setup k ↔ m'.Owns setup k := by
  have hany : ∀ m : Member, m.Owns setup k ↔
      (m.slots.any fun slotText => parseSlotRange slotText == some (shardRange setup.shards k)) = true :=
    fun _ => Iff.rfl
  rw [hany, hany, h]

theorem Member.Owns.slots_ne_nil (h : m.Owns setup k) : m.slots ≠ [] := by
  intro hnil
  have hany : ([] : List String).any (fun slotText =>
    parseSlotRange slotText == some (shardRange setup.shards k)) = true := hnil ▸ h
  cases hany

/-- A new pod has one shard. -/
theorem shard_of_newPods {j : ℕ} {podName : String}
    (hj : (j, podName) ∈ newPods setup.name setup.shards setup.replicasPerShard)
    (hk : (k, podName) ∈ newPods setup.name setup.shards setup.replicasPerShard) : j = k := by
  obtain ⟨-, hj⟩ := (mem_newPods ..).mp hj
  obtain ⟨-, hk⟩ := (mem_newPods ..).mp hk
  obtain ⟨m, -, rfl⟩ := mem_shardNewPods.mp hj
  obtain ⟨m', -, hname⟩ := mem_shardNewPods.mp hk
  exact (clusterShardPodName_inj_both hname).1

theorem exists_shard {podName : String}
    (h : podName ∈ expectedNewPods setup.name setup.shards setup.replicasPerShard) :
    ∃ k, (k, podName) ∈ newPods setup.name setup.shards setup.replicasPerShard := by
  obtain ⟨k, hk, hpod⟩ := mem_flatMap.mp h
  exact ⟨k, (mem_newPods ..).mpr ⟨mem_range.mp hk, hpod⟩⟩

theorem not_old_of_newPods
    (h : (k, m.podName) ∈ newPods setup.name setup.shards setup.replicasPerShard) : m.old setup = false := by
  obtain ⟨hk, hpod⟩ := (mem_newPods ..).mp h
  exact (isNewShardPod_of_mem (mem_flatMap.mpr ⟨k, mem_range.mpr hk, hpod⟩)).2

theorem mem_update {f : Member → NodeState} :
    m ∈ (mesh.update f).members ↔ ∃ m' ∈ mesh.members, m'.set (f m') = m := mem_map

namespace Sound

variable {m o r : Member} {j k : ℕ} {delay : String → ℕ}

/-- A member owns one range. -/
theorem shard_unique (h : Sound setup mesh) (hm : m ∈ mesh.members) (hj : j < setup.shards)
    (hk : k < setup.shards) (howns : m.Owns setup j) (howns' : m.Owns setup k) :
    j = k := by
  obtain ⟨-, -, slotText, hslots, -⟩ := h.whole m hm howns.slots_ne_nil
  have hparse : ∀ i, m.Owns setup i → parseSlotRange slotText = some (shardRange setup.shards i) := by
    intro i hi
    have hany : (m.slots.any fun slotText =>
      parseSlotRange slotText == some (shardRange setup.shards i)) = true := hi
    rwa [hslots, any_cons, any_nil, Bool.or_false, beq_iff_eq] at hany
  exact h.distinct j hj k hk (Option.some.inj ((hparse j howns).symm.trans (hparse k howns')))

/-- A member with slots owns a range. -/
theorem exists_owns (h : Sound setup mesh) (hm : m ∈ mesh.members) (hslots : m.slots ≠ []) :
    ∃ k < setup.shards, m.Owns setup k := by
  obtain ⟨k, hk, slotText, hslots, hparse⟩ := h.whole m hm hslots
  refine ⟨k, hk, ?_⟩
  change (m.slots.any fun slotText => parseSlotRange slotText == some (shardRange setup.shards k)) = true
  rw [hslots, any_cons, hparse, beq_self_eq_true, Bool.true_or]

/-- A range has one owner. -/
theorem owner_unique (h : Sound setup mesh) (hk : k < setup.shards) {o' : Member} (ho : o ∈ mesh.members)
    (ho' : o' ∈ mesh.members) (howns : o.Owns setup k) (howns' : o'.Owns setup k) :
    o = o' := by
  obtain ⟨q, -, -, hunique⟩ := h.owner k hk
  rw [hunique o ho howns, hunique o' ho' howns']

/-- An update that keeps the slots keeps the invariant. -/
theorem update (h : Sound setup mesh) {f : Member → NodeState}
    (hslots : ∀ m ∈ mesh.members, (f m).slots = m.slots)
    (hmet : ∀ m ∈ mesh.members, m.met = true → (f m).met = true)
    (hboot : ∀ m ∈ mesh.members, (f m).met = true → (f m).boot = 0) (hfollow : ∀ m ∈ mesh.members, ∀ k,
      (k, m.podName) ∈ newPods setup.name setup.shards setup.replicasPerShard → (f m).replica = true →
      ∀ o ∈ mesh.members, o.Owns setup k → (f m).masterNodeID = o.nodeID) :
    Sound setup (mesh.update f) := by
  have howns : ∀ m ∈ mesh.members, ∀ k, (m.set (f m)).Owns setup k ↔ m.Owns setup k :=
    fun m hm k => Member.owns_congr (m := m.set (f m)) (hslots m hm) k
  constructor
  · constructor
    · exact forall_mem_map.mpr fun m hm hold => hmet m hm (h.old m hm hold)
    · exact forall_mem_map.mpr hboot
    · exact forall_mem_map.mpr h.new
    · intro hgone
      have hall := h.gone (forall_mem_map.mp hgone)
      exact forall_mem_map.mpr fun m hm => hmet m hm (hall m hm)
  · intro podName hpod
    obtain ⟨m, hm, hname⟩ := h.present podName hpod
    exact ⟨_, mem_map_of_mem hm, hname⟩
  · exact h.distinct
  · refine forall_mem_map.mpr fun m hm hne => ?_
    have hslots' : (m.set (f m)).slots = m.slots := hslots m hm
    rw [hslots'] at hne ⊢
    exact h.whole m hm hne
  · intro k hk
    obtain ⟨o, ho, howns', hunique⟩ := h.owner k hk
    refine ⟨_, mem_map_of_mem ho, (howns o ho k).mpr howns', forall_mem_map.mpr fun m hm hm' => ?_⟩
    rw [hunique m hm ((howns m hm k).mp hm')]
  · exact forall_mem_map.mpr fun m hm hold k hk hm' => h.place m hm hold k hk ((howns m hm k).mp hm')
  · refine forall_mem_map.mpr fun m hm hne => hmet m hm (h.member m hm ?_)
    have hslots' : (m.set (f m)).slots = m.slots := hslots m hm
    rwa [hslots'] at hne
  · refine forall_mem_map.mpr fun m hm k hpod hreplica => ?_
    exact forall_mem_map.mpr fun o ho ho' => hfollow m hm k hpod hreplica o ho ((howns o ho k).mp ho')

/-- The owner before the new master is an old pod. -/
theorem old_of_owns (h : Sound setup mesh) (hk : k < setup.shards) (hr : r ∈ mesh.members)
    (ho : o ∈ mesh.members) (hname : r.podName = newMasterPodName setup.name k) (hempty : r.slots = [])
    (howns : o.Owns setup k) : o.old setup = true := by
  by_contra hold
  rw [Bool.not_eq_true] at hold
  have hro : r = o := eq_of_podName hr ho (hname.trans (h.place o ho hold k hk howns).symm)
  exact howns.slots_ne_nil (hro ▸ hempty)

/-- The slots after a promotion. -/
theorem slots_takeOver (r o m : Member) (delay : String → ℕ) :
    (m.set (Mesh.takeOver r o m delay)).slots =
      if m.nodeID = r.nodeID then o.slots else if m.nodeID = o.nodeID then [] else m.slots := by
  change (Mesh.takeOver r o m delay).slots = _
  unfold Mesh.takeOver Mesh.follow
  split
  · rfl
  split
  · rfl
  split <;> rfl

/-- Who owns a range after a promotion. -/
theorem owns_takeOver :
    (m.set (Mesh.takeOver r o m delay)).Owns setup k ↔
      if m.nodeID = r.nodeID then o.Owns setup k else m.nodeID ≠ o.nodeID ∧ m.Owns setup k := by
  have hslots := slots_takeOver r o m delay
  split
  · rename_i hr
    rw [if_pos hr] at hslots
    exact Member.owns_congr hslots k
  · rename_i hr
    rw [if_neg hr] at hslots
    by_cases ho : m.nodeID = o.nodeID
    · rw [if_pos ho] at hslots
      exact ⟨fun h => absurd hslots h.slots_ne_nil, fun h => absurd ho h.1⟩
    · rw [if_neg ho] at hslots
      rw [and_iff_right ho]
      exact Member.owns_congr hslots k

theorem takeOver_kept :
    (Mesh.takeOver r o m delay).met = m.met ∧ (Mesh.takeOver r o m delay).boot = m.boot := by
  unfold Mesh.takeOver Mesh.follow
  split
  · exact ⟨rfl, rfl⟩
  split
  · exact ⟨rfl, rfl⟩
  split <;> exact ⟨rfl, rfl⟩

/-- New replicas follow the new owner. -/
theorem following_takeOver (h : Sound setup mesh) (ho : o ∈ mesh.members) (hold : o.old setup = true)
    (hm : m ∈ mesh.members) (hpod : (j, m.podName) ∈ newPods setup.name setup.shards setup.replicasPerShard)
    (hreplica : (Mesh.takeOver r o m delay).replica = true) {q : Member} (hq : q ∈ mesh.members)
    (hq' : (q.set (Mesh.takeOver r o q delay)).Owns setup j) :
    (Mesh.takeOver r o m delay).masterNodeID = q.nodeID := by
  have hmo : m.nodeID ≠ o.nodeID := by
    intro hid
    have hnew := not_old_of_newPods hpod
    rw [eq_of_nodeID hm ho hid, hold] at hnew
    cases hnew
  have hmr : m.nodeID ≠ r.nodeID := by
    intro hid
    rw [Mesh.takeOver, if_pos hid] at hreplica
    cases hreplica
  rw [owns_takeOver] at hq'
  rw [Mesh.takeOver, if_neg hmr, if_neg hmo] at hreplica ⊢
  by_cases hfollows : m.replica = true ∧ m.masterNodeID = o.nodeID
  · -- The pod followed the old owner, so its shard is the one that was taken over.
    rw [if_pos hfollows]
    change r.nodeID = q.nodeID
    by_cases hqr : q.nodeID = r.nodeID
    · exact hqr.symm
    · rw [if_neg hqr] at hq'
      have hmaster := h.following m hm j hpod hfollows.1 q hq hq'.2
      exact absurd (hmaster.symm.trans hfollows.2) hq'.1
  · rw [if_neg hfollows] at hreplica ⊢
    by_cases hqr : q.nodeID = r.nodeID
    · rw [if_pos hqr] at hq'
      exact absurd ⟨hreplica, h.following m hm j hpod hreplica o ho hq'⟩ hfollows
    · rw [if_neg hqr] at hq'
      exact h.following m hm j hpod hreplica q hq hq'.2

/-- Every range still has one owner. -/
theorem owner_takeOver (h : Sound setup mesh) (hr : r ∈ mesh.members) (ho : o ∈ mesh.members)
    (hempty : r.slots = []) (delay : String → ℕ) (hj : j < setup.shards) :
    ∃ q ∈ (mesh.update fun m => Mesh.takeOver r o m delay).members, q.Owns setup j ∧
      ∀ other ∈ (mesh.update fun m => Mesh.takeOver r o m delay).members, other.Owns setup j → other = q := by
  obtain ⟨q, hq, hqowns, hunique⟩ := h.owner j hj
  by_cases hqo : q = o
  · -- The range that was taken over is owned by the new master now.
    refine ⟨_, mem_map_of_mem hr, ?_, forall_mem_map.mpr fun m hm hm' => ?_⟩
    · rw [owns_takeOver, if_pos rfl]
      exact hqo ▸ hqowns
    · rw [owns_takeOver] at hm'
      split at hm'
      · rename_i hmr
        rw [eq_of_nodeID hm hr hmr]
      · exact absurd (congrArg (fun m : Member => m.nodeID) ((hunique m hm hm'.2).trans hqo)) hm'.1
  · have hqr : q.nodeID ≠ r.nodeID := by
      intro hid
      exact hqowns.slots_ne_nil (eq_of_nodeID hq hr hid ▸ hempty)
    refine ⟨_, mem_map_of_mem hq, ?_, forall_mem_map.mpr fun m hm hm' => ?_⟩
    · rw [owns_takeOver, if_neg hqr]
      exact ⟨fun hid => hqo (eq_of_nodeID hq ho hid), hqowns⟩
    · rw [owns_takeOver] at hm'
      split at hm'
      · exact absurd (hunique o ho hm').symm hqo
      · rw [hunique m hm hm'.2]

/-- What holds of the slots before holds after. -/
theorem of_slots_takeOver {P : List String → Prop} (hne : (m.set (Mesh.takeOver r o m delay)).slots ≠ [])
    (hr : m.nodeID = r.nodeID → P o.slots)
    (hm : m.slots ≠ [] → P m.slots) : P (m.set (Mesh.takeOver r o m delay)).slots := by
  rw [slots_takeOver] at hne ⊢
  split
  · rename_i hmr
    exact hr hmr
  rename_i hmr
  rw [if_neg hmr] at hne
  split
  · rename_i hmo
    exact absurd (if_pos hmo) hne
  · rename_i hmo
    rw [if_neg hmo] at hne
    exact hm hne

/-- A promotion keeps the invariant. -/
theorem takeOver (h : Sound setup mesh) (hk : k < setup.shards) (hr : r ∈ mesh.members)
    (ho : o ∈ mesh.members) (hname : r.podName = newMasterPodName setup.name k) (hmet : r.met = true)
    (hempty : r.slots = []) (howns : o.Owns setup k) (delay : String → ℕ) :
    Sound setup (mesh.update fun m => Mesh.takeOver r o m delay) := by
  have hold := h.old_of_owns hk hr ho hname hempty howns
  constructor
  · constructor
    · refine forall_mem_map.mpr fun m hm hold => ?_
      exact takeOver_kept.1.trans (h.old m hm hold)
    · refine forall_mem_map.mpr fun m hm hmet => ?_
      exact takeOver_kept.2.trans (h.met m hm (takeOver_kept.1.symm.trans hmet))
    · exact forall_mem_map.mpr h.new
    · intro hgone
      have hall := h.gone (forall_mem_map.mp hgone)
      exact forall_mem_map.mpr fun m hm => takeOver_kept.1.trans (hall m hm)
  · intro podName hpod
    obtain ⟨m, hm, hname⟩ := h.present podName hpod
    exact ⟨_, mem_map_of_mem hm, hname⟩
  · exact h.distinct
  · refine forall_mem_map.mpr fun m hm hne => ?_
    exact of_slots_takeOver (P := fun slots => ∃ k < setup.shards, ∃ slotText, slots = [slotText] ∧
      parseSlotRange slotText = some (shardRange setup.shards k)) hne
      (fun _ => h.whole o ho howns.slots_ne_nil) (h.whole m hm)
  · exact fun j hj => h.owner_takeOver hr ho hempty delay hj
  · refine forall_mem_map.mpr fun m hm hnew j hj hm' => ?_
    rw [owns_takeOver] at hm'
    split at hm'
    · rename_i hmr
      rw [h.shard_unique ho hj hk hm' howns]
      exact (congrArg (fun m : Member => m.podName) (eq_of_nodeID hm hr hmr)).trans hname
    · exact h.place m hm hnew j hj hm'.2
  · refine forall_mem_map.mpr fun m hm hne => takeOver_kept.1.trans ?_
    exact of_slots_takeOver (P := fun _ => m.met = true) hne
      (fun hmr => eq_of_nodeID hm hr hmr ▸ hmet) (h.member m hm)
  · refine forall_mem_map.mpr fun m hm j hpod hreplica => forall_mem_map.mpr fun q hq hq' => ?_
    exact h.following_takeOver (m := m) (q := q) ho hold hm hpod hreplica hq hq'

/-- So does dropping old pods without slots. -/
theorem dropOld (h : Sound setup mesh) (hempty : ∀ m ∈ mesh.members, m.old setup = true → m.slots = [])
    (hmet : ∀ m ∈ mesh.members, m.old setup = false → m.met = true) {mesh' : Mesh}
    (hmem : ∀ m, m ∈ mesh'.members ↔ m ∈ mesh.members ∧ m.old setup = false) : Sound setup mesh' := by
  have hsub : ∀ m ∈ mesh'.members, m ∈ mesh.members := fun m hm => ((hmem m).mp hm).1
  constructor
  · constructor
    · exact fun m hm => h.old m (hsub m hm)
    · exact fun m hm => h.met m (hsub m hm)
    · exact fun m hm => h.new m (hsub m hm)
    · exact fun _ m hm => hmet m (hsub m hm) ((hmem m).mp hm).2
  · intro podName hpod
    obtain ⟨m, hm, rfl⟩ := h.present podName hpod
    exact ⟨m, (hmem m).mpr ⟨hm, (isNewShardPod_of_mem hpod).2⟩, rfl⟩
  · exact h.distinct
  · exact fun m hm => h.whole m (hsub m hm)
  · intro k hk
    obtain ⟨o, ho, howns, hunique⟩ := h.owner k hk
    refine ⟨o, (hmem o).mpr ⟨ho, ?_⟩, howns, fun m hm => hunique m (hsub m hm)⟩
    by_contra hold
    exact howns.slots_ne_nil (hempty o ho (Bool.not_eq_false _ ▸ hold))
  · exact fun m hm => h.place m (hsub m hm)
  · exact fun m hm => h.member m (hsub m hm)
  · exact fun m hm k hpod hreplica o ho => h.following m (hsub m hm) k hpod hreplica o (hsub o ho)

end Sound

end Owns

end LittleRed.Cluster.Migration
