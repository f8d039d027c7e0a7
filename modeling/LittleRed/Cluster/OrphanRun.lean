import LittleRed.Cluster.OrphanGrace

/-!
# The tracked orphans along a run

After every partitioned pass the status tracks the orphans that this pass left waiting, each with
the time when it was first seen. A pass reads the status as the last one wrote it, as passes of one
instance do not overlap and the cache is taken to have caught up between them; it finds the orphans
again by their pod names, so it measures the same waits.
-/

namespace LittleRed.Cluster

open Lib List

/-- The orphans that the last pass left waiting. -/
def OrphanState.waiting (spec : ClusterSpec) (s : OrphanState) : List ClusterNodeState :=
  match s.passes with
  | [] => []
  | (_, gt) :: _ => (ghostOrphans gt).filter fun node => !wasPromoted spec s node

/-- What holds along every run whose passes are steady. -/
structure Tracked (spec : ClusterSpec) (time : StoredTime) (s : OrphanState) : Prop where
  chronological : Chronological s.passes
  clock : ∀ o ∈ s.passes, o.1 ≤ s.clock
  podNames : (s.orphanedReplicas.map OrphanedReplicaInfo.podName).Nodup
  entries : ∀ info, info ∈ s.orphanedReplicas ↔
    ∃ node ∈ s.waiting spec, info = orphanEntry time s.passes node
  promoted : ∀ now gt earlier promoted, s.passes = (now, gt) :: earlier → s.promoted = some promoted →
    ∀ node, node ∈ promoted ↔ node ∈ ghostOrphans gt ∧ timeUp spec now s.passes node = true

section Lookup

variable {orphans : List OrphanedReplicaInfo}

/-- A tracked orphan is found by its pod. -/
theorem lookup_existingOrphans (hnodup : (orphans.map OrphanedReplicaInfo.podName).Nodup)
    {info : OrphanedReplicaInfo}
    (hmem : info ∈ orphans) : (existingOrphans orphans).lookup info.podName = some info := by
  refine GoMap.lookup_insertAll_of_mem ∅ ?_ (mem_map.mpr ⟨info, hmem, rfl⟩)
  rwa [map_map]

/-- Another pod is not. -/
theorem lookup_existingOrphans_eq_none {podName : String} (h : ∀ info ∈ orphans, info.podName ≠ podName) :
    (existingOrphans orphans).lookup podName = none := by
  refine (GoMap.lookup_insertAll_of_notMem _ ∅ ?_).trans (AList.lookup_empty _)
  intro pair hpair
  obtain ⟨info, hinfo, rfl⟩ := mem_map.mp hpair
  exact h info hinfo

end Lookup

/-- An orphan has been one since it was first seen. -/
theorem heldSince_orphaned {gt : ClusterGroundTruth} {node : ClusterNodeState}
    (hnode : node ∈ ghostOrphans gt) (now : ℤ) (passes : List (ℤ × ClusterGroundTruth)) :
    heldSince (orphaned (replicaKey node)) ((now, gt) :: passes) =
      some ((heldSince (orphaned (replicaKey node)) passes).getD now) := by
  have horphaned : orphaned (replicaKey node) gt = true :=
    any_eq_true.mpr ⟨node, hnode, beq_self_eq_true _⟩
  rw [heldSince, if_pos horphaned]

theorem wasPromoted_congr (spec : ClusterSpec) (s : OrphanState) {a b : ClusterNodeState}
    (h : replicaKey a = replicaKey b) : wasPromoted spec s a = wasPromoted spec s b := by
  unfold wasPromoted timeUp
  rw [h]

namespace Tracked

variable {spec : ClusterSpec} {time : StoredTime} {s : OrphanState}

variable {info : OrphanedReplicaInfo}

theorem store_eq (h : Tracked spec time s) (hinfo : info ∈ s.orphanedReplicas) : info.store time = info := by
  obtain ⟨node, -, rfl⟩ := (h.entries info).mp hinfo
  simp [OrphanedReplicaInfo.store, orphanEntry, time.stored_stored]

theorem map_store (h : Tracked spec time s) :
    s.orphanedReplicas.map (OrphanedReplicaInfo.store time) = s.orphanedReplicas :=
  (map_congr_left fun _ hinfo => h.store_eq hinfo).trans (map_id _)

/-- What is tracked is an orphan since the stored time. -/
theorem heldSince_isSome (h : Tracked spec time s) (hinfo : info ∈ s.orphanedReplicas) :
    ∃ t, heldSince (orphaned info.key) s.passes = some t ∧ info.detectedAt = time.stored t := by
  obtain ⟨node, hnode, rfl⟩ := (h.entries info).mp hinfo
  unfold OrphanState.waiting at hnode
  split at hnode
  · cases hnode
  rename_i now gt earlier hpasses
  have hsince := heldSince_orphaned (mem_filter.mp hnode).1 now earlier
  rw [← hpasses] at hsince
  exact ⟨_, hsince, by rw [orphanEntry, hsince, Option.getD_some]⟩

/-- An orphan that waits is tracked. -/
theorem exists_info (h : Tracked spec time s) {node : ClusterNodeState} {t : ℤ}
    (hsince : heldSince (orphaned (replicaKey node)) s.passes = some t)
    (hwaits : wasPromoted spec s node = false) :
    ∃ info ∈ s.orphanedReplicas, info.key = replicaKey node := by
  cases hpasses : s.passes with
  | nil =>
    rw [hpasses] at hsince
    cases hsince
  | cons last earlier =>
    rw [hpasses, heldSince] at hsince
    split at hsince
    · rename_i horphaned
      obtain ⟨node', hnode', hkey⟩ := any_eq_true.mp horphaned
      have hkey : replicaKey node' = replicaKey node := eq_of_beq hkey
      have hwaiting : node' ∈ s.waiting spec := by
        unfold OrphanState.waiting
        rw [hpasses]
        refine mem_filter.mpr ⟨hnode', ?_⟩
        rw [wasPromoted_congr spec s hkey, hwaits]
        rfl
      exact ⟨orphanEntry time s.passes node', (h.entries _).mpr ⟨node', hwaiting, rfl⟩, hkey⟩
    · cases hsince

section Pass

variable {gt : ClusterGroundTruth} (hsame : SameReplicas s.orphanedReplicas gt)
  (hnone : ∀ node ∈ ghostOrphans gt, wasPromoted spec s node = false)

include hsame hnone

variable {node : ClusterNodeState}

variable (h : Tracked spec time s)
include h

section

variable (hnode : node ∈ ghostOrphans gt)
include hnode

/-- A pass finds the time when the orphan was first seen. -/
theorem orphanInfo_eq (now : ℤ) :
    orphanInfo s.orphanedReplicas now node = ⟨node.podName, node.nodeID, node.masterNodeID,
        ((heldSince (orphaned (replicaKey node)) s.passes).map time.stored).getD now⟩ := by
  unfold orphanInfo
  by_cases htracked : ∃ info ∈ s.orphanedReplicas, info.podName = node.podName
  · obtain ⟨info, hinfo, hpod⟩ := htracked
    have hkey := (hsame info hinfo node hnode).mp hpod
    obtain ⟨t, hsince, hdetected⟩ := h.heldSince_isSome hinfo
    obtain ⟨hid, hmaster⟩ := Prod.mk.inj hkey
    rw [← hpod, lookup_existingOrphans h.podNames hinfo, ← hkey, hsince, ← hid, ← hmaster]
    simp [← hdetected]
  · push Not at htracked
    have hsince : heldSince (orphaned (replicaKey node)) s.passes = none := by
      cases hsince : heldSince (orphaned (replicaKey node)) s.passes with
      | none => rfl
      | some t =>
        obtain ⟨info, hinfo, hkey⟩ := h.exists_info hsince (hnone node hnode)
        exact absurd ((hsame info hinfo node hnode).mpr hkey) (htracked info hinfo)
    rw [lookup_existingOrphans_eq_none htracked, hsince]
    rfl

theorem store_orphanInfo (now : ℤ) :
    (orphanInfo s.orphanedReplicas now node).store time = orphanEntry time ((now, gt) :: s.passes) node := by
  rw [h.orphanInfo_eq hsame hnone hnode, OrphanedReplicaInfo.store, orphanEntry,
    heldSince_orphaned hnode, Option.getD_some]
  cases heldSince (orphaned (replicaKey node)) s.passes with
  | none => rfl
  | some t => simp [time.stored_stored]

/-- The entry of a pod is that of its orphan. -/
theorem eq_orphanEntry (hinfo : info ∈ s.orphanedReplicas) (hpod : info.podName = node.podName)
    (now : ℤ) : info = orphanEntry time ((now, gt) :: s.passes) node := by
  have hlookup : orphanInfo s.orphanedReplicas now node = info := by
    rw [orphanInfo, ← hpod, lookup_existingOrphans h.podNames hinfo, Option.getD_some]
  rw [← h.store_orphanInfo hsame hnone hnode, hlookup, h.store_eq hinfo]

/-- An orphan is stuck when its time is up. -/
theorem stuckOrphan_eq {env : RepairEnv} (hrounds : roundsSafely spec time env.now s.passes node = true) :
    stuckOrphan spec env gt s.orphanedReplicas node =
      timeUp spec env.now ((env.now, gt) :: s.passes) node := by
  rw [stuckOrphan, (mem_filter.mp hnode).2, Bool.true_and, h.orphanInfo_eq hsame hnone hnode,
    timeUp, heldSince_orphaned hnode]
  unfold roundsSafely at hrounds
  cases hsince : heldSince (orphaned (replicaKey node)) s.passes with
  | none => rfl
  | some t =>
    rw [hsince] at hrounds
    exact eq_of_beq hrounds

end

/-- The others wait. -/
theorem filter_waitingOrphan {env : RepairEnv}
    (hrounds : ∀ node ∈ ghostOrphans gt, roundsSafely spec time env.now s.passes node = true) :
    gt.nodes.values.filter (waitingOrphan spec env gt s.orphanedReplicas) =
      (ghostOrphans gt).filter fun node => !timeUp spec env.now ((env.now, gt) :: s.passes) node := by
  rw [ghostOrphans, filter_filter]
  refine filter_congr fun node hnode => ?_
  rw [waitingOrphan, Bool.and_comm]
  cases horphan : gt.isOrphan node && gt.ghostNodes.contains node.masterNodeID with
  | false => rw [Bool.and_false, Bool.and_false]
  | true =>
    have hmem : node ∈ ghostOrphans gt := mem_filter.mpr ⟨hnode, horphan⟩
    rw [h.stuckOrphan_eq hsame hnone hmem (hrounds node hmem)]

end Pass

end Tracked

section Healed

variable {spec : ClusterSpec} {time : StoredTime} {s : OrphanState} {pass : RepairPass}

/-- The entries of those that wait. -/
def waitingEntries (spec : ClusterSpec) (time : StoredTime) (s : OrphanState) (pass : RepairPass) :
    List OrphanedReplicaInfo :=
  ((ghostOrphans pass.gt).filter fun node =>
    !timeUp spec pass.env.now ((pass.env.now, pass.gt) :: s.passes) node).map
      (orphanEntry time ((pass.env.now, pass.gt) :: s.passes))

/-- Their pods are different. -/
theorem waitingEntries_podNames (hparts : pass.gt.hasPartitions = true) (hsteady : Steady spec time s pass) :
    ((waitingEntries spec time s pass).map OrphanedReplicaInfo.podName).Nodup := by
  rw [waitingEntries, map_map]
  exact (filter_sublist.map _).nodup (hsteady hparts).1

variable (h : Tracked spec time s)
include h

/-- An unchanged list tracks those that wait. -/
theorem tracked_perm_waitingEntries (hparts : pass.gt.hasPartitions = true)
    (hsteady : Steady spec time s pass) (hended : endedByQuorum spec pass.env pass.gt = false)
    (hlength : s.orphanedReplicas.length = (waitingEntries spec time s pass).length)
    (hunpromoted : ¬ ∃ node ∈ ghostOrphans pass.gt, timeUp spec pass.env.now ((pass.env.now, pass.gt)
      :: s.passes) node = true ∧ pass.env.orphanTakeover node = true) :
    s.orphanedReplicas.Perm (waitingEntries spec time s pass) := by
  have hwaiters := List.Nodup.of_map _ (waitingEntries_podNames hparts hsteady)
  obtain ⟨-, hsame, hnone, -, hreplaced⟩ := hsteady hparts
  rw [hended] at hreplaced
  rcases hreplaced with hpromoted | htracked | hlost
  · exact absurd hpromoted hunpromoted
  · refine (List.Subperm.perm_of_length_le (subperm_of_subset hwaiters ?_) (Nat.le_of_eq hlength)).symm
    intro entry hentry
    obtain ⟨node, hnode, rfl⟩ := mem_map.mp hentry
    have horphan := (mem_filter.mp hnode).1
    obtain ⟨info, hinfo, hpod⟩ := htracked node horphan
    rwa [← h.eq_orphanEntry hsame hnone horphan hinfo hpod]
  · refine List.Subperm.perm_of_length_le
      (subperm_of_subset (List.Nodup.of_map _ h.podNames) ?_)
      (Nat.le_of_eq hlength.symm)
    intro info hinfo
    obtain ⟨node, hnode, hpod, htime⟩ := hlost info hinfo
    rw [h.eq_orphanEntry hsame hnone hnode hinfo hpod pass.env.now]
    exact mem_map.mpr ⟨node, mem_filter.mpr ⟨hnode, by rw [htime]; rfl⟩, rfl⟩

/-- A pass leaves those that wait in the status. -/
theorem healed_perm_waitingEntries (hparts : pass.gt.hasPartitions = true)
    (hsteady : Steady spec time s pass) (hended : endedByQuorum spec pass.env pass.gt = false)
    (hupdate : pass.env.statusUpdate = .ok) :
    ((healPartitions spec pass.env pass.gt s.orphanedReplicas).orphanedReplicas.map
      (OrphanedReplicaInfo.store time)).Perm (waitingEntries spec time s pass) := by
  obtain ⟨-, hsame, hnone, hrounds, -⟩ := hsteady hparts
  have hcurrent : (scanOrphans spec pass.env pass.gt s.orphanedReplicas).currentOrphans.map
      (OrphanedReplicaInfo.store time) = waitingEntries spec time s pass := by
    rw [scanOrphans_eq, h.filter_waitingOrphan hsame hnone hrounds, map_map]
    exact map_congr_left fun node hnode =>
      h.store_orphanInfo hsame hnone (mem_filter.mp hnode).1 pass.env.now
  rw [healPartitions_orphanedReplicas spec pass.env pass.gt s.orphanedReplicas hupdate]
  split
  · rw [hcurrent]
  rename_i hkept
  push Not at hkept
  rw [h.map_store]
  refine tracked_perm_waitingEntries h hparts hsteady hended ?_ ?_
  · rw [hkept.1, ← hcurrent, length_map]
  · rintro ⟨node, hnode, htime, hsucceeds⟩
    have hstuck := h.stuckOrphan_eq hsame hnone hnode (hrounds node hnode)
    have hpromoted := hkept.2
    rw [scanOrphans_eq, Nat.le_zero, countP_eq_zero] at hpromoted
    apply hpromoted node (mem_filter.mp hnode).1
    rw [hstuck, htime, hsucceeds]
    rfl

theorem mem_takeovers_healed (hparts : pass.gt.hasPartitions = true)
    (hsteady : Steady spec time s pass) (node : ClusterNodeState) :
    node ∈ takeovers (healPartitions spec pass.env pass.gt s.orphanedReplicas).commands ↔
      node ∈ ghostOrphans pass.gt ∧
        timeUp spec pass.env.now ((pass.env.now, pass.gt) :: s.passes) node = true := by
  obtain ⟨-, hsame, hnone, hrounds, -⟩ := hsteady hparts
  have hmem : node ∈ takeovers (healPartitions spec pass.env pass.gt s.orphanedReplicas).commands ↔
      .failoverTakeover node ∈ (healPartitions spec pass.env pass.gt s.orphanedReplicas).commands := by
    rw [takeovers, mem_filterMap]
    constructor
    · rintro ⟨command, hcommand, hnode⟩
      cases command with
      | failoverTakeover node' =>
        cases hnode
        exact hcommand
      | forget | meet => cases hnode
    · exact fun hcommand => ⟨_, hcommand, rfl⟩
  rw [hmem, takeover_mem_healPartitions]
  constructor
  · rintro ⟨hnode, hstuck⟩
    have horphan : node ∈ ghostOrphans pass.gt := by
      refine mem_filter.mpr ⟨hnode, ?_⟩
      exact (Bool.and_eq_true_iff.mp hstuck).1
    exact ⟨horphan, (h.stuckOrphan_eq hsame hnone horphan (hrounds node horphan)).symm.trans hstuck⟩
  · rintro ⟨horphan, htime⟩
    exact ⟨(mem_filter.mp horphan).1,
      (h.stuckOrphan_eq hsame hnone horphan (hrounds node horphan)).trans htime⟩

end Healed

section Step

variable {spec : ClusterSpec} {time : StoredTime} {s s' : OrphanState} {pass : RepairPass}

section

variable (h : Tracked spec time s)
include h

theorem Tracked.chronological_cons {now : ℤ} (hclock : s.clock ≤ now) (gt : ClusterGroundTruth) :
    Chronological ((now, gt) :: s.passes) :=
  pairwise_cons.mpr ⟨fun o ho => Int.le_trans (h.clock o ho) hclock, h.chronological⟩

theorem Tracked.step_whole (hclock : s.clock ≤ pass.env.now) :
    Tracked spec time { s with clock := pass.env.now } :=
  ⟨h.chronological, fun o ho => Int.le_trans (h.clock o ho) hclock, h.podNames, h.entries, h.promoted⟩

/-- A pass that ends with the recovery of the quorum. -/
theorem Tracked.step_ended (hclock : s.clock ≤ pass.env.now) (hparts : pass.gt.hasPartitions = true)
    (hsteady : Steady spec time s pass) (hended : endedByQuorum spec pass.env pass.gt = true) :
    Tracked spec time ⟨s.orphanedReplicas, pass.env.now, (pass.env.now, pass.gt) :: s.passes, none⟩ := by
  obtain ⟨-, hsame, hnone, -, hsees⟩ := hsteady hparts
  rw [if_pos hended] at hsees
  refine ⟨h.chronological_cons hclock pass.gt, ?_, h.podNames, fun info => ?_, by simp⟩
  · exact forall_mem_cons.mpr ⟨Int.le_refl _, fun o ho => Int.le_trans (h.clock o ho) hclock⟩
  · have hwaiting : OrphanState.waiting spec
        ⟨s.orphanedReplicas, pass.env.now, (pass.env.now, pass.gt) :: s.passes, none⟩ =
          ghostOrphans pass.gt := by
      simp [OrphanState.waiting, wasPromoted]
    rw [hwaiting]
    constructor
    · intro hinfo
      obtain ⟨node, hnode, hpod⟩ := hsees.2 info hinfo
      exact ⟨node, hnode, h.eq_orphanEntry hsame hnone hnode hinfo hpod _⟩
    · rintro ⟨node, hnode, rfl⟩
      obtain ⟨info, hinfo, hpod⟩ := hsees.1 node hnode
      rwa [← h.eq_orphanEntry hsame hnone hnode hinfo hpod]

/-- A pass that heals partitions. -/
theorem Tracked.step_healed (hclock : s.clock ≤ pass.env.now)
    (hparts : pass.gt.hasPartitions = true) (hsteady : Steady spec time s pass)
    (hended : endedByQuorum spec pass.env pass.gt = false) (hupdate : pass.env.statusUpdate = .ok) :
    Tracked spec time ⟨(healPartitions spec pass.env pass.gt s.orphanedReplicas).orphanedReplicas.map
          (OrphanedReplicaInfo.store time), pass.env.now, (pass.env.now, pass.gt) :: s.passes,
        some (takeovers (healPartitions spec pass.env pass.gt s.orphanedReplicas).commands)⟩ := by
  have hperm := healed_perm_waitingEntries h hparts hsteady hended hupdate
  refine ⟨h.chronological_cons hclock pass.gt, ?_, ?_, fun info => ?_, ?_⟩
  · exact forall_mem_cons.mpr ⟨Int.le_refl _, fun o ho => Int.le_trans (h.clock o ho) hclock⟩
  · exact ((hperm.map _).nodup_iff).mpr (waitingEntries_podNames hparts hsteady)
  · rw [hperm.mem_iff, waitingEntries, mem_map]
    simp only [OrphanState.waiting, wasPromoted, Option.isSome_some, Bool.true_and, eq_comm]
  · intro now gt earlier promoted hpasses hpromoted node
    obtain ⟨⟨rfl, rfl⟩, rfl⟩ := by simpa using hpasses
    cases hpromoted
    exact mem_takeovers_healed h hparts hsteady node

/-- Every steady pass keeps the status right. -/
theorem tracked_step (hsteady : Steady spec time s pass)
    (hstep : (orphanSystem spec time).step s pass = some s') : Tracked spec time s' := by
  unfold orphanSystem OrphanState.step at hstep
  dsimp only at hstep
  split at hstep
  · rename_i henabled
    obtain ⟨hclock, hupdate⟩ := henabled
    cases hstep
    cases hparts : pass.gt.hasPartitions with
    | false =>
      have horphans := repairCluster_orphanedReplicas_of_not_healed spec pass.env pass.gt
        s.orphanedReplicas (by simp [hparts])
      rw [horphans, h.map_store]
      exact h.step_whole hclock
    | true =>
      cases hended : endedByQuorum spec pass.env pass.gt with
      | true =>
        have horphans := repairCluster_orphanedReplicas_of_not_healed spec pass.env pass.gt
          s.orphanedReplicas fun _ => hended
        rw [horphans, h.map_store]
        exact h.step_ended hclock hparts hsteady hended
      | false =>
        rw [repairCluster_orphanedReplicas_of_healed spec pass.env pass.gt s.orphanedReplicas hparts
          hended]
        exact h.step_healed hclock hparts hsteady hended hupdate
  · cases hstep

end

/-- The time is up after the grace period. -/
theorem heldFor_iff_timeUp {passes : List (ℤ × ClusterGroundTruth)} (hpasses : Chronological passes)
    (spec : ClusterSpec) (now : ℤ) (node : ClusterNodeState) :
    HeldFor (orphaned (replicaKey node)) (orphanTimeout spec) now passes ↔
      timeUp spec now passes node = true := by
  rw [heldFor_iff hpasses, timeUp]
  cases heldSince (orphaned (replicaKey node)) passes with
  | none | some => simp

/-- With steady passes step 1 promotes exactly the replicas that were orphans for the whole grace period,
and the status tracks the others. -/
theorem graceKept_of_steady (h : (orphanSystem spec time).Reachable (Steady spec time) s) :
    GraceKept spec time s := by
  have htracked : Tracked spec time s := by
    refine h.invariant (Tracked spec time) ?_ fun _ _ _ hinv hsteady hstep =>
      tracked_step hinv hsteady hstep
    rintro t ⟨horphans, hpasses, hpromoted⟩
    refine ⟨?_, ?_, ?_, ?_, ?_⟩
    · rw [hpasses]
      exact .nil
    · simp [hpasses]
    · simp [horphans]
    · simp [horphans, OrphanState.waiting, hpasses]
    · simp [hpromoted]
  intro now gt earlier promoted hpasses hpromoted
  simp only [heldFor_iff_timeUp htracked.chronological]
  refine ⟨htracked.promoted now gt earlier promoted hpasses hpromoted, htracked.podNames, fun info => ?_⟩
  rw [htracked.entries info, OrphanState.waiting]
  simp [wasPromoted, hpasses, hpromoted, and_assoc]

end Step

section Examples

def graceSpec : ClusterSpec := ⟨3, 15, 15000⟩

/-- A master with slots. -/
def servingMaster (podName nodeID : String) (slots : String) : String × ClusterNodeState :=
  (podName, ⟨podName, podName, nodeID, [slots], .master, "-", .unknown, true⟩)

/-- A replica whose master is gone. -/
def lonelyReplica (podName nodeID masterNodeID : String) : ClusterNodeState :=
  ⟨podName, podName, nodeID, [], .replica, masterNodeID, .down, true⟩

/-- Two masters, and an orphan apart. -/
def partedMesh (first second : String × ClusterNodeState) (orphan : ClusterNodeState) :
    ClusterGroundTruth :=
  { newClusterGroundTruth with
    nodes := GoMap.ofPairs [first, second, (orphan.podName, orphan)]
    partitions := [[first.2.nodeID, second.2.nodeID], [orphan.nodeID]]
    ghostNodes := [orphan.masterNodeID] }

def thirdShardDown : ClusterGroundTruth :=
  partedMesh (servingMaster "lr-shard-0-0" "a" "0-5461") (servingMaster "lr-shard-1-0" "b" "5462-10922")
    (lonelyReplica "lr-shard-2-1" "f" "c")

def firstShardDown : ClusterGroundTruth :=
  partedMesh (servingMaster "lr-shard-1-0" "b" "5462-10922")
    (servingMaster "lr-shard-2-1" "f" "10923-16383") (lonelyReplica "lr-shard-0-1" "d" "a")

/-- A pass at a time. -/
def passAt (seconds : ℤ) (gt : ClusterGroundTruth) : OrphanState → RepairPass :=
  fun _ => ⟨gt, { promptEnv with now := seconds * 1000000000 }⟩

def untracked : OrphanState := ⟨[], 0, [], none⟩

theorem untracked_initial : (orphanSystem graceSpec .wholeSeconds).initial untracked :=
  ⟨rfl, rfl, rfl⟩

def waitedOrphan : OrphanState :=
  ((orphanSystem graceSpec .wholeSeconds).driveIf (Steady graceSpec .wholeSeconds) untracked
    [passAt 1 thirdShardDown, passAt 16 thirdShardDown, passAt 31 thirdShardDown]).get (by decide)

/-- It is promoted once the grace period is over. -/
theorem waitedOrphan_promoted :
    GraceKept graceSpec .wholeSeconds waitedOrphan ∧
      waitedOrphan.promoted = some [lonelyReplica "lr-shard-2-1" "f" "c"] :=
  ⟨graceKept_of_steady (.of_moves untracked_initial (by decide)), by decide⟩

/-- The last view has the node as an orphan whose time is up. -/
def OrphanState.due (spec : ClusterSpec) (s : OrphanState) (node : ClusterNodeState) : Bool :=
  match s.passes with
  | [] => false
  | (now, gt) :: _ => decide (node ∈ ghostOrphans gt) && timeUp spec now s.passes node

/-- Who is due is promoted. -/
theorem GraceKept.mem_promoted {spec : ClusterSpec} {time : StoredTime} {s : OrphanState}
    (h : GraceKept spec time s) (hpasses : Chronological s.passes)
    {promoted : List ClusterNodeState} (hpromoted : s.promoted = some promoted)
    {node : ClusterNodeState} (hdue : s.due spec node = true) : node ∈ promoted := by
  unfold OrphanState.due at hdue
  split at hdue
  · cases hdue
  rename_i now gt earlier hlast
  simp only [Bool.and_eq_true, decide_eq_true_eq] at hdue
  refine ((h now gt earlier promoted hlast hpromoted).1 node).mpr ⟨hdue.1, ?_⟩
  exact (heldFor_iff_timeUp hpasses spec now node).mpr hdue.2

/-- The orphan of shard 0 is there, away while that of shard 2 is, and there again. -/
def replacedOrphan : OrphanState :=
  ((orphanSystem graceSpec .wholeSeconds).driveIf System.anyStep untracked
    [passAt 1 thirdShardDown, passAt 6 firstShardDown, passAt 61 firstShardDown]).get (by decide)

/-- The new orphan was never tracked, and it is not promoted when its time is up. -/
theorem replacedOrphan_not_promoted :
    (orphanSystem graceSpec .wholeSeconds).Reachable System.anyStep replacedOrphan ∧
      ¬ GraceKept graceSpec .wholeSeconds replacedOrphan := by
  refine ⟨.of_moves untracked_initial (by decide), fun h => ?_⟩
  have hpasses : Chronological replacedOrphan.passes := by
    unfold Chronological
    decide
  have hmem := h.mem_promoted hpasses (by decide : replacedOrphan.promoted = some [])
    (by decide : replacedOrphan.due graceSpec (lonelyReplica "lr-shard-0-1" "d" "a") = true)
  cases hmem

end Examples

end LittleRed.Cluster
