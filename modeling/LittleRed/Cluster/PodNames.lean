import LittleRed.Cluster.Migration.Facts

/-!
# The names of the pods of the shards

A pod of a shard is named by the instance, the shard and the ordinal. The names are built in two places and
read in three: two readers tell the pods of the shards from those of the old StatefulSet, and the third tells
the shard. The instance may have any name, also one that itself looks like that of a pod.
-/

namespace LittleRed.Cluster

open Lib List

section Texts

/-- A number is written as a numeral. -/
theorem isNumeral_toString (n : ℕ) : isNumeral (toString n) = true := by
  have hdigits : ∀ c ∈ (toString n).toList, (digitValue c).isSome = true := by
    intro c hc
    rw [digitValue_of_isDigit (isDigit_toString hc)]
    rfl
  have hsome : (toString n).isEmpty = false := by
    rw [Nat.toString_eq_ofList_toDigits]
    simp [Nat.toDigits_ne_nil]
  rwa [isNumeral, hsome, Bool.not_false, Bool.true_and, all_eq_true]

theorem splitText_shardOrdinal (k m : ℕ) :
    splitText '-' (toString k ++ String.singleton '-' ++ toString m) = [toString k, toString m] := by
  rw [splitText_append (notMem_toString (by decide) k), splitText_singleton (notMem_toString (by decide) m)]

end Texts

section Readers

variable (name : String) (k m : ℕ)

theorem clusterShardPodName_eq :
    clusterShardPodName name k m =
      name ++ "-shard-" ++ (toString k ++ String.singleton '-' ++ toString m) := by
  simp [clusterShardPodName, String.append_assoc]

/-- The name tells both. -/
theorem clusterShardPodName_inj_both {name : String} {k m k' m' : ℕ}
    (h : clusterShardPodName name k m = clusterShardPodName name k' m') : k = k' ∧ m = m' := by
  have hcut := congrArg (cutFront (name ++ "-shard-")) h
  rw [clusterShardPodName_eq, clusterShardPodName_eq, cutFront_append, cutFront_append] at hcut
  have hsplit := congrArg (splitText '-') (Option.some.inj hcut)
  rw [splitText_shardOrdinal, splitText_shardOrdinal] at hsplit
  obtain ⟨hk, hm⟩ := List.cons.inj hsplit
  exact ⟨toString_injective hk, toString_injective (List.cons.inj hm).1⟩

theorem isNewShardPod_clusterShardPodName {k m : ℕ} (hk : k < 2 ^ 63) (hm : m < 2 ^ 63) :
    isNewShardPod (clusterShardPodName name k m) name = true := by
  rw [isNewShardPod, clusterShardPodName_eq, cutFront_append]
  dsimp only
  rw [splitText_shardOrdinal]
  dsimp only
  rw [atoi_toString hk, atoi_toString hm]
  rfl

theorem isLegacyClusterPod_clusterShardPodName :
    isLegacyClusterPod (clusterShardPodName name k m) name = false := by
  have hfront : ¬ (name ++ "-cluster-").toList <+: (clusterShardPodName name k m).toList := by
    simp only [clusterShardPodName, String.toList_append, append_assoc]
    rw [prefix_append_right_inj]
    intro h
    obtain ⟨-, h⟩ := cons_prefix_cons.mp h
    exact absurd (cons_prefix_cons.mp h).1 (by decide)
  rw [isLegacyClusterPod, cutFront_eq_none hfront]

/-- The shard is read back. -/
theorem shardIndexFromPodName_clusterShardPodName (shardIdx ordinal : ℕ) :
    shardIndexFromPodName (clusterShardPodName name shardIdx ordinal) = atoi (toString shardIdx) := by
  have htext : clusterShardPodName name shardIdx ordinal =
      name ++ String.singleton '-' ++ ("shard" ++ String.singleton '-' ++
        (toString shardIdx ++ String.singleton '-' ++ toString ordinal)) := by
    rw [← String.toList_inj]
    simp [clusterShardPodName]
  have hsplit : splitText '-' (clusterShardPodName name shardIdx ordinal) =
      splitText '-' name ++ ["shard", toString shardIdx, toString ordinal] := by
    rw [htext, splitText_append_separator, splitText_append (by decide), splitText_shardOrdinal]
  have hfront : (splitText '-' name).reverse ≠ [] := by
    simp [splitText, List.splitOn, splitOnP_ne_nil]
  rw [shardIndexFromPodName, hsplit, reverse_append]
  cases hrest : (splitText '-' name).reverse with
  | nil => exact absurd hrest hfront
  | cons first rest =>
    change (if isNumeral (toString ordinal) && isNumeral (toString shardIdx) then atoi (toString shardIdx)
      else none) = atoi (toString shardIdx)
    rw [isNumeral_toString, isNumeral_toString, Bool.and_true, if_pos rfl]

end Readers

section Lists

variable (name : String) (shards replicasPerShard : ℕ)

theorem shardNewPods_eq (k : ℕ) :
    shardNewPods name k replicasPerShard =
      (List.range (replicasPerShard + 1)).map (clusterShardPodName name k) := by
  rw [shardNewPods, range_eq_range', range'_succ, map_cons]
  rfl

theorem mem_shardNewPods {name podName : String} {k replicasPerShard : ℕ} :
    podName ∈ shardNewPods name k replicasPerShard ↔
      ∃ m ≤ replicasPerShard, podName = clusterShardPodName name k m := by
  rw [shardNewPods_eq, mem_map]
  refine exists_congr fun m => ?_
  rw [mem_range, Nat.lt_succ_iff, eq_comm]

theorem map_name_clusterPodRefs :
    (clusterPodRefs name shards replicasPerShard).map ClusterPodRef.name =
      expectedNewPods name shards replicasPerShard := by
  rw [clusterPodRefs, map_flatMap, expectedNewPods]
  congr 1
  funext k
  rw [shardNewPods_eq, map_map]
  rfl

theorem nodup_expectedNewPods : (expectedNewPods name shards replicasPerShard).Nodup := by
  -- Names of one shard differ in the ordinal, names of two shards in the shard.
  rw [expectedNewPods, nodup_flatMap]
  constructor
  · intro k _
    rw [shardNewPods_eq]
    refine nodup_range.map ?_
    intro m m' h
    exact (clusterShardPodName_inj_both h).2
  · refine nodup_range.imp fun {k k'} hne => ?_
    intro podName hmem hmem'
    obtain ⟨m, -, rfl⟩ := mem_shardNewPods.mp hmem
    obtain ⟨m', -, hsame⟩ := mem_shardNewPods.mp hmem'
    exact hne (clusterShardPodName_inj_both hsame).1

/-- What is built tells its shard and ordinal. -/
theorem exists_of_mem_clusterPodRefs {name shards replicasPerShard} {ref : ClusterPodRef}
    (h : ref ∈ clusterPodRefs name shards replicasPerShard) :
    ref.shardIdx < shards ∧ ref.ordinal ≤ replicasPerShard ∧
      ref.name = clusterShardPodName name ref.shardIdx ref.ordinal := by
  obtain ⟨k, hk, href⟩ := mem_flatMap.mp h
  obtain ⟨m, hm, rfl⟩ := mem_map.mp href
  exact ⟨mem_range.mp hk, Nat.lt_succ_iff.mp (mem_range.mp hm), rfl⟩

/-- Whatever the instance is named, the names of its pods are different, equal to those a migration
expects, and read as pods of their own shard and no old ones. -/
theorem podNames_consistent (hshards : shards < 2 ^ 63) (hreplicas : replicasPerShard < 2 ^ 63) :
    ((clusterPodRefs name shards replicasPerShard).map ClusterPodRef.name).Nodup ∧
    (clusterPodRefs name shards replicasPerShard).map ClusterPodRef.name =
      expectedNewPods name shards replicasPerShard ∧ ∀ ref ∈ clusterPodRefs name shards replicasPerShard,
      isNewShardPod ref.name name = true ∧ isLegacyClusterPod ref.name name = false ∧
        shardIndexFromPodName ref.name = some (ref.shardIdx : ℤ) := by
  refine ⟨?_, map_name_clusterPodRefs name shards replicasPerShard, fun ref href => ?_⟩
  · rw [map_name_clusterPodRefs]
    exact nodup_expectedNewPods name shards replicasPerShard
  · obtain ⟨hshard, hordinal, hname⟩ := exists_of_mem_clusterPodRefs href
    have hshard' : ref.shardIdx < 2 ^ 63 := hshard.trans hshards
    have hordinal' : ref.ordinal < 2 ^ 63 := hordinal.trans_lt hreplicas
    rw [hname, shardIndexFromPodName_clusterShardPodName, atoi_toString hshard']
    exact ⟨isNewShardPod_clusterShardPodName name hshard' hordinal',
      isLegacyClusterPod_clusterShardPodName name _ _, rfl⟩

/-- An instance may be named like a pod. -/
theorem podLikeName_consistent :
    ((clusterPodRefs "db-shard-7-cluster-0" 2 1).map ClusterPodRef.name).Nodup ∧
    (clusterPodRefs "db-shard-7-cluster-0" 2 1).map ClusterPodRef.name =
      expectedNewPods "db-shard-7-cluster-0" 2 1 ∧ ∀ ref ∈ clusterPodRefs "db-shard-7-cluster-0" 2 1,
      isNewShardPod ref.name "db-shard-7-cluster-0" = true ∧
        isLegacyClusterPod ref.name "db-shard-7-cluster-0" = false ∧
        shardIndexFromPodName ref.name = some (ref.shardIdx : ℤ) :=
  podNames_consistent "db-shard-7-cluster-0" 2 1 (by decide) (by decide)

end Lists

end LittleRed.Cluster
