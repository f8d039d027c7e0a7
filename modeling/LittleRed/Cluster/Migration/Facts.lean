import LittleRed.Cluster.GatherSpec
import LittleRed.Cluster.Migration.Plan

/-!
# What the migration learns from the pods

The old pods give the nodes to drop and where to introduce new ones; a new pod that has not joined the mesh
of the old ones yet is taken out of the view, so that the plan sees members only.
-/

namespace LittleRed.Cluster

open Lib List GoMap

/-- A listed pod: its name, its address once it has one, and whether its container is ready. -/
structure MigPodFact where
  name : String
  ip : String
  redisReady : Bool
  deriving DecidableEq

structure MigPodList where
  pods : List MigPodFact
  names_nodup : (pods.map MigPodFact.name).Nodup

def addrOf (ip : String) : String := ip ++ ":6379"

/-- The name is that of a pod of the old StatefulSet. -/
def isLegacyClusterPod (podName instanceName : String) : Bool :=
  match cutFront (instanceName ++ "-cluster-") podName with
  | none => false
  | some rest => rest != "" && (atoi rest).isSome

/-- The name is that of a pod of a shard. -/
def isNewShardPod (podName instanceName : String) : Bool :=
  match cutFront (instanceName ++ "-shard-") podName with
  | none => false
  | some rest =>
    match splitText '-' rest with
    | [shardIdx, ordinal] => (atoi shardIdx).isSome && (atoi ordinal).isSome
    | _ => false

/-- All old pods are ready, and there are some. -/
def allLegacyPodsReady (pods : List MigPodFact) (instanceName : String) : Bool :=
  let old := pods.filter fun pod => isLegacyClusterPod pod.name instanceName
  old.all MigPodFact.redisReady && !old.isEmpty

/-- Take one pod into the facts; the flag tells whether there are new pods. -/
def addPodFact (gt : ClusterGroundTruth) (instanceName : String) (acc : LegacyFacts × Bool)
    (pod : MigPodFact) : LegacyFacts × Bool :=
  if isLegacyClusterPod pod.name instanceName then
    match gt.nodes.lookup pod.name with
    | none => acc
    | some node =>
      ({ acc.1 with
        legacyNodeIDs := acc.1.legacyNodeIDs ++ [node.nodeID]
        seedAddrs :=
          if node.reachable ∧ pod.ip ≠ "" then acc.1.seedAddrs ++ [addrOf pod.ip] else acc.1.seedAddrs },
        acc.2)
  else if isNewShardPod pod.name instanceName then
    ({ acc.1 with
      newPodAddrs :=
        if pod.ip ≠ "" then acc.1.newPodAddrs.insert pod.name (addrOf pod.ip) else acc.1.newPodAddrs },
      true)
  else acc

/-- The facts, whether all old pods are ready, and whether there are new pods. -/
def buildLegacyFactsFromPods (pods : List MigPodFact) (gt : ClusterGroundTruth) (instanceName : String) :
    LegacyFacts × Bool × Bool :=
  let facts := pods.foldl (addPodFact gt instanceName) (⟨[], [], ∅⟩, false)
  (facts.1, allLegacyPodsReady pods instanceName, facts.2)

/-- Take the new pods out of the view that are no members of the first partition with an old node. -/
def restrictToLegacyMesh (gt : ClusterGroundTruth) (legacyNodeIDs : List String) (instanceName : String) :
    ClusterGroundTruth :=
  match gt.partitions.find? fun part => part.any legacyNodeIDs.contains with
  | none => gt
  | some mesh =>
    { gt with
      nodes := gt.nodes.filterEntries fun podName node =>
        !(isNewShardPod podName instanceName && !mesh.contains node.nodeID) }

/-- The pods with an address. -/
def MigPodList.clusterPods (list : MigPodList) : ClusterPods where
  names := GoMap.ofPairs ((list.pods.filter fun pod => pod.ip != "").map fun pod => (pod.ip, pod.name))
  names_nodup := by
    refine List.Nodup.map_on ?_ (AList.nodupKeys _).nodup
    rintro ⟨ip, podName⟩ hentry ⟨ip', podName'⟩ hentry' heq
    have heq : podName = podName' := heq
    subst heq
    have hpair := mem_of_lookup_ofPairs (AList.mem_lookup_iff.mpr hentry)
    have hpair' := mem_of_lookup_ofPairs (AList.mem_lookup_iff.mpr hentry')
    obtain ⟨pod, hpod, hpair⟩ := mem_map.mp hpair
    obtain ⟨pod', hpod', hpair'⟩ := mem_map.mp hpair'
    obtain ⟨hip, hname⟩ := Prod.mk.inj hpair
    obtain ⟨hip', hname'⟩ := Prod.mk.inj hpair'
    have hsame := inj_on_of_nodup_map list.names_nodup (mem_of_mem_filter hpod)
      (mem_of_mem_filter hpod') (hname.trans hname'.symm)
    rw [← hip, ← hip', hsame]

/-- The view and the facts that a plan is made from. -/
def migrationView (list : MigPodList) (replies : String → ProbeReplies) (instanceName : String) :
    ClusterGroundTruth × LegacyFacts :=
  let gt := gatherClusterGroundTruth list.clusterPods replies
  let facts := (buildLegacyFactsFromPods list.pods gt instanceName).1
  (restrictToLegacyMesh gt facts.legacyNodeIDs instanceName, facts)

/-- A pod that is asked is in the list. -/
theorem exists_of_listed {list : MigPodList} {ip podName : String} (h : list.clusterPods.Listed ip podName) :
    ∃ pod ∈ list.pods, pod.ip = ip ∧ pod.name = podName := by
  obtain ⟨pod, hpod, hpair⟩ := mem_map.mp (mem_of_lookup_ofPairs h)
  obtain ⟨hip, hname⟩ := Prod.mk.inj hpair
  exact ⟨pod, mem_of_mem_filter hpod, hip, hname⟩

/-- What is left was gathered. -/
theorem lookup_of_restrictToLegacyMesh {gt : ClusterGroundTruth} {legacyNodeIDs : List String}
    {instanceName podName : String} {node : ClusterNodeState}
    (h : (restrictToLegacyMesh gt legacyNodeIDs instanceName).nodes.lookup podName = some node) :
    gt.nodes.lookup podName = some node := by
  unfold restrictToLegacyMesh at h
  split at h
  · exact h
  · exact (lookup_filterEntries_eq_some.mp h).1

section Facts

variable (pods : List MigPodFact) (gt : ClusterGroundTruth) (instanceName : String)

/-- The nodes of old pods. -/
theorem legacyNodeIDs_eq :
    (buildLegacyFactsFromPods pods gt instanceName).1.legacyNodeIDs = pods.filterMap fun pod =>
      if isLegacyClusterPod pod.name instanceName then (gt.nodes.lookup pod.name).map ClusterNodeState.nodeID
      else none := by
  refine foldl_collect (fun acc : LegacyFacts × Bool => acc.1.legacyNodeIDs) ?_ pods _
  intro acc pod
  unfold addPodFact
  split
  · cases gt.nodes.lookup pod.name <;> simp
  · split <;> simp

/-- Where to introduce new pods. -/
theorem seedAddrs_eq :
    (buildLegacyFactsFromPods pods gt instanceName).1.seedAddrs = pods.filterMap fun pod =>
      if isLegacyClusterPod pod.name instanceName then (gt.nodes.lookup pod.name).bind fun node =>
        if node.reachable ∧ pod.ip ≠ "" then some (addrOf pod.ip) else none
      else none := by
  refine foldl_collect (fun acc : LegacyFacts × Bool => acc.1.seedAddrs) ?_ pods _
  intro acc pod
  unfold addPodFact
  split
  · cases gt.nodes.lookup pod.name with
    | none => simp
    | some node =>
      dsimp only [Option.bind_some]
      split <;> simp
  · split <;> simp

/-- Where a new pod listens. -/
def newPodAddr (pod : MigPodFact) : Option (String × String) :=
  if !isLegacyClusterPod pod.name instanceName && isNewShardPod pod.name instanceName && pod.ip != "" then
    some (pod.name, addrOf pod.ip)
  else none

variable {instanceName} in
theorem newPodAddr_fst {pod : MigPodFact} {pair : String × String}
    (h : newPodAddr instanceName pod = some pair) :
    pair.1 = pod.name := by
  unfold newPodAddr at h
  split at h
  · cases h
    rfl
  · cases h

/-- Where all new pods listen. -/
theorem newPodAddrs_eq :
    (buildLegacyFactsFromPods pods gt instanceName).1.newPodAddrs =
      GoMap.ofPairs (pods.filterMap (newPodAddr instanceName)) := by
  refine foldl_insert (fun acc : LegacyFacts × Bool => acc.1.newPodAddrs) ?_ ?_ pods _
  · intro acc pod hnone
    simp only [newPodAddr, ite_eq_right_iff, reduceCtorEq, imp_false, Bool.not_eq_true, Bool.and_eq_false_iff,
      Bool.not_eq_false', bne_eq_false_iff_eq] at hnone
    unfold addPodFact
    split
    · cases gt.nodes.lookup pod.name <;> rfl
    split
    · rename_i hold hnew
      have hip : pod.ip = "" := by
        refine hnone.resolve_left fun h => ?_
        rcases h with hold' | hnew'
        · exact hold hold'
        · exact Bool.false_ne_true (hnew'.symm.trans hnew)
      simp only [hip, ne_eq, not_true_eq_false, if_false]
    · rfl
  · intro acc pod key value hsome
    simp only [newPodAddr, Option.ite_none_right_eq_some, Bool.and_eq_true, Bool.not_eq_true', bne_iff_ne,
      Option.some.injEq, Prod.mk.injEq] at hsome
    obtain ⟨⟨⟨hold, hnew⟩, hip⟩, rfl, rfl⟩ := hsome
    simp only [addPodFact, hold, hnew, hip, Bool.false_eq_true, if_false, if_true, ne_eq, not_false_eq_true]

end Facts

end LittleRed.Cluster
