import LittleRed.Replication.Consensus

/-!
# Gathering the state of an instance

`gatherReplicationState` probes the data pods and the Sentinels, and decides about the master.
An address counts as live when a pod of either kind has it, so the master that a majority of the
Sentinels names may be the address of a Sentinel.
-/

namespace LittleRed.Replication

open Lib List

/-- What a data pod answers about itself. -/
structure ReplicationInfo where
  role : String
  masterHost : String
  masterLinkStatus : String
  offset : ℤ
  keys : ℤ
  replid : String
  replid2 : String

/-- What a Sentinel answers about the master that it monitors. -/
structure MasterInfo where
  ip : String
  flags : String
  failoverState : String

/-- What a Sentinel answers about the desired name, and its lists of replicas and masters. -/
structure SentinelAnswer where
  master : Option MasterInfo
  replicas : List ReplicaInfo
  masters : List MonitoredMaster

/-- What the pods answer at their addresses. -/
structure Probes where
  redis : String → Except ProbeFailure ReplicationInfo
  sentinel : String → Option SentinelAnswer

namespace Probes

variable (probes : Probes)

/-- The view of a data pod. -/
def getRedisState (podName ip : String) : RedisNodeState :=
  match probes.redis ip with
  | .error probeFailure => silentNode podName ip probeFailure
  | .ok snap =>
    ⟨podName, ip, snap.role, snap.masterHost, snap.masterLinkStatus, snap.offset, snap.keys,
      snap.replid, snap.replid2, true, .ok⟩

/-- The view of a Sentinel. Without a name to ask for none is asked. -/
def getSentinelState (podName ip masterName : String) : SentinelNodeState :=
  let silent : SentinelNodeState := ⟨podName, ip, false, "", false, [], "", "", []⟩
  if masterName = "" then silent
  else
    match probes.sentinel ip with
    | none => silent
    | some answer =>
      match answer.master with
      | none => ⟨podName, ip, false, "", true, [], "", "", answer.masters⟩
      | some info =>
        ⟨podName, ip, true, info.ip, true, answer.replicas, info.failoverState, info.flags, answer.masters⟩

end Probes

section Gather

variable (probes : Probes) (redisPods sentinelPods : GoMap String String) (masterName : String)
  (ownedIPs : List String)

/-- The views of all Sentinels. -/
def sentinelViews : List (String × SentinelNodeState) :=
  sentinelPods.entries.map fun pod => (pod.1, probes.getSentinelState pod.2 pod.1 masterName)

/-- What was gathered, before the decision about the master. -/
def gatheredNodes : ReplicationState where
  redisNodes := GoMap.ofPairs
    (redisPods.entries.map fun pod => (pod.1, probes.getRedisState pod.2 pod.1))
  sentinelNodes := GoMap.ofPairs (sentinelViews probes sentinelPods masterName)
  liveTopologyIPs := (redisPods.keys ++ sentinelPods.keys).filter (· ≠ "")
  ownedIPs := (ownedIPs ++ redisPods.keys ++ sentinelPods.keys).filter (· ≠ "")

/-- Gather the state of an instance from its pods and the other addresses it owns. -/
def gatherReplicationState (orders : ConsensusOrders) : ReplicationState :=
  determineRealMaster orders (gatheredNodes probes redisPods sentinelPods masterName ownedIPs)

end Gather

/-- The commands that are aimed at the master's address. -/
inductive HealCommand where
  | monitor (sentinelIP masterName masterIP : String) (quorum : ℤ)
  | replicaOf (podIP masterIP : String)
  deriving DecidableEq

/-- The master that a command is about. -/
def HealCommand.target : HealCommand → String
  | .monitor _ _ masterIP _ => masterIP
  | .replicaOf _ masterIP => masterIP

/-- Rule 0: every bare Sentinel is to monitor the master. -/
def reregisterSentinels (s : ReplicationState) (masterName : String) (quorum : ℤ) : List HealCommand :=
  if s.realMasterIP = "" then []
  else
    (s.sentinelNodes.entries.filter fun entry => entry.2.reachable && !entry.2.monitoring).map
      fun entry => .monitor entry.1 masterName s.realMasterIP quorum

/-- Rule R: every pod that does not follow the master is to do so. -/
def rescueReplicas (s : ReplicationState) : List HealCommand :=
  (planReplicaRescue .asGiven s).map fun rn => .replicaOf rn.ip s.realMasterIP

/-- A majority of the Sentinels monitors the address. -/
def NamedByMajority (probes : Probes) (sentinelPods : GoMap String String) (masterName ip : String) :
    Prop :=
  let views := (sentinelViews probes sentinelPods masterName).map Prod.snd
  views.countP (·.reachable) / 2 + 1 ≤ (views.filterMap (·.vote)).count ip

section Facts

variable {probes : Probes} {redisPods sentinelPods : GoMap String String} {masterName : String}
  {ownedIPs : List String}

/-- The gathered Sentinels are those that were asked. -/
theorem gatheredNodes_sentinels_perm (probes : Probes) (redisPods sentinelPods : GoMap String String)
    (masterName : String) (ownedIPs : List String) :
    (gatheredNodes probes redisPods sentinelPods masterName ownedIPs).sentinelNodes.values.Perm
      ((sentinelViews probes sentinelPods masterName).map Prod.snd) := by
  refine GoMap.values_ofPairs_perm ?_
  rw [sentinelViews, map_map]
  exact sentinelPods.nodupKeys

theorem gatheredPairs_nodup (probes : Probes) (redisPods : GoMap String String) :
    ((redisPods.entries.map fun pod => (pod.1, probes.getRedisState pod.2 pod.1)).map Prod.fst).Nodup := by
  rw [map_map]
  exact redisPods.nodupKeys

/-- A gathered data pod was asked. -/
theorem gatheredNodes_redis_ip {rn : RedisNodeState}
    (h : rn ∈ (gatheredNodes probes redisPods sentinelPods masterName ownedIPs).redisNodes.values) :
    rn.ip ∈ redisPods := by
  obtain ⟨ip, hmem⟩ := (GoMap.mem_values_ofPairs (gatheredPairs_nodup probes redisPods) rn).mp h
  obtain ⟨pod, hpod, hrn⟩ := mem_map.mp hmem
  obtain ⟨rfl, rfl⟩ := Prod.mk.inj hrn
  have hip : (probes.getRedisState pod.2 pod.1).ip = pod.1 := by
    unfold Probes.getRedisState
    split <;> rfl
  rw [hip]
  exact mem_keys_of_mem hpod

/-- The view at an address is what the pod there answered. -/
theorem lookup_gatherReplicationState (probes : Probes) (redisPods sentinelPods : GoMap String String)
    (masterName : String) (ownedIPs : List String) (orders : ConsensusOrders) (ip : String) :
    (gatherReplicationState probes redisPods sentinelPods masterName ownedIPs orders).redisNodes.lookup ip =
      (redisPods.lookup ip).map fun name => probes.getRedisState name ip := by
  rw [gatherReplicationState, (determineRealMaster_nodes orders).1, gatheredNodes]
  ext rn
  rw [GoMap.lookup_ofPairs_eq_some (gatheredPairs_nodup probes redisPods), Option.map_eq_some_iff,
    mem_map]
  constructor
  · rintro ⟨pod, hpod, heq⟩
    obtain ⟨rfl, rfl⟩ := Prod.mk.inj heq
    exact ⟨pod.2, AList.mem_lookup_iff.mpr hpod, rfl⟩
  · rintro ⟨name, hname, rfl⟩
    exact ⟨⟨ip, name⟩, AList.mem_lookup_iff.mp hname, rfl⟩

variable {s : ReplicationState} {ip : String}

/-- A vote is for an address. -/
theorem ne_empty_of_mem_votes (h : ip ∈ s.votes) : ip ≠ "" := by
  obtain ⟨sn, -, hvote⟩ := mem_filterMap.mp h
  rw [SentinelNodeState.vote] at hvote
  split at hvote
  · rename_i hvotes
    cases hvote
    simp only [Bool.and_eq_true, bne_iff_ne] at hvotes
    exact hvotes.2.2
  · cases hvote

/-- An address is elected when it is alive and a majority names it. -/
theorem gatheredNodes_elected_iff :
    (gatheredNodes probes redisPods sentinelPods masterName ownedIPs).Elected ip ↔
      (ip ∈ redisPods ∨ ip ∈ sentinelPods) ∧ NamedByMajority probes sentinelPods masterName ip := by
  have hperm := gatheredNodes_sentinels_perm probes redisPods sentinelPods masterName ownedIPs
  generalize hs : gatheredNodes probes redisPods sentinelPods masterName ownedIPs = s at hperm ⊢
  have hmajority : s.majority ≤ s.votes.count ip ↔ NamedByMajority probes sentinelPods masterName ip := by
    rw [ReplicationState.majority, ReplicationState.reachableSentinels, ReplicationState.votes,
      hperm.countP_eq, (hperm.filterMap _).count_eq]
    rfl
  have hlive : ip ∈ s.liveTopologyIPs ↔ (ip ∈ redisPods ∨ ip ∈ sentinelPods) ∧ ip ≠ "" := by
    rw [← hs, gatheredNodes, mem_filter, mem_append, decide_eq_true_iff]
    rfl
  rw [← hmajority]
  constructor
  · rintro ⟨hip, hvotes⟩
    exact ⟨(hlive.mp hip).1, hvotes⟩
  · rintro ⟨hpod, hvotes⟩
    have hvoted : ip ∈ s.votes :=
      count_pos_iff.mp (Nat.lt_of_lt_of_le (Nat.succ_pos _) hvotes)
    exact ⟨hlive.mpr ⟨hpod, ne_empty_of_mem_votes hvoted⟩, hvotes⟩

/-- The master is a data pod, or there is none. -/
theorem gather_realMasterIP (ownedIPs : List String) (orders : ConsensusOrders)
    (hnone : ¬∃ ip ∈ sentinelPods, ip ∉ redisPods ∧ NamedByMajority probes sentinelPods masterName ip) :
    (gatherReplicationState probes redisPods sentinelPods masterName ownedIPs orders).realMasterIP = "" ∨
      (gatherReplicationState probes redisPods sentinelPods masterName ownedIPs orders).realMasterIP ∈
        redisPods := by
  rw [gatherReplicationState]
  generalize hs : gatheredNodes probes redisPods sentinelPods masterName ownedIPs = s
  by_cases helected : ∃ ip, s.Elected ip
  · obtain ⟨ip, hip⟩ := helected
    rw [determineRealMaster_of_elected orders hip]
    rw [← hs, gatheredNodes_elected_iff] at hip
    rcases hip with ⟨hredis | hsentinel, hnamed⟩
    · exact .inr hredis
    · exact .inr (by_contra fun hredis => hnone ⟨ip, hsentinel, hredis, hnamed⟩)
  · have hempty : s.realMasterIP = "" := by rw [← hs]; rfl
    rw [determineRealMaster_of_not_elected orders (not_exists.mp helected), hempty]
    split
    · exact .inl rfl
    cases hfound : redisMaster orders s with
    | none => exact .inl rfl
    | some rn =>
      have hrn := (callsItselfMaster_of_redisMaster orders hfound).1
      rw [← hs] at hrn
      exact .inr (gatheredNodes_redis_ip hrn)

/-- Every command aims at the master. -/
theorem target_of_mem_heal {quorum : ℤ} {command : HealCommand}
    (h : command ∈ reregisterSentinels s masterName quorum ++ rescueReplicas s) :
    command.target = s.realMasterIP ∧ s.realMasterIP ≠ "" := by
  rcases mem_append.mp h with h | h
  · rw [reregisterSentinels] at h
    split at h
    · cases h
    rename_i hmaster
    obtain ⟨entry, -, rfl⟩ := mem_map.mp h
    exact ⟨rfl, hmaster⟩
  · obtain ⟨rn, hrn, rfl⟩ := mem_map.mp h
    exact ⟨rfl, ((mem_planReplicaRescue_iff .asGiven).mp hrn).1⟩

end Facts

/-- The master that was decided on, and the target of every command, is a data pod. -/
def HealsTowardsData (s : ReplicationState) (redisPods : GoMap String String) : Prop :=
  (s.realMasterIP = "" ∨ s.realMasterIP ∈ redisPods) ∧
    ∀ masterName quorum, ∀ command ∈ reregisterSentinels s masterName quorum ++ rescueReplicas s,
      command.target ∈ redisPods

/-- The consensus master is a data pod exactly when no majority names a Sentinel. -/
theorem gather_healsTowardsData_iff (probes : Probes) (redisPods sentinelPods : GoMap String String)
    (masterName : String) (ownedIPs : List String) (orders : ConsensusOrders) :
    HealsTowardsData (gatherReplicationState probes redisPods sentinelPods masterName ownedIPs orders)
        redisPods ↔
      ¬∃ ip ∈ sentinelPods, ip ∉ redisPods ∧ NamedByMajority probes sentinelPods masterName ip := by
  constructor
  · rintro ⟨hmaster, -⟩ ⟨ip, hsentinel, hredis, hnamed⟩
    have helected : (gatheredNodes probes redisPods sentinelPods masterName ownedIPs).Elected ip :=
      gatheredNodes_elected_iff.mpr ⟨.inr hsentinel, hnamed⟩
    rw [gatherReplicationState, determineRealMaster_of_elected orders helected] at hmaster
    rcases hmaster with hempty | hmem
    · have hvoted := Nat.lt_of_lt_of_le (Nat.succ_pos _) helected.majority
      exact ne_empty_of_mem_votes (count_pos_iff.mp hvoted) hempty
    · exact hredis hmem
  · intro hnone
    have hmaster := gather_realMasterIP ownedIPs orders hnone
    refine ⟨hmaster, fun _ _ command hcommand => ?_⟩
    obtain ⟨htarget, hknown⟩ := target_of_mem_heal hcommand
    rw [htarget]
    exact hmaster.resolve_left hknown

/-- Two Sentinels monitor the address of a pod that is gone, now that of the third one. -/
def recycledAddress : Probes where
  redis ip :=
    if ip = "10.0.0.10" then .ok ⟨"master", "", "", 80, 2, "7a", ""⟩
    else .ok ⟨"slave", "10.0.0.10", "up", 80, 2, "7a", ""⟩
  sentinel ip := some ⟨if ip = "10.0.0.22" then none else some ⟨"10.0.0.22", "master", ""⟩, [], []⟩

/-- That Sentinel is told to monitor itself, and the data pods to follow it. -/
theorem recycledAddress_becomes_master :
    let redisPods : GoMap String String :=
      GoMap.ofPairs [("10.0.0.10", "lr-redis-0"), ("10.0.0.11", "lr-redis-1")]
    let sentinelPods : GoMap String String := GoMap.ofPairs
      [("10.0.0.20", "lr-sentinel-0"), ("10.0.0.21", "lr-sentinel-1"), ("10.0.0.22", "lr-sentinel-2")]
    let state := gatherReplicationState recycledAddress redisPods sentinelPods "prod" [] .asGiven
    state.realMasterIP = "10.0.0.22" ∧
      reregisterSentinels state "prod" 2 = [.monitor "10.0.0.22" "prod" "10.0.0.22" 2] ∧
      rescueReplicas state =
        [.replicaOf "10.0.0.10" "10.0.0.22", .replicaOf "10.0.0.11" "10.0.0.22"] ∧
      ¬HealsTowardsData state redisPods := by
  refine ⟨by decide, by decide, by decide, fun h => ?_⟩
  exact absurd h.1 (by decide)

end LittleRed.Replication
