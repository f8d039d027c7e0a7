import LittleRed.Replication.Capture
import LittleRed.Replication.Gather

/-!
# What depends on the order of the maps

The signature of a capture does not depend on the order of the maps. It excludes a consensus master: whoever
the Sentinels vote for is an address that they serve, and the live addresses belong to the instance.
-/

namespace LittleRed.Replication

open Lib List

/-- The same state, with maps that are ranged over in another order. -/
structure ReplicationState.Reordered (s s' : ReplicationState) : Prop where
  redisNodes : s'.redisNodes.entries.Perm s.redisNodes.entries
  sentinelNodes : s'.sentinelNodes.entries.Perm s.sentinelNodes.entries
  liveTopologyIPs : s'.liveTopologyIPs = s.liveTopologyIPs
  ownedIPs : s'.ownedIPs = s.ownedIPs
  realMasterIP : s'.realMasterIP = s.realMasterIP
  failoverReported : s'.failoverReported = s.failoverReported
  failoverProgressing : s'.failoverProgressing = s.failoverProgressing

/-- Without a capture there is no signature. -/
theorem forsakenSignature_of_not_captured {state : ReplicationState}
    (hnone : ∀ foreign, ¬Captured state foreign) : forsakenSignature state = (false, "") := by
  have hverdict : ∀ foreign, forsakenSignature state ≠ (true, foreign) := fun foreign heq =>
    hnone foreign ((forsakenSignature_eq_true_iff state foreign).mp heq)
  unfold forsakenSignature at hverdict ⊢
  split
  · rfl
  rename_i foreign monitoring hsurvey
  simp only [hsurvey] at hverdict
  split
  · rfl
  rename_i hspoken
  rw [if_neg hspoken] at hverdict
  split
  · rfl
  · rename_i hmaster
    exact absurd (if_neg hmaster) (hverdict foreign)

section Order

variable {s s' : ReplicationState}

/-- A capture does not depend on the order. -/
theorem Captured.of_perm (hsentinels : s'.sentinelNodes.values.Perm s.sentinelNodes.values)
    (hredis : s'.redisNodes.values.Perm s.redisNodes.values) (howned : s'.ownedIPs = s.ownedIPs)
    {foreign : String} (h : Captured s foreign) : Captured s' foreign := by
  have hours : ∀ ip, s'.isOurs ip = s.isOurs ip := fun ip => by
    rw [ReplicationState.isOurs, ReplicationState.isOurs, howned]
  refine ⟨fun m hm => ?_, ?_, fun rn hrn => h.noMaster rn (hredis.mem_iff.mp hrn)⟩
  · have hobserved : m ∈ observations s.sentinelNodes.values :=
      ((hsentinels.filter _).flatMap_right _).mem_iff.mp hm
    obtain ⟨hip, halien⟩ := h.agreed m hobserved
    exact ⟨hip, halien.known, (hours m.ip).trans halien.notOurs, halien.alive⟩
  · rw [hsentinels.countP_eq]
    exact h.spoken

theorem forsakenSignature_eq_of_perm (hsentinels : s'.sentinelNodes.values.Perm s.sentinelNodes.values)
    (hredis : s'.redisNodes.values.Perm s.redisNodes.values) (howned : s'.ownedIPs = s.ownedIPs) :
    forsakenSignature s' = forsakenSignature s := by
  by_cases hcaptured : ∃ foreign, Captured s foreign
  · obtain ⟨foreign, hforeign⟩ := hcaptured
    rw [(forsakenSignature_eq_true_iff s foreign).mpr hforeign,
      forsakenSignature_eq_true_iff s' foreign]
    exact hforeign.of_perm hsentinels hredis howned
  · rw [forsakenSignature_of_not_captured (not_exists.mp hcaptured)]
    refine forsakenSignature_of_not_captured fun foreign hforeign => hcaptured ⟨foreign, ?_⟩
    exact hforeign.of_perm hsentinels.symm hredis.symm howned.symm

end Order

section Leaderless

variable {s : ReplicationState}

/-- A vote is an observation. -/
theorem exists_observation_of_mem_votes {ip : String} (h : ip ∈ s.votes) :
    ∃ m ∈ observations s.sentinelNodes.values, m.ip = ip := by
  obtain ⟨sn, hsn, hvote⟩ := mem_filterMap.mp h
  rw [SentinelNodeState.vote] at hvote
  split at hvote
  · rename_i hvotes
    rw [Bool.and_eq_true, Bool.and_eq_true] at hvotes
    obtain ⟨hreach, hmonitoring, -⟩ := hvotes
    refine ⟨⟨"", sn.masterIP, sn.masterFlags, ""⟩, ?_, Option.some.inj hvote⟩
    refine mem_flatMap.mpr ⟨sn, mem_filter.mpr ⟨hsn, hreach⟩, ?_⟩
    rw [monitoredAddresses, if_pos hmonitoring]
    exact mem_append_left _ mem_cons_self
  · cases hvote

/-- Nobody is elected under a capture. -/
theorem Captured.not_elected {foreign : String} (h : Captured s foreign)
    (hlive : ∀ ip ∈ s.liveTopologyIPs, s.isOurs ip = true) (ip : String) : ¬s.Elected ip := by
  intro helected
  have hvoted : ip ∈ s.votes :=
    count_pos_iff.mp (Nat.lt_of_lt_of_le (Nat.succ_pos _) helected.majority)
  obtain ⟨m, hm, rfl⟩ := exists_observation_of_mem_votes hvoted
  have hforeign := (h.agreed m hm).2.notOurs
  rw [hlive m.ip helected.live] at hforeign
  cases hforeign

theorem Captured.determineRealMaster_realMasterIP {foreign : String} (h : Captured s foreign)
    (hlive : ∀ ip ∈ s.liveTopologyIPs, s.isOurs ip = true) (orders : ConsensusOrders) :
    (determineRealMaster orders s).realMasterIP = s.realMasterIP := by
  have hnone : redisMaster orders s = none := by
    cases hfound : redisMaster orders s with
    | none => rfl
    | some rn =>
      obtain ⟨hmem, hreach, hrole⟩ := callsItselfMaster_of_redisMaster orders hfound
      exact absurd hrole (h.noMaster rn hmem hreach)
  rw [determineRealMaster_of_not_elected orders (h.not_elected hlive), hnone]
  split
  · rfl
  · rfl

end Leaderless

/-- Gathered live addresses are owned. -/
theorem gatheredNodes_isOurs (probes : Probes) (redisPods sentinelPods : GoMap String String)
    (masterName : String) (ownedIPs : List String) :
    let s := gatheredNodes probes redisPods sentinelPods masterName ownedIPs
    ∀ ip ∈ s.liveTopologyIPs, s.isOurs ip = true := by
  intro s ip hip
  obtain ⟨hpod, hknown⟩ := mem_filter.mp hip
  have howned : ip ∈ s.ownedIPs := by
    refine mem_filter.mpr ⟨?_, hknown⟩
    rw [append_assoc]
    exact mem_append_right _ hpod
  rwa [ReplicationState.isOurs, if_neg (of_decide_eq_true hknown), contains_iff_mem]

/-- A captured gathered state has no consensus master, and its signature is the same in every order. -/
theorem gathered_captured_leaderless (probes : Probes) (redisPods sentinelPods : GoMap String String)
    (masterName : String) (ownedIPs : List String) (orders : ConsensusOrders) :
    let gathered := gatherReplicationState probes redisPods sentinelPods masterName ownedIPs
    (∀ foreign, forsakenSignature (gathered orders) = (true, foreign) →
        (gathered orders).realMasterIP = "") ∧
      ∀ orders' state, (gathered orders').Reordered state →
        forsakenSignature state = forsakenSignature (gathered orders) := by
  intro gathered
  have hkept : ∀ orders,
      (gathered orders).redisNodes =
          (gatheredNodes probes redisPods sentinelPods masterName ownedIPs).redisNodes ∧
        (gathered orders).sentinelNodes =
          (gatheredNodes probes redisPods sentinelPods masterName ownedIPs).sentinelNodes ∧
        (gathered orders).ownedIPs =
          (gatheredNodes probes redisPods sentinelPods masterName ownedIPs).ownedIPs := by
    intro orders
    obtain ⟨ip, heq⟩ := exists_determineRealMaster_eq orders
      (gatheredNodes probes redisPods sentinelPods masterName ownedIPs)
    rw [show gathered orders = _ from heq]
    exact ⟨rfl, rfl, rfl⟩
  constructor
  · intro foreign hsignature
    obtain ⟨hredis, hsentinels, howned⟩ := hkept orders
    have hcaptured := (forsakenSignature_eq_true_iff _ foreign).mp hsignature
    have hbefore : Captured (gatheredNodes probes redisPods sentinelPods masterName ownedIPs) foreign :=
      hcaptured.of_perm (by rw [hsentinels]) (by rw [hredis]) howned.symm
    exact hbefore.determineRealMaster_realMasterIP
      (gatheredNodes_isOurs probes redisPods sentinelPods masterName ownedIPs) orders
  · intro orders' state hstate
    obtain ⟨hredis, hsentinels, howned⟩ := hkept orders
    obtain ⟨hredis', hsentinels', howned'⟩ := hkept orders'
    refine forsakenSignature_eq_of_perm ?_ ?_ ?_
    · rw [hsentinels, ← hsentinels']
      exact GoMap.values_perm hstate.sentinelNodes
    · rw [hredis, ← hredis']
      exact GoMap.values_perm hstate.redisNodes
    · rw [hstate.ownedIPs, howned, howned']

/-- All Sentinels serve the captor's master. -/
def capturedProbes : Probes where
  redis _ := .ok ⟨"slave", "10.9.0.1", "up", 500, 0, "c4", ""⟩
  sentinel _ := some ⟨some ⟨"10.9.0.1", "master", ""⟩, [], []⟩

/-- The captured instance has no consensus master in either order. -/
theorem capturedProbes_leaderless :
    let gathered (first second : String × String) (third fourth : String × String) :=
      gatherReplicationState capturedProbes (GoMap.ofPairs [first, second])
        (GoMap.ofPairs [third, fourth]) "prod" [] .asGiven
    let state := gathered ("10.0.0.10", "lr-redis-0") ("10.0.0.11", "lr-redis-1")
      ("10.0.0.20", "lr-sentinel-0") ("10.0.0.21", "lr-sentinel-1")
    let reversed := { state with
      redisNodes := (gathered ("10.0.0.11", "lr-redis-1") ("10.0.0.10", "lr-redis-0")
        ("10.0.0.20", "lr-sentinel-0") ("10.0.0.21", "lr-sentinel-1")).redisNodes }
    forsakenSignature state = (true, "10.9.0.1") ∧ state.realMasterIP = "" ∧
      reversed.redisNodes.keys ≠ state.redisNodes.keys ∧
      forsakenSignature reversed = forsakenSignature state := by
  intro gathered state reversed
  have hsignature : forsakenSignature state = (true, "10.9.0.1") := by decide
  have hreordered : state.Reordered reversed :=
    ⟨by decide, .refl _, rfl, rfl, rfl, rfl, rfl⟩
  have hfacts := gathered_captured_leaderless capturedProbes
    (GoMap.ofPairs [("10.0.0.10", "lr-redis-0"), ("10.0.0.11", "lr-redis-1")])
    (GoMap.ofPairs [("10.0.0.20", "lr-sentinel-0"), ("10.0.0.21", "lr-sentinel-1")]) "prod" [] .asGiven
  exact ⟨hsignature, hfacts.1 "10.9.0.1" hsignature, by decide, hfacts.2 .asGiven reversed hreordered⟩

end LittleRed.Replication
