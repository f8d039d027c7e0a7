import LittleRed.Replication.Consensus

/-!
# The recommended healing actions

`lrctl verify` prints what `getHealActions` recommends. The operator decides with `planReplicaRescue` and
`ghostReplicaResetSafe`, and refuses some of that: to repoint a replica whose link is merely down, or that
was just promoted, and to reset the Sentinels while the instance is not whole.
-/

namespace LittleRed.Replication

open Lib

/-- An action that is recommended. -/
inductive HealAction where
  | monitor (masterIP podName : String)
  | slaveOf (masterIP podName : String)
  | sentinelReset (masterName : String)
  deriving DecidableEq

/-- The recommendation as it is printed. -/
def HealAction.text : HealAction → String
  | .monitor masterIP podName => "MONITOR " ++ masterIP ++ " ON " ++ podName
  | .slaveOf masterIP podName => "SLAVEOF " ++ masterIP ++ " ON " ++ podName
  | .sentinelReset masterName => "SENTINEL RESET " ++ masterName

def sentinelRedisReplicas : ℕ := 3

/-- A pod that replicates from the given address, as it says itself. -/
def RedisNodeState.follows (rn : RedisNodeState) (masterIP : String) : Bool :=
  !(rn.role == roleMaster || rn.masterHost != masterIP)

/-- A Sentinel lists a replica that is down and not part of the live topology. -/
def SentinelNodeState.listsGhost (sn : SentinelNodeState) (s : ReplicationState) : Bool :=
  sn.replicas.any fun r => s.isGhost r.ip && flaggedDown r.flags

namespace ReplicationState

variable (s : ReplicationState)

/-- The Sentinels that do not monitor the master. -/
def divergedSentinels : List SentinelNodeState :=
  s.sentinelNodes.values.filter fun sn => sn.reachable && (!sn.monitoring || sn.masterIP != s.realMasterIP)

/-- The pods that are to follow the master. -/
def strayReplicas : List RedisNodeState :=
  s.redisNodes.values.filter fun rn =>
    rn.reachable && rn.ip != s.realMasterIP &&
      (rn.role == roleMaster || rn.masterHost != s.realMasterIP || rn.linkStatus == "down")

/-- Some monitoring Sentinel lists a replica that is down and gone. -/
def ghostReplicaFound : Bool :=
  s.sentinelNodes.values.any fun sn => sn.reachable && sn.monitoring && sn.listsGhost s

/-- What is recommended when there is a master. -/
def getHealActions (masterName : String) : List HealAction :=
  if s.realMasterIP = "" then []
  else
    s.divergedSentinels.map (fun sn => .monitor s.realMasterIP sn.podName) ++
      s.strayReplicas.map (fun rn => .slaveOf s.realMasterIP rn.podName) ++
      if s.ghostReplicaFound then [.sentinelReset masterName] else []

def clusterWhole : Bool := s.redisNodes.values.countP (·.reachable) == sentinelRedisReplicas

/-- The master is alive and answers. -/
def masterLiving : Bool :=
  s.realMasterIP != "" && !s.isGhost s.realMasterIP &&
    (s.redisNodes.lookup s.realMasterIP).any (·.reachable)

/-- The lists of the Sentinels can be reset without stranding them. -/
def ghostReplicaResetSafe (ghostFound clusterWhole : Bool) : Bool :=
  if !ghostFound || !clusterWhole then false
  else if s.realMasterIP = "" || s.isGhost s.realMasterIP then false
  else if !(s.redisNodes.lookup s.realMasterIP).any (·.reachable) then false
  else s.hasHealthyKnownReplica

end ReplicationState

section Facts

variable {s : ReplicationState} {masterName : String}

/-- A pod does not follow when it is a master or follows another one. -/
theorem RedisNodeState.follows_eq_false_iff {rn : RedisNodeState} {masterIP : String} :
    rn.follows masterIP = false ↔ rn.role = roleMaster ∨ rn.masterHost ≠ masterIP := by
  simp [RedisNodeState.follows, or_iff_not_imp_left]

/-- A stray replica does not follow the master, or its link is down. -/
theorem mem_strayReplicas_iff {rn : RedisNodeState} :
    rn ∈ s.strayReplicas ↔ rn ∈ s.redisNodes.values ∧ rn.reachable = true ∧ rn.ip ≠ s.realMasterIP ∧
      (rn.follows s.realMasterIP = true → rn.linkStatus = "down") := by
  unfold ReplicationState.strayReplicas
  rw [List.mem_filter]
  by_cases hrole : rn.role = roleMaster <;> by_cases hhost : rn.masterHost = s.realMasterIP <;>
    simp [RedisNodeState.follows, hrole, hhost, and_assoc]

/-- A reset is recommended when a ghost is listed. -/
theorem sentinelReset_mem_getHealActions (hmaster : s.realMasterIP ≠ "") :
    .sentinelReset masterName ∈ s.getHealActions masterName ↔ s.ghostReplicaFound = true := by
  unfold ReplicationState.getHealActions
  rw [if_neg hmaster]
  cases s.ghostReplicaFound <;> simp

/-- When a reset is safe. -/
theorem ghostReplicaResetSafe_iff {ghostFound clusterWhole : Bool} :
    s.ghostReplicaResetSafe ghostFound clusterWhole = true ↔
      ghostFound = true ∧ clusterWhole = true ∧ s.masterLiving = true ∧ s.hasHealthyKnownReplica = true := by
  unfold ReplicationState.ghostReplicaResetSafe ReplicationState.masterLiving
  by_cases hempty : s.realMasterIP = "" <;> cases s.isGhost s.realMasterIP <;>
    cases (s.redisNodes.lookup s.realMasterIP).any (·.reachable) <;>
    cases ghostFound <;> cases clusterWhole <;> simp [hempty]

/-- Nothing is recommended when nothing diverges. -/
theorem getHealActions_eq_nil_iff (hmaster : s.realMasterIP ≠ "") :
    s.getHealActions masterName = [] ↔
      s.divergedSentinels = [] ∧ s.strayReplicas = [] ∧ s.ghostReplicaFound = false := by
  unfold ReplicationState.getHealActions
  rw [if_neg hmaster]
  cases s.ghostReplicaFound <;> simp

end Facts

/-- The operator would rescue every pod that is to follow, and holds a recommended reset for safe. -/
structure AdviceAllowed (s : ReplicationState) (masterName : String) : Prop where
  rescued : ∀ order, ∀ rn ∈ s.strayReplicas, rn ∈ planReplicaRescue order s
  resetSafe : .sentinelReset masterName ∈ s.getHealActions masterName →
    s.ghostReplicaResetSafe s.ghostReplicaFound s.clusterWhole = true

/-- The observations under which the two agree. -/
structure AdviceGrounded (s : ReplicationState) : Prop where
  /-- A replica of the master has a link that is not down. -/
  linked : ∀ rn ∈ s.redisNodes.values, rn.reachable = true → rn.ip ≠ s.realMasterIP →
    rn.follows s.realMasterIP = true → rn.linkStatus ≠ "down"
  /-- A pod that does not follow the master is known under an address that is not promoted. -/
  unpromoted : ∀ rn ∈ s.redisNodes.values, rn.reachable = true → rn.ip ≠ s.realMasterIP →
    rn.follows s.realMasterIP = false →
    ∃ ip, ⟨ip, rn⟩ ∈ s.redisNodes.entries ∧ ip ≠ s.realMasterIP ∧ ip ∉ promotedIPs s
  /-- A ghost is listed only in a whole instance with a living master and a healthy replica. -/
  whole : ∀ sn ∈ s.sentinelNodes.values, sn.reachable = true → sn.monitoring = true →
    sn.listsGhost s = true → s.clusterWhole = true ∧ s.masterLiving = true ∧ s.hasHealthyKnownReplica = true

/-- When the operator rescues every stray replica. -/
theorem strayReplicas_rescued_iff {s : ReplicationState} (hmaster : s.realMasterIP ≠ "") :
    (∀ order, ∀ rn ∈ s.strayReplicas, rn ∈ planReplicaRescue order s) ↔
      ∀ rn ∈ s.redisNodes.values, rn.reachable = true → rn.ip ≠ s.realMasterIP →
        (rn.follows s.realMasterIP = true → rn.linkStatus ≠ "down") ∧ (rn.follows s.realMasterIP = false →
          ∃ ip, ⟨ip, rn⟩ ∈ s.redisNodes.entries ∧ ip ≠ s.realMasterIP ∧ ip ∉ promotedIPs s) := by
  constructor
  · intro h rn hmem hreach hother
    constructor
    · intro hfollows hdown
      have hrescued := h .asGiven rn (mem_strayReplicas_iff.mpr ⟨hmem, hreach, hother, fun _ => hdown⟩)
      obtain ⟨-, ip, -, -, -, -, hwrong⟩ := (mem_planReplicaRescue_iff .asGiven).mp hrescued
      rw [RedisNodeState.follows_eq_false_iff.mpr hwrong] at hfollows
      cases hfollows
    · intro hfollows
      have hstray := mem_strayReplicas_iff.mpr ⟨hmem, hreach, hother, fun htrue => by
        rw [hfollows] at htrue
        cases htrue⟩
      obtain ⟨-, ip, hentry, -, hip, hpromoted, -⟩ :=
        (mem_planReplicaRescue_iff .asGiven).mp (h .asGiven rn hstray)
      exact ⟨ip, hentry, hip, hpromoted⟩
  · intro h order rn hstray
    obtain ⟨hmem, hreach, hother, hdown⟩ := mem_strayReplicas_iff.mp hstray
    obtain ⟨hlinked, hunpromoted⟩ := h rn hmem hreach hother
    have hfollows : rn.follows s.realMasterIP = false := by
      rw [← Bool.not_eq_true]
      exact fun htrue => hlinked htrue (hdown htrue)
    obtain ⟨ip, hentry, hip, hpromoted⟩ := hunpromoted hfollows
    exact (mem_planReplicaRescue_iff order).mpr
      ⟨hmaster, ip, hentry, hreach, hip, hpromoted, RedisNodeState.follows_eq_false_iff.mp hfollows⟩

/-- When it holds a recommended reset for safe. -/
theorem sentinelReset_safe_iff {s : ReplicationState} {masterName : String} (hmaster : s.realMasterIP ≠ "") :
    (.sentinelReset masterName ∈ s.getHealActions masterName →
        s.ghostReplicaResetSafe s.ghostReplicaFound s.clusterWhole = true) ↔
      ∀ sn ∈ s.sentinelNodes.values, sn.reachable = true → sn.monitoring = true → sn.listsGhost s = true →
        s.clusterWhole = true ∧ s.masterLiving = true ∧ s.hasHealthyKnownReplica = true := by
  rw [sentinelReset_mem_getHealActions hmaster, ghostReplicaResetSafe_iff]
  have hfound : s.ghostReplicaFound = true ↔ ∃ sn ∈ s.sentinelNodes.values,
      sn.reachable = true ∧ sn.monitoring = true ∧ sn.listsGhost s = true := by
    simp [ReplicationState.ghostReplicaFound, and_assoc]
  constructor
  · intro h sn hsn hreach hmonitoring hghost
    exact (h (hfound.mpr ⟨sn, hsn, hreach, hmonitoring, hghost⟩)).2
  · intro h hseen
    obtain ⟨sn, hsn, hreach, hmonitoring, hghost⟩ := hfound.mp hseen
    exact ⟨hseen, h sn hsn hreach hmonitoring hghost⟩

/-- With a known master, `lrctl` recommends only what the operator would do exactly when its replicas are
linked, no other pod is promoted, and ghosts are listed only where a reset is safe. -/
theorem adviceAllowed_iff (s : ReplicationState) (masterName : String) (hmaster : s.realMasterIP ≠ "") :
    AdviceAllowed s masterName ↔ AdviceGrounded s := by
  have hrescued := strayReplicas_rescued_iff hmaster
  have hsafe := @sentinelReset_safe_iff s masterName hmaster
  constructor
  · intro h
    have hpods := hrescued.mp h.rescued
    exact ⟨fun rn hmem hreach hother => (hpods rn hmem hreach hother).1,
      fun rn hmem hreach hother => (hpods rn hmem hreach hother).2, hsafe.mp h.resetSafe⟩
  · intro h
    exact ⟨hrescued.mpr fun rn hmem hreach hother =>
      ⟨h.linked rn hmem hreach hother, h.unpromoted rn hmem hreach hother⟩, hsafe.mpr h.whole⟩

/-- A replica with the given link, and a third pod that may be away. -/
def advisedState (link : String) (thirdReachable : Bool) : ReplicationState where
  redisNodes := GoMap.ofPairs
    [("10.0.0.10", ⟨"lr-redis-0", "10.0.0.10", "master", "", "", 80, 2, "7a", "", true, .ok⟩),
      ("10.0.0.11", ⟨"lr-redis-1", "10.0.0.11", "slave", "10.0.0.10", link, 80, 2, "7a", "", true, .ok⟩),
      ("10.0.0.12", if thirdReachable then
        ⟨"lr-redis-2", "10.0.0.12", "slave", "10.0.0.10", "up", 80, 2, "7a", "", true, .ok⟩
      else silentNode "lr-redis-2" "10.0.0.12" .timedOut)]
  sentinelNodes := GoMap.ofPairs
    [("10.0.0.20", ⟨"lr-sentinel-0", "10.0.0.20", true, "10.0.0.10", true,
      [⟨"10.0.0.11", "slave"⟩, ⟨"10.0.0.9", "s_down,slave"⟩], "", "master", []⟩)]
  liveTopologyIPs := ["10.0.0.10", "10.0.0.11", "10.0.0.12", "10.0.0.20"]
  realMasterIP := "10.0.0.10"

/-- In a whole instance whose replicas are linked, the reset of a ghost is recommended and safe. -/
theorem advisedState_allowed :
    (advisedState "up" true).getHealActions "prod" = [.sentinelReset "prod"] ∧
      AdviceAllowed (advisedState "up" true) "prod" := by
  refine ⟨by decide, (adviceAllowed_iff (advisedState "up" true) "prod" (by decide)).mpr ⟨?_, ?_, ?_⟩⟩
  · decide
  · intro rn hmem
    have hfollow : ∀ rn ∈ (advisedState "up" true).redisNodes.values, rn.ip ≠ "10.0.0.10" →
        rn.follows "10.0.0.10" = true := by decide
    intro _ hother hfollows
    rw [show (advisedState "up" true).realMasterIP = "10.0.0.10" from rfl] at hother hfollows
    rw [hfollow rn hmem hother] at hfollows
    cases hfollows
  · decide

/-- While one pod synchronizes and another is gone, `lrctl` recommends a repoint and a reset that the
operator refuses. -/
theorem advisedState_refused :
    let s := advisedState "down" false
    s.getHealActions "prod" = [.slaveOf "10.0.0.10" "lr-redis-1", .sentinelReset "prod"] ∧
      planReplicaRescue .asGiven s = [] ∧
      s.ghostReplicaResetSafe s.ghostReplicaFound s.clusterWhole = false ∧
      ¬ AdviceAllowed s "prod" := by
  intro s
  have hactions : s.getHealActions "prod" = [.slaveOf "10.0.0.10" "lr-redis-1", .sentinelReset "prod"] := by
    decide
  have hsafe : s.ghostReplicaResetSafe s.ghostReplicaFound s.clusterWhole = false := by decide
  refine ⟨hactions, by decide, hsafe, fun h => ?_⟩
  have hreset := h.resetSafe (by rw [hactions]; decide)
  rw [hsafe] at hreset
  cases hreset

end LittleRed.Replication
