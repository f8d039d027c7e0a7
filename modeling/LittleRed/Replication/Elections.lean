import LittleRed.Replication.Planners

/-!
# What an election knows about the pods that did not answer

An unsafe election aside, each planner elects exactly when its own gate is open. The gates look at the pods
that answered or refused the credential; only `quarantineDataRisk` asks the kubelet about the others.
-/

namespace LittleRed.Replication

open Lib List

/-- The actions of failover mode that elect a master without the opt-in. -/
def FailoverAction.elects : FailoverAction → Bool
  | .seed | .promote => true
  | _ => false

/-- The actions of sentinel mode that elect a master without the opt-in. -/
def RecoveryAction.elects : RecoveryAction → Bool
  | .seedNoData | .promoteSurvivor => true
  | _ => false

/-- Every pod that did not answer the probe is reported not Ready by the kubelet. -/
def SilentPodsDown (state : ReplicationState) (redisReady : GoMap String Bool) : Prop :=
  ∀ rn ∈ state.redisNodes.values, rn.reachable = false → redisReady.lookup rn.podName = some false

instance (state : ReplicationState) (redisReady : GoMap String Bool) :
    Decidable (SilentPodsDown state redisReady) :=
  inferInstanceAs (Decidable (∀ rn ∈ state.redisNodes.values, _))

/-- No pod refused the credential. -/
def NoneRefused (state : ReplicationState) : Prop :=
  ∀ rn ∈ state.redisNodes.values, rn.unprovablyEmpty = false

/-- No keys and a pod to start from, or holders of one history. -/
def LosslessChoice (state : ReplicationState) (bootstrapMasterIP : String) : Prop :=
  (state.dataHolders = [] ∧ bootstrapMasterIP ≠ "") ∨
    (state.dataHolders ≠ [] ∧ holdersDiverged state.dataHolders = false ∧
      holdersForked state.dataHolders = false)

/-- What `planFailover` asks for before it elects. -/
structure FailoverGate (state : ReplicationState) (liveMasterIP bootstrapMasterIP : String)
    (unsettled : Bool) (transitionSince : Option ℤ) (now cooldown : ℤ) : Prop where
  noLiveMaster : liveMasterIP = ""
  settled : unsettled = false
  cooled : ∀ since, transitionSince = some since → cooldown ≤ now - since
  noneRefused : NoneRefused state
  lossless : LosslessChoice state bootstrapMasterIP

/-- What `planLeaderlessRecovery` asks for before it elects. -/
structure LeaderlessGate (state : ReplicationState) (quorum : ℤ) (bootstrapMasterIP : String)
    (leaderlessSince : Option ℤ) (now cooldown : ℤ) : Prop where
  bare : state.allSentinelsBare.1 = true
  quorate : quorum ≤ state.allSentinelsBare.2
  cooled : ∃ since, leaderlessSince = some since ∧ cooldown ≤ now - since
  noneRefused : NoneRefused state
  lossless : (state.dataHolders = [] ∧ bootstrapMasterIP ≠ "") ∨ state.dataHolders.length = 1

/-- What `planGhostMasterRecovery` asks for before it elects. -/
structure GhostMasterGate (state : ReplicationState) (quorum : ℤ) (bootstrapMasterIP : String)
    (stuckSince : Option ℤ) (now cooldown : ℤ) : Prop where
  ghost : state.sentinelsMonitorGhostMaster = true
  stuck : state.hasHealthyKnownReplica = false
  quorate : quorum ≤ state.reachableSentinels
  cooled : ∃ since, stuckSince = some since ∧ cooldown ≤ now - since
  noneRefused : NoneRefused state
  lossless : LosslessChoice state bootstrapMasterIP

variable (state : ReplicationState) (quorum : ℤ) (allowUnsafe : Bool) (bootstrapMasterIP : String)

/-- No refusing pod is listed when none refused. -/
theorem authFailedRedisNodes_length_eq_zero :
    state.authFailedRedisNodes.length = 0 ↔ NoneRefused state := by
  rw [ReplicationState.authFailedRedisNodes, length_insertionSort, length_eq_zero_iff,
    filter_eq_nil_iff]
  simp only [NoneRefused, Bool.not_eq_true]

/-- With holders there is a best one. -/
theorem bestDataHolder_of_holders (hholders : state.dataHolders ≠ []) :
    ∃ best, state.bestDataHolder =
      (some best, holdersDiverged state.dataHolders, holdersForked state.dataHolders) := by
  rw [ReplicationState.bestDataHolder]
  cases hlist : state.dataHolders with
  | nil => exact absurd hlist hholders
  | cons first rest => exact ⟨_, rfl⟩

/-- The election is safe exactly when it is lossless. -/
theorem electByHolders_elects_iff {Action : Type} (elects : Action → Bool)
    (wait seed promote refuse unsafeElect : Action) (hwait : elects wait = false)
    (hseed : elects seed = true) (hpromote : elects promote = true)
    (hrefuse : elects refuse = false) (hforced : elects unsafeElect = false)
    (state : ReplicationState) (allowUnsafe : Bool) (bootstrapMasterIP : String) :
    elects (electByHolders wait seed promote refuse unsafeElect state allowUnsafe
        bootstrapMasterIP).action = true ↔ LosslessChoice state bootstrapMasterIP := by
  rw [electByHolders, LosslessChoice]
  by_cases hholders : state.dataHolders = []
  · by_cases hboot : bootstrapMasterIP = ""
    · simp [hholders, hboot, hwait]
    · simp [hholders, hboot, hseed]
  · obtain ⟨best, hbest⟩ := bestDataHolder_of_holders state hholders
    have hlength : state.dataHolders.length ≠ 0 := by
      rwa [Ne, length_eq_zero_iff]
    rw [if_neg hlength, hbest]
    cases hdiverged : holdersDiverged state.dataHolders <;>
      cases hforked : holdersForked state.dataHolders <;>
      cases allowUnsafe <;> simp [hholders, hpromote, hrefuse, hforced]

/-- A rule acts after the cooldown and without a refusal. -/
theorem recoverAfterCooldown_iff (acts : RecoveryAction → Bool)
    (hstart : acts .startCooldown = false) (hwait : acts .wait = false)
    (hveto : acts .refuseUnverified = false) (state : ReplicationState) (since : Option ℤ)
    (now cooldown : ℤ) (act : LeaderlessPlan) :
    acts (recoverAfterCooldown state since now cooldown act).action = true ↔
      (∃ t, since = some t ∧ cooldown ≤ now - t) ∧ NoneRefused state ∧ acts act.action = true := by
  cases since with
  | none => simp [recoverAfterCooldown, hstart]
  | some t =>
    rw [recoverAfterCooldown, unprovablyEmptyVeto]
    by_cases hcooled : now - t < cooldown
    · have hnot : ¬cooldown ≤ now - t := Int.not_le.mpr hcooled
      simp [hcooled, hnot, hwait]
    · have hle : cooldown ≤ now - t := Int.not_lt.mp hcooled
      by_cases hrefused : NoneRefused state
      · simp [hcooled, hle, hrefused, (authFailedRedisNodes_length_eq_zero state).mpr hrefused]
      · have hlength : state.authFailedRedisNodes.length ≠ 0 := fun hzero =>
          hrefused ((authFailedRedisNodes_length_eq_zero state).mp hzero)
        simp [hcooled, hrefused, hlength, hveto]

/-- The cooldown after the last transition is over. -/
theorem transition_cooled_iff (transitionSince : Option ℤ) (now cooldown : ℤ) :
    (transitionSince.any fun since => decide (now - since < cooldown)) = false ↔
      ∀ since, transitionSince = some since → cooldown ≤ now - since := by
  cases transitionSince with
  | none | some => simp

/-- Failover mode elects when its gate is open. -/
theorem planFailover_elects_iff (liveMasterIP : String) (allowUnsafe : Bool)
    (bootstrapMasterIP : String) (unsettled : Bool) (transitionSince : Option ℤ) (now cooldown : ℤ) :
    (planFailover state liveMasterIP allowUnsafe bootstrapMasterIP unsettled transitionSince now
        cooldown).action.elects = true ↔
      FailoverGate state liveMasterIP bootstrapMasterIP unsettled transitionSince now cooldown := by
  have hgate : FailoverGate state liveMasterIP bootstrapMasterIP unsettled transitionSince now
      cooldown ↔ liveMasterIP = "" ∧ unsettled = false ∧
        (transitionSince.any fun since => decide (now - since < cooldown)) = false ∧
        state.authFailedRedisNodes.length = 0 ∧ LosslessChoice state bootstrapMasterIP := by
    rw [transition_cooled_iff, authFailedRedisNodes_length_eq_zero]
    exact ⟨fun gate => ⟨gate.1, gate.2, gate.3, gate.4, gate.5⟩,
      fun ⟨hlive, hsettled, hcooled, hrefused, hchoice⟩ =>
        ⟨hlive, hsettled, hcooled, hrefused, hchoice⟩⟩
  have hchoice := electByHolders_elects_iff FailoverAction.elects .wait .seed .promote .refuse
    .unsafeElect rfl rfl rfl rfl rfl state allowUnsafe bootstrapMasterIP
  rw [hgate, ← hchoice, planFailover]
  by_cases hlive : liveMasterIP = ""
  · cases unsettled with
    | true => simp [hlive, FailoverAction.elects]
    | false =>
      cases hcooled : transitionSince.any fun since => decide (now - since < cooldown) with
      | true => simp [hlive, FailoverAction.elects]
      | false =>
        by_cases hrefused : state.authFailedRedisNodes.length = 0
        · simp [hlive, hrefused]
        · simp [hlive, hrefused, Nat.pos_of_ne_zero hrefused, FailoverAction.elects]
  · simp [hlive, FailoverAction.elects]

theorem planLeaderlessRecovery_elects_iff (leaderlessSince : Option ℤ) (now cooldown : ℤ) :
    (planLeaderlessRecovery state quorum allowUnsafe bootstrapMasterIP leaderlessSince now
        cooldown).action.elects = true ↔
      LeaderlessGate state quorum bootstrapMasterIP leaderlessSince now cooldown := by
  rw [planLeaderlessRecovery]
  cases hdetect : !state.allSentinelsBare.1 ||
      decide ((state.allSentinelsBare.2 : ℤ) < quorum) with
  | true =>
    simp only [hdetect, if_true]
    refine ⟨nofun, fun gate => ?_⟩
    have hquorate := Int.not_lt.mpr gate.quorate
    simp [gate.bare, hquorate] at hdetect
  | false =>
    simp only [hdetect, Bool.false_eq_true, if_false]
    rw [recoverAfterCooldown_iff RecoveryAction.elects rfl rfl rfl]
    rw [Bool.or_eq_false_iff, Bool.not_eq_false', decide_eq_false_iff_not, Int.not_lt] at hdetect
    obtain ⟨hbare, hquorate⟩ := hdetect
    have hact : LeaderlessGate state quorum bootstrapMasterIP leaderlessSince now cooldown ↔
        (∃ t, leaderlessSince = some t ∧ cooldown ≤ now - t) ∧ NoneRefused state ∧
          ((state.dataHolders = [] ∧ bootstrapMasterIP ≠ "") ∨ state.dataHolders.length = 1) :=
      ⟨fun gate => ⟨gate.cooled, gate.noneRefused, gate.lossless⟩,
        fun ⟨hcooled, hrefused, hchoice⟩ => ⟨hbare, hquorate, hcooled, hrefused, hchoice⟩⟩
    rw [hact]
    refine and_congr_right' (and_congr_right' ?_)
    match hholders : state.dataHolders with
    | [] => by_cases hboot : bootstrapMasterIP = "" <;> simp [hboot, RecoveryAction.elects]
    | [holder] => simp [RecoveryAction.elects]
    | first :: second :: rest =>
      cases allowUnsafe with
      | false => simp [RecoveryAction.elects]
      | true =>
        obtain ⟨best, hbest⟩ := bestDataHolder_of_holders state (by simp [hholders])
        simp [hbest, RecoveryAction.elects]

theorem planGhostMasterRecovery_elects_iff (stuckSince : Option ℤ) (now cooldown : ℤ) :
    (planGhostMasterRecovery state quorum allowUnsafe bootstrapMasterIP stuckSince now
        cooldown).action.elects = true ↔
      GhostMasterGate state quorum bootstrapMasterIP stuckSince now cooldown := by
  have hchoice := electByHolders_elects_iff RecoveryAction.elects .wait .seedNoData
    .promoteSurvivor .refuse .unsafeElect rfl rfl rfl rfl rfl state allowUnsafe bootstrapMasterIP
  have hgate : GhostMasterGate state quorum bootstrapMasterIP stuckSince now cooldown ↔
      state.sentinelsMonitorGhostMaster = true ∧ state.hasHealthyKnownReplica = false ∧
        ¬(state.reachableSentinels : ℤ) < quorum ∧
        (∃ t, stuckSince = some t ∧ cooldown ≤ now - t) ∧ NoneRefused state ∧
        LosslessChoice state bootstrapMasterIP := by
    rw [Int.not_lt]
    exact ⟨fun gate => ⟨gate.1, gate.2, gate.3, gate.4, gate.5, gate.6⟩,
      fun ⟨hghost, hstuck, hquorate, hcooled, hrefused, hlossless⟩ =>
        ⟨hghost, hstuck, hquorate, hcooled, hrefused, hlossless⟩⟩
  rw [hgate, ← hchoice, ← recoverAfterCooldown_iff RecoveryAction.elects rfl rfl rfl,
    planGhostMasterRecovery]
  cases hghost : state.sentinelsMonitorGhostMaster with
  | false => simp [RecoveryAction.elects]
  | true =>
    cases hhealthy : state.hasHealthyKnownReplica with
    | true => simp [RecoveryAction.elects]
    | false =>
      by_cases hquorate : (state.reachableSentinels : ℤ) < quorum
      · simp [hquorate, RecoveryAction.elects]
      · simp [hquorate]

/-- No planner passes over a pod that the kubelet holds for Ready exactly when silent pods are down
or the gate is closed. -/
theorem elections_heed_kubelet_iff (state : ReplicationState) (redisReady : GoMap String Bool)
    (liveMasterIP bootstrapMasterIP : String) (allowUnsafe unsettled : Bool) (quorum : ℤ)
    (since : Option ℤ) (now cooldown : ℤ) :
    (((planFailover state liveMasterIP allowUnsafe bootstrapMasterIP unsettled since now
          cooldown).action.elects = true → SilentPodsDown state redisReady) ↔
        SilentPodsDown state redisReady ∨
          ¬FailoverGate state liveMasterIP bootstrapMasterIP unsettled since now cooldown) ∧
      (((planLeaderlessRecovery state quorum allowUnsafe bootstrapMasterIP since now
          cooldown).action.elects = true → SilentPodsDown state redisReady) ↔
        SilentPodsDown state redisReady ∨ ¬LeaderlessGate state quorum bootstrapMasterIP since now cooldown) ∧
      (((planGhostMasterRecovery state quorum allowUnsafe bootstrapMasterIP since now
          cooldown).action.elects = true → SilentPodsDown state redisReady) ↔
        SilentPodsDown state redisReady ∨
          ¬GhostMasterGate state quorum bootstrapMasterIP since now cooldown) := by
  rw [planFailover_elects_iff, planLeaderlessRecovery_elects_iff, planGhostMasterRecovery_elects_iff]
  exact ⟨imp_iff_or_not, imp_iff_or_not, imp_iff_or_not⟩

/-- The first pod is empty, the second one does not answer. -/
def hiddenSurvivor (sentinels : List SentinelNodeState) : ReplicationState where
  redisNodes := GoMap.ofPairs
    [("10.0.0.10", ⟨"lr-redis-0", "10.0.0.10", "master", "", "", 0, 0, "", "", true, .ok⟩),
      ("10.0.0.11", silentNode "lr-redis-1" "10.0.0.11" .timedOut)]
  sentinelNodes := GoMap.ofPairs (sentinels.map fun sn => (sn.ip, sn))
  liveTopologyIPs := ["10.0.0.10", "10.0.0.11"] ++ sentinels.map (·.ip)

/-- A Sentinel that monitors an address or is bare. -/
def sentinelAt (ip : String) (masterIP : Option String) : SentinelNodeState where
  podName := "lr-sentinel-" ++ ip
  ip := ip
  monitoring := masterIP.isSome
  masterIP := masterIP.getD ""
  reachable := true
  replicas := []

def bothReady : GoMap String Bool := GoMap.ofPairs [("lr-redis-0", true), ("lr-redis-1", true)]

/-- All planners start from the empty pod although the kubelet holds the other for Ready. -/
theorem elected_around_ready_pod :
    let bare := hiddenSurvivor [sentinelAt "10.0.0.20" none, sentinelAt "10.0.0.21" none]
    let ghost := hiddenSurvivor
      [sentinelAt "10.0.0.20" (some "10.0.0.9"), sentinelAt "10.0.0.21" (some "10.0.0.9")]
    (planFailover (hiddenSurvivor []) "" false "10.0.0.10" false none 100 30).action = .seed ∧
      (planLeaderlessRecovery bare 2 false "10.0.0.10" (some 0) 100 30).action = .seedNoData ∧
      (planGhostMasterRecovery ghost 2 false "10.0.0.10" (some 0) 100 30).action = .seedNoData ∧
      ¬SilentPodsDown (hiddenSurvivor []) bothReady ∧ ¬SilentPodsDown bare bothReady ∧
      ¬SilentPodsDown ghost bothReady ∧
      (quarantineDataRisk (hiddenSurvivor []) "" bothReady).2 = true := by
  decide

end LittleRed.Replication
