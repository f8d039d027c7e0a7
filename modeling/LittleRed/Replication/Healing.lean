import LittleRed.Replication.Gather
import LittleRed.Replication.HealActions
import LittleRed.Replication.StalePrune

/-!
# The healing rules of a pass in sentinel mode

A pass registers bare Sentinels, prunes stale names, corrects Sentinels that monitor another address than
the master's, resets Sentinels that list ghosts, and points stray replicas at the master. When `lrctl`
recommends nothing, none of these rules but the pruning of names finds work.
-/

namespace LittleRed.Replication

open Lib List

/-- The part of the specification that the Sentinels are configured from. -/
structure SentinelSpec where
  quorum : ℤ
  downAfterMilliseconds : ℤ
  failoverTimeout : ℤ
  parallelSyncs : ℤ

structure HealingConfig where
  masterName : String
  sentinel : Option SentinelSpec
  password : String

/-- What a pass sends to the pods. A reset goes to all Sentinels. -/
inductive HealingCommand where
  | heal (command : HealCommand)
  | remove (sentinelIP masterName : String)
  | set (sentinelIP masterName option value : String)
  | reset (masterName : String)
  deriving DecidableEq

namespace HealingConfig

variable (config : HealingConfig)

/-- The configured quorum, or two. -/
def quorum : ℤ :=
  match config.sentinel with
  | some spec => if 0 < spec.quorum then spec.quorum else 2
  | none => 2

/-- Set an option that is configured. -/
def setting (sentinelIP option : String) (value : ℤ) : List HealingCommand :=
  if 0 < value then [.set sentinelIP config.masterName option (toString value)] else []

/-- Set the options of a Sentinel. -/
def applySentinelSettings (sentinelIP : String) : List HealingCommand :=
  match config.sentinel with
  | none => []
  | some spec =>
    config.setting sentinelIP "down-after-milliseconds" spec.downAfterMilliseconds ++
      config.setting sentinelIP "failover-timeout" spec.failoverTimeout ++
      config.setting sentinelIP "parallel-syncs" spec.parallelSyncs

/-- What follows a `MONITOR` that succeeded. -/
def afterMonitor (sentinelIP : String) : List HealingCommand :=
  (if config.password ≠ "" then [.set sentinelIP config.masterName "auth-pass" config.password] else []) ++
    config.applySentinelSettings sentinelIP

/-- Have a Sentinel monitor the master, and configure it if that succeeds. -/
def monitor (monitorOk : String → Bool) (masterIP sentinelIP : String) : List HealingCommand :=
  .heal (.monitor sentinelIP config.masterName masterIP config.quorum) ::
    if monitorOk sentinelIP then config.afterMonitor sentinelIP else []

/-- Have a Sentinel monitor the master in place of what it monitors. -/
def remonitor (monitorOk : String → Bool) (masterIP sentinelIP : String) : List HealingCommand :=
  .remove sentinelIP config.masterName :: config.monitor monitorOk masterIP sentinelIP

end HealingConfig

structure HealingCalls where
  monitorOk : String → Bool
  prune : SentinelCalls

section Rules

variable (config : HealingConfig) (calls : HealingCalls) (s : ReplicationState)

/-- Rule 0: register every bare Sentinel. -/
def registerBareSentinels : List HealingCommand :=
  if s.realMasterIP = "" then []
  else
    (s.sentinelNodes.entries.filter fun entry => entry.2.reachable && !entry.2.monitoring).flatMap
      fun entry => config.monitor calls.monitorOk s.realMasterIP entry.1

/-- Rule N: remove stale names. -/
def pruneStaleNames (captured rolling : Bool) : List HealingCommand :=
  let plan := planStaleMasterNames (some s) config.masterName config.quorum captured rolling
  (executeStaleMasterNamePrune calls.prune config.masterName plan).2.map fun removal =>
    .remove removal.sentinelIP removal.name

/-- What the loop over the Sentinels did and found. -/
structure SentinelScan where
  commands : List HealingCommand := []
  ghostMasterFound : Bool := false
  ghostFound : Bool := false

/-- Correct the Sentinels that monitor a ghost or another wrong address, until one lists a ghost. -/
def correctSentinels : SentinelScan → List (Σ _ : String, SentinelNodeState) → SentinelScan
  | scan, [] => scan
  | scan, ⟨ip, sn⟩ :: rest =>
    if !sn.reachable || !sn.monitoring then correctSentinels scan rest
    else if s.isGhost sn.masterIP && s.masterLiving then
      correctSentinels
        ⟨scan.commands ++ config.remonitor calls.monitorOk s.realMasterIP ip, true, scan.ghostFound⟩ rest
    else if sn.masterIP != s.realMasterIP && s.masterLiving then
      correctSentinels
        ⟨scan.commands ++ config.remonitor calls.monitorOk s.realMasterIP ip, true, scan.ghostFound⟩ rest
    else if sn.listsGhost s then { scan with ghostFound := true }
    else correctSentinels scan rest

/-- Rule D: reset the Sentinels to clear ghosts from their lists. -/
def resetGhosts (ghostFound : Bool) : List HealingCommand :=
  if s.ghostReplicaResetSafe ghostFound s.clusterWhole then [.reset config.masterName] else []

/-- Rule R: point stray replicas at the master. -/
def applyReplicaRescue (order : RangeOrder (Σ _ : String, RedisNodeState)) : List HealingCommand :=
  (planReplicaRescue order s).map fun rn => .heal (.replicaOf rn.ip s.realMasterIP)

end Rules

/-- The orders of the loops of a pass over the Sentinels and the data pods. -/
structure HealingOrders where
  sentinels : RangeOrder (Σ _ : String, SentinelNodeState)
  redis : RangeOrder (Σ _ : String, RedisNodeState)

/-- The healing part of a pass, given the verdict about a capture and what a recovery sends. -/
def healSentinelCluster (config : HealingConfig) (calls : HealingCalls) (orders : HealingOrders)
    (leaderless : ReplicationState → List HealingCommand) (anyTerminating captured rolling : Bool)
    (s : ReplicationState) : List HealingCommand :=
  registerBareSentinels config calls s ++ pruneStaleNames config calls s captured rolling ++
    if anyTerminating || s.failoverProgressing then
      if !anyTerminating then applyReplicaRescue s orders.redis else []
    else
      let scan := correctSentinels config calls s {} (orders.sentinels.reorder s.sentinelNodes.entries)
      scan.commands ++
        if scan.ghostMasterFound then []
        else if s.realMasterIP = "" then leaderless s
        else resetGhosts config s scan.ghostFound ++ applyReplicaRescue s orders.redis

section Quiet

variable {config : HealingConfig} {calls : HealingCalls} {s : ReplicationState}

/-- Nothing about the Sentinels and the data pods calls for healing. -/
structure Settled (s : ReplicationState) : Prop where
  monitored : ∀ sn ∈ s.sentinelNodes.values, sn.reachable = true →
    sn.monitoring = true ∧ sn.masterIP = s.realMasterIP
  followed : ∀ rn ∈ s.redisNodes.values, rn.reachable = true → rn.ip ≠ s.realMasterIP →
    rn.follows s.realMasterIP = true
  unhaunted : ∀ sn ∈ s.sentinelNodes.values, sn.reachable = true → sn.monitoring = true →
    sn.listsGhost s = false

/-- Nothing recommended means settled. -/
theorem settled_of_getHealActions {masterName : String} (hmaster : s.realMasterIP ≠ "")
    (h : s.getHealActions masterName = []) : Settled s := by
  obtain ⟨hdiverged, hstray, hghost⟩ := (getHealActions_eq_nil_iff hmaster).mp h
  refine ⟨?_, ?_, ?_⟩
  · intro sn hsn hreach
    have hkept := filter_eq_nil_iff.mp hdiverged sn hsn
    simpa [hreach] using hkept
  · intro rn hrn hreach hother
    by_contra hfollows
    have hmem := mem_strayReplicas_iff.mpr ⟨hrn, hreach, hother, fun htrue => absurd htrue hfollows⟩
    rw [hstray] at hmem
    cases hmem
  · intro sn hsn hreach hmonitoring
    have hnone := any_eq_false.mp hghost sn hsn
    simpa [hreach, hmonitoring] using hnone

theorem mem_values_of_mem_entries {Value : Type*} {m : GoMap String Value} {entry : Σ _ : String, Value}
    (h : entry ∈ m.entries) : entry.2 ∈ m.values :=
  mem_map_of_mem h

/-- No Sentinel is bare. -/
theorem Settled.registerBareSentinels_eq (h : Settled s) : registerBareSentinels config calls s = [] := by
  unfold registerBareSentinels
  split
  · rfl
  have hnone : (s.sentinelNodes.entries.filter fun entry =>
      entry.2.reachable && !entry.2.monitoring) = [] := by
    apply filter_eq_nil_iff.mpr
    intro entry hentry
    cases hreach : entry.2.reachable with
    | false => simp
    | true => simp [(h.monitored entry.2 (mem_values_of_mem_entries hentry) hreach).1]
  rw [hnone, flatMap_nil]

theorem Settled.correctSentinels_eq (h : Settled s) (scan : SentinelScan)
    {entries : List (Σ _ : String, SentinelNodeState)}
    (hentries : ∀ entry ∈ entries, entry.2 ∈ s.sentinelNodes.values) :
    correctSentinels config calls s scan entries = scan := by
  induction entries with
  | nil => rfl
  | cons entry rest ih =>
    rw [forall_mem_cons] at hentries
    have hrest := ih hentries.2
    obtain ⟨ip, sn⟩ := entry
    unfold correctSentinels
    split
    · exact hrest
    rename_i hactive
    rw [Bool.or_eq_true, not_or, Bool.not_eq_true', Bool.not_eq_true', Bool.not_eq_false,
      Bool.not_eq_false] at hactive
    have hmaster := (h.monitored sn hentries.1 hactive.1).2
    -- a Sentinel at the master's address monitors no ghost if the master is living
    have hghost : (s.isGhost sn.masterIP && s.masterLiving) = false := by
      rw [hmaster, ReplicationState.masterLiving]
      cases s.isGhost s.realMasterIP <;> simp
    rwa [hghost, hmaster, bne_self_eq_false, Bool.false_and,
      h.unhaunted sn hentries.1 hactive.1 hactive.2]

theorem resetGhosts_of_none : resetGhosts config s false = [] := rfl

/-- No replica is rescued. -/
theorem Settled.planReplicaRescue_eq (h : Settled s)
    (hkeyed : ∀ entry ∈ s.redisNodes.entries, entry.2.ip = entry.1)
    (order : RangeOrder (Σ _ : String, RedisNodeState)) : planReplicaRescue order s = [] := by
  apply eq_nil_iff_forall_not_mem.mpr
  intro rn hrn
  obtain ⟨-, ip, hentry, hreach, hother, -, hwrong⟩ := (mem_planReplicaRescue_iff order).mp hrn
  have hip : rn.ip = ip := hkeyed ⟨ip, rn⟩ hentry
  have hfollows := h.followed rn (mem_values_of_mem_entries hentry) hreach (hip ▸ hother)
  rw [RedisNodeState.follows_eq_false_iff.mpr hwrong] at hfollows
  cases hfollows

/-- Only the pruning of names is left. -/
theorem Settled.healSentinelCluster_eq (h : Settled s) (hmaster : s.realMasterIP ≠ "")
    (hkeyed : ∀ entry ∈ s.redisNodes.entries, entry.2.ip = entry.1) (orders : HealingOrders)
    (leaderless : ReplicationState → List HealingCommand) (anyTerminating captured rolling : Bool) :
    healSentinelCluster config calls orders leaderless anyTerminating captured rolling s =
      pruneStaleNames config calls s captured rolling := by
  have hrescue : applyReplicaRescue s orders.redis = [] := by
    rw [applyReplicaRescue, h.planReplicaRescue_eq hkeyed, map_nil]
  have hscan : correctSentinels config calls s {} (orders.sentinels.reorder s.sentinelNodes.entries) = {} :=
    h.correctSentinels_eq {} fun entry hentry =>
      mem_values_of_mem_entries (orders.sentinels.mem_reorder.mp hentry)
  unfold healSentinelCluster
  rw [h.registerBareSentinels_eq, hrescue, hscan, nil_append]
  split
  · split <;> exact append_nil _
  · simp only [resetGhosts_of_none, append_nil, Bool.false_eq_true, if_false]

end Quiet

section Gathered

variable (probes : Probes) (redisPods sentinelPods : GoMap String String) (masterName : String)
  (ownedIPs : List String) (orders : ConsensusOrders)

/-- Gathered pods stand under their addresses. -/
theorem gather_redisNodes_keyed {entry : Σ _ : String, RedisNodeState}
    (h : entry ∈ (gatherReplicationState probes redisPods sentinelPods masterName ownedIPs
      orders).redisNodes.entries) : entry.2.ip = entry.1 := by
  have hlookup := AList.mem_lookup_iff.mpr h
  rw [lookup_gatherReplicationState] at hlookup
  obtain ⟨name, -, hrn⟩ := Option.map_eq_some_iff.mp hlookup
  rw [← hrn]
  unfold Probes.getRedisState
  split <;> rfl

/-- When nothing is recommended on a gathered state with a master, healing sends nothing but the removal
of stale names. -/
theorem healing_quiet_of_no_actions (config : HealingConfig) (calls : HealingCalls)
    (healing : HealingOrders) (leaderless : ReplicationState → List HealingCommand)
    (anyTerminating captured rolling : Bool) (advisedName : String) :
    let s := gatherReplicationState probes redisPods sentinelPods masterName ownedIPs orders
    let scan := correctSentinels config calls s {} (healing.sentinels.reorder s.sentinelNodes.entries)
    s.realMasterIP ≠ "" → s.getHealActions advisedName = [] →
      registerBareSentinels config calls s = [] ∧
      (scan.commands = [] ∧ scan.ghostMasterFound = false) ∧
      resetGhosts config s scan.ghostFound = [] ∧
      (∀ order, planReplicaRescue order s = []) ∧
      healSentinelCluster config calls healing leaderless anyTerminating captured rolling s =
        pruneStaleNames config calls s captured rolling := by
  intro s scan hmaster hactions
  have hsettled := settled_of_getHealActions hmaster hactions
  have hkeyed : ∀ entry ∈ s.redisNodes.entries, entry.2.ip = entry.1 := fun entry hentry =>
    gather_redisNodes_keyed probes redisPods sentinelPods masterName ownedIPs orders hentry
  have hscan : scan = {} := hsettled.correctSentinels_eq {} fun entry hentry =>
    mem_values_of_mem_entries (healing.sentinels.mem_reorder.mp hentry)
  rw [hscan]
  exact ⟨hsettled.registerBareSentinels_eq, ⟨rfl, rfl⟩, resetGhosts_of_none,
    hsettled.planReplicaRescue_eq hkeyed,
    hsettled.healSentinelCluster_eq hmaster hkeyed healing leaderless anyTerminating captured rolling⟩

end Gathered

/-- A master, its replicas, and Sentinels that agree. -/
def settledProbes : Probes where
  redis ip :=
    if ip = "10.0.0.10" then .ok ⟨"master", "", "", 80, 2, "7a", ""⟩
    else .ok ⟨"slave", "10.0.0.10", "up", 80, 2, "7a", ""⟩
  sentinel _ := some ⟨some ⟨"10.0.0.10", "master", ""⟩, [⟨"10.0.0.11", "slave"⟩],
    [⟨"prod", "10.0.0.10", "master", ""⟩]⟩

/-- On such an instance a pass sends nothing at all. -/
theorem settledProbes_quiet :
    let redisPods : GoMap String String :=
      GoMap.ofPairs [("10.0.0.10", "lr-redis-0"), ("10.0.0.11", "lr-redis-1")]
    let sentinelPods : GoMap String String :=
      GoMap.ofPairs [("10.0.0.20", "lr-sentinel-0"), ("10.0.0.21", "lr-sentinel-1")]
    let s := gatherReplicationState settledProbes redisPods sentinelPods "prod" [] .asGiven
    let config : HealingConfig := ⟨"prod", some ⟨2, 5000, 60000, 1⟩, "secret"⟩
    let calls : HealingCalls := ⟨fun _ => true, ⟨fun _ _ => some true, fun _ _ => true⟩⟩
    s.realMasterIP = "10.0.0.10" ∧ s.getHealActions "prod" = [] ∧
      healSentinelCluster config calls ⟨.asGiven, .asGiven⟩ (fun _ => []) false false false s = [] := by
  intro redisPods sentinelPods s config calls
  have hmaster : s.realMasterIP = "10.0.0.10" := by decide
  have hactions : s.getHealActions "prod" = [] := by decide
  have hquiet := healing_quiet_of_no_actions settledProbes redisPods sentinelPods "prod" [] .asGiven config
    calls ⟨.asGiven, .asGiven⟩ (fun _ => []) false false false "prod"
    (by rw [hmaster]; decide) hactions
  refine ⟨hmaster, hactions, hquiet.2.2.2.2.trans ?_⟩
  decide

end LittleRed.Replication
