import LittleRed.Replication.Elections

/-!
# The signature of a capture

An instance is captured when its Sentinels serve a master of somebody else. The signature is read from every
master that a Sentinel monitors. The planners read only the answers about the desired name, so a capture
does not by itself keep them from electing a master.
-/

namespace LittleRed.Replication

open Lib List

def sentinelProcessReplicas : ℕ := 3

/-- How many Sentinels have to speak before a capture is called one. -/
def forsakenMonitoringFloor : ℕ := sentinelProcessReplicas / 2 + 1

/-- The masters that a Sentinel monitors: its answer about the desired name, and its list. -/
def monitoredAddresses (sn : SentinelNodeState) : List MonitoredMaster :=
  (if sn.monitoring then [⟨"", sn.masterIP, sn.masterFlags, ""⟩] else []) ++ sn.monitoredMasters

/-- Take one monitored master into account: the address that all agree on so far, or no verdict. -/
def observeMaster (state : ReplicationState) (foreign : String) (m : MonitoredMaster) :
    Option String :=
  if m.ip = "" then none
  else
    let agreed := if foreign = "" then m.ip else foreign
    if agreed ≠ m.ip then none
    else if state.isOurs m.ip || flaggedDown m.flags then none
    else some agreed

/-- Take one Sentinel into account, if it speaks at all. -/
def observeSentinel (state : ReplicationState) (seen : String × ℕ) (sn : SentinelNodeState) :
    Option (String × ℕ) :=
  if !sn.reachable then some seen
  else
    let observed := monitoredAddresses sn
    if observed.length = 0 then some seen
    else (observed.foldlM (observeMaster state) seen.1).map (·, seen.2 + 1)

/-- Whether the state bears the signature of a capture, and the address of the captor's master. -/
def forsakenSignature (state : ReplicationState) : Bool × String :=
  match state.sentinelNodes.values.foldlM (observeSentinel state) ("", 0) with
  | none => (false, "")
  | some (foreign, monitoring) =>
    if monitoring < forsakenMonitoringFloor then (false, "")
    else if state.redisNodes.values.any fun rn => rn.reachable && rn.role == roleMaster then (false, "")
    else (true, foreign)

/-- The Sentinel says something about the masters that it monitors. -/
def SentinelNodeState.speaks (sn : SentinelNodeState) : Bool :=
  sn.reachable && !(monitoredAddresses sn).isEmpty

/-- All masters that the reachable Sentinels monitor. -/
def observations (nodes : List SentinelNodeState) : List MonitoredMaster :=
  (nodes.filter (·.reachable)).flatMap monitoredAddresses

/-- A live master that is not one of this instance. -/
structure Alien (state : ReplicationState) (m : MonitoredMaster) : Prop where
  known : m.ip ≠ ""
  notOurs : state.isOurs m.ip = false
  alive : flaggedDown m.flags = false

/-- Enough Sentinels speak, all serve one alien address, and no own pod is a master. -/
structure Captured (state : ReplicationState) (foreign : String) : Prop where
  agreed : ∀ m ∈ observations state.sentinelNodes.values, m.ip = foreign ∧ Alien state m
  spoken : forsakenMonitoringFloor ≤ state.sentinelNodes.values.countP (·.speaks)
  noMaster : ∀ rn ∈ state.redisNodes.values, rn.reachable = true → rn.role ≠ roleMaster

variable {state : ReplicationState}

/-- An observed master is alien and at the agreed address. -/
theorem observeMaster_eq_some {foreign agreed : String} {m : MonitoredMaster} :
    observeMaster state foreign m = some agreed ↔
      Alien state m ∧ m.ip = agreed ∧ (foreign = "" ∨ foreign = m.ip) := by
  unfold observeMaster
  by_cases hknown : m.ip = ""
  · rw [if_pos hknown]
    exact iff_of_false nofun fun h => h.1.known hknown
  · rw [if_neg hknown]
    by_cases hagreed : foreign = "" ∨ foreign = m.ip
    · have hip : (if foreign = "" then m.ip else foreign) = m.ip := by
        rcases hagreed with h | h
        · rw [if_pos h]
        · rw [if_neg (h ▸ hknown), h]
      simp only [hip, ne_eq, not_true_eq_false, if_false]
      cases hours : state.isOurs m.ip with
      | true => simpa using fun h : Alien state m => by simp [h.notOurs] at hours
      | false =>
        cases hdown : flaggedDown m.flags with
        | true => simpa using fun h : Alien state m => by simp [h.alive] at hdown
        | false => simp [hagreed, (⟨hknown, hours, hdown⟩ : Alien state m)]
    · rw [not_or] at hagreed
      rw [if_neg hagreed.1, if_pos hagreed.2]
      exact iff_of_false nofun fun h => h.2.2.elim hagreed.1 hagreed.2

theorem foldlM_observeMaster (masters : List MonitoredMaster) (foreign agreed : String) :
    masters.foldlM (observeMaster state) foreign = some agreed ↔
      (∀ m ∈ masters, m.ip = agreed ∧ Alien state m) ∧ (masters = [] ∨ foreign ≠ "" → foreign = agreed) := by
  induction masters generalizing foreign with
  | nil => simp
  | cons m rest ih =>
    rw [foldlM_cons, Option.bind_eq_bind, Option.bind_eq_some_iff, forall_mem_cons]
    constructor
    · rintro ⟨ip, hm, hrest⟩
      obtain ⟨halien, rfl, hforeign⟩ := observeMaster_eq_some.mp hm
      obtain ⟨hall, hagreed⟩ := (ih m.ip).mp hrest
      have hip : m.ip = agreed := hagreed (.inr halien.known)
      refine ⟨⟨⟨hip, halien⟩, hall⟩, ?_⟩
      rintro (hnil | hne)
      · cases hnil
      · rw [← hip]
        exact hforeign.resolve_left hne
    · rintro ⟨⟨⟨hip, halien⟩, hall⟩, hforeign⟩
      refine ⟨m.ip, observeMaster_eq_some.mpr ⟨halien, rfl, ?_⟩, (ih m.ip).mpr ⟨hall, fun _ => hip⟩⟩
      by_cases hempty : foreign = ""
      · exact .inl hempty
      · exact .inr ((hforeign (.inr hempty)).trans hip.symm)

/-- The Sentinels that speak are counted. -/
theorem foldlM_observeSentinel (state : ReplicationState) (nodes : List SentinelNodeState)
    (foreign : String) (monitoring : ℕ) :
    nodes.foldlM (observeSentinel state) (foreign, monitoring) =
      ((observations nodes).foldlM (observeMaster state) foreign).map
        (·, monitoring + nodes.countP (·.speaks)) := by
  induction nodes generalizing foreign monitoring with
  | nil => rfl
  | cons sn rest ih =>
    rw [foldlM_cons, observeSentinel]
    cases hreach : sn.reachable with
    | false =>
      have hquiet : sn.speaks = false := by simp [SentinelNodeState.speaks, hreach]
      simp [ih, observations, hreach, hquiet]
    | true =>
      cases hobserved : monitoredAddresses sn with
      | nil =>
        have hquiet : sn.speaks = false := by simp [SentinelNodeState.speaks, hobserved]
        simp [ih, observations, hreach, hobserved, hquiet]
      | cons m masters =>
        have hspeaks : sn.speaks = true := by simp [SentinelNodeState.speaks, hreach, hobserved]
        have hobs : observations (sn :: rest) = (m :: masters) ++ observations rest := by
          simp [observations, hreach, hobserved]
        rw [hobs, foldlM_append]
        cases hfold : (m :: masters).foldlM (observeMaster state) foreign with
        | none => simp [hfold]
        | some agreed => simp [hfold, ih, hspeaks, Nat.add_assoc, Nat.add_comm 1]

/-- Who speaks monitors something. -/
theorem exists_mem_observations {nodes : List SentinelNodeState}
    (h : 0 < nodes.countP (·.speaks)) : ∃ m, m ∈ observations nodes := by
  obtain ⟨sn, hsn, hspeaks⟩ := countP_pos_iff.mp h
  rw [SentinelNodeState.speaks, Bool.and_eq_true, Bool.not_eq_true', isEmpty_eq_false_iff] at hspeaks
  obtain ⟨m, hm⟩ := exists_mem_of_ne_nil _ hspeaks.2
  exact ⟨m, mem_flatMap.mpr ⟨sn, mem_filter.mpr ⟨hsn, hspeaks.1⟩, hm⟩⟩

/-- The signature is that of a capture. -/
theorem forsakenSignature_eq_true_iff (state : ReplicationState) (foreign : String) :
    forsakenSignature state = (true, foreign) ↔ Captured state foreign := by
  rw [forsakenSignature, foldlM_observeSentinel, Nat.zero_add]
  constructor
  · intro h
    cases hfold : (observations state.sentinelNodes.values).foldlM (observeMaster state) "" with
    | none => simp [hfold] at h
    | some agreed =>
      simp only [hfold, Option.map_some] at h
      split at h
      · cases h
      rename_i hspoken
      split at h
      · cases h
      rename_i hmaster
      obtain rfl : agreed = foreign := (Prod.mk.inj h).2
      refine ⟨((foldlM_observeMaster _ _ _).mp hfold).1, Nat.le_of_not_lt hspoken, ?_⟩
      intro rn hrn hreach hrole
      exact hmaster (any_eq_true.mpr ⟨rn, hrn, by simp [hreach, hrole]⟩)
  · rintro ⟨hagreed, hspoken, hmaster⟩
    obtain ⟨m, hm⟩ := exists_mem_observations (Nat.lt_of_lt_of_le (by decide) hspoken)
    have hfold : (observations state.sentinelNodes.values).foldlM (observeMaster state) "" =
        some foreign := by
      refine (foldlM_observeMaster _ _ _).mpr ⟨hagreed, ?_⟩
      rintro (hnil | hne)
      · rw [hnil] at hm
        cases hm
      · exact absurd rfl hne
    have hnone : (state.redisNodes.values.any fun rn => rn.reachable && rn.role == roleMaster) =
        false := by
      rw [any_eq_false]
      intro rn hrn hrole
      rw [Bool.and_eq_true, beq_iff_eq] at hrole
      exact hmaster rn hrn hrole.1 hrole.2
    simp only [hfold, Option.map_some, hnone, Bool.false_eq_true, if_false]
    rw [if_neg (Nat.not_lt.mpr hspoken)]

/-- The actions of sentinel mode that make some pod the master, with the opt-in or without. -/
def RecoveryAction.electsMaster : RecoveryAction → Bool
  | .seedNoData | .promoteSurvivor | .unsafeElect => true
  | _ => false

/-- No planner of sentinel mode makes a pod the master, whatever its inputs. -/
def NoElection (state : ReplicationState) (cooldown : ℤ) : Prop :=
  ∀ (quorum : ℤ) (allowUnsafe : Bool) (bootstrapMasterIP : String) (since : Option ℤ) (now : ℤ),
    (planLeaderlessRecovery state quorum allowUnsafe bootstrapMasterIP since now
        cooldown).action.electsMaster = false ∧
      (planGhostMasterRecovery state quorum allowUnsafe bootstrapMasterIP since now
        cooldown).action.electsMaster = false

section Planners

variable {state : ReplicationState} {quorum : ℤ} {allowUnsafe : Bool} {bootstrapMasterIP : String}
  {since : Option ℤ} {now cooldown : ℤ}

/-- An election without a leader needs bare Sentinels and no refusal. -/
theorem planLeaderlessRecovery_electsMaster
    (h : (planLeaderlessRecovery state quorum allowUnsafe bootstrapMasterIP since now
      cooldown).action.electsMaster = true) :
    state.allSentinelsBare.1 = true ∧ NoneRefused state := by
  rw [planLeaderlessRecovery] at h
  dsimp only at h
  split at h
  · cases h
  rename_i hdetect
  rw [recoverAfterCooldown_iff RecoveryAction.electsMaster rfl rfl rfl] at h
  rw [Bool.not_eq_true, Bool.or_eq_false_iff, Bool.not_eq_false'] at hdetect
  exact ⟨hdetect.1, h.2.1⟩

theorem planLeaderlessRecovery_forced (hbare : state.allSentinelsBare.1 = true)
    (hrefused : NoneRefused state) (hboot : bootstrapMasterIP ≠ "") (cooldown : ℤ) :
    (planLeaderlessRecovery state 0 true bootstrapMasterIP (some 0) cooldown
      cooldown).action.electsMaster = true := by
  rw [planLeaderlessRecovery]
  dsimp only
  rw [if_neg (by simp [hbare]), recoverAfterCooldown_iff RecoveryAction.electsMaster rfl rfl rfl]
  refine ⟨⟨0, rfl, by omega⟩, hrefused, ?_⟩
  cases hholders : state.dataHolders with
  | nil => simp [hboot, RecoveryAction.electsMaster]
  | cons first rest =>
    cases rest with
    | nil => rfl
    | cons second rest =>
      obtain ⟨best, hbest⟩ := bestDataHolder_of_holders state (by simp [hholders])
      simp [hbest, RecoveryAction.electsMaster]

/-- An election under a ghost master needs no healthy replica and no refusal. -/
theorem planGhostMasterRecovery_electsMaster
    (h : (planGhostMasterRecovery state quorum allowUnsafe bootstrapMasterIP since now
      cooldown).action.electsMaster = true) :
    state.sentinelsMonitorGhostMaster = true ∧ state.hasHealthyKnownReplica = false ∧
      NoneRefused state := by
  rw [planGhostMasterRecovery] at h
  split at h
  · cases h
  rename_i hdetect
  split at h
  · cases h
  rw [recoverAfterCooldown_iff RecoveryAction.electsMaster rfl rfl rfl] at h
  rw [Bool.not_eq_true, Bool.or_eq_false_iff, Bool.not_eq_false'] at hdetect
  exact ⟨hdetect.1, hdetect.2, h.2.1⟩

theorem planGhostMasterRecovery_forced (hghost : state.sentinelsMonitorGhostMaster = true)
    (hhealthy : state.hasHealthyKnownReplica = false) (hrefused : NoneRefused state)
    (hboot : bootstrapMasterIP ≠ "") (cooldown : ℤ) :
    (planGhostMasterRecovery state 0 true bootstrapMasterIP (some 0) cooldown
      cooldown).action.electsMaster = true := by
  rw [planGhostMasterRecovery, if_neg (by simp [hghost, hhealthy]), if_neg (by omega),
    recoverAfterCooldown_iff RecoveryAction.electsMaster rfl rfl rfl]
  refine ⟨⟨0, rfl, by omega⟩, hrefused, ?_⟩
  rw [electByHolders]
  by_cases hholders : state.dataHolders = []
  · simp [hholders, hboot, RecoveryAction.electsMaster]
  obtain ⟨best, hbest⟩ := bestDataHolder_of_holders state hholders
  have hlength : state.dataHolders.length ≠ 0 := by rwa [Ne, length_eq_zero_iff]
  rw [if_neg hlength, hbest]
  dsimp only
  split <;> rfl

end Planners

/-- Some Sentinel monitors the desired name. -/
def MonitorsDesired (state : ReplicationState) : Prop :=
  ∃ sn ∈ state.sentinelNodes.values, sn.reachable = true ∧ sn.monitoring = true

/-- The Sentinels are bare when none monitors it. -/
theorem allSentinelsBare_iff (hreachable : ∃ sn ∈ state.sentinelNodes.values, sn.reachable = true) :
    state.allSentinelsBare.1 = true ↔ ¬MonitorsDesired state := by
  obtain ⟨sn, hsn, hreach⟩ := hreachable
  have hpos : 0 < (state.sentinelNodes.values.filter (·.reachable)).length :=
    length_pos_of_mem (mem_filter.mpr ⟨hsn, hreach⟩)
  simp [ReplicationState.allSentinelsBare, MonitorsDesired, hpos, countP_eq_zero]

/-- In a captured state no planner elects exactly when some pod refused, or the desired name is
monitored and no majority does so at an address that is gone without a healthy replica. -/
theorem captured_noElection_iff (state : ReplicationState) (foreign : String)
    (hcaptured : forsakenSignature state = (true, foreign)) (cooldown : ℤ) :
    NoElection state cooldown ↔ ¬NoneRefused state ∨ MonitorsDesired state ∧
        (state.sentinelsMonitorGhostMaster = false ∨ state.hasHealthyKnownReplica = true) := by
  have hspoken := ((forsakenSignature_eq_true_iff state foreign).mp hcaptured).spoken
  obtain ⟨sn, hsn, hspeaks⟩ := countP_pos_iff.mp (Nat.lt_of_lt_of_le (by decide) hspoken)
  rw [SentinelNodeState.speaks, Bool.and_eq_true] at hspeaks
  have hbare := allSentinelsBare_iff ⟨sn, hsn, hspeaks.1⟩
  constructor
  · intro hnone
    have hcandidate : "10.0.0.10" ≠ "" := by decide
    by_contra hopen
    rw [not_or, not_not, not_and_or, not_or, Bool.not_eq_false, Bool.not_eq_true] at hopen
    obtain ⟨hrefused, hunmonitored | ⟨hghost, hhealthy⟩⟩ := hopen
    · have helects := planLeaderlessRecovery_forced (hbare.mpr hunmonitored) hrefused hcandidate cooldown
      rw [(hnone _ _ _ _ _).1] at helects
      cases helects
    · have helects := planGhostMasterRecovery_forced hghost hhealthy hrefused hcandidate cooldown
      rw [(hnone _ _ _ _ _).2] at helects
      cases helects
  · intro hclosed quorum allowUnsafe bootstrapMasterIP since now
    constructor
    · rw [← Bool.not_eq_true]
      intro helects
      obtain ⟨hall, hrefused⟩ := planLeaderlessRecovery_electsMaster helects
      rcases hclosed with hveto | ⟨hmonitors, -⟩
      · exact hveto hrefused
      · exact hbare.mp hall hmonitors
    · rw [← Bool.not_eq_true]
      intro helects
      obtain ⟨hghost, hhealthy, hrefused⟩ := planGhostMasterRecovery_electsMaster helects
      rcases hclosed with hveto | ⟨-, hno | hknown⟩
      · exact hveto hrefused
      · rw [hghost] at hno
        cases hno
      · rw [hhealthy] at hknown
        cases hknown

/-- Two pods follow the captor's master; the answers of the two Sentinels are given. -/
def capturedPair (monitoring : Bool) (replicas : List ReplicaInfo) (masters : List MonitoredMaster) :
    ReplicationState :=
  let pod (name ip : String) : String × RedisNodeState :=
    (ip, ⟨name, ip, "slave", "10.9.0.1", "up", 500, 0, "c4", "", true, .ok⟩)
  let sentinel (name ip : String) : String × SentinelNodeState :=
    (ip,
      { podName := name
        ip := ip
        monitoring := monitoring
        masterIP := if monitoring then "10.9.0.1" else ""
        reachable := true
        replicas := replicas
        masterFlags := if monitoring then "master" else ""
        monitoredMasters := masters })
  { redisNodes := GoMap.ofPairs [pod "lr-redis-0" "10.0.0.10", pod "lr-redis-1" "10.0.0.11"]
    sentinelNodes := GoMap.ofPairs
      [sentinel "lr-sentinel-0" "10.0.0.20", sentinel "lr-sentinel-1" "10.0.0.21"]
    liveTopologyIPs := ["10.0.0.10", "10.0.0.11", "10.0.0.20", "10.0.0.21"] }

/-- With healthy replicas under the desired name no planner elects. -/
theorem capturedPair_noElection :
    let state := capturedPair true [⟨"10.0.0.10", "slave"⟩, ⟨"10.0.0.11", "slave"⟩] []
    forsakenSignature state = (true, "10.9.0.1") ∧ NoElection state 30000 := by
  refine ⟨by decide, (captured_noElection_iff _ "10.9.0.1" (by decide) 30000).mpr (.inr ⟨?_, .inr ?_⟩)⟩
  · exact ⟨_, mem_cons_self, rfl, rfl⟩
  · decide

/-- After a rename, or without known replicas, a captured instance is started from its first pod. -/
theorem capturedPair_elects :
    let renamed := capturedPair false [] [⟨"mymaster", "10.9.0.1", "master", ""⟩]
    let unread := capturedPair true [] []
    forsakenSignature renamed = (true, "10.9.0.1") ∧ forsakenSignature unread = (true, "10.9.0.1") ∧
      planLeaderlessRecovery renamed 2 false "10.0.0.10" (some 0) 60000 30000 =
        { action := .seedNoData, masterIP := "10.0.0.10" } ∧
      planGhostMasterRecovery unread 2 false "10.0.0.10" (some 0) 60000 30000 =
        { action := .seedNoData, masterIP := "10.0.0.10" } := by
  decide

end LittleRed.Replication
