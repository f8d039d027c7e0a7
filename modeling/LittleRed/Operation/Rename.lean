import LittleRed.Operation.Plan
import LittleRed.Replication.StaleNames

/-!
# The rename of the master

The driver of a rename is the pruning of stale master names, and its verdict decides whether
the rename is done. That verdict calls the names converged when no stale one was seen, which is
also the case when no list of masters was read at all.
-/

namespace LittleRed.Operation

open Lib Replication

/-- What the verdict of the driver means: the operation is done, or it is blocked. -/
def operationDriverReport (plan : StaleMasterNamePlan) : Bool × Bool :=
  match plan.reason with
  | .converged => (true, false)
  | .foreign => (false, true)
  | .deferred => (false, plan.gate != some staleGateRule0Pending)
  | .pruning => (false, false)

/-- Some Sentinel is reachable, and each such one was read and monitors exactly the desired name. -/
structure Renamed (state : ReplicationState) (desired : String) : Prop where
  reachable : ∃ sn ∈ state.sentinelNodes.values, sn.reachable = true
  read : ∀ sn ∈ state.sentinelNodes.values, sn.reachable = true → sn.monitoredMasters ≠ []
  onlyDesired : ∀ sn ∈ state.sentinelNodes.values, sn.reachable = true →
    ∀ m ∈ sn.monitoredMasters, m.name = desired

/-- Some Sentinel is reachable, and every reachable one gave the list of its masters. -/
def ListsRead (state : ReplicationState) : Prop :=
  (∃ sn ∈ state.sentinelNodes.values, sn.reachable = true) ∧
    ∀ sn ∈ state.sentinelNodes.values, sn.reachable = true → sn.monitoredMasters ≠ []

/-- Something other than its driver keeps a single pending operation from being acknowledged. -/
def Held (input : OperationInput) (c : OperationCandidate) : Prop :=
  input.quarantined = true ∨ input.bootstrapping = true ∨ input.unseeded ≠ [] ∨
    c.name ∈ c.requires ∨ input.settled = false

theorem operationDriverReport_done_iff (plan : StaleMasterNamePlan) :
    (operationDriverReport plan).1 = true ↔ plan.reason = .converged := by
  unfold operationDriverReport
  cases plan.reason <;> simp

/-- Without a stale name, renamed means that the lists were read. -/
theorem renamed_iff_listsRead {state : ReplicationState} {desired : String}
    (hstale : ¬StaleNameSeen state desired) : Renamed state desired ↔ ListsRead state := by
  refine ⟨fun h => ⟨h.reachable, h.read⟩, fun h => ⟨h.1, h.2, ?_⟩⟩
  intro sn hsn hreach m hm
  by_contra hname
  exact hstale ⟨sn, hsn, hreach, m, hm, hname⟩

/-- The only pending rename is acknowledged only after it has happened exactly when each reachable
Sentinel gave its list, or a stale name is seen, or something else is in the way. -/
theorem rename_acknowledged_iff (input : OperationInput) (c : OperationCandidate)
    (hpending : input.pending = [c]) (state : ReplicationState) (desired : String) (quorum : ℤ)
    (captured rolling : Bool) (hdriver : input.driverDone =
      (operationDriverReport (planStaleMasterNames (some state) desired quorum captured rolling)).1) :
    (c ∈ (planOperation input).ack → (planOperation input).reason ≠ .seeded → Renamed state desired) ↔
      ListsRead state ∨ StaleNameSeen state desired ∨ captured = true ∨ desired = "" ∨ Held input c := by
  have hdone : input.driverDone = true ↔
      captured = false ∧ desired ≠ "" ∧ ¬StaleNameSeen state desired := by
    rw [hdriver, operationDriverReport_done_iff, planStaleMasterNames_converged_iff]
  rw [← and_imp, mem_ack_iff_of_single hpending, hdone]
  constructor
  · intro h
    by_contra hopen
    simp only [not_or, Held, Bool.not_eq_true, not_not, Bool.not_eq_false] at hopen
    obtain ⟨hread, hstale, hcaptured, hdesired, hquarantined, hboot, hunseeded, hself, hsettled⟩ := hopen
    refine hread ((renamed_iff_listsRead hstale).mp (h ?_))
    exact ⟨hquarantined, hboot, hunseeded, hself, ⟨hcaptured, hdesired, hstale⟩, hsettled⟩
  · rintro hclosed ⟨hquarantined, hboot, hunseeded, hself, ⟨hcaptured, hdesired, hstale⟩, hsettled⟩
    refine (renamed_iff_listsRead hstale).mpr ?_
    simpa [hstale, hcaptured, hdesired, Held, hquarantined, hboot, hunseeded, hself, hsettled]
      using hclosed

/-- A Sentinel that monitors the desired name, next to the list of masters that it gave. -/
def namedSentinel (name ip : String) (masters : List MonitoredMaster) : String × SentinelNodeState :=
  (ip,
    { podName := name
      ip := ip
      monitoring := true
      masterIP := "10.0.0.10"
      reachable := true
      replicas := []
      masterFlags := "master"
      monitoredMasters := masters })

/-- Two Sentinels with the given lists. -/
def sentinelPair (first second : List MonitoredMaster) : ReplicationState where
  redisNodes := GoMap.ofPairs
    [("10.0.0.10", ⟨"lr-redis-0", "10.0.0.10", "master", "", "", 80, 2, "7a", "", true, .ok⟩)]
  sentinelNodes := GoMap.ofPairs
    [namedSentinel "lr-sentinel-0" "10.0.0.20" first, namedSentinel "lr-sentinel-1" "10.0.0.21" second]
  liveTopologyIPs := ["10.0.0.10", "10.0.0.20", "10.0.0.21"]
  realMasterIP := "10.0.0.10"

def renameCandidate : OperationCandidate := ⟨"SentinelMasterNameRename", "new", [], 900000⟩

/-- The rename is the only pending operation. -/
def renamePending (plan : StaleMasterNamePlan) : OperationInput where
  candidates := [renameCandidate]
  acks := GoMap.ofPairs [("SentinelMasterNameRename", "old")]
  quarantined := false
  bootstrapping := false
  settled := true
  driverDone := (operationDriverReport plan).1
  driverBlocked := (operationDriverReport plan).2
  active := some ⟨"SentinelMasterNameRename", some 0, .running, []⟩
  now := 60000

/-- Both Sentinels have the new name only. -/
def readPair : ReplicationState :=
  sentinelPair [⟨"prod", "10.0.0.10", "master", ""⟩] [⟨"prod", "10.0.0.10", "master", ""⟩]

/-- The rename is acknowledged there, and it has happened. -/
theorem rename_acknowledged_when_read :
    let input := renamePending (planStaleMasterNames (some readPair) "prod" 2 false false)
    (planOperation input).ack = [renameCandidate] ∧ Renamed readPair "prod" := by
  have hread : ListsRead readPair := ⟨⟨_, List.mem_cons_self, rfl⟩, by decide⟩
  refine ⟨by decide, ?_⟩
  exact (rename_acknowledged_iff
    (renamePending (planStaleMasterNames (some readPair) "prod" 2 false false)) renameCandidate
    (by decide) readPair "prod" 2 false false rfl).mpr (.inl hread) (by decide) (by decide)

/-- Without any list the names count as converged, and the rename is acknowledged. -/
theorem rename_acknowledged_unread :
    let state := sentinelPair [] []
    let input := renamePending (planStaleMasterNames (some state) "prod" 2 false false)
    input.pending = [renameCandidate] ∧ (planOperation input).ack = [renameCandidate] ∧
      (planOperation input).reason = .converged ∧ ¬Renamed state "prod" := by
  refine ⟨by decide, by decide, by decide, fun h => ?_⟩
  exact h.read _ List.mem_cons_self rfl rfl

end LittleRed.Operation
