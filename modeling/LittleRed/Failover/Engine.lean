import LittleRed.Failover.Intent

/-!
# A pass of the operator in failover mode

What one pass decides from what it read: the assignments to write, whether they are recorded as a
transition, and the change of the marker that times the master's outage.
-/

namespace LittleRed.Failover

open Lib Replication

/-- The part of the spec that a pass reads; times are in milliseconds. -/
structure Instance where
  pod0Name : String
  downAfter : ℤ
  allowUnsafe : Bool

/-- The time after a transition in which no other one is made. -/
def failoverTransitionCooldown : ℤ := 10000

/-- The part of the status that a pass reads. -/
structure FailoverStatus where
  bootstrapRequired : Bool
  masterDownSince : Option ℤ
  transitionSince : Option ℤ

/-- A change of the marker for the master's outage. -/
inductive DownMarker where
  | keep
  | clear
  | set
  deriving DecidableEq

/-- What a pass decides. -/
structure EnginePass where
  stamps : List PlannedStamp := []
  transition : Option ℤ := none
  downMarker : DownMarker := .keep
  deriving DecidableEq

/-- The master and its replicas, at one epoch; terminating pods and those without an address are
left out. -/
def assignmentStamps (podList : List PodObject) (masterName masterIP : String) (epoch : ℤ)
    (authorizeMasterStart : Bool) : List PlannedStamp :=
  podList.filterMap fun p =>
    if p.ip = "" ∨ p.terminating then none
    else if p.name = masterName then
      some ⟨⟨p.name, roleMaster, "", epoch, authorizeMasterStart⟩, p.ip⟩
    else some ⟨⟨p.name, roleReplica, masterIP, epoch, false⟩, p.ip⟩

/-- The first assignments of an instance: the first pod is the master. -/
def bootstrapFailover (inst : Instance) (pod0IP : String) (podList : List PodObject) : EnginePass :=
  let epoch := (resolveFailoverIntent (buildFailoverPodViews podList none)).nextEpoch
  { stamps := assignmentStamps podList inst.pod0Name pod0IP epoch true, transition := some epoch }

/-- The assignments that carry out a decision about the master. -/
def executeFailoverPlan (podList : List PodObject) (intent : FailoverIntent) (plan : FailoverPlan) :
    EnginePass :=
  let epoch := intent.nextEpoch
  match plan.action with
  | .seed | .promote | .unsafeElect =>
    { stamps := assignmentStamps podList (podNameForIP podList plan.masterIP) plan.masterIP epoch
        (masterStartAuthorizedFor plan.action),
      transition := some epoch }
  | .none | .wait | .refuse | .refuseUnverified => {}

/-- The addresses of the pods that are not terminating. -/
def redisMap (podList : List PodObject) : GoMap String String :=
  GoMap.ofPairs (podList.filterMap fun p =>
    if p.terminating ∨ p.ip = "" then none else some (p.ip, p.name))

/-- The link states that the reachable replicas of a master report. -/
def replicaLinks (state : ReplicationState) (masterIP : String) : List String :=
  state.redisNodes.entries.filterMap fun entry =>
    if entry.2.reachable ∧ entry.1 ≠ masterIP ∧ entry.2.masterHost = masterIP then
      some entry.2.linkStatus
    else none

/-- What the pass concludes about the intended master, if there is one. -/
def masterDeath (inst : Instance) (status : FailoverStatus) (podList : List PodObject)
    (state : ReplicationState) (now : ℤ) (intent : FailoverIntent) : Option MasterDeathAction :=
  if intent.masterName = "" then none
  else
    some (planMasterDeath (failoverMasterPodView podList intent)
      ((state.redisNodes.lookup intent.masterIP).any (·.reachable))
      (replicaLinks state intent.masterIP) status.masterDownSince now inst.downAfter)

/-- Finish a promotion, else decide about a missing or dead master, else give fresh assignments
under a settled one. -/
def reconcileFailoverAssignments (inst : Instance) (status : FailoverStatus)
    (podList : List PodObject) (state : ReplicationState) (now : ℤ) : EnginePass :=
  let views := buildFailoverPodViews podList (some state)
  let intent := resolveFailoverIntent views
  let liveMasterIP := determineFailoverLiveMaster state intent.masterIP
  let roleLabels := GoMap.ofPairs (podList.map fun p => (p.name, p.roleLabel))
  if status.bootstrapRequired then {}
  else if intent.masterIP ≠ "" ∧ needsPromotion state intent.masterIP then {}
  else
    let death := masterDeath inst status podList state now intent
    let downMarker : DownMarker :=
      match death with
      | some .clearMarker => .clear
      | some .startWindow => .set
      | _ => .keep
    if intent.masterName = "" ∨ death = some .declareK8s ∨ death = some .declareProbe then
      executeFailoverPlan podList intent
        (planFailover state liveMasterIP inst.allowUnsafe
          (pickBootstrapMasterIP inst.pod0Name (redisMap podList))
          (failoverPromotionUnsettled intent state roleLabels) status.transitionSince now
          failoverTransitionCooldown)
    else if liveMasterIP = "" then { downMarker := downMarker }
    else if failoverTransitionSettled intent state roleLabels then
      { stamps := planFailoverReauth views intent liveMasterIP, downMarker := downMarker }
    else { downMarker := downMarker }

end LittleRed.Failover
