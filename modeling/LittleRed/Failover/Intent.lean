import LittleRed.Replication.Planners

/-!
# Intent and assignments in failover mode

The operator writes its decisions onto the data pods as annotations: the role, the master to follow, the
epoch of the assignment and that of a permission to start as a master. It reads its intent back from them.
The functions here are the pure decisions over a pod list and a gathered state.
-/

namespace LittleRed.Failover

open Lib Replication

/-- The role of a pod that follows a master, as it is assigned. -/
def roleReplica : String := "replica"

/-- The annotations that the operator writes; one that is missing reads as empty. -/
structure Annotations where
  assignedRole : String := ""
  assignedMasterIP : String := ""
  assignmentEpoch : String := ""
  masterStartAuthorizedEpoch : String := ""
  deriving DecidableEq

/-- A data pod as the API server shows it. -/
structure PodObject where
  name : String
  ip : String
  terminating : Bool
  ready : Bool
  restarted : Bool
  roleLabel : String
  annotations : Annotations
  deriving DecidableEq

/-- A pod as the decisions see it. -/
structure FailoverPodView where
  name : String
  ip : String
  terminating : Bool
  ready : Bool
  restarted : Bool
  reachable : Bool
  hasAssignment : Bool
  assignedRole : String
  assignedMasterIP : String
  epoch : ℤ

/-- The view of one pod; an assignment counts when its role is set and its epoch is a number. -/
def failoverPodView (state : Option ReplicationState) (p : PodObject) : FailoverPodView :=
  let reachable :=
    match state with
    | some state => p.ip != "" && (state.redisNodes.lookup p.ip).any (·.reachable)
    | none => false
  let unassigned : FailoverPodView :=
    ⟨p.name, p.ip, p.terminating, p.ready, p.restarted, reachable, false, "", "", 0⟩
  if p.annotations.assignedRole ≠ "" ∧ p.annotations.assignmentEpoch ≠ "" then
    match atoi p.annotations.assignmentEpoch with
    | some epoch =>
      { unassigned with
        hasAssignment := true
        assignedRole := p.annotations.assignedRole
        assignedMasterIP := p.annotations.assignedMasterIP
        epoch := epoch }
    | none => unassigned
  else unassigned

/-- The views of all pods. -/
def buildFailoverPodViews (podList : List PodObject) (state : Option ReplicationState) :
    List FailoverPodView :=
  podList.map (failoverPodView state)

/-- The operator's intent: the intended master and the highest epoch on any pod. -/
structure FailoverIntent where
  masterName : String
  masterIP : String
  maxEpoch : ℤ
  deriving DecidableEq

/-- The epoch after the highest one, as a 64-bit integer: after the largest one comes the smallest. -/
def FailoverIntent.nextEpoch (intent : FailoverIntent) : ℤ := (intent.maxEpoch + 1).bmod (2 ^ 64)

/-- One step of reading the intent; the second component is the epoch of the master so far. -/
def readIntent (acc : FailoverIntent × ℤ) (p : FailoverPodView) : FailoverIntent × ℤ :=
  if !p.hasAssignment then acc
  else
    let intent := { acc.1 with maxEpoch := max acc.1.maxEpoch p.epoch }
    if p.assignedRole ≠ roleMaster then (intent, acc.2)
    else if intent.masterName = "" ∨ acc.2 < p.epoch ∨
        (p.epoch = acc.2 ∧ p.name < intent.masterName) then
      ({ intent with masterName := p.name, masterIP := p.ip }, p.epoch)
    else (intent, acc.2)

/-- The intent that the annotations carry: the master assigned at the highest epoch. -/
def resolveFailoverIntent (pods : List FailoverPodView) : FailoverIntent :=
  (pods.foldl readIntent (⟨"", "", 0⟩, 0)).1

/-- The intended master, if it answers and says that it is one. -/
def determineFailoverLiveMaster (state : ReplicationState) (intendedMasterIP : String) : String :=
  if intendedMasterIP = "" then ""
  else if (state.redisNodes.lookup intendedMasterIP).any fun rn =>
      rn.reachable && rn.role == roleMaster then intendedMasterIP
  else ""

/-- The intended master has become one and carries the label. -/
def failoverTransitionSettled (intent : FailoverIntent) (state : ReplicationState)
    (roleLabels : GoMap String String) : Bool :=
  if intent.masterName = "" then true
  else if determineFailoverLiveMaster state intent.masterIP = "" then false
  else (roleLabels.lookup intent.masterName).getD "" == roleMaster

/-- The intended master answers but has not settled. -/
def failoverPromotionUnsettled (intent : FailoverIntent) (state : ReplicationState)
    (roleLabels : GoMap String String) : Bool :=
  if intent.masterName = "" then false
  else
    match state.redisNodes.lookup intent.masterIP with
    | none => false
    | some rn => if !rn.reachable then false else !failoverTransitionSettled intent state roleLabels

/-- An assignment to write onto the pod of a name. -/
structure FailoverStamp where
  podName : String
  role : String
  masterIP : String
  epoch : ℤ
  authorizeMasterStart : Bool := false
  deriving DecidableEq

/-- An assignment, with the address of its pod in the list, which the operator does not keep. -/
structure PlannedStamp where
  stamp : FailoverStamp
  listedIP : String
  deriving DecidableEq

/-- A fresh assignment for a pod that has none or is parked on an epoch it has consumed. -/
def reauthStamp (intent : FailoverIntent) (liveMasterIP : String) (p : FailoverPodView) :
    Option PlannedStamp :=
  if p.ip = "" ∨ p.terminating ∨ p.name = intent.masterName ∨ p.ip = liveMasterIP then none
  else if !p.hasAssignment then
    some ⟨⟨p.name, roleReplica, liveMasterIP, max intent.maxEpoch 1, false⟩, p.ip⟩
  else if !p.ready && p.restarted && !p.reachable then
    some ⟨⟨p.name, roleReplica, liveMasterIP, intent.nextEpoch, false⟩, p.ip⟩
  else none

/-- The pods that need a fresh assignment while a live master exists. -/
def planFailoverReauth (pods : List FailoverPodView) (intent : FailoverIntent)
    (liveMasterIP : String) : List PlannedStamp :=
  (pods.filterMap (reauthStamp intent liveMasterIP)).insertionSort (·.stamp.podName ≤ ·.stamp.podName)

/-- What `planMasterDeath` concludes. -/
inductive MasterDeathAction where
  | clearMarker
  | startWindow
  | wait
  | hold
  | declareK8s
  | declareProbe
  deriving DecidableEq

structure MasterPodView where
  present : Bool
  ready : Bool
  terminating : Bool

/-- What to conclude about the intended master. -/
def planMasterDeath (pod : MasterPodView) (masterReachable : Bool) (replicaLinks : List String)
    (downSince : Option ℤ) (now downAfter : ℤ) : MasterDeathAction :=
  if !pod.present || !pod.ready || pod.terminating then .declareK8s
  else if masterReachable then .clearMarker
  else
    match downSince with
    | none => .startWindow
    | some since =>
      if now - since < downAfter then .wait
      else if !replicaLinks.isEmpty && replicaLinks.all (· == "down") then .declareProbe
      else .hold

/-- The intended master as the pod list shows it. -/
def failoverMasterPodView (podList : List PodObject) (intent : FailoverIntent) : MasterPodView :=
  match podList.find? fun p => p.name == intent.masterName && p.ip == intent.masterIP with
  | some p => ⟨true, p.ready, p.terminating⟩
  | none => ⟨false, false, false⟩

/-- The first pod with the address. -/
def podNameForIP (podList : List PodObject) (ip : String) : String :=
  ((podList.find? (·.ip == ip)).map (·.name)).getD ""

/-- A reachable pod that is not a master yet. -/
def needsPromotion (state : ReplicationState) (masterIP : String) : Bool :=
  (state.redisNodes.lookup masterIP).any fun rn => rn.reachable && rn.role != roleMaster

/-- The first pod, or else the one with the smallest name. -/
def pickBootstrapMasterIP (pod0Name : String) (redisMap : GoMap String String) : String :=
  match redisMap.entries.find? (·.2 == pod0Name) with
  | some entry => entry.1
  | none =>
    (redisMap.entries.foldl
      (fun best entry => if best.2 = "" ∨ entry.2 < best.2 then (entry.1, entry.2) else best)
      ("", "")).1

/-- Only an instance without data gives the permission to start a fresh process as master. -/
def masterStartAuthorizedFor (action : FailoverAction) : Bool := action == .seed

end LittleRed.Failover
