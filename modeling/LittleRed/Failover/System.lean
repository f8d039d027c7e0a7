import LittleRed.Failover.Engine
import LittleRed.Failover.StartGate
import LittleRed.Lib.TransitionSystem

/-!
# Failover mode as a transition system

The parties are the operator, whose pass writes its assignments one pod at a time, each with a read and a
patch that are separate steps; the StatefulSet controller, which creates and removes pods; and the kubelet
of every pod, which projects its annotations into a file and starts its container. Anything may be killed,
and any call may fail. A label carries whatever a step does not decide itself. The system keeps the times
of permissions and terminations, the starts of servers, and the writes of assignments.
-/

namespace LittleRed.Failover

open Lib Replication

/-- The annotations of a pod at some time, with the time at which the permission in them was
written. -/
structure Version where
  annotations : Annotations
  authorizedAt : ℕ

/-- The state of a container; a script that waits holds the marker that it found. -/
inductive Container where
  | down
  | waiting (startedUnderEpoch : String)
  | running
  deriving DecidableEq

/-- One incarnation of a data pod, with every version of its annotations and the file they are
projected to. -/
structure Pod where
  ip : String
  terminating : Bool
  ready : Bool
  restarted : Bool
  roleLabel : String
  current : Version
  former : List Version
  file : Version
  file_mem : file ∈ current :: former
  marker : Option String
  container : Container
  lastTermination : ℕ

namespace Pod

/-- A pod as it is created: without an address, annotations or a marker. -/
def fresh : Pod where
  ip := ""
  terminating := false
  ready := false
  restarted := false
  roleLabel := ""
  current := ⟨{}, 0⟩
  former := []
  file := ⟨{}, 0⟩
  file_mem := List.mem_singleton_self _
  marker := none
  container := .waiting ""
  lastTermination := 0

/-- All versions of the annotations, the newest first. -/
def versions (pod : Pod) : List Version := pod.current :: pod.former

/-- The pod as a list shows it. -/
def object (pod : Pod) (name : String) : PodObject :=
  ⟨name, pod.ip, pod.terminating, pod.ready, pod.restarted, pod.roleLabel, pod.current.annotations⟩

/-- The pod with a new version of the annotations. -/
def annotate (pod : Pod) (version : Version) : Pod :=
  { pod with
    current := version
    former := pod.versions
    file_mem := List.mem_cons_of_mem _ pod.file_mem }

@[simp]
theorem versions_annotate (pod : Pod) (version : Version) :
    (pod.annotate version).versions = version :: pod.versions := rfl

/-- Project a version of the annotations into the file. -/
def project (pod : Pod) (index : Fin pod.versions.length) : Pod :=
  { pod with
    file := pod.versions.get index
    file_mem := List.get_mem _ _ }

end Pod

/-- The assignments still to be written, what was read of the next pod, and whether anything failed. -/
structure Stamping where
  outstanding : List PlannedStamp
  fetched : Option Annotations
  failed : Bool
  transition : Option ℤ
  bootstrap : Bool

inductive Phase where
  | idle
  | stamping (pass : Stamping)

/-- The start of a server: whether there was a marker, and the times of its permission and of the
last death. -/
structure Start where
  podName : String
  markerFound : Bool
  asMaster : Bool
  authorizedAt : ℕ
  lastTermination : ℕ

/-- The write of an assignment, with the address its pod had in the list and the one it has. -/
structure Write where
  stamp : FailoverStamp
  listedIP : String
  podIP : String

/-- The state of the whole system. -/
structure State where
  pods : String → Option Pod
  status : FailoverStatus
  phase : Phase
  clock : ℕ
  starts : List Start
  writes : List Write

/-- The steps of the system. -/
inductive Label where
  | create (name : String)
  | schedule (name ip : String)
  | terminate (name : String)
  | remove (name : String)
  | report (name : String) (ready restarted : Bool)
  | relabel (name role : String)
  | project (name : String) (index : ℕ)
  | restart (name : String)
  | kill (name : String)
  | gate (name : String) (role masterIP epoch : ℕ)
  | bootstrap (cached : FailoverStatus) (pod0IP : String) (podList : List PodObject)
  | assign (cached : FailoverStatus) (podList : List PodObject) (gathered : ReplicationState)
      (now : ℤ) (marked : Bool)
  | get (read : Option Annotations)
  | patch (accepted : Bool)
  | finish (now : ℤ) (marked cleared : Bool)
  | observeReady
  | abort

/-- Put a pod under a name. -/
def State.setPod (s : State) (name : String) (pod : Option Pod) : State :=
  { s with pods := Function.update s.pods name pod }

/-- A value of a merge patch; a key that is read as desired is not part of the patch. -/
def mergeKey (read desired target : String) : String := if read = desired then target else desired

def FailoverStamp.epochText (stamp : FailoverStamp) : String := toString stamp.epoch

/-- The annotations that were read already carry the assignment. -/
def FailoverStamp.carriedBy (stamp : FailoverStamp) (read : Annotations) : Bool :=
  read.assignedRole == stamp.role && read.assignedMasterIP == stamp.masterIP &&
    read.assignmentEpoch == stamp.epochText &&
    (!stamp.authorizeMasterStart || read.masterStartAuthorizedEpoch == stamp.epochText)

/-- The patch, computed from what was read and applied to the pod that has the name now. -/
def FailoverStamp.patched (stamp : FailoverStamp) (read : Annotations) (target : Version)
    (now : ℕ) : Version :=
  let authorizes := stamp.authorizeMasterStart &&
    read.masterStartAuthorizedEpoch != stamp.epochText
  { annotations :=
      { assignedRole := mergeKey read.assignedRole stamp.role target.annotations.assignedRole
        assignedMasterIP :=
          mergeKey read.assignedMasterIP stamp.masterIP target.annotations.assignedMasterIP
        assignmentEpoch :=
          mergeKey read.assignmentEpoch stamp.epochText target.annotations.assignmentEpoch
        masterStartAuthorizedEpoch :=
          if authorizes then stamp.epochText else target.annotations.masterStartAuthorizedEpoch }
    authorizedAt := if authorizes then now else target.authorizedAt }

/-- Record a completed transition, and then clear the bootstrap flag if the pass was to. -/
def FailoverStatus.recordTransition (status : FailoverStatus) (now : ℤ) (bootstrap cleared : Bool) :
    FailoverStatus where
  bootstrapRequired := status.bootstrapRequired && !(bootstrap && cleared)
  masterDownSince := none
  transitionSince := some now

/-- Apply a change of the marker for the master's outage; a marker that is set stays. -/
def FailoverStatus.mark (status : FailoverStatus) (now : ℤ) : DownMarker → FailoverStatus
  | .keep => status
  | .clear => { status with masterDownSince := none }
  | .set => { status with masterDownSince := some (status.masterDownSince.getD now) }

variable (inst : Instance)

/-- What the controller and the kubelets do. -/
def podStep (s : State) : Label → Option State
  | .create name =>
    match s.pods name with
    | none => some (s.setPod name (some .fresh))
    | some _ => none
  | .schedule name ip => do
    let pod ← s.pods name
    if pod.ip = "" then some (s.setPod name (some { pod with ip := ip })) else none
  | .terminate name => do
    let pod ← s.pods name
    some (s.setPod name (some { pod with terminating := true }))
  | .remove name => do
    let _ ← s.pods name
    some (s.setPod name none)
  | .report name ready restarted => do
    let pod ← s.pods name
    some (s.setPod name (some { pod with ready := ready, restarted := restarted }))
  | .relabel name role => do
    let pod ← s.pods name
    some (s.setPod name (some { pod with roleLabel := role }))
  | .project name index => do
    let pod ← s.pods name
    if h : index < pod.versions.length then some (s.setPod name (some (pod.project ⟨index, h⟩)))
    else none
  | .restart name => do
    let pod ← s.pods name
    if pod.container = .down then
      some (s.setPod name (some { pod with container := .waiting (pod.marker.getD "") }))
    else none
  | .kill name => do
    let pod ← s.pods name
    if pod.container = .down then none
    else
      some { s.setPod name (some { pod with container := .down, lastTermination := s.clock + 1 }) with
        clock := s.clock + 1 }
  -- The script reads one annotation after the other, and the kubelet may replace the file
  -- between two reads; the permission is read last.
  | .gate name role masterIP epoch => do
    let pod ← s.pods name
    let roleRead ← pod.versions[role]?
    let masterIPRead ← pod.versions[masterIP]?
    let epochRead ← pod.versions[epoch]?
    match pod.container with
    | .waiting startedUnderEpoch =>
      let start ← gateTurn startedUnderEpoch
        ⟨roleRead.annotations.assignedRole, masterIPRead.annotations.assignedMasterIP,
          epochRead.annotations.assignmentEpoch, pod.file.annotations.masterStartAuthorizedEpoch⟩
      some { s.setPod name (some { pod with container := .running, marker := some start.epoch }) with
        starts := ⟨name, startedUnderEpoch != "", start.asMaster, pod.file.authorizedAt,
          pod.lastTermination⟩ :: s.starts }
    | _ => none
  | _ => none

/-- A pass decides, writes its assignments one by one, and records the outcome if nothing failed. -/
def operatorStep (s : State) : Label → Option State
  | .bootstrap cached pod0IP podList =>
    match s.phase with
    | .idle =>
      if cached.bootstrapRequired ∧ pod0IP ≠ "" then
        let pass := bootstrapFailover inst pod0IP podList
        some { s with phase := .stamping ⟨pass.stamps, none, false, pass.transition, true⟩ }
      else none
    | _ => none
  | .assign cached podList gathered now marked =>
    match s.phase with
    | .idle =>
      let pass := reconcileFailoverAssignments inst cached podList gathered now
      some { s with
        status := if marked then s.status.mark now pass.downMarker else s.status
        phase := .stamping ⟨pass.stamps, none, false, pass.transition, false⟩ }
    | _ => none
  | .get read =>
    match s.phase with
    | .stamping ⟨planned :: rest, none, failed, transition, bootstrap⟩ =>
      match read with
      | none => some { s with phase := .stamping ⟨rest, none, true, transition, bootstrap⟩ }
      | some annotations =>
        if planned.stamp.carriedBy annotations then
          some { s with phase := .stamping ⟨rest, none, failed, transition, bootstrap⟩ }
        else
          some { s with
            phase := .stamping ⟨planned :: rest, some annotations, failed, transition, bootstrap⟩ }
    | _ => none
  | .patch accepted =>
    match s.phase with
    | .stamping ⟨planned :: rest, some annotations, failed, transition, bootstrap⟩ =>
      match accepted, s.pods planned.stamp.podName with
      | true, some pod =>
        some { s.setPod planned.stamp.podName
            (some (pod.annotate (planned.stamp.patched annotations pod.current (s.clock + 1)))) with
          clock := s.clock + 1
          writes := ⟨planned.stamp, planned.listedIP, pod.ip⟩ :: s.writes
          phase := .stamping ⟨rest, none, failed, transition, bootstrap⟩ }
      | _, _ => some { s with phase := .stamping ⟨rest, none, true, transition, bootstrap⟩ }
    | _ => none
  | .finish now marked cleared =>
    match s.phase with
    | .stamping ⟨[], none, failed, transition, bootstrap⟩ =>
      some { s with
        phase := .idle
        status :=
          if transition.isSome && !failed && marked then
            s.status.recordTransition now bootstrap cleared
          else s.status }
    | _ => none
  | .observeReady => some { s with status := { s.status with bootstrapRequired := false } }
  | .abort => some { s with phase := .idle }
  | _ => none

def step (s : State) (a : Label) : Option State := (podStep s a).or (operatorStep inst s a)

/-- Runs that start with a new instance, before any of its pods exists. -/
def failoverSystem : System State Label where
  initial := fun s => s = ⟨fun _ => none, ⟨true, none, none⟩, .idle, 0, [], []⟩
  step := step inst

end LittleRed.Failover
