import LittleRed.Cluster.SlotRepair
import LittleRed.Lib.TransitionSystem
import LittleRed.Lib.Timed

/-!
# Recovery from a wiped cluster

Pods that are down and were restarted before may wait for each other forever, so the operator recycles them
after a cooldown. The cooldown is one marker in the status for all pods; only passes that find some pod not
Ready set and clear it, and they read the pods first and delete them by name later. These passes interleave
with others, with pods that come, go and report, and with other writes to the status. Reads come from a
cache and may return any earlier version.
-/

namespace LittleRed.Cluster

open Lib

/-- The status of a container, with the reason of its last termination if it has been terminated. -/
structure ContainerStatus where
  name : String
  ready : Bool
  restartCount : ℕ
  lastTermination : Option String
  deriving DecidableEq

structure ClusterPod where
  uid : ℕ
  containerStatuses : List ContainerStatus
  deriving DecidableEq

structure ClusterPodHealth where
  name : String
  redisReady : Bool
  restarted : Bool
  oomKilled : Bool

/-- The pod is down, was restarted, and was not killed for its memory. -/
def ClusterPodHealth.recyclable (h : ClusterPodHealth) : Bool :=
  !h.redisReady && h.restarted && !h.oomKilled

/-- One container status; only the server's counts. -/
def ClusterPodHealth.report (h : ClusterPodHealth) (cs : ContainerStatus) : ClusterPodHealth :=
  if cs.name = "redis" then
    { h with
      redisReady := cs.ready
      restarted := decide (1 ≤ cs.restartCount)
      oomKilled := h.oomKilled || cs.lastTermination == some "OOMKilled" }
  else h

/-- The health of the pod that was read under a name; a missing pod has nothing to report. -/
def podHealth (name : String) (pod : Option ClusterPod) : ClusterPodHealth :=
  match pod with
  | none => ⟨name, false, false, false⟩
  | some pod => pod.containerStatuses.foldl ClusterPodHealth.report ⟨name, false, false, false⟩

/-- What a pass is to do. -/
inductive ClusterWipePlan where
  | clearMarker
  | startCooldown
  | wait
  | recycle (names : List String)
  deriving DecidableEq

/-- How long the signature has to persist, in nanoseconds. -/
def clusterWipeRecoveryCooldown : ℤ := 120 * 1000000000

/-- The decision of a pass, from the health of the pods and the marker. -/
def planClusterWipeRecovery (pods : List ClusterPodHealth) (since : Option ℤ) (now cooldown : ℤ) :
    ClusterWipePlan :=
  let recycle := (pods.filter ClusterPodHealth.recyclable).map ClusterPodHealth.name
  if recycle.isEmpty then .clearMarker
  else
    match since with
    | none => .startCooldown
    | some since => if now - since < cooldown then .wait else .recycle recycle

/-- The names of the pods. -/
def clusterPodNames (spec : SlotSpec) : List String :=
  (clusterPodRefs spec.name spec.shards (clusterReplicasPerShard spec)).map ClusterPodRef.name

/-- The health of all pods. -/
def gatherClusterPodHealth (spec : SlotSpec) (reads : String → Option ClusterPod) :
    List ClusterPodHealth :=
  (clusterPodNames spec).map fun name => podHealth name (reads name)

namespace Wipe

abbrev Snapshot := String → Option ClusterPod

/-- The pod under the name is the given incarnation and is to be recycled. -/
def matched (name : String) (uid : ℕ) (pods : Snapshot) : Bool :=
  match pods name with
  | none => false
  | some pod => pod.uid == uid && (podHealth name (some pod)).recyclable

/-- A deletion: the pod that it hit, the time of its pass, and the passes up to then. -/
structure Deletion where
  name : String
  pod : ClusterPod
  now : ℤ
  log : List (ℤ × Snapshot)

/-- The pods still to be deleted, the marker to write, the version of the status that was read, and the
time. -/
inductive Phase where
  | idle
  | acting (pending : List String) (marker : Option ℤ) (base : ℕ) (now : ℤ)

def Phase.pending : Phase → List String
  | .idle => []
  | .acting pending _ _ _ => pending

/-- The pods and markers with all their versions, the pass that is going on, and the history. -/
structure State where
  pods : Snapshot
  versions : String → List (Option ClusterPod)
  created : ℕ
  markers : List (Option ℤ)
  phase : Phase
  clock : ℤ
  log : List (ℤ × Snapshot)
  deletions : List Deletion

/-- The steps of the system. -/
inductive Label where
  | create (name : String)
  | remove (name : String)
  | report (name : String) (containerStatuses : List ContainerStatus)
  | writeStatus
  | readyPass (now : ℤ)
  | observe (age : ℕ) (reads : String → Option ClusterPod) (now : ℤ)
  | delete (failed : Bool)
  | update (accepted : Bool)
  | abort

/-- A new version of a pod. -/
def State.setPod (s : State) (name : String) (pod : Option ClusterPod) : State :=
  { s with
    pods := Function.update s.pods name pod
    versions := Function.update s.versions name (pod :: s.versions name) }

def State.marker (s : State) : Option ℤ := s.markers.head?.join

/-- A pass is logged with the pods as they are. -/
def State.logPass (s : State) (now : ℤ) : State :=
  { s with
    clock := now
    log := (now, s.pods) :: s.log }

/-- What a pass goes on to do. -/
def ClusterWipePlan.phase (plan : ClusterWipePlan) (since : Option ℤ) (base : ℕ) (now : ℤ) : Phase :=
  match plan with
  | .clearMarker => .acting [] none base now
  | .startCooldown => .acting [] (some now) base now
  | .wait => .acting [] since base now
  | .recycle names => .acting names none base now

section Run

variable (spec : SlotSpec) (time : StoredTime)

/-- One step; a marker that is left alone was stored before and stays the same. -/
def step (s : State) : Label → Option State
  | .create name =>
    match s.pods name with
    | none => some { s.setPod name (some ⟨s.created, []⟩) with created := s.created + 1 }
    | some _ => none
  | .remove name => do
    let _ ← s.pods name
    some (s.setPod name none)
  | .report name containerStatuses => do
    let pod ← s.pods name
    some (s.setPod name (some { pod with containerStatuses := containerStatuses }))
  | .writeStatus => some { s with markers := s.marker :: s.markers }
  | .readyPass now =>
    match s.phase with
    | .idle => if s.clock < now then some (s.logPass now) else none
    | .acting _ _ _ _ => none
  | .observe age reads now =>
    match s.phase, s.markers[age]? with
    | .idle, some since =>
      if s.clock < now ∧ ∀ name ∈ clusterPodNames spec, reads name ∈ s.versions name then
        let plan := planClusterWipeRecovery (gatherClusterPodHealth spec reads)
          (since.map time.stored) now clusterWipeRecoveryCooldown
        some { s.logPass now with phase := ClusterWipePlan.phase plan since (s.markers.length - age) now }
      else none
    | _, _ => none
  -- A pod is deleted by its name, whichever pod has it now; a missing one is passed over.
  | .delete failed =>
    match s.phase with
    | .acting (name :: rest) marker base now =>
      if failed then some { s with phase := .idle }
      else
        match s.pods name with
        | none => some { s with phase := .acting rest marker base now }
        | some pod => some { s with
            phase := .acting rest marker base now
            deletions := ⟨name, pod, now, s.log⟩ :: s.deletions }
    | _ => none
  | .update accepted =>
    match s.phase with
    | .acting [] marker base _ =>
      some { s with
        phase := .idle
        markers := if accepted ∧ base = s.markers.length then marker :: s.markers else s.markers }
    | _ => none
  | .abort => some { s with phase := .idle }

/-- Runs that start before any pod exists. -/
def wipeSystem : System State Label where
  initial s := ∃ clock, s = ⟨fun _ => none, fun _ => [none], 0, [none], .idle, clock, [], []⟩
  step := step spec time

/-- The deleted pod is not Ready, and it matched the signature at every pass of the cooldown. -/
def Deletion.Justified (d : Deletion) : Prop :=
  (podHealth d.name (some d.pod)).redisReady = false ∧
    ∀ o ∈ d.log, d.now - clusterWipeRecoveryCooldown ≤ o.1 → matched d.name d.pod.uid o.2 = true

def DeletesStuckPods (s : State) : Prop := ∀ d ∈ s.deletions, d.Justified

/-- The given incarnation matched the signature at the last pass. -/
def lastMatched (log : List (ℤ × Snapshot)) (name : String) (uid : ℕ) : Bool :=
  match log with
  | [] => false
  | o :: _ => matched name uid o.2

/-- While the marker is set, a pod that matches the signature did so at the last pass. -/
def NoneNew (s : State) : Prop :=
  s.marker.isSome = true → ∀ name ∈ clusterPodNames spec, ∀ pod ∈ s.pods name,
    (podHealth name (some pod)).recyclable = true → lastMatched s.log name pod.uid = true

/-- Storing the marker does not decide whether the cooldown is over. -/
def roundsSafely (s : State) (now : ℤ) : Bool :=
  match s.marker with
  | none => true
  | some t => decide (now - time.stored t < clusterWipeRecoveryCooldown) ==
      decide (now - t < clusterWipeRecoveryCooldown)

/-- No pod begins to match while the marker is set, a pass reads current pods and marker, and pods about
to be deleted stay. -/
def Undisturbed (s : State) : Label → Prop
  | .create name => name ∉ s.phase.pending
  | .remove name => name ∉ s.phase.pending
  | .report name _ => name ∉ s.phase.pending
  | .readyPass _ => NoneNew spec s
  | .observe age reads now =>
    NoneNew spec s ∧ (∀ name ∈ clusterPodNames spec, reads name = s.pods name) ∧
      s.markers[age]? = s.markers.head? ∧ roundsSafely time s now = true
  | _ => True

instance (s : State) (a : Label) : Decidable (Undisturbed spec time s a) := by
  unfold Undisturbed NoneNew
  cases a <;> infer_instance

end Run

end Wipe

end LittleRed.Cluster
