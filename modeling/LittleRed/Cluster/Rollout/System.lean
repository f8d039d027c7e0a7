import LittleRed.Cluster.Rollout.PlanSpec
import LittleRed.Lib.CellLoop
import LittleRed.Lib.TransitionSystem
import Mathlib.Algebra.Ring.Nat

/-!
# Rolling updates as a transition system

The parties are the operator, whose pass has a half before the gather and a half after it, the StatefulSet
controller and the kubelet of every shard, the Redis mesh, and the user, who edits the pod templates. They
interleave freely. A label carries whatever a step does not decide itself. The cells of the system carry one
piece of history: whether the shard was given a template that it has not settled on since.
-/

namespace LittleRed.Cluster.Rollout

open Lib

/-- The part of an instance's spec that the rollout reads. -/
structure Instance (Template : Type*) where
  name : String
  shards : ℕ
  replicasPerShard : ℕ
  templates : PodTemplates Template

/-- One shard: its StatefulSet and pods, and whether it owes the operator a rollout. -/
structure Shard (Template : Type*) where
  set : Option (ManagedSet Template)
  rolling : Bool

/-- The API calls of a pass that fail, by shard. -/
structure Faults where
  get : ℕ → Bool
  refresh : ℕ → Bool
  podGet : ℕ → Bool
  apply : ℕ → Bool

def Faults.none : Faults := ⟨fun _ => false, fun _ => false, fun _ => false, fun _ => false⟩

variable {Template : Type*} [DecidableEq Template] (inst : Instance Template)

/-- The StatefulSet of a shard. -/
def buildClusterShardStatefulSet (template : Template) (partition : Option ℤ) :
    StsSpec Template :=
  ⟨some (1 + inst.replicasPerShard), template, partition⟩

/-- Store a shard's new state; a shard that has settled owes nothing any more. -/
def Shard.store (shard : Shard Template) (m : ManagedSet Template) (given : Bool) :
    Shard Template :=
  ⟨some m, !statefulSetRolloutSettled inst.templates.toRevisionNaming m.object &&
    (shard.rolling || given)⟩

/-- Server-side apply of a shard's StatefulSet, which creates it when it is missing. -/
def Shard.apply (shard : Shard Template) (spec : StsSpec Template) : Shard Template :=
  match shard.set with
  | none => shard.store inst ⟨.create spec, fun _ => none⟩ true
  | some m =>
    shard.store inst { m with object := m.object.apply spec }
      (decide (m.object.spec.template ≠ spec.template))

/-- An object that carries the desired template and has settled on it. -/
def atRest (sts : StatefulSet Template) (desired : Template) : Bool :=
  inst.templates.podSpecHash sts.spec.template == inst.templates.podSpecHash desired &&
    statefulSetRolloutSettled inst.templates.toRevisionNaming sts

/-- Read a shard again unless it is at rest; nothing is a failed read, and a missing object leaves the
cached one. -/
def refreshShardSTSForRollout (cached : StatefulSet Template) (fresh : Option (StatefulSet Template))
    (fails : Bool) (desired : Template) : Option (StatefulSet Template) :=
  if atRest inst cached desired then some cached
  else if fails then none
  else some (fresh.getD cached)

/-- The gate's input before the gather, without pods and without a view. -/
def preGatherInput (now : ℤ) (desired : Template) (k : ℕ) (sts : StatefulSet Template) :
    ShardRolloutInput :=
  buildShardRolloutInput inst.templates inst.name inst.shards k inst.replicasPerShard
    (inst.templates.podSpecHash desired) (some sts) ∅ none now

/-- The first half of a pass, for one shard. -/
def reconcileShard (now : ℤ) (faults : Faults) (cached : ℕ → Option (StatefulSet Template))
    (desired : ℕ → Template) (k : ℕ) (shard : Shard Template) : Shard Template × LoopOutcome :=
  if faults.get k then (shard, .fail)
  else
    match cached k with
    | none =>
      if faults.apply k then (shard, .fail)
      else (shard.apply inst (buildClusterShardStatefulSet inst (desired k) none), .proceed)
    | some cached =>
      match refreshShardSTSForRollout inst cached (shard.set.map ManagedSet.object)
          (faults.refresh k) (desired k) with
      | none => (shard, .fail)
      | some existing =>
        let plan := planShardRolloutPartition (preGatherInput inst now (desired k) k existing)
        let applied := shard.apply inst (buildClusterShardStatefulSet inst (desired k) plan.partition)
        if inst.templates.podSpecHash existing.spec.template ≠
            inst.templates.podSpecHash (desired k) then
          if faults.apply k then (shard, .fail) else (applied, .stop)
        else if !statefulSetRolloutSettled inst.templates.toRevisionNaming existing then
          (shard, .stop)
        else if faults.apply k then (shard, .fail)
        else (applied, .proceed)

/-- Create missing shards and roll out template changes one shard at a time. -/
def reconcileClusterStatefulSet (now : ℤ) (faults : Faults)
    (cached : ℕ → Option (StatefulSet Template)) (desired : ℕ → Template)
    (shards : ℕ → Shard Template) : (ℕ → Shard Template) × LoopOutcome :=
  loopCells (reconcileShard inst now faults cached desired) inst.shards shards

/-- All shards exist and report as many ready pods as the instance has. -/
def allPodsReady (cached : ℕ → Option (StatefulSet Template)) : Bool :=
  (List.range inst.shards).all (fun k => (cached k).isSome) &&
    ((List.range inst.shards).map fun k =>
      ((cached k).map fun sts => sts.status.readyReplicas).getD 0).sum ==
      inst.shards * (1 + inst.replicasPerShard)

/-- The gate's input after the gather, from the live objects and the gathered view. -/
def postGatherInput (now : ℤ) (gt : ClusterGroundTruth) (desired : Template) (k : ℕ)
    (m : ManagedSet Template) : ShardRolloutInput :=
  buildShardRolloutInput inst.templates inst.name inst.shards k inst.replicasPerShard
    (inst.templates.podSpecHash desired) (some m.object)
    (shardRolloutPods inst.name k inst.replicasPerShard m.pods) (some gt) now

/-- The second half of a pass, for one shard. -/
def advanceShard (now : ℤ) (faults : Faults) (gt : ClusterGroundTruth) (desired : ℕ → Template)
    (k : ℕ) (shard : Shard Template) : Shard Template × LoopOutcome :=
  if faults.get k then (shard, .fail)
  else
    match shard.set with
    | none => (shard, .proceed)
    | some m =>
      if atRest inst m.object (desired k) then (shard, .proceed)
      else if faults.podGet k then (shard, .fail)
      else
        let plan := planShardRolloutPartition (postGatherInput inst now gt (desired k) k m)
        if plan.verdict = .advance then
          if faults.apply k then (shard, .fail)
          else
            (shard.apply inst (buildClusterShardStatefulSet inst (desired k) plan.partition), .stop)
        else (shard, .stop)

/-- Evaluate the gate for the first shard not at rest, and lower its partition if it is open. -/
def advanceClusterRollout (now : ℤ) (faults : Faults) (gt : ClusterGroundTruth)
    (desired : ℕ → Template) (shards : ℕ → Shard Template) : (ℕ → Shard Template) × LoopOutcome :=
  if inst.replicasPerShard = 0 then (shards, .proceed)
  else loopCells (advanceShard inst now faults gt desired) inst.shards shards

/-- Where the operator's pass stands; it keeps the spec that it read at its start. -/
inductive Phase (Template : Type*) where
  | idle
  | reconciled (desired : ℕ → Template)
  | gathered (desired : ℕ → Template) (gt : ClusterGroundTruth)

/-- The state of the whole system. -/
structure State (Template : Type*) where
  desired : ℕ → Template
  shards : ℕ → Shard Template
  mesh : ClusterGroundTruth
  phase : Phase Template

/-- The steps of the system. -/
inductive Label (Template : Type*) where
  | edit (desired : ℕ → Template)
  | mesh (gt : ClusterGroundTruth)
  | controller (k : ℕ) (action : ControllerAction)
  | kubelet (k ordinal : ℕ) (ready containerReady : Bool) (readySince : Option ℤ)
  | reconcile (now : ℤ) (cached : ℕ → Option (StatefulSet Template)) (faults : Faults)
  | gather (cached : ℕ → Option (StatefulSet Template)) (answers : String → Bool)
  | advance (now : ℤ) (faults : Faults)
  | abort

/-- Replace a shard. -/
def State.setShard (s : State Template) (k : ℕ) (shard : Shard Template) : State Template :=
  { s with shards := Function.update s.shards k shard }

/-- What a gather sees of the mesh: of a pod that does not answer, only that it is there. -/
def gatherMesh (mesh : ClusterGroundTruth) (answers : String → Bool) : ClusterGroundTruth :=
  { mesh with
    nodes := mesh.nodes.mapValues fun podName node =>
      if answers podName then node else unreachableNode podName node.podIP }

/-- One step; a pass goes from idle through the gather back to idle, and may be cut short. -/
def step (s : State Template) : Label Template → Option (State Template)
  | .edit desired => some { s with desired := desired }
  | .mesh gt => some { s with mesh := gt }
  | .controller k action => do
    let m ← (s.shards k).set
    let m' ← controllerStep m action
    some (s.setShard k ((s.shards k).store inst m' false))
  | .kubelet k ordinal ready containerReady readySince => do
    let m ← (s.shards k).set
    let m' ← kubeletReport m ordinal ready containerReady readySince
    some (s.setShard k ((s.shards k).store inst m' false))
  | .reconcile now cached faults =>
    match s.phase with
    | .idle =>
      let pass := reconcileClusterStatefulSet inst now faults cached s.desired s.shards
      some { s with
        shards := pass.1
        phase := if pass.2 = .fail then .idle else .reconciled s.desired }
    | _ => none
  | .gather cached answers =>
    match s.phase with
    | .reconciled desired =>
      if allPodsReady inst cached then
        some { s with phase := .gathered desired (gatherMesh s.mesh answers) }
      else none
    | _ => none
  | .advance now faults =>
    match s.phase with
    | .gathered desired gt =>
      some { s with
        shards := (advanceClusterRollout inst now faults gt desired s.shards).1
        phase := .idle }
    | _ => none
  | .abort => some { s with phase := .idle }

/-- Runs that start before any StatefulSet of the instance exists. -/
def rolloutSystem : System (State Template) (Label Template) where
  initial := fun s => (∀ k, s.shards k = ⟨none, false⟩) ∧ s.phase = .idle
  step := step inst

end LittleRed.Cluster.Rollout
