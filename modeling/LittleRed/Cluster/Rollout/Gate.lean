import LittleRed.Cluster.Rollout.Steps

/-!
# Safety of the rollout gate

The gate compares each pod with the update revision of the StatefulSet's status, which is that of the
generation that the status has observed. A lowering is therefore safe exactly when the observed generation
carries the current template and the mesh has not moved since the gather.
-/

namespace LittleRed.Cluster.Rollout

open Lib

variable {Template : Type*} [DecidableEq Template] {inst : Instance Template}

/-- The partition of a shard. -/
def State.partition (s : State Template) (k : ℕ) : Option ℤ :=
  (s.shards k).set.bind fun m => m.object.spec.partition

/-- The view that a pass has gathered and not yet used. -/
def Phase.view : Phase Template → Option ClusterGroundTruth
  | .gathered _ gt => some gt
  | _ => none

/-- A step takes a shard's partition from `p` down to `p - 1`. -/
def Lowers (s s' : State Template) (k p : ℕ) : Prop :=
  s.partition k = some (p : ℤ) ∧ s'.partition k = some ((p : ℤ) - 1)

instance (s s' : State Template) (k p : ℕ) : Decidable (Lowers s s' k p) :=
  inferInstanceAs (Decidable (_ ∧ _))

/-- From `p` on every pod is live, current, ready and a link-up replica of the shard's slot owner. -/
def GateSafe (inst : Instance Template) (s : State Template) (k p : ℕ) : Prop :=
  ∀ ordinal, p ≤ ordinal → ordinal ≤ inst.replicasPerShard →
    ∃ m pod, (s.shards k).set = some m ∧ m.pods ordinal = some pod ∧ pod.terminating = false ∧
      pod.template = m.object.spec.template ∧ pod.containerReady = true ∧
      syncedReplica s.mesh inst.name inst.shards inst.replicasPerShard k ordinal = true

/-- The generation that the status has observed carries the current template. -/
def TemplateObserved (s : State Template) (k : ℕ) : Prop :=
  ∀ m, (s.shards k).set = some m → m.object.observedSpec.template = m.object.spec.template

/-- No pod from `p` on has ceased to be a link-up replica of the slot owner since the gather. -/
def SyncKept (inst : Instance Template) (gt mesh : ClusterGroundTruth) (k p : ℕ) : Prop :=
  ∀ ordinal, p ≤ ordinal → ordinal ≤ inst.replicasPerShard →
    syncedReplica gt inst.name inst.shards inst.replicasPerShard k ordinal = true →
    syncedReplica mesh inst.name inst.shards inst.replicasPerShard k ordinal = true

/-- A partition is lowered only when every ordinal from it on is released in the gathered view. -/
theorem released_of_lowers {s s' : State Template} {now : ℤ} {faults : Faults}
    {gt : ClusterGroundTruth} (hview : s.phase.view = some gt)
    (hstep : step inst s (.advance now faults) = some s') {k p : ℕ} (hlowers : Lowers s s' k p) :
    p ≤ inst.replicasPerShard ∧ ∃ m, (s.shards k).set = some m ∧
      ∀ ordinal, p ≤ ordinal → ordinal ≤ inst.replicasPerShard →
        ∃ pod, ReleasedOn m.object m.pods gt inst.name inst.shards inst.replicasPerShard k
          ordinal pod := by
  have hchanged : s'.shards k ≠ s.shards k := by
    intro hsame
    obtain ⟨hbefore, hafter⟩ := hlowers
    rw [State.partition, hsame, ← State.partition, hbefore, Option.some.injEq] at hafter
    omega
  have hcase := step_shard hstep k
  generalize hshard : s'.shards k = shard at hcase
  cases hcase with
  | same => exact absurd hshard hchanged
  | @advance _ _ desired gt' hphase hk =>
    obtain rfl : gt' = gt := by simpa [hphase, Phase.view] using hview
    have hturn := advanceShard_turn inst now faults gt' desired k (s.shards k)
    generalize advanceShard inst now faults gt' desired k (s.shards k) = result at hturn hshard
    cases hturn with
    | keep => exact absurd hshard hchanged
    | @lower m hset hready =>
      have hp : (postGatherInput inst now gt' (desired k) k m).currentPartition = p := by
        have hafter := hlowers.2
        rw [State.partition, hshard, Shard.apply_set, hset] at hafter
        exact Int.ofNat_inj.mp (by
          simpa [buildClusterShardStatefulSet, StsSpec.defaulted] using hafter)
      refine ⟨hp ▸ currentPartition_le _, m, hset, fun ordinal hlow hhigh => ?_⟩
      have hreleased := hready.released ordinal (by rwa [hp]) hhigh
      exact (podReleased_build_iff _ _ _ _ _ _ _ _ _ _ hhigh).mp hreleased

/-- When a pass lowers a partition `p`, the pods from `p` on are current, ready and synced exactly when
the status has observed the template and none lost its link since the gather. -/
theorem lowering_safe_iff {s s' : State Template}
    (hs : (rolloutSystem inst).Reachable System.anyStep s) {now : ℤ} {faults : Faults}
    {gt : ClusterGroundTruth} (hview : s.phase.view = some gt)
    (hstep : step inst s (.advance now faults) = some s') {k p : ℕ} (hlowers : Lowers s s' k p) :
    GateSafe inst s k p ↔ TemplateObserved s k ∧ SyncKept inst gt s.mesh k p := by
  obtain ⟨hle, m, hset, hreleased⟩ := released_of_lowers hview hstep hlowers
  have hcoherent := reachable_coherent hs k m hset
  constructor
  · intro hsafe
    refine ⟨fun m' hset' => ?_, fun ordinal hlow hhigh _ => ?_⟩
    · cases hset'.symm.trans hset
      obtain ⟨m', pod, hset', hpod, -, htemplate, -, -⟩ := hsafe p le_rfl hle
      cases hset'.symm.trans hset
      obtain ⟨pod', hpod'⟩ := hreleased p le_rfl hle
      cases hpod.symm.trans hpod'.present
      rw [← hcoherent.eq_observed hpod'.updated, htemplate]
    · obtain ⟨-, -, -, -, -, -, -, hsynced⟩ := hsafe ordinal hlow hhigh
      exact hsynced
  · rintro ⟨hobserved, hkept⟩ ordinal hlow hhigh
    obtain ⟨pod, hpod⟩ := hreleased ordinal hlow hhigh
    refine ⟨m, pod, hset, hpod.present, hpod.live, ?_, hpod.ready, ?_⟩
    · rw [hcoherent.eq_observed hpod.updated, hobserved m hset]
    · exact hkept ordinal hlow hhigh hpod.synced

def twoTemplates : PodTemplates Bool where
  revision := fun new => if new then "rev-new" else "rev-old"
  injective := fun a b => by revert a b; decide
  nonempty := by decide
  podSpecHash := fun new => if new then "hash-new" else "hash-old"
  podSpecHash_injective := fun a b => by revert a b; decide

def pairInstance : Instance Bool := ⟨"c", 1, 1, twoTemplates⟩

def pairMesh : ClusterGroundTruth :=
  { newClusterGroundTruth with
    nodes := GoMap.ofPairs [
      ("c-shard-0-0", ⟨"c-shard-0-0", "10.0.0.1", "a", ["0-16383"], .master, "-", .unknown, true⟩),
      ("c-shard-0-1", ⟨"c-shard-0-1", "10.0.0.2", "b", [], .replica, "a", .up, true⟩)] }

def pairStart : State Bool := ⟨fun _ => false, fun _ => ⟨none, false⟩, pairMesh, .idle⟩

theorem pairStart_initial : (rolloutSystem pairInstance).initial pairStart := ⟨fun _ => rfl, rfl⟩

def pairSettled : StatefulSet Bool :=
  ⟨1, fun _ => buildClusterShardStatefulSet pairInstance false (some 0),
    ⟨1, some false, some false, 2, 2, 2⟩⟩

def pairSetup : List (Label Bool) :=
  [.reconcile 0 (fun _ => none) .none, .abort,
    .controller 0 (.sync 1), .controller 0 (.fill 0), .controller 0 (.fill 1),
    .kubelet 0 0 true true none, .kubelet 0 1 true true none, .controller 0 (.sync 1)]

/-- An edit, with the status lagging behind. -/
def pairLagging : List (Label Bool) :=
  pairSetup ++ [.edit fun _ => true, .reconcile 0 (fun _ => some pairSettled) .none,
    .gather (fun _ => some pairSettled) fun _ => true]

def pairLagged : State Bool :=
  ((rolloutSystem pairInstance).follow pairStart pairLagging).get (by decide)

/-- A pass before the controller has observed the template takes the pod for a current one. -/
theorem lowering_unsafe_when_status_lags :
    ∃ s s', (rolloutSystem pairInstance).Reachable System.anyStep s ∧
      step pairInstance s (.advance 0 .none) = some s' ∧ Lowers s s' 0 1 ∧ ¬ GateSafe pairInstance s 0 1 := by
  refine ⟨pairLagged, (step pairInstance pairLagged (.advance 0 .none)).get (by decide),
    .of_run pairStart_initial _, (Option.some_get _).symm, by decide, ?_⟩
  intro hsafe
  obtain ⟨m, pod, hset, hpod, -, htemplate, -⟩ := hsafe 1 le_rfl (by decide)
  have hstale : ((pairLagged.shards 0).set.bind fun m => (m.pods 1).map fun pod =>
      decide (pod.template = m.object.spec.template)) = some false := by decide
  simp [hset, hpod, htemplate] at hstale

/-- The same pass with the controller caught up and the replica replaced and synced. -/
def pairCaughtUp : List (Label Bool) :=
  pairSetup ++ [.edit fun _ => true, .reconcile 0 (fun _ => some pairSettled) .none, .abort,
    .controller 0 (.sync 2), .controller 0 (.delete 1), .controller 0 (.remove 1),
    .controller 0 (.fill 1), .kubelet 0 1 true true none, .controller 0 (.sync 2),
    .reconcile 0 (fun _ => some pairSettled) .none,
    .gather (fun _ => some pairSettled) fun _ => true]

def pairUpdated : State Bool :=
  ((rolloutSystem pairInstance).follow pairStart pairCaughtUp).get (by decide)

/-- The caught-up pass lowers the partition safely. -/
theorem lowering_safe_when_caught_up :
    GateSafe pairInstance pairUpdated 0 1 := by
  have hreachable : (rolloutSystem pairInstance).Reachable System.anyStep pairUpdated :=
    .of_run pairStart_initial _
  have hstep : step pairInstance pairUpdated (.advance 0 .none) =
      some ((step pairInstance pairUpdated (.advance 0 .none)).get (by decide)) :=
    (Option.some_get _).symm
  refine (lowering_safe_iff hreachable (Option.some_get (by decide)).symm hstep (by decide)).mpr
    ⟨?_, ?_⟩
  · have hobserved : ((pairUpdated.shards 0).set.map fun m =>
        decide (m.object.observedSpec.template = m.object.spec.template)) = some true := by decide
    intro m hset
    rw [hset] at hobserved
    simpa using hobserved
  · intro ordinal hlow hhigh _
    obtain rfl : ordinal = 1 := by
      change ordinal ≤ 1 at hhigh
      omega
    decide

end LittleRed.Cluster.Rollout
