import LittleRed.Cluster.Rollout.PacedRun

/-!
# Continuations without edits

In a calm continuation only the user is held back: calls fail, pods go down and the mesh changes at will. In a
healthy one nothing goes wrong either: passes run to their end, the controllers work, pods become ready, and
the mesh stays as it is. What is left to write on a shard never grows along a healthy continuation.
-/

namespace LittleRed.Cluster.Rollout

open Lib

variable {Template : Type*} [DecidableEq Template] {inst : Instance Template}

/-- Steps of everyone but the user, with fresh reads. -/
def calmStep (inst : Instance Template) (s : State Template) : Label Template → Prop
  | .edit _ => False
  | .reconcile _ cached _ => FreshReads inst s cached
  | .gather cached _ => FreshReads inst s cached
  | _ => True

/-- A continuation without edits. -/
abbrev CalmPath (inst : Instance Template) : State Template → State Template → Prop :=
  (rolloutSystem inst).Path (calmStep inst)

/-- Passes are complete, no call fails, all pods answer and become ready, and the mesh stays. -/
def healthyStep (inst : Instance Template) (s : State Template) : Label Template → Prop
  | .edit _ => False
  | .mesh _ => False
  | .controller _ _ => True
  | .kubelet _ _ ready containerReady _ => ready = true ∧ containerReady = true
  | .reconcile _ cached faults => FreshReads inst s cached ∧ faults = .none
  | .gather cached answers => FreshReads inst s cached ∧ ∀ podName, answers podName = true
  | .advance _ faults => faults = .none
  | .abort => False

/-- A continuation of operator passes, controller steps and ready reports on a mesh that stays. -/
abbrev HealthyPath (inst : Instance Template) : State Template → State Template → Prop :=
  (rolloutSystem inst).Path (healthyStep inst)

variable {k : ℕ} {m : ManagedSet Template} {s s' t : State Template} {a : Label Template}

omit [DecidableEq Template] in
theorem calmStep_of_healthy (h : healthyStep inst s a) : calmStep inst s a := by
  cases a with
  | edit | mesh | abort => exact h.elim
  | reconcile | gather => exact h.1
  | controller | kubelet | advance => trivial

omit [DecidableEq Template] in
theorem pacedGuard_of_calm (h : calmStep inst s a) : pacedGuard inst s a := by
  cases a with
  | edit => exact h.elim
  | reconcile | gather => exact h
  | mesh | controller | kubelet | advance | abort => trivial

/-- A healthy continuation of a paced run is paced. -/
theorem reachable_of_healthy (hs : (rolloutSystem inst).Reachable (pacedGuard inst) s)
    (hpath : HealthyPath inst s t) : (rolloutSystem inst).Reachable (pacedGuard inst) t :=
  hpath.reachable (fun _ _ h => pacedGuard_of_calm (calmStep_of_healthy h)) hs

theorem calmPath_of_healthy (hpath : HealthyPath inst s t) : CalmPath inst s t :=
  hpath.invariant (CalmPath inst s) (fun _ _ _ hcalm h hstep => hcalm.tail (calmStep_of_healthy h) hstep) .refl

/-- The StatefulSets as they are. -/
def State.objects (s : State Template) (k : ℕ) : Option (StatefulSet Template) :=
  (s.shards k).set.map ManagedSet.object

omit [DecidableEq Template] in
theorem freshReads_objects (s : State Template) : FreshReads inst s s.objects := fun _ _ => rfl

/-- How many writes of its partition a set is away from being open at a template. -/
def writesLeft (inst : Instance Template) (desired : Template) (m : ManagedSet Template) : ℕ :=
  if m.object.spec.template = desired then m.object.spec.updateFrom else inst.replicasPerShard + 1

/-- The writes that a shard is away from being open at its desired template. -/
def State.left (inst : Instance Template) (s : State Template) (k : ℕ) : ℕ :=
  ((s.shards k).set.map (writesLeft inst (s.desired k))).getD 0

theorem left_of_set (hset : (s.shards k).set = some m) : s.left inst k = writesLeft inst (s.desired k) m := by
  rw [State.left, hset, Option.map_some, Option.getD_some]

/-- After a write at the desired template, as much is left as the partition says. -/
theorem writesLeft_apply (m : ManagedSet Template) (desired : Template) (p : ℕ) :
    writesLeft inst desired
      ⟨m.object.apply (buildClusterShardStatefulSet inst desired (some (p : ℤ))), m.pods⟩ =
      p := by
  rw [writesLeft, StatefulSet.apply_spec, build_updateFrom]
  exact if_pos rfl

/-- The set is still there, and no more is left of its rollout. -/
def NoMoreLeft (inst : Instance Template) (desired : Template) (m : ManagedSet Template)
    (shard : Shard Template) :
    Prop :=
  ∃ m', shard.set = some m' ∧ writesLeft inst desired m' ≤ writesLeft inst desired m

/-- A pre-gather turn with fresh reads leaves no more to write. -/
theorem FreshTurn.noMoreLeft {desired : Template} {shard shard' : Shard Template}
    (hturn : FreshTurn inst desired shard shard') (hset : shard.set = some m) :
    NoMoreLeft inst desired m shard' := by
  cases hturn with
  | keep => exact ⟨m, hset, Nat.le_refl _⟩
  | create hnone => exact absurd (hset.symm.trans hnone) nofun
  | roll hset' htemplate =>
    cases hset.symm.trans hset'
    refine ⟨_, Shard.apply_set_of hset _, ?_⟩
    rw [writesLeft_apply, writesLeft, if_neg htemplate]
    exact Nat.le_succ _
  | rest hset' hrest =>
    refine ⟨_, Shard.apply_set_of hset _, ?_⟩
    rw [writesLeft_apply]
    exact Nat.zero_le _

/-- The set that a lowering of the partition leaves has one write less to go. -/
theorem writesLeft_lower {now : ℤ} {gt : ClusterGroundTruth} {desired : Template} (htidy : Tidy inst m)
    (hready : AdvanceReady (postGatherInput inst now gt desired k m)) :
    writesLeft inst desired ⟨m.object.apply (buildClusterShardStatefulSet inst desired
      (some (((postGatherInput inst now gt desired k m).currentPartition : ℤ) - 1))), m.pods⟩ + 1 =
      writesLeft inst desired m := by
  have htemplate : m.object.spec.template = desired := inst.templates.podSpecHash_injective hready.applied
  have habove := hready.above
  rw [postGather_currentPartition (htidy.shape _)] at habove ⊢
  rw [show ((m.object.spec.updateFrom : ℤ) - 1) = ((m.object.spec.updateFrom - 1 : ℕ) : ℤ) by omega,
    writesLeft_apply, writesLeft, if_pos htemplate]
  omega

/-- Controllers and kubelets write no specs, and a pass only goes on with a rollout. -/
theorem noMoreLeft_step (hreplicas : inst.replicasPerShard ≠ 0) (hs : Paced inst s)
    (hhealthy : healthyStep inst s a) (hstep : step inst s a = some s') (hset : (s.shards k).set = some m) :
    NoMoreLeft inst (s.desired k) m (s'.shards k) := by
  have hcase := step_shard hstep k
  generalize s'.shards k = shard at hcase
  cases hcase with
  | same => exact ⟨m, hset, Nat.le_refl _⟩
  | controller hset' haction =>
    cases hset.symm.trans hset'
    cases controllerStep_effect haction <;> exact ⟨_, rfl, Nat.le_refl _⟩
  | kubelet hset' hreport =>
    cases hset.symm.trans hset'
    obtain ⟨pod, -, rfl⟩ := kubeletReport_cases hreport
    exact ⟨_, rfl, Nat.le_refl _⟩
  | @reconcile now cached faults hphase hk hbefore =>
    exact (reconcileShard_fresh hreplicas now faults s.desired (hhealthy.1 k hk)).noMoreLeft hset
  | @advance now faults desired gt hphase hk =>
    cases hs.pass desired (by rw [hphase]; rfl)
    have hturn := advanceShard_turn inst now faults gt s.desired k (s.shards k)
    generalize advanceShard inst now faults gt s.desired k (s.shards k) = result at hturn
    cases hturn with
    | keep => exact ⟨m, hset, Nat.le_refl _⟩
    | lower hset' hready =>
      cases hset.symm.trans hset'
      refine ⟨_, Shard.apply_set_of hset _, ?_⟩
      have hleft := writesLeft_lower (hs.shards k m hset).1 hready
      omega

/-- Desired templates, mesh and sets stay, with no more left of any rollout. -/
structure Continues (inst : Instance Template) (s t : State Template) : Prop where
  desired : t.desired = s.desired
  mesh : t.mesh = s.mesh
  left : ∀ k m, (s.shards k).set = some m → NoMoreLeft inst (s.desired k) m (t.shards k)

/-- Healthy steps continue a paced run. -/
theorem Continues.step (hreplicas : inst.replicasPerShard ≠ 0) (ht : Paced inst t) (h : Continues inst s t)
    (hhealthy : healthyStep inst t a) (hstep : step inst t a = some s') : Continues inst s s' := by
  rcases step_desired hstep with ⟨desired, rfl, -⟩ | ⟨hdesired, hmesh | ⟨gt, rfl⟩, -⟩
  · exact hhealthy.elim
  · refine ⟨hdesired.trans h.desired, hmesh.trans h.mesh, fun k m hset => ?_⟩
    obtain ⟨m₁, hset₁, hle₁⟩ := h.left k m hset
    obtain ⟨m₂, hset₂, hle₂⟩ := noMoreLeft_step hreplicas ht hhealthy hstep hset₁
    rw [h.desired] at hle₂
    exact ⟨m₂, hset₂, Nat.le_trans hle₂ hle₁⟩
  · exact hhealthy.elim

theorem continues_of_healthy (hreplicas : inst.replicasPerShard ≠ 0)
    (hs : (rolloutSystem inst).Reachable (pacedGuard inst) s) (hpath : HealthyPath inst s t) :
    Continues inst s t := by
  refine (hpath.invariant (fun t => Paced inst t ∧ Continues inst s t) (fun u a v hinv hhealthy hstep => ?_)
    ⟨reachable_paced hreplicas hs, rfl, rfl, fun k m hset => ⟨m, hset, Nat.le_refl _⟩⟩).2
  exact ⟨paced_step hreplicas hinv.1 (pacedGuard_of_calm (calmStep_of_healthy hhealthy)) hstep,
    hinv.2.step hreplicas hinv.1 hhealthy hstep⟩

/-- Along a healthy continuation, less and less is left of a rollout. -/
theorem Continues.left_le (h : Continues inst s t) (hset : (s.shards k).set.isSome) :
    t.left inst k ≤ s.left inst k := by
  obtain ⟨m, hset⟩ := Option.isSome_iff_exists.mp hset
  obtain ⟨m', hset', hle⟩ := h.left k m hset
  rwa [left_of_set hset, left_of_set hset', h.desired]

theorem Continues.isSome (h : Continues inst s t) (hset : (s.shards k).set.isSome) :
    (t.shards k).set.isSome := by
  obtain ⟨m, hset⟩ := Option.isSome_iff_exists.mp hset
  obtain ⟨m', hset', -⟩ := h.left k m hset
  rw [hset']
  rfl

/-- What a set's controller and kubelet can do, a healthy continuation can. -/
theorem healthyPath_of_setPath {m' : ManagedSet Template} (hset : (s.shards k).set = some m)
    (hpath : SetPath m m') :
    ∃ shard, shard.set = some m' ∧ HealthyPath inst s (s.setShard k shard) := by
  induction hpath with
  | refl =>
    refine ⟨s.shards k, hset, ?_⟩
    rw [State.setShard, Function.update_eq_self]
    exact .refl
  | @tail n n' _ hstep ih =>
    obtain ⟨shard, hshard, hreached⟩ := ih
    have hcell : ((s.setShard k shard).shards k).set = some n := by
      rwa [setShard_shards, if_pos rfl]
    have hagain : ∀ stored : Shard Template,
        (s.setShard k shard).setShard k stored = s.setShard k stored := by
      intro stored
      simp [State.setShard]
    refine ⟨((s.setShard k shard).shards k).store inst n' false, rfl, ?_⟩
    rw [← hagain]
    cases hstep with
    | controller action haction =>
      refine .tail hreached (a := .controller k action) trivial ?_
      change ((s.setShard k shard).shards k).set.bind _ = _
      simp [hcell, haction]
    | kubelet ordinal readySince hreport =>
      refine .tail hreached (a := .kubelet k ordinal true true readySince) ⟨rfl, rfl⟩ ?_
      change ((s.setShard k shard).shards k).set.bind _ = _
      simp [hcell, hreport]

end LittleRed.Cluster.Rollout
