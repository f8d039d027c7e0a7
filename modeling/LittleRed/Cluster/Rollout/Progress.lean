import LittleRed.Cluster.Rollout.Calm
import LittleRed.Cluster.Rollout.Gate
import Mathlib.Algebra.BigOperators.Intervals
import Mathlib.Algebra.Order.BigOperators.Group.Finset

/-!
# Rollouts get on

A healthy continuation is driven in rounds. The controllers and kubelets finish, the pass in progress ends,
and the next pass acts on the first shard that has something left to write: it starts the rollout, opens a
settled shard, or finds the gate open, because the slot owner lies below the partition, and lowers it. Each
round leaves less to write in total.
-/

namespace LittleRed.Cluster.Rollout

open Lib List

variable {Template : Type*} [DecidableEq Template] {inst : Instance Template}

/-- The pod of an ordinal owns the shard's first slot, and all others are synced replicas. -/
def FollowsOwner (inst : Instance Template) (gt : ClusterGroundTruth) (k owner : ℕ) : Prop :=
  (gt.nodes.lookup (clusterShardPodName inst.name k owner)).isSome ∧
    shardSlotOwner (some gt) inst.name inst.shards inst.replicasPerShard k =
      gt.nodes.lookup (clusterShardPodName inst.name k owner) ∧
    ∀ ordinal ≤ inst.replicasPerShard, ordinal ≠ owner →
      syncedReplica gt inst.name inst.shards inst.replicasPerShard k ordinal = true

instance (inst : Instance Template) (gt : ClusterGroundTruth) (k owner : ℕ) :
    Decidable (FollowsOwner inst gt k owner) :=
  inferInstanceAs (Decidable (_ ∧ _ ∧ _))

variable {k : ℕ} {shard : Shard Template} {m : ManagedSet Template} {s : State Template} {desired : Template}

/-- The pre-gather turn of an existing shard under fresh reads and without failing calls. -/
theorem reconcileShard_eq (hreplicas : inst.replicasPerShard ≠ 0) (now : ℤ)
    {cached : ℕ → Option (StatefulSet Template)} (desired : ℕ → Template) (hset : shard.set = some m)
    (hcached : cached k = some m.object) :
    reconcileShard inst now .none cached desired k shard = if m.object.spec.template ≠ desired k then
        (shard.apply inst (buildClusterShardStatefulSet inst (desired k)
          (some (inst.replicasPerShard : ℤ))), .stop)
      else if statefulSetRolloutSettled inst.templates.toRevisionNaming m.object = false then
        (shard, .stop) else (shard.apply inst (buildClusterShardStatefulSet inst (desired k)
          (some ((0 : ℕ) : ℤ))), .proceed) := by
  have hread : refreshShardSTSForRollout inst m.object (shard.set.map ManagedSet.object) false (desired k) =
      some m.object := by
    unfold refreshShardSTSForRollout
    rw [hset]
    split <;> simp
  have hhash : inst.templates.podSpecHash m.object.spec.template ≠
      inst.templates.podSpecHash (desired k) ↔ m.object.spec.template ≠ desired k :=
    inst.templates.podSpecHash_injective.ne_iff
  simp only [reconcileShard, Faults.none, hcached, hread, hhash, Bool.false_eq_true, if_false]
  split
  · rename_i htemplate
    rw [planShardRolloutPartition_of_changed hreplicas fun h => hhash.mpr htemplate h]
    rfl
  · rename_i htemplate
    rw [not_not] at htemplate
    cases hsettled : statefulSetRolloutSettled inst.templates.toRevisionNaming m.object with
    | false => simp
    | true =>
      have hrest : atRest inst m.object (desired k) = true := by
        simp [atRest, htemplate, hsettled]
      rw [preGather_rest hreplicas now k hrest]
      simp

omit [DecidableEq Template] in
/-- Of a set at the desired template, the operator looks at whether it has settled. -/
theorem atRest_eq_settled (htemplate : m.object.spec.template = desired) :
    atRest inst m.object desired = statefulSetRolloutSettled inst.templates.toRevisionNaming m.object := by
  simp [atRest, htemplate]

/-- A pass goes past a shard that is open and at rest, and leaves its set alone. -/
theorem reconcileShard_open (hreplicas : inst.replicasPerShard ≠ 0) (hset : (s.shards k).set = some m)
    (hshape : SpecShape inst m.object.spec) (hrest : atRest inst m.object (s.desired k) = true)
    (hopen : m.object.spec.updateFrom = 0) :
    (reconcileShard inst 0 .none s.objects s.desired k (s.shards k)).2 = .proceed ∧
      (reconcileShard inst 0 .none s.objects s.desired k (s.shards k)).1.set = some m := by
  have htemplate := atRest_template hrest
  rw [atRest_eq_settled htemplate] at hrest
  rw [reconcileShard_eq hreplicas 0 s.desired hset (by simp [State.objects, hset]),
    if_neg (not_not.mpr htemplate), if_neg (by simp [hrest])]
  refine ⟨rfl, (Shard.apply_set_of hset _).trans ?_⟩
  have hspec : m.object.spec = (buildClusterShardStatefulSet inst (s.desired k)
      (some ((0 : ℕ) : ℤ))).defaulted := by
    have hreplicasEq := hshape.replicas
    have hpartition := hshape.partition
    rw [hopen] at hpartition
    cases hm : m.object.spec with
    | mk replicas template partition => simp_all [buildClusterShardStatefulSet, StsSpec.defaulted]
  exact congrArg (fun object => some (ManagedSet.mk object m.pods)) (if_pos hspec)

omit [DecidableEq Template] in
/-- After the gather the gate is open for a shard with the desired template that is not complete and has
all ordinals released. -/
theorem advanceReady_post (hreplicas : inst.replicasPerShard ≠ 0) (hshape : SpecShape inst m.object.spec)
    {gt : ClusterGroundTruth} (htemplate : m.object.spec.template = desired)
    (hunsettled : m.object.status.updateTemplate ≠ m.object.status.currentTemplate)
    (hreleased : ∀ ordinal, m.object.spec.updateFrom ≤ ordinal → ordinal ≤ inst.replicasPerShard →
      ∃ pod, ReleasedOn m.object m.pods gt inst.name inst.shards inst.replicasPerShard k ordinal pod)
    (habove : 0 < m.object.spec.updateFrom) :
    AdvanceReady (postGatherInput inst 0 gt desired k m) where
  gated := hreplicas
  applied := congrArg inst.templates.podSpecHash htemplate
  unsettled := fun ⟨_, _, hrevision⟩ => hunsettled (inst.templates.name_inj.mp hrevision)
  released := by
    intro ordinal hlow hhigh
    rw [postGather_currentPartition hshape] at hlow
    exact (podReleased_build_iff _ _ _ _ _ _ _ _ _ _ hhigh).mpr (hreleased ordinal hlow hhigh)
  above := by
    rwa [postGather_currentPartition hshape]

omit [DecidableEq Template] in
/-- Every spec that the operator applies asks for all pods of the shard. -/
theorem SpecShape.size_eq {spec : StsSpec Template} (h : SpecShape inst spec) :
    spec.size = 1 + inst.replicasPerShard := by
  rw [StsSpec.size, h.replicas, Option.getD_some]

/-- A normal set whose pods are all updated is at rest. -/
theorem atRest_of_normal (hnormal : m.Normal) (hshape : SpecShape inst m.object.spec)
    (htemplate : m.object.spec.template = desired) (hupdated : ∀ ordinal < m.object.spec.size,
      podUpdated m.object.spec.template (m.pods ordinal) = true) :
    atRest inst m.object desired = true := by
  obtain ⟨hcount, hcurrent⟩ := hnormal.current hupdated
  rw [atRest_eq_settled htemplate]
  exact (statefulSetRolloutSettled_iff _ hshape.replicas).mpr ⟨hnormal.observed,
    ⟨_, hnormal.update, hcurrent⟩, hcount.trans hshape.size_eq, hnormal.ready.trans hshape.size_eq,
    hnormal.replicas.trans hshape.size_eq⟩

/-- A normal set with nothing left to write is open and at rest. -/
theorem atRest_of_left (hnormal : m.Normal) (hshape : SpecShape inst m.object.spec)
    (hset : (s.shards k).set = some m) (hleft : s.left inst k = 0) :
    m.object.spec.updateFrom = 0 ∧ atRest inst m.object (s.desired k) = true := by
  rw [left_of_set hset, writesLeft] at hleft
  split at hleft
  · rename_i htemplate
    refine ⟨hleft, atRest_of_normal hnormal hshape htemplate fun ordinal hlt => ?_⟩
    obtain ⟨pod, hpod, hserving, hat⟩ := hnormal.pods ordinal hlt
    simp [hpod, podUpdated, hserving.live, hat (hleft ▸ Nat.zero_le _)]
  · omega

/-- In a paced run, a normal set that has not settled has not completed its update revision either. -/
theorem update_ne_current (hnormal : m.Normal) (htidy : Tidy inst m)
    (htemplate : m.object.spec.template = desired) (hrest : atRest inst m.object desired ≠ true) :
    m.object.status.updateTemplate ≠ m.object.status.currentTemplate := by
  intro hcomplete
  refine hrest (atRest_of_normal hnormal (htidy.shape _) htemplate fun ordinal hlt => ?_)
  obtain ⟨pod, hpod, hserving, hat⟩ := hnormal.pods ordinal hlt
  have hupdated : pod.template = m.object.spec.template := by
    by_cases hbelow : ordinal < m.object.spec.updateFrom
    · exact htidy.current m.object.generation _ (hcomplete.symm.trans hnormal.update)
        (Nat.le_of_eq hnormal.observed) (Nat.le_refl _) rfl ordinal hbelow pod hpod hserving.live
    · exact hat (Nat.not_lt.mp hbelow)
  simp [hpod, podUpdated, hserving.live, hupdated]

/-- The gate of a normal set that has not settled is open, if the slot owner is below the partition. -/
theorem advanceReady_of_normal (hreplicas : inst.replicasPerShard ≠ 0) (hnormal : m.Normal)
    (htidy : Tidy inst m) {gt : ClusterGroundTruth} {owner : ℕ} (htemplate : m.object.spec.template = desired)
    (hrest : atRest inst m.object desired ≠ true) (howner : FollowsOwner inst gt k owner)
    (hbelow : owner < m.object.spec.updateFrom) :
    AdvanceReady (postGatherInput inst 0 gt desired k m) := by
  refine advanceReady_post hreplicas (htidy.shape _) htemplate (update_ne_current hnormal htidy htemplate hrest)
    (fun ordinal hlow hhigh => ?_) (by omega)
  have hsize : m.object.spec.size = 1 + inst.replicasPerShard := (htidy.shape m.object.generation).size_eq
  obtain ⟨pod, hpod, hserving, hat⟩ := hnormal.pods ordinal (by omega)
  exact ⟨pod, hpod, hserving.live, by rw [hnormal.update, hat hlow], hserving.containerReady,
    howner.2.2 ordinal hhigh (by omega)⟩

/-- All controllers and kubelets are done. -/
def AllNormal (inst : Instance Template) (s : State Template) : Prop :=
  ∀ i < inst.shards, ∃ m, (s.shards i).set = some m ∧ m.Normal

variable (hreplicas : inst.replicasPerShard ≠ 0) (hs : (rolloutSystem inst).Reachable (pacedGuard inst) s)

include hreplicas hs

/-- The controllers and kubelets of the first shards can finish, one shard after the other. -/
theorem healthyPath_normal (hsets : ∀ i < inst.shards, (s.shards i).set.isSome) (count : ℕ)
    (hcount : count ≤ inst.shards) :
    ∃ t, HealthyPath inst s t ∧ t.phase = s.phase ∧
      ∀ i < count, ∃ m, (t.shards i).set = some m ∧ m.Normal := by
  induction count with
  | zero => exact ⟨s, .refl, rfl, fun i hi => absurd hi (Nat.not_lt_zero i)⟩
  | succ count ih =>
    obtain ⟨t, hpath, hphase, hnormal⟩ := ih (Nat.le_of_succ_le hcount)
    obtain ⟨m, hset⟩ := Option.isSome_iff_exists.mp
      ((continues_of_healthy hreplicas hs hpath).isSome (hsets count hcount))
    have htidy := ((reachable_paced hreplicas (reachable_of_healthy hs hpath)).shards count m hset).1
    obtain ⟨m', hsetPath, hnormal', -⟩ := setPath_normal htidy.coherent htidy.generation_pos
    obtain ⟨shard, hshard, hnext⟩ := healthyPath_of_setPath hset hsetPath
    refine ⟨_, hpath.trans hnext, hphase, fun i hi => ?_⟩
    rw [setShard_shards]
    split
    · exact ⟨m', hshard, hnormal'⟩
    · exact hnormal i (by omega)

/-- When all pods are ready, the gather is enabled. -/
theorem allPodsReady_of_normal (hnormal : AllNormal inst s) : allPodsReady inst s.objects = true := by
  have hobject : ∀ k < inst.shards, ∃ sts, s.objects k = some sts ∧
      sts.status.readyReplicas = 1 + inst.replicasPerShard := by
    intro k hk
    obtain ⟨m, hset, hm⟩ := hnormal k hk
    have hshape := ((reachable_paced hreplicas hs).shards k m hset).1.shape m.object.generation
    exact ⟨m.object, by simp [State.objects, hset], hm.ready.trans hshape.size_eq⟩
  have hcounts : (List.range inst.shards).map (fun k =>
      ((s.objects k).map fun sts => sts.status.readyReplicas).getD 0) =
      (List.range inst.shards).map fun _ => 1 + inst.replicasPerShard := by
    refine map_congr_left fun k hk => ?_
    obtain ⟨sts, hsts, hcount⟩ := hobject k (mem_range.mp hk)
    simp [hsts, hcount]
  simp only [allPodsReady, hcounts, Bool.and_eq_true, all_eq_true, mem_range, beq_iff_eq]
  refine ⟨fun k hk => ?_, by rw [map_const', sum_replicate_nat, length_range]⟩
  obtain ⟨sts, hsts, -⟩ := hobject k hk
  simp [hsts]

/-- A pass that has got past its first half gathers the mesh as it is. -/
theorem healthyPath_gather {desired : ℕ → Template} (hphase : s.phase = .reconciled desired)
    (hnormal : AllNormal inst s) : HealthyPath inst s { s with phase := .gathered desired s.mesh } := by
  have hmesh : gatherMesh s.mesh (fun _ => true) = s.mesh := by simp [gatherMesh, GoMap.mapValues_id]
  have hstep : step inst s (.gather s.objects fun _ => true) =
      some { s with phase := .gathered desired s.mesh } := by
    simp [step, hphase, allPodsReady_of_normal hreplicas hs hnormal, hmesh]
  exact .single (a := .gather s.objects fun _ => true) ⟨freshReads_objects s, fun _ => rfl⟩ hstep

/-- The pass in progress can be brought to its end. -/
theorem healthyPath_idle (hnormal : AllNormal inst s) : ∃ t, HealthyPath inst s t ∧ t.phase = .idle := by
  have hadvance : ∀ {u : State Template} {desired gt}, u.phase = .gathered desired gt →
      ∃ t, HealthyPath inst u t ∧ t.phase = .idle := by
    intro u desired gt hphase
    have hstep : step inst u (.advance 0 .none) = some { u with
        shards := (advanceClusterRollout inst 0 .none gt desired u.shards).1
        phase := .idle } := by simp only [step, hphase]
    exact ⟨_, .single (a := .advance 0 .none) rfl hstep, rfl⟩
  cases hphase : s.phase with
  | idle => exact ⟨s, .refl, hphase⟩
  | reconciled desired =>
    obtain ⟨t, hpath, hidle⟩ := hadvance (u := { s with phase := .gathered desired s.mesh }) rfl
    exact ⟨t, (healthyPath_gather hreplicas hs hphase hnormal).trans hpath, hidle⟩
  | gathered desired gt => exact hadvance hphase

/-- Everyone can be brought to rest between two passes. -/
theorem healthyPath_prepared (hsets : ∀ i < inst.shards, (s.shards i).set.isSome) :
    ∃ t, HealthyPath inst s t ∧ t.phase = .idle ∧ AllNormal inst t := by
  obtain ⟨t, hpath, -, hnormal⟩ := healthyPath_normal hreplicas hs hsets inst.shards (Nat.le_refl _)
  have ht := reachable_of_healthy hs hpath
  obtain ⟨u, hnext, hidle⟩ := healthyPath_idle hreplicas ht hnormal
  have hu := reachable_of_healthy ht hnext
  obtain ⟨v, hlast, hphase, hnormal'⟩ := healthyPath_normal hreplicas hu
    (fun i hi => (continues_of_healthy hreplicas hs (hpath.trans hnext)).isSome (hsets i hi))
    inst.shards (Nat.le_refl _)
  exact ⟨v, (hpath.trans hnext).trans hlast, hphase.trans hidle, hnormal'⟩

variable {f : ℕ} (hf : f < inst.shards) (hbefore : ∀ i < f, s.left inst i = 0) (hnormal : AllNormal inst s)

include hf hbefore hnormal

/-- The shards before the first one with something left are open and at rest. -/
theorem atRest_before {i : ℕ} (hi : i < f) :
    ∃ m, (s.shards i).set = some m ∧ SpecShape inst m.object.spec ∧ m.object.spec.updateFrom = 0 ∧
      atRest inst m.object (s.desired i) = true := by
  obtain ⟨m, hset, hm⟩ := hnormal i (Nat.lt_trans hi hf)
  have hshape := ((reachable_paced hreplicas hs).shards i m hset).1.shape m.object.generation
  exact ⟨m, hset, hshape, atRest_of_left hm hshape hset (hbefore i hi)⟩

variable (hset : (s.shards f).set = some m)

include hset

/-- The second half of a pass lowers the partition of the first shard that has not settled. -/
theorem left_lt_of_advance (hphase : s.phase = .reconciled s.desired)
    (htemplate : m.object.spec.template = s.desired f)
    (hrest : atRest inst m.object (s.desired f) ≠ true) {owner : ℕ} (howner : FollowsOwner inst s.mesh f owner)
    (hbelow : owner < m.object.spec.updateFrom) :
    ∃ t, HealthyPath inst s t ∧ t.left inst f < s.left inst f := by
  have htidy := ((reachable_paced hreplicas hs).shards f m hset).1
  obtain ⟨_, hset', hm⟩ := hnormal f hf
  cases hset.symm.trans hset'
  have hready := advanceReady_of_normal hreplicas hm htidy htemplate hrest howner hbelow
  have hturn : (advanceShard inst 0 .none s.mesh s.desired f (s.shards f)).1 = (s.shards f).apply inst
      (buildClusterShardStatefulSet inst (s.desired f)
        (some (((postGatherInput inst 0 s.mesh (s.desired f) f m).currentPartition : ℤ) - 1))) := by
    simp [advanceShard, Faults.none, hset, hrest, planShardRolloutPartition_of_ready hready]
  have hpast : ∀ i < f, (advanceShard inst 0 .none s.mesh s.desired i (s.shards i)).2 = .proceed := by
    intro i hi
    obtain ⟨m, hset, -, -, hrest⟩ := atRest_before hreplicas hs hf hbefore hnormal hi
    simp [advanceShard, Faults.none, hset, hrest]
  have hreached := (loopCells_reached (advanceShard inst 0 .none s.mesh s.desired) hf hpast).1
  refine ⟨_, (healthyPath_gather hreplicas hs hphase hnormal).tail (a := .advance 0 .none) rfl rfl, ?_⟩
  have hstored : ((advanceClusterRollout inst 0 .none s.mesh s.desired s.shards).1 f).set =
      some ⟨m.object.apply (buildClusterShardStatefulSet inst (s.desired f)
        (some (((postGatherInput inst 0 s.mesh (s.desired f) f m).currentPartition : ℤ) - 1))), m.pods⟩ := by
    rw [advanceClusterRollout, if_neg hreplicas, hreached, hturn, Shard.apply_set_of hset]
  have hleft := writesLeft_lower htidy hready
  rw [left_of_set hset, left_of_set hstored]
  exact Nat.lt_of_succ_le (Nat.le_of_eq hleft)

/-- The first half reaches the first shard with something left, and writes there or changes nothing and
goes on. -/
theorem reconcile_reaches (hidle : s.phase = .idle) :
    ∃ t, HealthyPath inst s t ∧ t.desired = s.desired ∧ t.mesh = s.mesh ∧
      t.shards f = (reconcileShard inst 0 .none s.objects s.desired f (s.shards f)).1 ∧
      (reconcileShard inst 0 .none s.objects s.desired f (s.shards f) = (s.shards f, .stop) →
        t.phase = .reconciled s.desired ∧ ∀ i, (t.shards i).set = (s.shards i).set) := by
  have hpast : ∀ i < f, (reconcileShard inst 0 .none s.objects s.desired i (s.shards i)).2 = .proceed ∧
      (reconcileShard inst 0 .none s.objects s.desired i (s.shards i)).1.set = (s.shards i).set := by
    intro i hi
    obtain ⟨m, hset, hshape, hopen, hrest⟩ := atRest_before hreplicas hs hf hbefore hnormal hi
    rw [hset]
    exact reconcileShard_open hreplicas hset hshape hrest hopen
  obtain ⟨hcell, houtcome⟩ := loopCells_reached (reconcileShard inst 0 .none s.objects s.desired) hf
    fun i hi => (hpast i hi).1
  have hstep : step inst s (.reconcile 0 s.objects .none) =
      some { s with
        shards := (reconcileClusterStatefulSet inst 0 .none s.objects s.desired s.shards).1
        phase := if (reconcileClusterStatefulSet inst 0 .none s.objects s.desired s.shards).2 = .fail then .idle
          else .reconciled s.desired } := by simp only [step, hidle]
  refine ⟨_, .single (a := .reconcile 0 s.objects .none) ⟨freshReads_objects s, rfl⟩ hstep, rfl, rfl, hcell,
    fun hstop => ⟨if_neg ?_, fun i => ?_⟩⟩
  · rw [reconcileClusterStatefulSet, houtcome (by simp [hstop]), hstop]
    simp
  · -- a shard that the loop has visited is one before `f`, or `f` itself
    dsimp only [reconcileClusterStatefulSet]
    rcases loopCells_cell (reconcileShard inst 0 .none s.objects s.desired) inst.shards s.shards i
      with hsame | ⟨-, hproceed, hvisited⟩
    · rw [hsame]
    · rw [hvisited]
      rcases Nat.lt_trichotomy i f with hlt | rfl | hgt
      · exact (hpast i hlt).2
      · rw [hstop]
      · have := hproceed f hgt
        rw [hstop] at this
        cases this

/-- One pass leaves less of the first rollout that has something left. -/
theorem left_lt_of_pass (hidle : s.phase = .idle) (hleft : 0 < s.left inst f)
    (howner : m.object.spec.template = s.desired f → ∃ owner < m.object.spec.updateFrom,
      FollowsOwner inst s.mesh f owner) :
    ∃ t, HealthyPath inst s t ∧ t.left inst f < s.left inst f := by
  obtain ⟨t, hpath, hdesired, hmesh, hshard, hstopped⟩ :=
    reconcile_reaches hreplicas hs hf hbefore hnormal hset hidle
  have hturn := reconcileShard_eq hreplicas 0 s.desired hset
    (by simp [State.objects, hset] : s.objects f = some m.object)
  have hwritten : ∀ p : ℕ, (t.shards f = (s.shards f).apply inst
      (buildClusterShardStatefulSet inst (s.desired f) (some (p : ℤ)))) → t.left inst f = p := by
    intro p hp
    rw [left_of_set (hp ▸ Shard.apply_set_of hset _), hdesired, writesLeft_apply]
  by_cases htemplate : m.object.spec.template = s.desired f
  · rw [if_neg (not_not.mpr htemplate)] at hturn
    by_cases hrest : atRest inst m.object (s.desired f) = true
    · -- a shard that has settled early is opened at once
      have hsettled := hrest
      rw [atRest_eq_settled htemplate] at hsettled
      rw [if_neg (by simp [hsettled])] at hturn
      rw [hturn] at hshard
      exact ⟨t, hpath, by rw [hwritten 0 hshard]; exact hleft⟩
    · have hunsettled := hrest
      rw [atRest_eq_settled htemplate, Bool.not_eq_true] at hunsettled
      rw [if_pos hunsettled] at hturn
      obtain ⟨hphase, hsets⟩ := hstopped hturn
      obtain ⟨owner, hbelow, hfollows⟩ := howner htemplate
      have hsame : ∀ i, t.left inst i = s.left inst i := by
        intro i
        rw [State.left, State.left, hsets i, hdesired]
      obtain ⟨u, hnext, hlt⟩ := left_lt_of_advance hreplicas (reachable_of_healthy hs hpath) hf
        (fun i hi => (hsame i).trans (hbefore i hi)) (fun i hi => by rw [hsets i]; exact hnormal i hi)
        (by rw [hsets f]; exact hset) (by rw [hphase, hdesired]) (by rw [hdesired]; exact htemplate)
        (by rw [hdesired]; exact hrest) (by rw [hmesh]; exact hfollows) hbelow
      exact ⟨u, hpath.trans hnext, hsame f ▸ hlt⟩
  · rw [if_pos htemplate] at hturn
    rw [hturn] at hshard
    refine ⟨t, hpath, ?_⟩
    rw [hwritten _ hshard, left_of_set hset, writesLeft, if_neg htemplate]
    exact Nat.lt_succ_self _

omit hf hbefore hnormal hset

/-- With the slots of earlier unfinished shards on first pods, and its own below the partition, a shard's
partition moves. -/
theorem healthyPath_moves {p : ℕ} (hsets : ∀ i < inst.shards, (s.shards i).set.isSome) (hk : k < inst.shards)
    (hearlier : ∀ j < k, 0 < s.left inst j → FollowsOwner inst s.mesh j 0)
    (hbelow : ∃ owner < p, FollowsOwner inst s.mesh k owner) :
    ∃ t, HealthyPath inst s t ∧ t.partition k ≠ some (p : ℤ) := by
  -- by induction on what is left of the first shards in total
  induction htotal : ∑ j ∈ Finset.range (k + 1), s.left inst j using Nat.strongRecOn generalizing s with
  | ind total ih =>
    obtain ⟨t, hpath, hidle, hnormal⟩ := healthyPath_prepared hreplicas hs hsets
    have ht := reachable_of_healthy hs hpath
    have hcontinues := continues_of_healthy hreplicas hs hpath
    by_cases hmoved : t.partition k ≠ some (p : ℤ)
    · exact ⟨t, hpath, hmoved⟩
    have hle : ∀ j ≤ k, t.left inst j ≤ s.left inst j :=
      fun j hj => hcontinues.left_le (hsets j (Nat.lt_of_le_of_lt hj hk))
    obtain ⟨owner, howner, hfollows⟩ := hbelow
    have hfrom : ∀ m, (t.shards k).set = some m → m.object.spec.updateFrom = p := by
      intro m hset
      have hshape := ((reachable_paced hreplicas ht).shards k m hset).1.shape m.object.generation
      rw [not_not, State.partition, hset] at hmoved
      exact Int.ofNat_inj.mp (Option.some.inj (hshape.partition.symm.trans hmoved))
    have hex : ∃ f, f ≤ k ∧ 0 < t.left inst f := by
      obtain ⟨m, hset, -⟩ := hnormal k hk
      refine ⟨k, Nat.le_refl _, ?_⟩
      rw [left_of_set hset, writesLeft, hfrom m hset]
      split <;> omega
    -- the next pass acts on the first shard that has something left
    obtain ⟨hfk, hleft⟩ := Nat.find_spec hex
    have hbefore : ∀ i < Nat.find hex, t.left inst i = 0 := fun i hi =>
      Nat.eq_zero_of_not_pos fun hpos => Nat.find_min hex hi ⟨Nat.le_trans (Nat.le_of_lt hi) hfk, hpos⟩
    generalize Nat.find hex = f at hfk hleft hbefore
    have hf := Nat.lt_of_le_of_lt hfk hk
    obtain ⟨m, hset, -⟩ := hnormal f hf
    obtain ⟨u, hnext, hlt⟩ :=
      left_lt_of_pass hreplicas ht hf hbefore hnormal hset hidle hleft (fun htemplate => by
      rw [hcontinues.mesh]
      rcases Nat.eq_or_lt_of_le hfk with rfl | hfk
      · exact ⟨owner, hfrom m hset ▸ howner, hfollows⟩
      · refine ⟨0, ?_, hearlier f hfk (Nat.lt_of_lt_of_le hleft (hle f (Nat.le_of_lt hfk)))⟩
        rwa [left_of_set hset, writesLeft, if_pos htemplate] at hleft)
    have hpath' := hpath.trans hnext
    have hcontinues' := continues_of_healthy hreplicas hs hpath'
    have hle' : ∀ j ≤ k, u.left inst j ≤ s.left inst j :=
      fun j hj => hcontinues'.left_le (hsets j (Nat.lt_of_le_of_lt hj hk))
    have hless : ∑ j ∈ Finset.range (k + 1), u.left inst j < total := by
      rw [← htotal]
      exact Finset.sum_lt_sum (fun j hj => hle' j (Nat.lt_succ_iff.mp (Finset.mem_range.mp hj)))
        ⟨f, Finset.mem_range.mpr (Nat.lt_succ_of_le hfk), Nat.lt_of_lt_of_le hlt (hle f hfk)⟩
    obtain ⟨v, hlast, hv⟩ := ih _ hless (reachable_of_healthy hs hpath')
      (fun i hi => hcontinues'.isSome (hsets i hi))
      (fun j hj hpos => hcontinues'.mesh ▸ hearlier j hj (Nat.lt_of_lt_of_le hpos (hle' j (Nat.le_of_lt hj))))
      (hcontinues'.mesh ▸ ⟨owner, howner, hfollows⟩) rfl
    exact ⟨v, hpath'.trans hlast, hv⟩

end LittleRed.Cluster.Rollout
