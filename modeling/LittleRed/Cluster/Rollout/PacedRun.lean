import LittleRed.Cluster.Rollout.Paced

/-!
# Runs with paced edits

In a paced run, edits arrive between passes and find every shard that they change ready
for them, and a pass reads the objects as they are. Such runs keep every shard tidy.
-/

namespace LittleRed.Cluster.Rollout

open Lib

variable {Template : Type*} [DecidableEq Template] {inst : Instance Template}

/-- The pass reads the objects as they are. -/
def FreshReads (inst : Instance Template) (s : State Template)
    (cached : ℕ → Option (StatefulSet Template)) : Prop :=
  ∀ k < inst.shards, cached k = (s.shards k).set.map ManagedSet.object

/-- An edit comes between passes and is safe for each shard, and passes read the objects as they are. -/
def pacedGuard (inst : Instance Template) (s : State Template) : Label Template → Prop
  | .edit desired =>
    s.phase = .idle ∧ ∀ k m, (s.shards k).set = some m → PendingSafe inst m (desired k)
  | .reconcile _ cached _ => FreshReads inst s cached
  | .gather cached _ => FreshReads inst s cached
  | _ => True

/-- The desired templates that a pass in progress works from. -/
def Phase.desired : Phase Template → Option (ℕ → Template)
  | .idle => none
  | .reconciled desired => some desired
  | .gathered desired _ => some desired

/-- What a paced run keeps true. -/
structure Paced (inst : Instance Template) (s : State Template) : Prop where
  shards : ∀ k m, (s.shards k).set = some m → Tidy inst m ∧ PendingSafe inst m (s.desired k)
  pass : ∀ desired, s.phase.desired = some desired → desired = s.desired

/-- The pre-gather turn of a shard that the pass reads as it is. -/
inductive FreshTurn (inst : Instance Template) (desired : Template) (shard : Shard Template) :
    Shard Template → Prop
  | keep : FreshTurn inst desired shard shard
  | create (hset : shard.set = none) :
      FreshTurn inst desired shard
        (shard.apply inst (buildClusterShardStatefulSet inst desired none))
  | roll {m : ManagedSet Template} (hset : shard.set = some m)
      (htemplate : m.object.spec.template ≠ desired) :
      FreshTurn inst desired shard
        (shard.apply inst (buildClusterShardStatefulSet inst desired
          (some (inst.replicasPerShard : ℤ))))
  | rest {m : ManagedSet Template} (hset : shard.set = some m)
      (hrest : atRest inst m.object desired = true) :
      FreshTurn inst desired shard
        (shard.apply inst (buildClusterShardStatefulSet inst desired (some ((0 : ℕ) : ℤ))))

variable {m : ManagedSet Template}

variable {shard : Shard Template} {s s' : State Template} {a : Label Template}

omit [DecidableEq Template] in
/-- A fresh read gives the live object to the rollout. -/
theorem refresh_fresh {read existing : StatefulSet Template} {fails : Bool} {desired : Template}
    (hread : shard.set.map ManagedSet.object = some read)
    (h : refreshShardSTSForRollout inst read (shard.set.map ManagedSet.object) fails desired = some existing) :
    ∃ m, shard.set = some m ∧ existing = m.object := by
  obtain ⟨m, hset, hobject⟩ := Option.map_eq_some_iff.mp hread
  rw [hset] at h
  rcases refreshShardSTSForRollout_cases h with ⟨-, rfl⟩ | ⟨-, rfl⟩
  · exact ⟨m, hset, hobject.symm⟩
  · exact ⟨m, hset, rfl⟩

omit [DecidableEq Template] in
/-- The gate before the gather opens a settled shard completely. -/
theorem preGather_rest (hreplicas : inst.replicasPerShard ≠ 0) {sts : StatefulSet Template}
    {desired : Template} (now : ℤ) (k : ℕ) (hrest : atRest inst sts desired = true) :
    (planShardRolloutPartition (preGatherInput inst now desired k sts)).partition = some ((0 : ℕ) : ℤ) := by
  have htemplate := atRest_template hrest
  simp only [atRest, Bool.and_eq_true] at hrest
  exact planShardRolloutPartition_of_complete hreplicas
    (by simp [preGatherInput, buildShardRolloutInput, htemplate]) (settled_revisions hrest.2)

/-- What a pass does to a shard on a fresh read. -/
theorem reconcileShard_fresh (hreplicas : inst.replicasPerShard ≠ 0) (now : ℤ) (faults : Faults)
    {cached : ℕ → Option (StatefulSet Template)} (desired : ℕ → Template) {k : ℕ}
    (hcached : cached k = shard.set.map ManagedSet.object) :
    FreshTurn inst (desired k) shard (reconcileShard inst now faults cached desired k shard).1 := by
  have hturn := reconcileShard_turn inst now faults cached desired k shard
  generalize reconcileShard inst now faults cached desired k shard = result at hturn ⊢
  cases hturn with
  | keep => exact .keep
  | create hnone =>
    rw [hcached, Option.map_eq_none_iff] at hnone
    exact .create hnone
  | roll hread hrefresh htemplate =>
    obtain ⟨m, hset, rfl⟩ := refresh_fresh (hcached.symm.trans hread) hrefresh
    rw [planShardRolloutPartition_of_changed hreplicas]
    · exact .roll hset htemplate
    · exact fun hhash => htemplate (inst.templates.podSpecHash_injective hhash)
  | rest hread hrefresh hrest =>
    obtain ⟨m, hset, rfl⟩ := refresh_fresh (hcached.symm.trans hread) hrefresh
    rw [preGather_rest hreplicas now k hrest]
    exact .rest hset hrest

omit [DecidableEq Template] in
/-- The partition that the gate reads. -/
theorem postGather_currentPartition (hshape : SpecShape inst m.object.spec) (now : ℤ)
    (gt : ClusterGroundTruth) (desired : Template) (k : ℕ) :
    (postGatherInput inst now gt desired k m).currentPartition = m.object.spec.updateFrom := by
  have hbounded := hshape.bounded
  change (if inst.replicasPerShard < m.object.spec.updateFrom then inst.replicasPerShard
    else m.object.spec.updateFrom) = _
  split <;> omega

omit [DecidableEq Template] in
/-- A set whose gate is about to open has a current revision. -/
theorem current_ne_none_of_ready (htidy : Tidy inst m) {now : ℤ} {gt : ClusterGroundTruth}
    {desired : Template} {k : ℕ} (hready : AdvanceReady (postGatherInput inst now gt desired k m)) :
    m.object.status.currentTemplate ≠ none := by
  intro hnone
  obtain ⟨-, hzero, -⟩ := htidy.unobserved hnone
  have hreleased := hready.released _ (currentPartition_le _) (Nat.le_refl _)
  obtain ⟨pod, hpod⟩ := (podReleased_build_iff _ _ _ _ _ _ _ _ _ _ (Nat.le_refl _)).mp hreleased
  have hupdate := htidy.coherent.update_eq
  rw [if_pos hzero, hpod.updated] at hupdate
  cases hupdate

/-- A shard whose set, if any, is tidy and may be given the desired template. -/
def PacedShard (inst : Instance Template) (desired : Template) (shard : Shard Template) : Prop :=
  ∀ m, shard.set = some m → Tidy inst m ∧ PendingSafe inst m desired

/-- The first half keeps a shard paced. -/
theorem FreshTurn.paced {desired : Template} {shard' : Shard Template}
    (hturn : FreshTurn inst desired shard shard') (h : PacedShard inst desired shard) :
    PacedShard inst desired shard' := by
  intro m hset
  cases hturn with
  | keep => exact h m hset
  | create hold =>
    rw [Shard.apply_set, hold] at hset
    cases hset
    exact ⟨tidy_create _, fun hne => absurd rfl hne⟩
  | roll hold htemplate =>
    rw [Shard.apply_set, hold] at hset
    cases hset
    obtain ⟨htidy, hpending⟩ := h _ hold
    exact ⟨htidy.of_apply_roll (hpending htemplate), pendingSafe_apply _ _ _⟩
  | rest hold hrest =>
    rw [Shard.apply_set, hold] at hset
    cases hset
    obtain ⟨htidy, -⟩ := h _ hold
    rw [← atRest_template hrest]
    refine ⟨htidy.of_apply_lower (Nat.zero_le _) fun hnone => ?_, pendingSafe_apply _ _ _⟩
    simp only [atRest, Bool.and_eq_true] at hrest
    obtain ⟨-, ⟨template, -, hcurrent⟩, -⟩ :=
      (statefulSetRolloutSettled_iff _ (htidy.shape _).replicas).mp hrest.2
    rw [hnone] at hcurrent
    cases hcurrent

theorem AdvanceTurn.paced {now : ℤ} {gt : ClusterGroundTruth} {desired : ℕ → Template} {k : ℕ}
    {result : Shard Template × LoopOutcome} (hturn : AdvanceTurn inst now gt desired k shard result)
    (h : PacedShard inst (desired k) shard) : PacedShard inst (desired k) result.1 := by
  intro m hset
  cases hturn with
  | keep => exact h m hset
  | @lower m₀ hold hready =>
    rw [Shard.apply_set, hold] at hset
    cases hset
    obtain ⟨htidy, -⟩ := h _ hold
    have htemplate : m₀.object.spec.template = desired k :=
      inst.templates.podSpecHash_injective hready.applied
    have habove := hready.above
    rw [postGather_currentPartition (htidy.shape _)] at habove ⊢
    rw [← htemplate, show ((m₀.object.spec.updateFrom : ℤ) - 1) =
      ((m₀.object.spec.updateFrom - 1 : ℕ) : ℤ) by omega]
    exact ⟨htidy.of_apply_lower (Nat.sub_le _ _) (current_ne_none_of_ready htidy hready),
      pendingSafe_apply _ _ _⟩

theorem paced_shard (hreplicas : inst.replicasPerShard ≠ 0) (hs : Paced inst s) (hguard : pacedGuard inst s a)
    (hstep : step inst s a = some s') (k : ℕ) : PacedShard inst (s.desired k) (s'.shards k) := by
  have hcase := step_shard hstep k
  generalize s'.shards k = shard at hcase
  cases hcase with
  | same => exact hs.shards k
  | controller hold haction =>
    intro m hset
    cases hset
    obtain ⟨htidy, hpending⟩ := hs.shards k _ hold
    exact ⟨htidy.controllerStep haction, hpending.controllerStep haction⟩
  | kubelet hold hreport =>
    intro m hset
    cases hset
    obtain ⟨htidy, hpending⟩ := hs.shards k _ hold
    obtain ⟨pod, hpod, rfl⟩ := kubeletReport_cases hreport
    exact ⟨htidy.of_kept rfl (podsKept_change hpod fun hlive => ⟨hlive, rfl⟩),
      hpending.of_kept rfl (podsKept_change hpod fun hlive => ⟨hlive, rfl⟩)⟩
  | @reconcile now cached faults hphase hk hbefore =>
    exact (reconcileShard_fresh hreplicas now faults s.desired (hguard k hk)).paced (hs.shards k)
  | @advance now faults desired gt hphase hk =>
    obtain rfl := hs.pass desired (by rw [hphase]; rfl)
    exact (advanceShard_turn inst now faults gt s.desired k (s.shards k)).paced (hs.shards k)

/-- Only an edit changes the templates, only the mesh itself the mesh, and a pass keeps the templates of
its start. -/
theorem step_desired (hstep : step inst s a = some s') :
    (∃ desired, a = .edit desired ∧ s' = { s with desired := desired }) ∨
      s'.desired = s.desired ∧ (s'.mesh = s.mesh ∨ ∃ gt, a = .mesh gt) ∧
        ∀ desired, s'.phase.desired = some desired → s.phase.desired = some desired ∨ desired = s.desired := by
  cases a with
  | edit desired => exact .inl ⟨desired, rfl, (Option.some.inj hstep).symm⟩
  | mesh gt =>
    cases hstep
    exact .inr ⟨rfl, .inr ⟨gt, rfl⟩, fun _ => .inl⟩
  | controller | kubelet =>
    obtain ⟨m, -, hstep⟩ := Option.bind_eq_some_iff.mp hstep
    obtain ⟨m', -, hstep⟩ := Option.bind_eq_some_iff.mp hstep
    cases hstep
    exact .inr ⟨rfl, .inl rfl, fun _ => .inl⟩
  | reconcile now cached faults =>
    simp only [step] at hstep
    split at hstep
    · cases hstep
      refine .inr ⟨rfl, .inl rfl, fun desired hdesired => .inr ?_⟩
      dsimp only at hdesired
      split at hdesired
      · cases hdesired
      · exact (Option.some.inj hdesired).symm
    · cases hstep
  | gather cached answers =>
    simp only [step] at hstep
    split at hstep
    · rename_i desired hphase
      obtain ⟨-, rfl⟩ := of_ite_some hstep
      exact .inr ⟨rfl, .inl rfl, fun _ h => .inl (by rw [hphase]; exact h)⟩
    · cases hstep
  | advance now faults =>
    simp only [step] at hstep
    split at hstep
    · cases hstep
      exact .inr ⟨rfl, .inl rfl, fun _ h => by cases h⟩
    · cases hstep
  | abort =>
    cases hstep
    exact .inr ⟨rfl, .inl rfl, fun _ h => by cases h⟩

/-- Every step keeps the invariant. -/
theorem paced_step (hreplicas : inst.replicasPerShard ≠ 0) (hs : Paced inst s) (hguard : pacedGuard inst s a)
    (hstep : step inst s a = some s') : Paced inst s' := by
  rcases step_desired hstep with ⟨desired, rfl, rfl⟩ | ⟨hdesired, -, hpass⟩
  · refine ⟨fun k m hset => ⟨(hs.shards k m hset).1, hguard.2 k m hset⟩, fun d hd => ?_⟩
    rw [hguard.1] at hd
    cases hd
  · refine ⟨fun k m hset => ?_, fun d hd => ?_⟩
    · rw [hdesired]
      exact paced_shard hreplicas hs hguard hstep k m hset
    · rw [hdesired]
      rcases hpass d hd with hold | heq
      · exact hs.pass d hold
      · exact heq

theorem reachable_paced (hreplicas : inst.replicasPerShard ≠ 0)
    (hs : (rolloutSystem inst).Reachable (pacedGuard inst) s) : Paced inst s := by
  refine System.Reachable.invariant (Paced inst) ?_ ?_ hs
  · rintro s ⟨hempty, hphase⟩
    refine ⟨fun k m hset => ?_, fun d hd => ?_⟩
    · rw [hempty k] at hset
      cases hset
    · rw [hphase] at hd
      cases hd
  · intro s a s' hinv hguard hstep
    exact paced_step hreplicas hinv hguard hstep

end LittleRed.Cluster.Rollout
