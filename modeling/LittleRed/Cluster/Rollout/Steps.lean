import LittleRed.Cluster.Rollout.System

/-!
# What one step does to one shard

Every step either leaves a shard alone or changes it in one of four ways. The inversion
lemmas here name them, with the conditions under which they happen, so that an invariant
of the shards is proved by going through these cases.
-/

namespace LittleRed.Cluster.Rollout

open Lib

variable {Template : Type*} [DecidableEq Template] {inst : Instance Template}

/-- The pre-gather turn of a shard under the given reads and failures. -/
inductive ReconcileTurn (inst : Instance Template) (now : ℤ)
    (cached : ℕ → Option (StatefulSet Template)) (desired : ℕ → Template) (k : ℕ)
    (shard : Shard Template) : Shard Template × LoopOutcome → Prop
  | keep {outcome : LoopOutcome} (houtcome : outcome ≠ .proceed) :
      ReconcileTurn inst now cached desired k shard (shard, outcome)
  | create (hcached : cached k = none) :
      ReconcileTurn inst now cached desired k shard
        (shard.apply inst (buildClusterShardStatefulSet inst (desired k) none), .proceed)
  | roll {read existing : StatefulSet Template} {fails : Bool} (hcached : cached k = some read)
      (hread : refreshShardSTSForRollout inst read (shard.set.map ManagedSet.object) fails
        (desired k) = some existing)
      (htemplate : existing.spec.template ≠ desired k) :
      ReconcileTurn inst now cached desired k shard
        (shard.apply inst (buildClusterShardStatefulSet inst (desired k)
          (planShardRolloutPartition (preGatherInput inst now (desired k) k existing)).partition),
          .stop)
  | rest {read existing : StatefulSet Template} {fails : Bool} (hcached : cached k = some read)
      (hread : refreshShardSTSForRollout inst read (shard.set.map ManagedSet.object) fails
        (desired k) = some existing)
      (hrest : atRest inst existing (desired k) = true) :
      ReconcileTurn inst now cached desired k shard
        (shard.apply inst (buildClusterShardStatefulSet inst (desired k)
          (planShardRolloutPartition (preGatherInput inst now (desired k) k existing)).partition),
          .proceed)

/-- What the first half does to a shard. -/
theorem reconcileShard_turn (inst : Instance Template) (now : ℤ) (faults : Faults)
    (cached : ℕ → Option (StatefulSet Template)) (desired : ℕ → Template) (k : ℕ) (shard : Shard Template) :
    ReconcileTurn inst now cached desired k shard
      (reconcileShard inst now faults cached desired k shard) := by
  unfold reconcileShard
  split
  · exact .keep (by decide)
  split
  · rename_i hcached
    split
    · exact .keep (by decide)
    · exact .create hcached
  · rename_i read hcached
    split
    · exact .keep (by decide)
    rename_i existing hread
    dsimp only
    split
    · rename_i hhash
      split
      · exact .keep (by decide)
      · exact .roll hcached hread fun htemplate => hhash (by rw [htemplate])
    · rename_i hhash
      rw [not_not] at hhash
      split
      · exact .keep (by decide)
      rename_i hsettled
      split
      · exact .keep (by decide)
      · exact .rest hcached hread (by simp_all [atRest])

/-- The post-gather turn of a shard. -/
inductive AdvanceTurn (inst : Instance Template) (now : ℤ) (gt : ClusterGroundTruth)
    (desired : ℕ → Template) (k : ℕ) (shard : Shard Template) :
    Shard Template × LoopOutcome → Prop
  | keep {outcome : LoopOutcome} : AdvanceTurn inst now gt desired k shard (shard, outcome)
  | lower {m : ManagedSet Template} (hset : shard.set = some m)
      (hready : AdvanceReady (postGatherInput inst now gt (desired k) k m)) :
      AdvanceTurn inst now gt desired k shard
        (shard.apply inst (buildClusterShardStatefulSet inst (desired k)
          (some (((postGatherInput inst now gt (desired k) k m).currentPartition : ℤ) - 1))), .stop)

/-- What the second half does to a shard. -/
theorem advanceShard_turn (inst : Instance Template) (now : ℤ) (faults : Faults) (gt : ClusterGroundTruth)
    (desired : ℕ → Template) (k : ℕ) (shard : Shard Template) :
    AdvanceTurn inst now gt desired k shard (advanceShard inst now faults gt desired k shard) := by
  unfold advanceShard
  split
  · exact .keep
  split
  · exact .keep
  rename_i m hset
  split
  · exact .keep
  split
  · exact .keep
  dsimp only
  split
  · rename_i hverdict
    split
    · exact .keep
    have hready := advanceReady_of_verdict hverdict
    rw [planShardRolloutPartition_of_ready hready]
    exact .lower hset hready
  · exact .keep

/-- What a step of the system does to the shard with index `k`. -/
inductive ShardStep (inst : Instance Template) (s : State Template) (k : ℕ) :
    Label Template → Shard Template → Prop
  | same (a : Label Template) : ShardStep inst s k a (s.shards k)
  | controller {action : ControllerAction} {m m' : ManagedSet Template}
      (hset : (s.shards k).set = some m) (haction : controllerStep m action = some m') :
      ShardStep inst s k (.controller k action) ((s.shards k).store inst m' false)
  | kubelet {ordinal : ℕ} {ready containerReady : Bool} {readySince : Option ℤ}
      {m m' : ManagedSet Template} (hset : (s.shards k).set = some m)
      (hreport : kubeletReport m ordinal ready containerReady readySince = some m') :
      ShardStep inst s k (.kubelet k ordinal ready containerReady readySince)
        ((s.shards k).store inst m' false)
  | reconcile {now : ℤ} {cached : ℕ → Option (StatefulSet Template)} {faults : Faults}
      (hphase : s.phase = .idle) (hk : k < inst.shards)
      (hbefore : ∀ i < k,
        (reconcileShard inst now faults cached s.desired i (s.shards i)).2 = .proceed) :
      ShardStep inst s k (.reconcile now cached faults)
        (reconcileShard inst now faults cached s.desired k (s.shards k)).1
  | advance {now : ℤ} {faults : Faults} {desired : ℕ → Template} {gt : ClusterGroundTruth}
      (hphase : s.phase = .gathered desired gt) (hk : k < inst.shards) :
      ShardStep inst s k (.advance now faults)
        (advanceShard inst now faults gt desired k (s.shards k)).1

omit [DecidableEq Template] in
theorem setShard_shards (s : State Template) (i k : ℕ) (shard : Shard Template) :
    (s.setShard i shard).shards k = if k = i then shard else s.shards k := by
  by_cases h : k = i <;> simp [State.setShard, h]

variable {s : State Template} {a : Label Template}

variable {shard : Shard Template} {s' : State Template} {guard : State Template → Label Template → Prop}

theorem ShardStep.setShard {i : ℕ} (h : ShardStep inst s i a shard)
    (k : ℕ) : ShardStep inst s k a ((s.setShard i shard).shards k) := by
  rw [setShard_shards]
  split
  · rename_i hk
    subst hk
    exact h
  · exact .same _

/-- What a step does to each shard. -/
theorem step_shard (h : step inst s a = some s') (k : ℕ) : ShardStep inst s k a (s'.shards k) := by
  cases a with
  | edit | mesh =>
    cases h
    exact .same _
  | controller i action =>
    obtain ⟨m, hset, h⟩ := Option.bind_eq_some_iff.mp h
    obtain ⟨m', haction, h⟩ := Option.bind_eq_some_iff.mp h
    cases h
    exact (ShardStep.controller hset haction).setShard k
  | kubelet i ordinal ready containerReady readySince =>
    obtain ⟨m, hset, h⟩ := Option.bind_eq_some_iff.mp h
    obtain ⟨m', hreport, h⟩ := Option.bind_eq_some_iff.mp h
    cases h
    exact (ShardStep.kubelet hset hreport).setShard k
  | reconcile now cached faults =>
    simp only [step] at h
    split at h
    · rename_i hphase
      cases h
      dsimp only
      unfold reconcileClusterStatefulSet
      rcases loopCells_cell (reconcileShard inst now faults cached s.desired) inst.shards s.shards k
        with hsame | ⟨hk, hbefore, hcell⟩
      · rw [hsame]
        exact .same _
      · rw [hcell]
        exact .reconcile hphase hk hbefore
    · cases h
  | gather cached answers =>
    simp only [step] at h
    split at h
    · split at h
      · cases h
        exact .same _
      · cases h
    · cases h
  | advance now faults =>
    simp only [step] at h
    split at h
    · rename_i desired gt hphase
      cases h
      dsimp only
      unfold advanceClusterRollout
      split
      · exact .same _
      rcases loopCells_cell (advanceShard inst now faults gt desired) inst.shards s.shards k
        with hsame | ⟨hk, -, hcell⟩
      · rw [hsame]
        exact .same _
      · rw [hcell]
        exact .advance hphase hk
    · cases h
  | abort =>
    cases h
    exact .same _

/-- A step leaves a shard alone, stores what became of its set, or applies an object to it. -/
theorem step_shard_cases (h : step inst s a = some s') (k : ℕ) :
    s'.shards k = s.shards k ∨
      (∃ m m', (s.shards k).set = some m ∧ s'.shards k = (s.shards k).store inst m' false ∧
        ((∃ action, controllerStep m action = some m') ∨ ∃ ordinal ready containerReady readySince,
            kubeletReport m ordinal ready containerReady readySince = some m')) ∨
      ∃ spec, s'.shards k = (s.shards k).apply inst spec := by
  have hcase := step_shard h k
  generalize s'.shards k = shard at hcase ⊢
  cases hcase with
  | same => exact .inl rfl
  | controller hset haction => exact .inr (.inl ⟨_, _, hset, rfl, .inl ⟨_, haction⟩⟩)
  | kubelet hset hreport => exact .inr (.inl ⟨_, _, hset, rfl, .inr ⟨_, _, _, _, hreport⟩⟩)
  | @reconcile now cached faults =>
    have hturn := reconcileShard_turn inst now faults cached s.desired k (s.shards k)
    generalize reconcileShard inst now faults cached s.desired k (s.shards k) = result at hturn ⊢
    cases hturn with
    | keep => exact .inl rfl
    | create | roll | rest => exact .inr (.inr ⟨_, rfl⟩)
  | @advance now faults desired gt =>
    have hturn := advanceShard_turn inst now faults gt desired k (s.shards k)
    generalize advanceShard inst now faults gt desired k (s.shards k) = result at hturn ⊢
    cases hturn with
    | keep => exact .inl rfl
    | lower => exact .inr (.inr ⟨_, rfl⟩)

/-- The set after a write. -/
theorem Shard.apply_set (shard : Shard Template) (spec : StsSpec Template) :
    (shard.apply inst spec).set = some (match shard.set with
      | none => ⟨.create spec, fun _ => none⟩
      | some m => { m with object := m.object.apply spec }) := by
  cases hset : shard.set <;> simp [Shard.apply, Shard.store, hset]

/-- An apply to an existing set changes its object and leaves its pods. -/
theorem Shard.apply_set_of {m : ManagedSet Template} (hset : shard.set = some m) (spec : StsSpec Template) :
    (shard.apply inst spec).set = some ⟨m.object.apply spec, m.pods⟩ := by
  rw [Shard.apply_set, hset]

omit [DecidableEq Template] in
/-- The object that is used is at rest in the cache, or read again. -/
theorem refreshShardSTSForRollout_cases {read existing : StatefulSet Template}
    {fresh : Option (StatefulSet Template)} {fails : Bool} {desired : Template}
    (h : refreshShardSTSForRollout inst read fresh fails desired = some existing) :
    atRest inst read desired = true ∧ existing = read ∨
      atRest inst read desired = false ∧ existing = fresh.getD read := by
  unfold refreshShardSTSForRollout at h
  split at h
  · rename_i hrest
    exact .inl ⟨hrest, (Option.some.inj h).symm⟩
  · rename_i hrest
    split at h
    · cases h
    · exact .inr ⟨by simpa using hrest, (Option.some.inj h).symm⟩

omit [DecidableEq Template] in
theorem atRest_template {sts : StatefulSet Template} {desired : Template}
    (h : atRest inst sts desired = true) : sts.spec.template = desired := by
  simp only [atRest, Bool.and_eq_true, beq_iff_eq] at h
  exact inst.templates.podSpecHash_injective h.1

def Shard.Coherent (shard : Shard Template) : Prop := ∀ m, shard.set = some m → m.Coherent

/-- A write keeps it so. -/
theorem Shard.Coherent.apply (h : shard.Coherent)
    (spec : StsSpec Template) : (shard.apply inst spec).Coherent := by
  intro m hm
  rw [Shard.apply_set] at hm
  cases hm
  cases hset : shard.set with
  | none => exact ManagedSet.coherent_create spec _
  | some m => exact (h m hset).apply spec

theorem reachable_coherent (hs : (rolloutSystem inst).Reachable guard s) (k : ℕ) : (s.shards k).Coherent := by
  refine System.Reachable.invariant (fun s => ∀ k, (s.shards k).Coherent) ?_ ?_ hs k
  · intro s hinitial k m hm
    rw [hinitial.1 k] at hm
    cases hm
  · intro s a s' hinv _ hstep k
    rcases step_shard_cases hstep k with hsame | ⟨m, m', hset, hsame, hmade⟩ | ⟨spec, hsame⟩ <;> rw [hsame]
    · exact hinv k
    · intro m'' hm
      cases hm
      rcases hmade with ⟨action, haction⟩ | ⟨_, _, _, _, hreport⟩
      · exact (hinv k _ hset).controllerStep haction
      · obtain ⟨pod, -, rfl⟩ := kubeletReport_cases hreport
        exact ⟨(hinv k _ hset).observed_le, (hinv k _ hset).update_eq⟩
    · exact (hinv k).apply _

omit [DecidableEq Template] in
/-- A stored shard that owes a rollout has not settled. -/
theorem Shard.store_rolling {m : ManagedSet Template} {given : Bool}
    (h : (shard.store inst m given).rolling = true) :
    statefulSetRolloutSettled inst.templates.toRevisionNaming m.object = false ∧
      (shard.rolling = true ∨ given = true) := by
  simpa [Shard.store] using h

/-- Who owes a rollout has not settled. -/
def Shard.Owing (inst : Instance Template) (shard : Shard Template) : Prop :=
  ∀ m, shard.set = some m → shard.rolling = true →
    statefulSetRolloutSettled inst.templates.toRevisionNaming m.object = false

omit [DecidableEq Template] in
/-- Storing a shard's state drops the debt of a settled one. -/
theorem Shard.store_owing (shard : Shard Template) (m : ManagedSet Template) (given : Bool) :
    (shard.store inst m given).Owing inst := by
  intro m' hset hrolling
  cases hset
  exact (Shard.store_rolling hrolling).1

theorem Shard.apply_owing (shard : Shard Template) (spec : StsSpec Template) :
    (shard.apply inst spec).Owing inst := by
  unfold Shard.apply
  split <;> exact Shard.store_owing _ _ _

/-- Every step keeps it. -/
theorem owing_step {k : ℕ} (h : (s.shards k).Owing inst) (hstep : step inst s a = some s') :
    (s'.shards k).Owing inst := by
  rcases step_shard_cases hstep k with hsame | ⟨m, m', -, hsame, -⟩ | ⟨spec, hsame⟩ <;> rw [hsame]
  · exact h
  · exact Shard.store_owing _ _ _
  · exact Shard.apply_owing _ _

end LittleRed.Cluster.Rollout
