import LittleRed.Cluster.Rollout.Steps

/-!
# One shard at a time

The first half of a pass stops at the first shard that is not at rest, so an edit that arrives while a later
shard is still rolling starts an earlier one again. As long as no pass meets that situation, and the cache
does not show a shard at rest that is not, at most one shard owes a rollout.
-/

namespace LittleRed.Cluster.Rollout

open Lib

variable {Template : Type*} [DecidableEq Template] {inst : Instance Template}

/-- At most one shard has been given a template that it has not settled on since. -/
def AtMostOneRolling (s : State Template) : Prop :=
  ∀ i j, (s.shards i).rolling = true → (s.shards j).rolling = true → i = j

/-- Runs that start with every shard in place and settled. -/
def settledSystem (inst : Instance Template) : System (State Template) (Label Template) where
  initial := fun s =>
    (∀ k < inst.shards, ∃ m, (s.shards k).set = some m ∧
      statefulSetRolloutSettled inst.templates.toRevisionNaming m.object = true) ∧
    (∀ k, (s.shards k).rolling = false) ∧ s.phase = .idle
  step := step inst

/-- The shard is at rest. -/
def AtRestNow (inst : Instance Template) (s : State Template) (k : ℕ) : Prop :=
  ∀ m, (s.shards k).set = some m → atRest inst m.object (s.desired k) = true

/-- The cache has every shard, none wrongly at rest; and if the first not at rest has another template,
no later one owes a rollout. -/
def serialGuard (inst : Instance Template) (s : State Template) : Label Template → Prop
  | .reconcile _ cached _ =>
    (∀ k < inst.shards, ∃ read, cached k = some read ∧
      (atRest inst read (s.desired k) = true → AtRestNow inst s k)) ∧
    ∀ k < inst.shards, (∀ i < k, AtRestNow inst s i) →
      (∀ m, (s.shards k).set = some m → m.object.spec.template ≠ s.desired k) →
      ∀ j, k < j → (s.shards j).rolling = false
  | _ => True

/-- A write starts a rollout only with another template. -/
theorem Shard.apply_rolling {shard : Shard Template} {m : ManagedSet Template}
    (hset : shard.set = some m) {spec : StsSpec Template} (h : (shard.apply inst spec).rolling = true) :
    shard.rolling = true ∨ m.object.spec.template ≠ spec.template := by
  rw [Shard.apply, hset] at h
  rcases (Shard.store_rolling h).2 with hrolling | hgiven
  · exact .inl hrolling
  · exact .inr (by simpa using hgiven)

/-- What a serialized run keeps true of the shards. -/
structure Serialized (inst : Instance Template) (s : State Template) : Prop where
  present : ∀ k < inst.shards, ∃ m, (s.shards k).set = some m
  owing : ∀ k, (s.shards k).Owing inst
  unique : AtMostOneRolling s

/-- The pass gives the shard another template and leaves the loop. -/
def RolledBy (inst : Instance Template) (s : State Template) (a : Label Template) (k : ℕ) : Prop :=
  ∃ now cached faults, a = .reconcile now cached faults ∧ k < inst.shards ∧
    (∀ i < k, (reconcileShard inst now faults cached s.desired i (s.shards i)).2 = .proceed) ∧
    (reconcileShard inst now faults cached s.desired k (s.shards k)).2 = .stop ∧
    ∀ m, (s.shards k).set = some m → m.object.spec.template ≠ s.desired k

variable {s s' : State Template} {k : ℕ} {a : Label Template}

/-- A pass goes on past shards at rest only. -/
theorem atRestNow_of_proceed {now : ℤ} {faults : Faults} {cached : ℕ → Option (StatefulSet Template)}
    (hguard : serialGuard inst s (.reconcile now cached faults)) (hk : k < inst.shards)
    (h : (reconcileShard inst now faults cached s.desired k (s.shards k)).2 = .proceed) :
    AtRestNow inst s k := by
  obtain ⟨read, hread, hfresh⟩ := hguard.1 k hk
  have hturn := reconcileShard_turn inst now faults cached s.desired k (s.shards k)
  generalize reconcileShard inst now faults cached s.desired k (s.shards k) = result at hturn h
  cases hturn with
  | keep houtcome => exact absurd h houtcome
  | create hcached => rw [hread] at hcached; cases hcached
  | roll => cases h
  | rest hcached hrefresh hrest =>
    cases hread.symm.trans hcached
    rcases refreshShardSTSForRollout_cases hrefresh with ⟨hcachedRest, -⟩ | ⟨-, rfl⟩
    · exact hfresh hcachedRest
    · intro m hset
      simpa [hset] using hrest

/-- A rolling shard was rolling, or the pass rolled it. -/
theorem rolling_cases (hinv : Serialized inst s) (hguard : serialGuard inst s a)
    (hstep : step inst s a = some s') (h : (s'.shards k).rolling = true) :
    (s.shards k).rolling = true ∨ RolledBy inst s a k := by
  have hcase := step_shard hstep k
  generalize s'.shards k = shard at hcase h
  cases hcase with
  | same => exact .inl h
  | controller | kubelet => exact .inl (by simpa using (Shard.store_rolling h).2)
  | @reconcile now cached faults hphase hk hbefore =>
    obtain ⟨m, hset⟩ := hinv.present k hk
    obtain ⟨read, hread, hfresh⟩ := hguard.1 k hk
    have hturn := reconcileShard_turn inst now faults cached s.desired k (s.shards k)
    generalize hresult : reconcileShard inst now faults cached s.desired k (s.shards k) = result
      at hturn h
    cases hturn with
    | keep => exact .inl h
    | create hcached => rw [hread] at hcached; cases hcached
    | @roll read' existing fails hcached hrefresh htemplate =>
      refine .inr ⟨now, cached, faults, rfl, hk, hbefore, by rw [hresult], fun m' hset' => ?_⟩
      rcases refreshShardSTSForRollout_cases hrefresh with ⟨hrest, rfl⟩ | ⟨-, rfl⟩
      · exact absurd (atRest_template hrest) htemplate
      · simpa [hset'] using htemplate
    | rest hcached hrefresh hrest =>
      have hproceed := congrArg Prod.snd hresult
      have hrestNow := atRestNow_of_proceed hguard hk hproceed m hset
      rcases Shard.apply_rolling hset h with hrolling | htemplate
      · exact .inl hrolling
      · exact absurd (atRest_template hrestNow) htemplate
  | @advance now faults desired gt hphase hk =>
    have hturn := advanceShard_turn inst now faults gt desired k (s.shards k)
    generalize advanceShard inst now faults gt desired k (s.shards k) = result at hturn h
    cases hturn with
    | keep => exact .inl h
    | lower hset hready =>
      rcases Shard.apply_rolling hset h with hrolling | htemplate
      · exact .inl hrolling
      · exact absurd (inst.templates.podSpecHash_injective hready.applied) htemplate

/-- A pass rolls no shard while another one rolls. -/
theorem not_rolling_of_rolledBy (hinv : Serialized inst s) (hguard : serialGuard inst s a) {j : ℕ}
    (hrolled : RolledBy inst s a k) (hj : (s.shards j).rolling = true) : j = k := by
  obtain ⟨now, cached, faults, rfl, hk, hbefore, -, htemplate⟩ := hrolled
  have hrest : ∀ i < k, AtRestNow inst s i := fun i hi =>
    atRestNow_of_proceed hguard (Nat.lt_trans hi hk) (hbefore i hi)
  rcases Nat.lt_trichotomy j k with hlt | heq | hgt
  · obtain ⟨m, hset⟩ := hinv.present j (Nat.lt_trans hlt hk)
    have hsettled := hrest j hlt m hset
    rw [atRest, hinv.owing j m hset hj, Bool.and_false] at hsettled
    cases hsettled
  · exact heq
  · rw [hguard.2 k hk hrest htemplate j hgt] at hj
    cases hj

theorem rolledBy_unique {i j : ℕ} (hi : RolledBy inst s a i) (hj : RolledBy inst s a j) : i = j := by
  obtain ⟨now, cached, faults, rfl, -, hbeforeI, hstopI, -⟩ := hi
  obtain ⟨_, _, _, heq, -, hbeforeJ, hstopJ, -⟩ := hj
  cases heq
  rcases Nat.lt_trichotomy i j with hlt | heq | hgt
  · rw [hbeforeJ i hlt] at hstopI
    cases hstopI
  · exact heq
  · rw [hbeforeI j hgt] at hstopJ
    cases hstopJ

/-- Sets stay. -/
theorem set_isSome_step (hstep : step inst s a = some s') (hset : (s.shards k).set.isSome) :
    (s'.shards k).set.isSome := by
  rcases step_shard_cases hstep k with hsame | ⟨m, m', -, hsame, -⟩ | ⟨spec, hsame⟩ <;> rw [hsame]
  · exact hset
  · rfl
  · rw [Shard.apply_set]
    rfl

/-- Every step keeps the invariant. -/
theorem serialized_step (hinv : Serialized inst s) (hguard : serialGuard inst s a)
    (hstep : step inst s a = some s') : Serialized inst s' := by
  refine ⟨fun k hk => ?_, fun k => owing_step (hinv.owing k) hstep, fun i j hi hj => ?_⟩
  · obtain ⟨m, hset⟩ := hinv.present k hk
    exact Option.isSome_iff_exists.mp (set_isSome_step hstep (by simp [hset]))
  · rcases rolling_cases hinv hguard hstep hi with hi | hi <;>
      rcases rolling_cases hinv hguard hstep hj with hj | hj
    · exact hinv.unique i j hi hj
    · exact not_rolling_of_rolledBy hinv hguard hj hi
    · exact (not_rolling_of_rolledBy hinv hguard hi hj).symm
    · exact rolledBy_unique hi hj

/-- In guarded runs from settled shards at most one shard owes a rollout. -/
theorem atMostOneRolling_of_guarded {s : State Template}
    (hs : (settledSystem inst).Reachable (serialGuard inst) s) : AtMostOneRolling s := by
  have hinv : Serialized inst s := by
    refine System.Reachable.invariant (Serialized inst) ?_ ?_ hs
    · rintro s ⟨hsettled, hrolling, -⟩
      refine ⟨fun k hk => ?_, fun k m _ h => ?_, fun i j h => ?_⟩
      · obtain ⟨m, hset, -⟩ := hsettled k hk
        exact ⟨m, hset⟩
      · rw [hrolling k] at h
        cases h
      · rw [hrolling i] at h
        cases h
    · intro s a s' hinv hguard hstep
      exact serialized_step hinv hguard hstep
  exact hinv.unique

def threeTemplates : PodTemplates (Fin 3) where
  revision := fun t => "rev-" ++ toString t.val
  injective := fun a b => by revert a b; decide
  nonempty := by decide
  podSpecHash := fun t => "hash-" ++ toString t.val
  podSpecHash_injective := fun a b => by revert a b; decide

def twoShards : Instance (Fin 3) := ⟨"c", 2, 0, threeTemplates⟩

def settledShard : ManagedSet (Fin 3) where
  object := ⟨1, fun _ => (buildClusterShardStatefulSet twoShards 0 (some 0)), ⟨1, some 0, some 0, 1, 1, 1⟩⟩
  pods := fun ordinal => if ordinal = 0 then some ⟨0, true, true, none, false⟩ else none

def twoShardsStart : State (Fin 3) :=
  ⟨fun _ => 0, fun _ => ⟨some settledShard, false⟩, newClusterGroundTruth, .idle⟩

theorem twoShardsStart_initial : (settledSystem twoShards).initial twoShardsStart :=
  ⟨fun _ _ => ⟨settledShard, rfl, by decide⟩, fun _ => rfl, rfl⟩

/-- A second edit arrives while shard 1 rolls. -/
def secondEditMidRoll : List (Label (Fin 3)) :=
  [.edit fun _ => 1, .reconcile 0 (fun _ => some settledShard.object) .none, .abort,
    .controller 0 (.sync 2), .controller 0 (.delete 0), .controller 0 (.remove 0),
    .controller 0 (.fill 0), .kubelet 0 0 true true none, .controller 0 (.sync 2),
    .reconcile 0 (fun _ => some settledShard.object) .none, .abort,
    .edit fun _ => 2, .reconcile 0 (fun _ => some settledShard.object) .none]

/-- A second edit that lands while a later shard is mid-roll leaves two shards rolling. -/
theorem two_rolling_after_second_edit :
    ∃ s, (settledSystem twoShards).Reachable System.anyStep s ∧ ¬ AtMostOneRolling s := by
  refine ⟨((settledSystem twoShards).follow twoShardsStart secondEditMidRoll).get (by decide),
    .of_run twoShardsStart_initial _, fun hunique => ?_⟩
  exact absurd (hunique 0 1 (by decide) (by decide)) (by decide)

def twoShardsEdited : State (Fin 3) := { twoShardsStart with desired := fun _ => 1 }

def firstPass : Label (Fin 3) := .reconcile 0 (fun _ => some settledShard.object) .none

/-- With both shards settled, the first edit's pass rolls shard 0 alone. -/
theorem one_rolling_after_first_edit :
    ∃ s, (s.shards 0).rolling = true ∧ AtMostOneRolling (s : State (Fin 3)) := by
  have hedited : (settledSystem twoShards).Reachable (serialGuard twoShards) twoShardsEdited :=
    .step (a := .edit fun _ => 1) (.initial twoShardsStart_initial) trivial rfl
  have hguard : serialGuard twoShards twoShardsEdited firstPass := by
    refine ⟨fun k hk => ⟨_, rfl, fun hrest => ?_⟩, fun _ _ _ _ _ _ => rfl⟩
    exact absurd hrest (by decide : atRest twoShards settledShard.object 1 ≠ true)
  exact ⟨(step twoShards twoShardsEdited firstPass).get (by decide), by decide,
    atMostOneRolling_of_guarded (.step hedited hguard (Option.some_get _).symm)⟩

end LittleRed.Cluster.Rollout
