import LittleRed.Cluster.Rollout.Progress

/-!
# Wedged rollouts

A shard is wedged when everything but the operator has done its part, stays well, and no later pass moves the
shard's partition. An edit that returns a shard to its current revision in the middle of a rollout gets there:
the status reads as complete, but the shard is never settled. Paced runs do not, unless an earlier shard holds
for ever: the gate of a shard whose slot owner is not below its partition never opens.
-/

namespace LittleRed.Cluster.Rollout

open Lib List Option

variable {Template : Type*} [DecidableEq Template] {inst : Instance Template}

/-- A pod that is there, live and ready. -/
def podServes : Option (StsPod Template) → Bool
  | some pod => !pod.terminating && pod.ready && pod.containerReady
  | none => false

/-- Everyone but the operator has done their part, and a pod of the shard is still outdated. -/
structure Quiescent (inst : Instance Template) (s : State Template) (k : ℕ)
    (m : ManagedSet Template) : Prop where
  shard : k < inst.shards
  set : (s.shards k).set = some m
  serving : ∀ i < inst.shards, ∀ ordinal ≤ inst.replicasPerShard,
    podServes ((s.shards i).set.bind fun m => m.pods ordinal) = true
  synced : ∀ i < inst.shards, ∃ owner ≤ inst.replicasPerShard, FollowsOwner inst s.mesh i owner
  below : ∃ owner < m.object.spec.updateFrom, FollowsOwner inst s.mesh k owner
  outdated : ∃ ordinal ≤ inst.replicasPerShard,
    (m.pods ordinal).map StsPod.template ≠ some (s.desired k)
  replaced : ∀ ordinal ≤ inst.replicasPerShard, m.object.spec.updateFrom ≤ ordinal →
    (m.pods ordinal).map StsPod.template = m.object.status.updateTemplate
  current : m.object.status = syncStatus m m.object.generation

/-- Quiescent, and although all others do their part, no later pass changes the partition. -/
def Wedged (inst : Instance Template) (s : State Template) (k : ℕ) (m : ManagedSet Template) :
    Prop :=
  Quiescent inst s k m ∧ ∀ s', HealthyPath inst s s' → s'.partition k = s.partition k

/-- A set that reads as complete although a live pod below its partition is outdated. -/
structure FalselyComplete (inst : Instance Template) (m : ManagedSet Template)
    (desired : Template) (partition : Option ℤ) : Prop where
  partition : m.object.spec.partition = partition
  replicas : m.object.spec.replicas = some (1 + inst.replicasPerShard)
  template : m.object.spec.template = desired
  observed : m.object.status.observedGeneration = m.object.generation
  update : m.object.status.updateTemplate = some desired
  current : m.object.status.currentTemplate = some desired
  unfinished : m.object.status.updatedReplicas ≠ 1 + inst.replicasPerShard
  outdated : ∃ ordinal < m.object.spec.updateFrom, ordinal ≤ inst.replicasPerShard ∧
    ∃ pod, m.pods ordinal = some pod ∧ pod.terminating = false ∧ pod.template ≠ desired

omit [DecidableEq Template] in
/-- A pod may change if those below the partition stay. -/
theorem FalselyComplete.setPod {m : ManagedSet Template} {desired : Template} {p : Option ℤ}
    (h : FalselyComplete inst m desired p) {i : ℕ} {replaced : Option (StsPod Template)}
    (hkept : ∀ pod, m.pods i = some pod → pod.terminating = false → i < m.object.spec.updateFrom →
      ∃ pod', replaced = some pod' ∧ pod'.terminating = false ∧ pod'.template = pod.template) :
    FalselyComplete inst (m.setPod i replaced) desired p := by
  obtain ⟨ordinal, hbelow, hle, pod, hpod, hlive, hne⟩ := h.outdated
  refine ⟨h.partition, h.replicas, h.template, h.observed, h.update, h.current, h.unfinished, ordinal,
    hbelow, hle, ?_⟩
  rw [ManagedSet.setPod_pods]
  by_cases hi : ordinal = i
  · subst hi
    obtain ⟨pod', hreplaced, hlive', htemplate⟩ := hkept pod hpod hlive hbelow
    exact ⟨pod', by rw [if_pos rfl, hreplaced], hlive', by rw [htemplate]; exact hne⟩
  · exact ⟨pod, by rw [if_neg hi, hpod], hlive, hne⟩

variable {m : ManagedSet Template} {p : Option ℤ} {s : State Template} {k : ℕ}

variable {desired : Template} {s' : State Template} {ordinal : ℕ}

/-- The controller keeps the false completion. -/
theorem FalselyComplete.controllerStep {m' : ManagedSet Template} (h : FalselyComplete inst m desired p)
    {action : ControllerAction}
    (hstep : Lib.controllerStep m action = some m') : FalselyComplete inst m' desired p := by
  have hobservedSpec : m.object.observedSpec = m.object.spec := by
    rw [StatefulSet.observedSpec, h.observed, StatefulSet.spec]
  cases controllerStep_effect hstep with
  | @sync g hlow hpos hhigh =>
    obtain rfl : g = m.object.generation := Nat.le_antisymm hhigh (h.observed ▸ hlow)
    have hcount : countOrdinals m.object.spec.size m.pods (podUpdated m.object.spec.template) ≠
        1 + inst.replicasPerShard := by
      intro hall
      obtain ⟨ordinal, -, hle, pod, hpod, -, hne⟩ := h.outdated
      have hsize : m.object.spec.size = 1 + inst.replicasPerShard := by
        rw [StsSpec.size, h.replicas, getD_some]
      rw [← hsize, countOrdinals_eq_size_iff] at hall
      have hupdated := hall ordinal (by omega)
      rw [hpod, h.template] at hupdated
      simp [podUpdated, hne] at hupdated
    refine ⟨h.partition, h.replicas, h.template, rfl, congrArg some h.template, ?_, hcount, h.outdated⟩
    rcases syncStatus_current m m.object.generation with ⟨hsame, -⟩ | ⟨hnew, -⟩
    · exact hsame.trans h.current
    · exact hnew.trans (congrArg some h.template)
  | delete hpod hfrom =>
    rw [hobservedSpec] at hfrom
    exact h.setPod fun _ _ _ hbelow => absurd hbelow (Nat.not_lt.mpr hfrom)
  | remove hpod hterminating =>
    refine h.setPod fun pod' hpod' hlive _ => ?_
    cases hpod.symm.trans hpod'
    rw [hterminating] at hlive
    cases hlive
  | fill hnew hempty =>
    refine h.setPod fun pod' hpod' _ _ => ?_
    rw [hempty] at hpod'
    cases hpod'

omit [DecidableEq Template] in
/-- The gate after the gather sees a falsely complete set as complete. -/
theorem FalselyComplete.not_ready (h : FalselyComplete inst m desired p) {now : ℤ}
    {gt : ClusterGroundTruth} : ¬ AdvanceReady (postGatherInput inst now gt desired k m) := by
  intro hready
  refine hready.unsettled ⟨h.observed, ?_, ?_⟩
  · change inst.templates.name m.object.status.updateTemplate ≠ ""
    rw [Ne, RevisionNaming.name_eq_empty_iff, h.update]
    nofun
  · exact congrArg inst.templates.name (h.update.trans h.current.symm)

omit [DecidableEq Template] in
/-- The operator never sees a falsely complete set as settled. -/
theorem FalselyComplete.not_atRest (h : FalselyComplete inst m desired p) :
    atRest inst m.object desired ≠ true := by
  intro hrest
  simp only [atRest, Bool.and_eq_true] at hrest
  exact h.unfinished ((statefulSetRolloutSettled_iff _ h.replicas).mp hrest.2).2.2.1

/-- A shard is falsely complete at the desired template, and a pass in progress works from it. -/
structure Stuck (inst : Instance Template) (k : ℕ) (p : Option ℤ) (s : State Template) : Prop where
  shard : ∃ m, (s.shards k).set = some m ∧ FalselyComplete inst m (s.desired k) p
  pass : ∀ desired, s.phase.desired = some desired → desired = s.desired

theorem stuck_step (hreplicas : inst.replicasPerShard ≠ 0) {a : Label Template} (hs : Stuck inst k p s)
    (hcalm : calmStep inst s a) (hstep : step inst s a = some s') : Stuck inst k p s' := by
  rcases step_desired hstep with ⟨desired, rfl, -⟩ | ⟨hdesired, -, hpass⟩
  · exact hcalm.elim
  refine ⟨?_, fun d hd => ?_⟩
  · rw [hdesired]
    obtain ⟨m, hset, hstuck⟩ := hs.shard
    have hcase := step_shard hstep k
    generalize s'.shards k = shard at hcase
    cases hcase with
    | same => exact ⟨m, hset, hstuck⟩
    | @controller action m₀ m' hset₀ haction =>
      cases hset.symm.trans hset₀
      exact ⟨m', rfl, hstuck.controllerStep haction⟩
    | kubelet hset₀ hreport =>
      cases hset.symm.trans hset₀
      obtain ⟨pod, hpod, rfl⟩ := kubeletReport_cases hreport
      refine ⟨_, rfl, hstuck.setPod fun pod' hpod' hlive _ => ?_⟩
      cases hpod.symm.trans hpod'
      exact ⟨_, rfl, hlive, rfl⟩
    | @reconcile now cached faults hphase hk hbefore =>
      have hturn := reconcileShard_fresh hreplicas now faults s.desired (hcalm k hk)
      generalize (reconcileShard inst now faults cached s.desired k (s.shards k)).1 = shard at hturn
      cases hturn with
      | keep => exact ⟨m, hset, hstuck⟩
      | create hnone => exact absurd (hset.symm.trans hnone) nofun
      | roll hset₀ htemplate =>
        cases hset.symm.trans hset₀
        exact absurd hstuck.template htemplate
      | rest hset₀ hrest =>
        cases hset.symm.trans hset₀
        exact absurd hrest hstuck.not_atRest
    | @advance now faults desired gt hphase hk =>
      obtain rfl := hs.pass desired (by rw [hphase]; rfl)
      have hturn := advanceShard_turn inst now faults gt s.desired k (s.shards k)
      generalize advanceShard inst now faults gt s.desired k (s.shards k) = result at hturn
      cases hturn with
      | keep => exact ⟨m, hset, hstuck⟩
      | lower hset₀ hready =>
        cases hset.symm.trans hset₀
        exact absurd hready hstuck.not_ready
  · rw [hdesired]
    rcases hpass d hd with hold | heq
    · exact hs.pass d hold
    · exact heq

theorem Stuck.partition_eq (hreplicas : inst.replicasPerShard ≠ 0) (hs : Stuck inst k p s)
    (hpath : CalmPath inst s s') :
    s'.partition k = s.partition k := by
  have hpartition : ∀ t, Stuck inst k p t → t.partition k = p := by
    intro t ht
    obtain ⟨m, hset, hstuck⟩ := ht.shard
    rw [State.partition, hset, bind_some, hstuck.partition]
  have hs' := hpath.invariant (Stuck inst k p) (fun _ _ _ => stuck_step hreplicas) hs
  rw [hpartition s' hs', hpartition s hs]

/-- A pass that reads the objects as they are, up to the gather. -/
def freshPass (s : State Template) : Label Template := .reconcile 0 s.objects .none

/-- The shards are created, and their pods come up. -/
def settleMoves (shards pods : ℕ) : List (State Bool → Label Bool) :=
  [freshPass, fun _ => .abort] ++ (List.range shards).flatMap fun k =>
    [fun _ => .controller k (.sync 1)] ++
      (List.range pods).flatMap (fun ordinal =>
        [fun _ => .controller k (.fill ordinal), fun _ => .kubelet k ordinal true true none]) ++
      [fun _ => .controller k (.sync 1)]

/-- The controller of a shard observes a generation and replaces one pod. -/
def replaceMoves (k generation ordinal : ℕ) : List (State Bool → Label Bool) :=
  [fun _ => .controller k (.sync generation), fun _ => .controller k (.delete ordinal),
    fun _ => .controller k (.remove ordinal), fun _ => .controller k (.fill ordinal),
    fun _ => .kubelet k ordinal true true none, fun _ => .controller k (.sync generation)]

def trioInstance : Instance Bool := ⟨"c", 1, 2, twoTemplates⟩

/-- Its first pod owns all slots, and the others follow it. -/
def trioMesh : ClusterGroundTruth :=
  { newClusterGroundTruth with
    nodes := GoMap.ofPairs [
      ("c-shard-0-0", ⟨"c-shard-0-0", "10.0.0.1", "a", ["0-16383"], .master, "-", .unknown, true⟩),
      ("c-shard-0-1", ⟨"c-shard-0-1", "10.0.0.2", "b", [], .replica, "a", .up, true⟩),
      ("c-shard-0-2", ⟨"c-shard-0-2", "10.0.0.3", "c", [], .replica, "a", .up, true⟩)] }

def trioStart : State Bool := ⟨fun _ => false, fun _ => ⟨none, false⟩, trioMesh, .idle⟩

/-- A rollout is under way down to the second pod when the edit is taken back. -/
def revertMidRoll : List (State Bool → Label Bool) :=
  settleMoves 1 3 ++ [fun _ => .edit fun _ => true, freshPass, fun _ => .abort] ++ replaceMoves 0 2 2 ++
    [freshPass, fun s => .gather s.objects fun _ => true, fun _ => .advance 0 .none] ++
    replaceMoves 0 3 1 ++ [fun _ => .edit fun _ => false, freshPass, fun _ => .abort] ++
    replaceMoves 0 4 2

/-- The state after the revert, with the controller done. -/
def trioReverted : State Bool :=
  ((rolloutSystem trioInstance).drive trioStart revertMidRoll).get (by decide)

def trioSet : ManagedSet Bool := ((trioReverted.shards 0).set).get (by decide)

/-- An edit that returns a shard to its old template in the middle of a rollout wedges it, whatever mesh
and kubelets do. -/
theorem wedged_after_revert :
    ∃ s, (rolloutSystem trioInstance).Reachable System.anyStep s ∧ ∃ k m, Wedged trioInstance s k m ∧
        ∀ s', CalmPath trioInstance s s' → s'.partition k = s.partition k := by
  have hstuck : Stuck trioInstance 0 (some 2) trioReverted := by
    refine ⟨⟨trioSet, (some_get _).symm, ?_⟩, ?_⟩
    · exact ⟨by decide, by decide, by decide, by decide, by decide, by decide, by decide, 1,
        by decide, by decide, (trioSet.pods 1).get (by decide), (some_get _).symm, by decide,
        by decide⟩
    · have hidle : trioReverted.phase.desired = none := by rfl
      intro desired hdesired
      cases hdesired
  have hkept : ∀ s', CalmPath trioInstance trioReverted s' → s'.partition 0 = trioReverted.partition 0 :=
    fun s' => hstuck.partition_eq (by decide)
  refine ⟨trioReverted, ?_, 0, trioSet, ⟨?_, fun s' hpath => hkept s' (calmPath_of_healthy hpath)⟩, hkept⟩
  · have hpath : (rolloutSystem trioInstance).Path System.anyStep trioStart trioReverted :=
      .of_moves (fun _ _ _ => trivial) _
    exact hpath.reachable (fun _ _ h => h) (.initial ⟨fun _ => rfl, rfl⟩)
  · exact ⟨by decide, (some_get _).symm, by decide, by decide, by decide, by decide, by decide,
      by decide⟩

/-- The operator has brought a shard to its desired template and opened its partition. -/
def Opened (s : State Template) (k : ℕ) : Prop :=
  ∃ m, (s.shards k).set = some m ∧ m.object.spec.template = s.desired k ∧ m.object.spec.updateFrom = 0

theorem Opened.left_eq (h : Opened s k) : s.left inst k = 0 := by
  obtain ⟨m, hset, htemplate, hopen⟩ := h
  rw [left_of_set hset, writesLeft, if_pos htemplate, hopen]

/-- All sets of a cluster whose pods serve exist. -/
theorem Quiescent.isSome (h : Quiescent inst s k m) {i : ℕ} (hi : i < inst.shards) :
    (s.shards i).set.isSome := by
  have hserves := h.serving i hi 0 (Nat.zero_le _)
  cases hset : (s.shards i).set with
  | none =>
    rw [hset] at hserves
    cases hserves
  | some m => rfl

/-- In paced runs with replicas no shard is wedged if each earlier one is open or has its slots on its
first pod: from everywhere a later pass moves the partition. -/
theorem not_wedged_of_paced (hreplicas : 1 ≤ inst.replicasPerShard) {s : State Template}
    (hs : (rolloutSystem inst).Reachable (pacedGuard inst) s) (k : ℕ) (m : ManagedSet Template)
    (hearlier : ∀ j < k, Opened s j ∨ FollowsOwner inst s.mesh j 0) :
    ¬ Wedged inst s k m ∧ (Quiescent inst s k m → ∀ t, HealthyPath inst s t →
        ∃ u, HealthyPath inst t u ∧ u.partition k ≠ s.partition k) := by
  have hne : inst.replicasPerShard ≠ 0 := Nat.one_le_iff_ne_zero.mp hreplicas
  have hmoves : Quiescent inst s k m → ∀ t, HealthyPath inst s t →
      ∃ u, HealthyPath inst t u ∧ u.partition k ≠ s.partition k := by
    intro hquiescent t hpath
    have hshape := ((reachable_paced hne hs).shards k m hquiescent.set).1.shape m.object.generation
    have hpartition : s.partition k = some (m.object.spec.updateFrom : ℤ) := by
      rw [State.partition, hquiescent.set]
      exact hshape.partition
    have hcontinues := continues_of_healthy hne hs hpath
    rw [hpartition]
    refine healthyPath_moves hne (reachable_of_healthy hs hpath)
      (fun i hi => hcontinues.isSome (hquiescent.isSome hi)) hquiescent.shard (fun j hj hpos => ?_)
      (hcontinues.mesh ▸ hquiescent.below)
    rw [hcontinues.mesh]
    refine (hearlier j hj).resolve_left fun hopened => ?_
    have hle := hcontinues.left_le (hquiescent.isSome (Nat.lt_trans hj hquiescent.shard))
    rw [hopened.left_eq] at hle
    omega
  refine ⟨?_, hmoves⟩
  rintro ⟨hquiescent, hstuck⟩
  obtain ⟨u, hpath, hmoved⟩ := hmoves hquiescent s .refl
  exact hmoved (hstuck u hpath)

/-- Settling is calm. -/
theorem calm_settleMoves (inst : Instance Bool) (shards pods : ℕ) :
    ∀ move ∈ settleMoves shards pods, ∀ s, calmStep inst s (move s) := by
  intro move hmove s
  simp only [settleMoves, mem_append, mem_cons, not_mem_nil, or_false, mem_flatMap] at hmove
  rcases hmove with (rfl | rfl) | ⟨_, -, (rfl | ⟨_, -, rfl | rfl⟩) | rfl⟩
  · exact freshReads_objects s
  all_goals trivial

/-- Replacing a pod is calm. -/
theorem calm_replaceMoves (inst : Instance Bool) (k generation ordinal : ℕ) :
    ∀ move ∈ replaceMoves k generation ordinal, ∀ s, calmStep inst s (move s) := by
  intro move hmove s
  simp only [replaceMoves, mem_cons, not_mem_nil, or_false] at hmove
  rcases hmove with rfl | rfl | rfl | rfl | rfl | rfl <;> trivial

def duoInstance : Instance Bool := ⟨"c", 2, 1, twoTemplates⟩

def duoMesh : ClusterGroundTruth :=
  { newClusterGroundTruth with
    nodes := GoMap.ofPairs [
      ("c-shard-0-0", ⟨"c-shard-0-0", "10.0.0.1", "a", ["0-8191"], .master, "-", .unknown, true⟩),
      ("c-shard-0-1", ⟨"c-shard-0-1", "10.0.0.2", "b", [], .replica, "a", .up, true⟩),
      ("c-shard-1-0", ⟨"c-shard-1-0", "10.0.0.3", "c", ["8192-16383"], .master, "-", .unknown, true⟩),
      ("c-shard-1-1", ⟨"c-shard-1-1", "10.0.0.4", "d", [], .replica, "c", .up, true⟩)] }

def duoAtRest : State Bool :=
  ((rolloutSystem duoInstance).drive ⟨fun _ => false, fun _ => ⟨none, false⟩, duoMesh, .idle⟩
    (settleMoves 2 2)).get (by decide)

/-- The second shard has been given a new template and has replaced its replica. -/
def duoMidRoll : State Bool :=
  ((rolloutSystem duoInstance).drive { duoAtRest with desired := fun k => k == 1 }
    ([freshPass, fun _ => .abort] ++ replaceMoves 1 2 1)).get (by decide)

/-- The edit of the second shard is paced. -/
theorem duoAtRest_edit : pacedGuard duoInstance duoAtRest (.edit fun k => k == 1) := by
  have hrest : ∀ k m, (duoAtRest.shards k).set = some m →
      m.object.spec.template = false ∧ m.object.status.observedGeneration = m.object.generation ∧
        m.object.status.currentTemplate = some false := by
    intro k m hset
    have hset' : ((duoAtRest.shards k).set.map fun m => decide (m.object.spec.template = false ∧
        m.object.status.observedGeneration = m.object.generation ∧
        m.object.status.currentTemplate = some false)) = some true ∨ (duoAtRest.shards k).set = none := by
      rcases k with - | - | k
      · exact .inl (by decide)
      · exact .inl (by decide)
      · exact .inr rfl
    simpa [hset] using hset'
  refine ⟨rfl, fun k m hset hchanged => ?_⟩
  obtain ⟨htemplate, hobserved, hcurrent⟩ := hrest k m hset
  refine ⟨hobserved, fun hrevert => absurd ?_ hchanged⟩
  rw [htemplate]
  exact Option.some.inj (hcurrent.symm.trans hrevert)

/-- The second shard in the middle of its rollout is quiescent, and gets on. -/
theorem duoMidRoll_moves :
    ∃ m, Quiescent duoInstance duoMidRoll 1 m ∧
      ∃ s', HealthyPath duoInstance duoMidRoll s' ∧ s'.partition 1 ≠ duoMidRoll.partition 1 := by
  have hsettled : CalmPath duoInstance _ duoAtRest := .of_moves (calm_settleMoves duoInstance 2 2) _
  have hrest := hsettled.reachable (fun _ _ => pacedGuard_of_calm) (.initial ⟨fun _ => rfl, rfl⟩)
  have hedited := System.Reachable.step hrest duoAtRest_edit rfl
  have hrolled : CalmPath duoInstance { duoAtRest with desired := fun k => k == 1 } duoMidRoll := by
    refine .of_moves (fun move hmove s => ?_) _
    rcases mem_append.mp hmove with hfirst | hreplace
    · simp only [mem_cons, not_mem_nil, or_false] at hfirst
      rcases hfirst with rfl | rfl
      · exact freshReads_objects s
      · trivial
    · exact calm_replaceMoves duoInstance 1 2 1 move hreplace s
  have hreachable := hrolled.reachable (fun _ _ => pacedGuard_of_calm) hedited
  have hquiescent : Quiescent duoInstance duoMidRoll 1 ((duoMidRoll.shards 1).set.get (by decide)) :=
    ⟨by decide, (some_get _).symm, by decide, by decide, by decide, by decide, by decide,
      by decide⟩
  have hopened : Opened duoMidRoll 0 :=
    ⟨(duoMidRoll.shards 0).set.get (by decide), (some_get _).symm, by decide, by decide⟩
  refine ⟨_, hquiescent, (not_wedged_of_paced (by decide) hreachable 1 _ fun j hj => ?_).2 hquiescent _ .refl⟩
  obtain rfl : j = 0 := Nat.lt_one_iff.mp hj
  exact .inl hopened

end LittleRed.Cluster.Rollout
