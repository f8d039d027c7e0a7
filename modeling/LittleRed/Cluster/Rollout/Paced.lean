import LittleRed.Cluster.Rollout.Steps
import LittleRed.Lib.StatefulSetProgress

/-!
# Paced edits

If an edit returns a shard to the template of its current revision after the partition has gone down, the
status reads as complete while replaced pods remain below the raised partition. The condition on edits here
rules this out: while the observed template is the current revision, every pod below the partition is at it.
-/

namespace LittleRed.Cluster.Rollout

open Lib

variable {Template : Type*}

/-- The shape of every spec that the operator applies. -/
structure SpecShape (inst : Instance Template) (spec : StsSpec Template) : Prop where
  replicas : spec.replicas = some (1 + inst.replicasPerShard)
  partition : spec.partition = some (spec.updateFrom : ℤ)
  bounded : spec.updateFrom ≤ inst.replicasPerShard

/-- Every live pod below an ordinal was created from the template. -/
def PodsBelowAt (m : ManagedSet Template) (bound : ℕ) (template : Template) : Prop :=
  ∀ ordinal < bound, ∀ pod, m.pods ordinal = some pod → pod.terminating = false →
    pod.template = template

/-- The status is caught up, and for the template of the current revision the partition is at the highest
ordinal with all pods below at it. -/
structure EditSafe (inst : Instance Template) (m : ManagedSet Template) (template : Template) :
    Prop where
  observed : m.object.status.observedGeneration = m.object.generation
  revert : m.object.status.currentTemplate = some template →
    m.object.spec.updateFrom = inst.replicasPerShard ∧
      PodsBelowAt m inst.replicasPerShard template

/-- What the generations that a status may still observe have in common with the pods. -/
structure Tidy (inst : Instance Template) (m : ManagedSet Template) : Prop where
  coherent : m.Coherent
  generation_pos : 0 < m.object.generation
  shape : ∀ g, SpecShape inst (m.object.specAt g)
  split : ∀ g, m.object.status.observedGeneration ≤ g → g ≤ m.object.generation →
    (m.object.specAt g).template = m.object.observedSpec.template ∨
      ∀ g', g ≤ g' → g' ≤ m.object.generation →
        (m.object.specAt g').template = m.object.spec.template
  current : ∀ g template, m.object.status.currentTemplate = some template →
    m.object.status.observedGeneration ≤ g → g ≤ m.object.generation →
    (m.object.specAt g).template = template →
    PodsBelowAt m (m.object.specAt g).updateFrom template
  reverting : m.object.status.currentTemplate = some m.object.spec.template →
    ∀ g, m.object.status.observedGeneration ≤ g → g ≤ m.object.generation →
      (m.object.specAt g).template ≠ m.object.spec.template →
      (m.object.specAt g).updateFrom = inst.replicasPerShard
  unobserved : m.object.status.currentTemplate = none →
    (∀ ordinal, m.pods ordinal = none) ∧ m.object.status.observedGeneration = 0 ∧
      ∀ g ≤ m.object.generation, (m.object.specAt g).template = m.object.spec.template

variable {inst : Instance Template}

/-- The partition that is built. -/
@[simp] theorem build_updateFrom (inst : Instance Template) (template : Template) (p : ℕ) :
    (buildClusterShardStatefulSet inst template (some (p : ℤ))).defaulted.updateFrom = p := by
  simp [buildClusterShardStatefulSet, StsSpec.defaulted, StsSpec.updateFrom]

/-- What is built with a partition has the shape. -/
theorem specShape_build (inst : Instance Template) (template : Template) {p : ℕ}
    (hp : p ≤ inst.replicasPerShard) :
    SpecShape inst (buildClusterShardStatefulSet inst template (some (p : ℤ))).defaulted :=
  ⟨rfl, by rw [build_updateFrom]; rfl, by rw [build_updateFrom]; exact hp⟩

theorem specShape_build_none (template : Template) :
    SpecShape inst (buildClusterShardStatefulSet inst template none).defaulted :=
  specShape_build inst template (Nat.zero_le _)

/-- A new set is tidy. -/
theorem tidy_create (template : Template) :
    Tidy inst ⟨.create (buildClusterShardStatefulSet inst template none), fun _ => none⟩ where
  coherent := ManagedSet.coherent_create _ _
  generation_pos := Nat.one_pos
  shape := fun _ => specShape_build_none template
  split := fun _ _ _ => .inl rfl
  current := fun _ _ h => by cases h
  reverting := fun h => by cases h
  unobserved := fun _ => ⟨fun _ => rfl, rfl, fun _ _ => rfl⟩

/-- No live pod is new, and none has changed its template. -/
def PodsKept (m m' : ManagedSet Template) : Prop :=
  ∀ ordinal pod', m'.pods ordinal = some pod' → ∃ pod, m.pods ordinal = some pod ∧
    (pod'.terminating = false → pod.terminating = false ∧ pod.template = pod'.template)

/-- Removing a pod keeps the others. -/
theorem podsKept_remove (m : ManagedSet Template) (ordinal : ℕ) :
    PodsKept m (m.setPod ordinal none) := by
  intro i pod' hpod'
  rw [ManagedSet.setPod_pods] at hpod'
  split at hpod'
  · cases hpod'
  · exact ⟨pod', hpod', fun hlive => ⟨hlive, rfl⟩⟩

variable {m m' : ManagedSet Template} {ordinal : ℕ} {pod : StsPod Template}

/-- So does a change that keeps template and life. -/
theorem podsKept_change {changed : StsPod Template} (hpod : m.pods ordinal = some pod)
    (hchanged : changed.terminating = false → pod.terminating = false ∧ pod.template = changed.template) :
    PodsKept m (m.setPod ordinal (some changed)) := by
  intro i pod' hpod'
  rcases ManagedSet.pods_of_setPod hpod' with ⟨rfl, rfl⟩ | hpod'
  · exact ⟨pod, hpod, hchanged⟩
  · exact ⟨pod', hpod', fun hlive => ⟨hlive, rfl⟩⟩

/-- Kept pods stay at the template. -/
theorem PodsBelowAt.of_kept {bound : ℕ} {template : Template} (h : PodsBelowAt m bound template)
    (hkept : PodsKept m m') : PodsBelowAt m' bound template := by
  intro ordinal hlt pod' hpod' hlive
  obtain ⟨pod, hpod, hsame⟩ := hkept ordinal pod' hpod'
  obtain ⟨hlive', htemplate⟩ := hsame hlive
  exact htemplate ▸ h ordinal hlt pod hpod hlive'

/-- A tidy set stays tidy. -/
theorem Tidy.of_kept (h : Tidy inst m) (hobject : m'.object = m.object)
    (hkept : PodsKept m m') : Tidy inst m' := by
  refine ⟨⟨?_, ?_⟩, ?_, ?_, ?_, ?_, ?_, ?_⟩ <;> rw [hobject]
  · exact h.coherent.observed_le
  · exact h.coherent.update_eq
  · exact h.generation_pos
  · exact h.shape
  · exact h.split
  · exact fun g template hcurrent hlow hhigh htemplate =>
      (h.current g template hcurrent hlow hhigh htemplate).of_kept hkept
  · exact h.reverting
  · intro hnone
    obtain ⟨hempty, hrest⟩ := h.unobserved hnone
    refine ⟨fun ordinal => ?_, hrest⟩
    cases hpod' : m'.pods ordinal with
    | none => rfl
    | some pod' =>
      obtain ⟨pod, hpod, -⟩ := hkept ordinal pod' hpod'
      rw [hempty ordinal] at hpod
      cases hpod

/-- So it does with a new pod at the right place. -/
theorem Tidy.of_fill (h : Tidy inst m) (hnew : newPod m ordinal = some pod) :
    Tidy inst (m.setPod ordinal (some pod)) := by
  have hcurrent : m.object.status.currentTemplate ≠ none := by
    intro hnone
    obtain ⟨-, hzero, -⟩ := h.unobserved hnone
    have hupdate := h.coherent.update_eq
    rw [if_pos hzero] at hupdate
    rcases newPod_template hnew with ⟨-, hsource⟩ | ⟨-, hsource⟩
    · exact absurd (hnone.symm.trans hsource) (by simp)
    · exact absurd (hupdate.symm.trans hsource) (by simp)
  refine ⟨⟨h.coherent.observed_le, h.coherent.update_eq⟩, h.generation_pos, h.shape, h.split,
    ?_, h.reverting, fun hnone => absurd hnone hcurrent⟩
  intro g template htemplate hlow hhigh hg i hi pod' hpod' hlive
  rcases ManagedSet.pods_of_setPod hpod' with ⟨rfl, rfl⟩ | hpod'
  · rcases newPod_template hnew with ⟨-, hsource⟩ | ⟨hfrom, hsource⟩
    · exact Option.some.inj (hsource.symm.trans htemplate)
    · have hobserved := h.coherent.eq_observed hsource
      rcases h.split g hlow hhigh with hsame | hdesired
      · exact hobserved.trans (hsame.symm.trans hg)
      -- the current revision is being restored, so the partition still protects this ordinal
      have hspec : m.object.spec.template = template :=
        (hdesired g (Nat.le_refl _) hhigh).symm.trans hg
      by_contra hne
      have hhighest := h.reverting (hspec ▸ htemplate) _ (Nat.le_refl _) h.coherent.observed_le
        (by rw [hspec]; exact fun heq => hne (hobserved.trans heq))
      have hbounded := (h.shape g).bounded
      change i < (m.object.specAt g).updateFrom at hi
      rw [StatefulSet.observedSpec] at hfrom
      omega
  · exact h.current g template htemplate hlow hhigh hg i hi pod' hpod' hlive

section

variable [DecidableEq Template]

/-- The current revision after a status write: the old one, or that of the generation when all pods are
at it. -/
theorem syncStatus_current (m : ManagedSet Template) (g : ℕ) :
    ((syncStatus m g).currentTemplate = m.object.status.currentTemplate ∧
        m.object.status.currentTemplate ≠ none) ∨
      (syncStatus m g).currentTemplate = some (m.object.specAt g).template ∧
        (m.object.status.currentTemplate = none ∨ ∀ ordinal < (m.object.specAt g).size,
            podUpdated (m.object.specAt g).template (m.pods ordinal) = true) := by
  simp only [syncStatus]
  split
  · rename_i hall
    exact .inr ⟨rfl, .inr ((countOrdinals_eq_size_iff _ _ _).mp hall.1)⟩
  · cases hcurrent : m.object.status.currentTemplate with
    | none => exact .inr ⟨rfl, .inl rfl⟩
    | some template => exact .inl ⟨rfl, by simp⟩

variable (h : Tidy inst m)
include h

omit [DecidableEq Template] in
/-- Later generations have the same template or the last one. -/
theorem Tidy.split_from {g g' : ℕ} (hlow : m.object.status.observedGeneration ≤ g) (hle : g ≤ g')
    (hhigh : g' ≤ m.object.generation) :
    (m.object.specAt g').template = (m.object.specAt g).template ∨
      ∀ g'', g' ≤ g'' → g'' ≤ m.object.generation →
        (m.object.specAt g'').template = m.object.spec.template := by
  have hbelow : g ≤ m.object.generation := Nat.le_trans hle hhigh
  rcases h.split g' (Nat.le_trans hlow hle) hhigh with hsame | hrest
  · rcases h.split g hlow hbelow with hsame' | hrest'
    · exact .inl (hsame.trans hsame'.symm)
    · exact .inl ((hrest' g' hle hhigh).trans (hrest' g (Nat.le_refl _) hbelow).symm)
  · exact .inr hrest

/-- Pods below the partition when the revision moves. -/
theorem Tidy.podsBelow_sync {g : ℕ}
    (hcase : m.object.status.currentTemplate = none ∨ ∀ ordinal < (m.object.specAt g).size, podUpdated
      (m.object.specAt g).template (m.pods ordinal) = true)
    (g' : ℕ) : PodsBelowAt m (m.object.specAt g').updateFrom (m.object.specAt g).template := by
  intro ordinal hlt pod hpod hlive
  rcases hcase with hnone | hall
  · rw [(h.unobserved hnone).1 ordinal] at hpod
    cases hpod
  · have hsize : ordinal < (m.object.specAt g).size := by
      have hbounded := (h.shape g').bounded
      rw [StsSpec.size, (h.shape g).replicas, Option.getD_some]
      omega
    have hupdated := hall ordinal hsize
    rw [hpod] at hupdated
    simpa [podUpdated, hlive] using hupdated

/-- A status write keeps the set tidy. -/
theorem Tidy.of_sync {g : ℕ} (hlow : m.object.status.observedGeneration ≤ g) (hpos : 0 < g)
    (hhigh : g ≤ m.object.generation) :
    Tidy inst { m with object := { m.object with status := syncStatus m g } } := by
  refine ⟨⟨hhigh, ?_⟩, h.generation_pos, h.shape, fun g' => h.split_from hlow, ?_, ?_, ?_⟩
  · simp [syncStatus, StatefulSet.observedSpec, Nat.pos_iff_ne_zero.mp hpos]
  · intro g' template htemplate hlow' hhigh' hg'
    rcases syncStatus_current m g with ⟨hsame, -⟩ | ⟨hnew, hcase⟩
    · exact h.current g' template (hsame ▸ htemplate) (Nat.le_trans hlow hlow') hhigh' hg'
    · cases htemplate.symm.trans hnew
      exact h.podsBelow_sync hcase g'
  · intro htemplate g' hlow' hhigh' hne
    rcases syncStatus_current m g with ⟨hsame, -⟩ | ⟨hnew, -⟩
    · exact h.reverting (hsame ▸ htemplate) g' (Nat.le_trans hlow hlow') hhigh' hne
    -- the observed template is the spec's, so no other one is left in the range
    have heq : (m.object.specAt g).template = m.object.spec.template :=
      Option.some.inj (hnew.symm.trans htemplate)
    rcases h.split_from hlow hlow' hhigh' with hsame | hrest
    · exact absurd (hsame.trans heq) hne
    · exact absurd (hrest g' (Nat.le_refl _) hhigh') hne
  · intro hnone
    rcases syncStatus_current m g with ⟨hsame, hsome⟩ | ⟨hnew, -⟩
    · exact absurd (hsame.symm.trans hnone) hsome
    · rw [show _ = _ from hnew] at hnone
      cases hnone

theorem Tidy.controllerStep {action : ControllerAction}
    (hstep : Lib.controllerStep m action = some m') : Tidy inst m' := by
  cases controllerStep_effect hstep with
  | sync hlow hpos hhigh => exact h.of_sync hlow hpos hhigh
  | delete hpod => exact h.of_kept rfl (podsKept_change hpod fun hlive => by cases hlive)
  | remove => exact h.of_kept rfl (podsKept_remove m _)
  | fill hnew => exact h.of_fill hnew

end

variable {spec : StsSpec Template}

theorem Tidy.split_push (h : Tidy inst m) (hsplit : spec.template = m.object.spec.template ∨
      m.object.status.observedGeneration = m.object.generation) {g : ℕ}
    (hlow : m.object.status.observedGeneration ≤ g) (hhigh : g ≤ m.object.generation + 1) :
    ((m.object.push spec).specAt g).template = m.object.observedSpec.template ∨
      ∀ g', g ≤ g' → g' ≤ m.object.generation + 1 →
        ((m.object.push spec).specAt g').template = spec.template := by
  have hlast : ((m.object.push spec).specAt (m.object.generation + 1)).template = spec.template :=
    congrArg StsSpec.template (m.object.push_spec spec)
  rcases Nat.le_succ_iff.mp hhigh with hle | rfl
  · rw [m.object.push_specAt spec hle]
    rcases hsplit with hsame | hcaught
    · refine (h.split g hlow hle).imp_right fun hright g' hg' hhigh' => ?_
      rcases Nat.le_succ_iff.mp hhigh' with hle' | rfl
      · rw [m.object.push_specAt spec hle', hright g' hg' hle', hsame]
      · exact hlast
    · left
      rw [StatefulSet.observedSpec, hcaught,
        Nat.le_antisymm hle (hcaught ▸ hlow : m.object.generation ≤ g)]
  · refine .inr fun g' hle hge => ?_
    rwa [Nat.le_antisymm hge hle]

/-- A safe new generation keeps the set tidy. -/
theorem Tidy.of_push (h : Tidy inst m) (hshape : SpecShape inst spec)
    (hsplit : spec.template = m.object.spec.template ∨
      m.object.status.observedGeneration = m.object.generation)
    (hobserved : m.object.status.currentTemplate ≠ none)
    (hcurrent : m.object.status.currentTemplate = some spec.template →
      PodsBelowAt m spec.updateFrom spec.template ∧
        ∀ g, m.object.status.observedGeneration ≤ g → g ≤ m.object.generation →
          (m.object.specAt g).template ≠ spec.template →
          (m.object.specAt g).updateFrom = inst.replicasPerShard) :
    Tidy inst { m with object := m.object.push spec } := by
  have hold : ∀ g, g ≤ m.object.generation → (m.object.push spec).specAt g = m.object.specAt g :=
    fun g => m.object.push_specAt spec
  have hnew : (m.object.push spec).specAt (m.object.generation + 1) = spec :=
    m.object.push_spec spec
  have hobservedSpec : (m.object.push spec).observedSpec = m.object.observedSpec :=
    hold _ h.coherent.observed_le
  refine ⟨⟨?_, ?_⟩, Nat.succ_pos _, fun g => ?_, fun g hlow hhigh => ?_, ?_, ?_,
    fun hnone => absurd hnone hobserved⟩
  · exact Nat.le_succ_of_le h.coherent.observed_le
  · rw [hobservedSpec]
    exact h.coherent.update_eq
  · by_cases hg : g = m.object.generation + 1
    · have heq : (m.object.push spec).specAt g = spec := by rw [hg, hnew]
      exact heq.symm ▸ hshape
    · have heq : (m.object.push spec).specAt g = m.object.specAt g := Function.update_of_ne hg _ _
      exact heq.symm ▸ h.shape g
  · rw [hobservedSpec, m.object.push_spec]
    exact h.split_push hsplit hlow hhigh
  · intro g template htemplate hlow hhigh hg
    rcases Nat.le_succ_iff.mp hhigh with hle | rfl
    · rw [hold g hle] at hg ⊢
      exact h.current g template htemplate hlow hle hg
    · have heq : spec.template = template := by rwa [hnew] at hg
      subst heq
      rw [hnew]
      exact (hcurrent htemplate).1
  · intro htemplate g hlow hhigh hne
    rw [m.object.push_spec] at htemplate hne
    rcases Nat.le_succ_iff.mp hhigh with hle | rfl
    · rw [hold g hle] at hne ⊢
      exact (hcurrent htemplate).2 g hlow hle hne
    · exact absurd (congrArg StsSpec.template hnew) hne

section

variable [DecidableEq Template]

theorem Tidy.of_apply_lower (h : Tidy inst m) {p : ℕ} (hp : p ≤ m.object.spec.updateFrom)
    (hobserved : m.object.status.currentTemplate ≠ none) :
    Tidy inst ⟨m.object.apply
      (buildClusterShardStatefulSet inst m.object.spec.template (some (p : ℤ))), m.pods⟩ := by
  have hshape := specShape_build inst m.object.spec.template
    (Nat.le_trans hp (h.shape m.object.generation).bounded)
  rcases m.object.apply_cases (buildClusterShardStatefulSet inst m.object.spec.template
    (some (p : ℤ))) with ⟨-, hsame⟩ | ⟨-, hnew⟩
  · rwa [hsame]
  · rw [hnew]
    refine h.of_push hshape (.inl rfl) hobserved fun hcurrent => ⟨?_, h.reverting hcurrent⟩
    intro ordinal hlt
    have hbelow := h.current m.object.generation _ hcurrent h.coherent.observed_le (Nat.le_refl _) rfl
    refine hbelow ordinal (Nat.lt_of_lt_of_le hlt ?_)
    simpa [buildClusterShardStatefulSet, StsSpec.defaulted, StsSpec.updateFrom,
      StatefulSet.spec] using hp

theorem Tidy.of_apply_roll (h : Tidy inst m) {template : Template} (hsafe : EditSafe inst m template) :
    Tidy inst ⟨m.object.apply (buildClusterShardStatefulSet inst template
      (some (inst.replicasPerShard : ℤ))), m.pods⟩ := by
  have hshape := specShape_build inst template (Nat.le_refl inst.replicasPerShard)
  rcases m.object.apply_cases (buildClusterShardStatefulSet inst template
    (some (inst.replicasPerShard : ℤ))) with ⟨-, hsame⟩ | ⟨-, hnew⟩
  · rwa [hsame]
  · rw [hnew]
    have hobserved : m.object.status.currentTemplate ≠ none := by
      intro hnone
      obtain ⟨-, hzero, -⟩ := h.unobserved hnone
      exact absurd (hsafe.observed.symm.trans hzero) (Nat.pos_iff_ne_zero.mp h.generation_pos)
    refine h.of_push hshape (.inr hsafe.observed) hobserved fun hcurrent => ?_
    obtain ⟨hfrom, hbelow⟩ := hsafe.revert hcurrent
    refine ⟨?_, fun g hlow hhigh _ => ?_⟩
    · simpa [buildClusterShardStatefulSet, StsSpec.defaulted, StsSpec.updateFrom] using hbelow
    · rwa [Nat.le_antisymm hhigh (hsafe.observed ▸ hlow : m.object.generation ≤ g)]

/-- If a shard still has to be given the desired template, it may be. -/
def PendingSafe (inst : Instance Template) (m : ManagedSet Template) (desired : Template) : Prop :=
  m.object.spec.template ≠ desired → EditSafe inst m desired

/-- After the write no edit is pending. -/
theorem pendingSafe_apply (m : ManagedSet Template) (desired : Template) (partition : Option ℤ) :
    PendingSafe inst
      ⟨m.object.apply (buildClusterShardStatefulSet inst desired partition), m.pods⟩ desired := by
  intro hne
  rw [StatefulSet.apply_spec] at hne
  exact absurd rfl hne

omit [DecidableEq Template] in
/-- A change of pods that brings no new one keeps a pending edit safe. -/
theorem PendingSafe.of_kept {desired : Template} (h : PendingSafe inst m desired)
    (hobject : m'.object = m.object) (hkept : PodsKept m m') : PendingSafe inst m' desired := by
  intro hne
  rw [hobject] at hne
  obtain ⟨hobserved, hrevert⟩ := h hne
  refine ⟨by rw [hobject]; exact hobserved, fun hcurrent => ?_⟩
  rw [hobject] at hcurrent ⊢
  obtain ⟨hfrom, hbelow⟩ := hrevert hcurrent
  exact ⟨hfrom, hbelow.of_kept hkept⟩

/-- The controller keeps an edit safe. -/
theorem PendingSafe.controllerStep {desired : Template} (h : PendingSafe inst m desired)
    {action : ControllerAction} (hstep : Lib.controllerStep m action = some m') : PendingSafe inst m'
      desired := by
  cases controllerStep_effect hstep with
  | @sync g hlow hpos hhigh =>
    intro hne
    obtain ⟨hobserved, hrevert⟩ := h hne
    obtain rfl : g = m.object.generation := Nat.le_antisymm hhigh (hobserved ▸ hlow)
    refine ⟨rfl, fun hcurrent => hrevert ?_⟩
    rcases syncStatus_current m m.object.generation with ⟨hsame, -⟩ | ⟨hnew, -⟩
    · exact hsame.symm.trans hcurrent
    · exact absurd (Option.some.inj (hnew.symm.trans hcurrent)) hne
  | delete hpod => exact h.of_kept rfl (podsKept_change hpod fun hlive => by cases hlive)
  | remove => exact h.of_kept rfl (podsKept_remove m _)
  | @fill ordinal pod hnew =>
    intro hne
    obtain ⟨hobserved, hrevert⟩ := h hne
    refine ⟨hobserved, fun hcurrent => ?_⟩
    obtain ⟨hfrom, hbelow⟩ := hrevert hcurrent
    refine ⟨hfrom, fun i hlt pod' hpod' hlive => ?_⟩
    rcases ManagedSet.pods_of_setPod hpod' with ⟨rfl, rfl⟩ | hpod'
    · rcases newPod_template hnew with ⟨-, hsource⟩ | ⟨hfrom', -⟩
      · exact Option.some.inj (hsource.symm.trans hcurrent)
      · rw [StatefulSet.observedSpec, hobserved] at hfrom'
        exact absurd hlt (Nat.not_lt.mpr (hfrom ▸ hfrom'))
    · exact hbelow i hlt pod' hpod' hlive

end

end LittleRed.Cluster.Rollout
