import LittleRed.Lib.StatefulSet
import Mathlib.Logic.Relation

/-!
# Where a StatefulSet can get on its own

Left alone, the controller and the kubelet can always bring a set to a normal state: the
status has observed the current generation, every ordinal has a live and ready pod, and
the pods from the partition on are at the current template.
-/

namespace LittleRed.Lib

variable {Template : Type*} [DecidableEq Template]

/-- One step of a set's controller, or a report of its kubelet that a pod has become ready. -/
inductive SetStep : ManagedSet Template → ManagedSet Template → Prop
  | controller {m m' : ManagedSet Template} (action : ControllerAction) :
      controllerStep m action = some m' → SetStep m m'
  | kubelet {m m' : ManagedSet Template} (ordinal : ℕ) (readySince : Option ℤ) :
      kubeletReport m ordinal true true readySince = some m' → SetStep m m'

abbrev SetPath : ManagedSet Template → ManagedSet Template → Prop :=
  Relation.ReflTransGen SetStep

/-- The set after its status was written for the current generation. -/
def ManagedSet.synced (m : ManagedSet Template) : ManagedSet Template :=
  { m with object := { m.object with status := syncStatus m m.object.generation } }

variable {m : ManagedSet Template} {ordinal : ℕ}

theorem setPath_synced (hm : m.Coherent) (hpos : 0 < m.object.generation) : SetPath m m.synced := by
  refine .single (.controller (.sync m.object.generation) ?_)
  simp [controllerStep, ManagedSet.synced, hm.observed_le, hpos]

/-- A pod can become ready. -/
theorem setPath_ready {pod : StsPod Template} (hpod : m.pods ordinal = some pod) :
    SetPath m (m.setPod ordinal (some { pod with ready := true, containerReady := true })) := by
  refine .single (.kubelet ordinal pod.readySince ?_)
  simp [kubeletReport, hpod]

/-- A pod that serves: live, and ready in both senses. -/
structure StsPod.Serving (pod : StsPod Template) : Prop where
  live : pod.terminating = false
  ready : pod.ready = true
  containerReady : pod.containerReady = true

/-- An empty ordinal can get a serving pod. -/
theorem setPath_fill (hempty : m.pods ordinal = none) (hsize : ordinal < m.object.observedSpec.size)
    (hupdate : m.object.status.updateTemplate.isSome) (hcurrent : m.object.status.currentTemplate.isSome) :
    ∃ pod, SetPath m (m.setPod ordinal (some pod)) ∧ pod.Serving ∧
      (m.object.observedSpec.updateFrom ≤ ordinal → m.object.status.updateTemplate = some pod.template) := by
  obtain ⟨update, hupdate⟩ := Option.isSome_iff_exists.mp hupdate
  obtain ⟨current, hcurrent⟩ := Option.isSome_iff_exists.mp hcurrent
  have hnew : ∃ template, newPod m ordinal = some ⟨template, false, false, none, false⟩ ∧
      (m.object.observedSpec.updateFrom ≤ ordinal →
        m.object.status.updateTemplate = some template) := by
    by_cases hbelow : ordinal < m.object.observedSpec.updateFrom
    · exact ⟨current, by simp [newPod, hbelow, hcurrent], fun h => absurd hbelow (Nat.not_lt.mpr h)⟩
    · exact ⟨update, by simp [newPod, hbelow, hupdate], fun _ => hupdate⟩
  obtain ⟨template, hnew, htemplate⟩ := hnew
  refine ⟨⟨template, true, true, none, false⟩, ?_, ⟨rfl, rfl, rfl⟩, htemplate⟩
  have hfill : SetPath m (m.setPod ordinal (some ⟨template, false, false, none, false⟩)) := by
    refine .single (.controller (.fill ordinal) ?_)
    simp [controllerStep, hempty, hsize, hnew]
  have hready := setPath_ready
    (m.setPod_pods_self ordinal (some ⟨template, false, false, none, false⟩))
  exact hfill.trans (by simpa using hready)

/-- A terminating pod can be replaced by a serving one. -/
theorem setPath_replace {pod : StsPod Template} (hpod : m.pods ordinal = some pod)
    (hterminating : pod.terminating = true) (hsize : ordinal < m.object.observedSpec.size)
    (hupdate : m.object.status.updateTemplate.isSome) (hcurrent : m.object.status.currentTemplate.isSome) :
    ∃ pod, SetPath m (m.setPod ordinal (some pod)) ∧ pod.Serving ∧
      (m.object.observedSpec.updateFrom ≤ ordinal → m.object.status.updateTemplate = some pod.template) := by
  have hremove : SetPath m (m.setPod ordinal none) := by
    refine .single (.controller (.remove ordinal) ?_)
    simp [controllerStep, hpod, hterminating]
  obtain ⟨pod', hfill, hserving, htemplate⟩ :=
    setPath_fill (m.setPod_pods_self ordinal none) hsize hupdate hcurrent
  exact ⟨pod', hremove.trans (by simpa using hfill), hserving, htemplate⟩

/-- Any ordinal can get a serving pod. -/
theorem setPath_serving (hsize : ordinal < m.object.observedSpec.size)
    (hupdate : m.object.status.updateTemplate.isSome) (hcurrent : m.object.status.currentTemplate.isSome) :
    ∃ pod, SetPath m (m.setPod ordinal (some pod)) ∧ pod.Serving ∧
      (m.object.observedSpec.updateFrom ≤ ordinal → m.object.status.updateTemplate = some pod.template) := by
  cases hpod : m.pods ordinal with
  | none => exact setPath_fill hpod hsize hupdate hcurrent
  | some pod =>
    by_cases hterminating : pod.terminating = true
    · exact setPath_replace hpod hterminating hsize hupdate hcurrent
    rw [Bool.not_eq_true] at hterminating
    by_cases houtdated : m.object.observedSpec.updateFrom ≤ ordinal ∧
        some pod.template ≠ m.object.status.updateTemplate
    · have hdelete : SetPath m (m.setPod ordinal (some { pod with terminating := true })) := by
        refine .single (.controller (.delete ordinal) ?_)
        simp [controllerStep, hpod, houtdated, hterminating]
      obtain ⟨pod', hreplace, hserving, htemplate⟩ :=
        setPath_replace (m.setPod_pods_self ordinal (some { pod with terminating := true })) rfl hsize
          hupdate hcurrent
      exact ⟨pod', hdelete.trans (by simpa using hreplace), hserving, htemplate⟩
    · refine ⟨_, setPath_ready hpod, ⟨hterminating, rfl, rfl⟩, fun hfrom => ?_⟩
      by_contra hne
      exact houtdated ⟨hfrom, fun heq => hne heq.symm⟩

/-- The first ordinals can all get serving pods. -/
theorem setPath_allServing (hupdate : m.object.status.updateTemplate.isSome)
    (hcurrent : m.object.status.currentTemplate.isSome) (count : ℕ)
    (hcount : count ≤ m.object.observedSpec.size) :
    ∃ pods, SetPath m { m with pods := pods } ∧ ∀ ordinal < count, ∃ pod,
      pods ordinal = some pod ∧ pod.Serving ∧
      (m.object.observedSpec.updateFrom ≤ ordinal →
        m.object.status.updateTemplate = some pod.template) := by
  induction count with
  | zero => exact ⟨m.pods, .refl, fun ordinal h => absurd h (Nat.not_lt_zero _)⟩
  | succ count ih =>
    obtain ⟨pods, hpath, hpods⟩ := ih (Nat.le_of_succ_le hcount)
    obtain ⟨pod, hstep, hserving, htemplate⟩ :=
      setPath_serving (m := { m with pods := pods }) hcount hupdate hcurrent
    refine ⟨Function.update pods count (some pod), hpath.trans hstep, fun ordinal hlt => ?_⟩
    by_cases heq : ordinal = count
    · subst heq
      exact ⟨pod, Function.update_self _ _ _, hserving, htemplate⟩
    · rw [Function.update_of_ne heq]
      exact hpods ordinal (by omega)

/-- A set that has nothing left to do on its own, apart from finishing a complete rollout. -/
structure ManagedSet.Normal (m : ManagedSet Template) : Prop where
  observed : m.object.status.observedGeneration = m.object.generation
  update : m.object.status.updateTemplate = some m.object.spec.template
  pods : ∀ ordinal < m.object.spec.size, ∃ pod, m.pods ordinal = some pod ∧ pod.Serving ∧
    (m.object.spec.updateFrom ≤ ordinal → pod.template = m.object.spec.template)
  ready : m.object.status.readyReplicas = m.object.spec.size
  replicas : m.object.status.replicas = m.object.spec.size
  current : (∀ ordinal < m.object.spec.size,
      podUpdated m.object.spec.template (m.pods ordinal) = true) →
    m.object.status.updatedReplicas = m.object.spec.size ∧
      m.object.status.currentTemplate = some m.object.spec.template

/-- A set whose pods all serve is normal once its status is up to date. -/
theorem normal_synced
    (hpods : ∀ ordinal < m.object.spec.size, ∃ pod, m.pods ordinal = some pod ∧ pod.Serving ∧
      (m.object.spec.updateFrom ≤ ordinal → pod.template = m.object.spec.template)) :
    m.synced.Normal := by
  have hready : countOrdinals m.object.spec.size m.pods podReady = m.object.spec.size := by
    refine (countOrdinals_eq_size_iff _ _ _).mpr fun ordinal hlt => ?_
    obtain ⟨pod, hpod, hserving, -⟩ := hpods ordinal hlt
    simp [hpod, podReady, hserving.live, hserving.ready]
  refine ⟨rfl, rfl, hpods, hready, ?_, fun hupdated => ?_⟩
  · refine (countOrdinals_eq_size_iff _ _ _).mpr fun ordinal hlt => ?_
    obtain ⟨pod, hpod, -, -⟩ := hpods ordinal hlt
    simp [hpod]
  · have hall : countOrdinals m.object.spec.size m.pods (podUpdated m.object.spec.template) =
        m.object.spec.size := (countOrdinals_eq_size_iff _ _ _).mpr hupdated
    exact ⟨hall, if_pos ⟨hall, hready⟩⟩

/-- A coherent set can become normal without a new spec. -/
theorem setPath_normal (hm : m.Coherent) (hpos : 0 < m.object.generation) :
    ∃ m', SetPath m m' ∧ m'.Normal ∧ m'.object.generation = m.object.generation ∧
      m'.object.specAt = m.object.specAt := by
  have hfirst := setPath_synced hm hpos
  have hcurrent : m.synced.object.status.currentTemplate.isSome := by
    change (if _ then _ else _ : Option Template).isSome = true
    split <;> rfl
  obtain ⟨pods, hpath, hpods⟩ := setPath_allServing (m := m.synced) rfl hcurrent
    m.object.spec.size (Nat.le_refl _)
  have hcoherent : ({ m.synced with pods := pods } : ManagedSet Template).Coherent :=
    ⟨Nat.le_refl _, (if_neg (Nat.pos_iff_ne_zero.mp hpos)).symm⟩
  refine ⟨({ m.synced with pods := pods } : ManagedSet Template).synced,
    (hfirst.trans hpath).trans (setPath_synced hcoherent hpos), normal_synced ?_, rfl, rfl⟩
  intro ordinal hlt
  obtain ⟨pod, hpod, hserving, htemplate⟩ := hpods ordinal hlt
  exact ⟨pod, hpod, hserving, fun hfrom => (Option.some.inj (htemplate hfrom)).symm⟩

end LittleRed.Lib
