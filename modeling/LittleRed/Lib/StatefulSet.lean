import Mathlib.Data.Int.Notation
import Mathlib.Logic.Function.Basic
import Mathlib.Data.List.Basic

/-!
# StatefulSets and their controller

The API object keeps every spec it has had, since the controller may act on any generation from the one
its status last observed on. Revisions are content-addressed: the model stores the template and derives
the name from it. The controller takes small steps: it writes a status, starts deleting a pod of the range
it may update, sees a deleted pod disappear, and fills an empty ordinal.
-/

namespace LittleRed.Lib

open Function

/-- Content-addressed names for the revisions of a pod template. -/
structure RevisionNaming (Template : Type*) where
  revision : Template → String
  injective : Injective revision
  nonempty : ∀ template, revision template ≠ ""

/-- The spec fields that drive a rolling update; `none` is an unset pointer. -/
structure StsSpec (Template : Type*) where
  replicas : Option ℕ
  template : Template
  partition : Option ℤ
  deriving DecidableEq

/-- The API server fills in an unset partition with zero. -/
def StsSpec.defaulted {Template : Type*} (spec : StsSpec Template) : StsSpec Template :=
  { spec with partition := some (spec.partition.getD 0) }

/-- The controller's report, with each revision represented by its template. -/
structure StsStatus (Template : Type*) where
  observedGeneration : ℕ
  updateTemplate : Option Template
  currentTemplate : Option Template
  updatedReplicas : ℕ
  readyReplicas : ℕ
  replicas : ℕ
  deriving DecidableEq

/-- A StatefulSet object, with the spec of every generation so far. -/
structure StatefulSet (Template : Type*) where
  generation : ℕ
  specAt : ℕ → StsSpec Template
  status : StsStatus Template

/-- A pod, with the template that its revision label names. -/
structure StsPod (Template : Type*) where
  template : Template
  ready : Bool
  containerReady : Bool
  readySince : Option ℤ
  terminating : Bool

/-- A StatefulSet together with the pods of its ordinals. -/
structure ManagedSet (Template : Type*) where
  object : StatefulSet Template
  pods : ℕ → Option (StsPod Template)

variable {Template : Type*}

/-- The name of an optional revision; an unset one reads as the empty string. -/
def RevisionNaming.name (naming : RevisionNaming Template) (template : Option Template) : String :=
  (template.map naming.revision).getD ""

/-- Only the missing revision has the empty name. -/
theorem RevisionNaming.name_eq_empty_iff (naming : RevisionNaming Template)
    (template : Option Template) : naming.name template = "" ↔ template = none := by
  cases template with
  | none => simp [RevisionNaming.name]
  | some t => simp [RevisionNaming.name, naming.nonempty t]

/-- Names tell revisions apart. -/
theorem RevisionNaming.name_inj (naming : RevisionNaming Template)
    {left right : Option Template} : naming.name left = naming.name right ↔ left = right := by
  constructor
  · intro h
    cases left with
    | none => exact ((naming.name_eq_empty_iff right).mp h.symm).symm
    | some a =>
      cases right with
      | none => exact (naming.name_eq_empty_iff (some a)).mp h
      | some b => exact congrArg some (naming.injective (by simpa [RevisionNaming.name] using h))
  · rintro rfl
    rfl

namespace StatefulSet

def spec (o : StatefulSet Template) : StsSpec Template := o.specAt o.generation

/-- The spec of the generation that the status last observed. -/
def observedSpec (o : StatefulSet Template) : StsSpec Template :=
  o.specAt o.status.observedGeneration

/-- A freshly created object has one generation and an empty status. -/
def create (spec : StsSpec Template) : StatefulSet Template where
  generation := 1
  specAt := fun _ => spec.defaulted
  status := ⟨0, none, none, 0, 0, 0⟩

/-- Record a spec as a new generation. -/
def push (o : StatefulSet Template) (spec : StsSpec Template) : StatefulSet Template :=
  { o with
    generation := o.generation + 1
    specAt := update o.specAt (o.generation + 1) spec }

@[simp] theorem push_spec (o : StatefulSet Template) (spec : StsSpec Template) :
    (o.push spec).spec = spec := by
  simp [push, StatefulSet.spec]

theorem push_specAt (o : StatefulSet Template) (spec : StsSpec Template) {g : ℕ}
    (hg : g ≤ o.generation) : (o.push spec).specAt g = o.specAt g :=
  update_of_ne (by omega) _ _

/-- Applying a spec records a new generation exactly when something changes. -/
def apply [DecidableEq Template] (o : StatefulSet Template) (new : StsSpec Template) :
    StatefulSet Template :=
  if o.spec = new.defaulted then o else o.push new.defaulted

variable (o : StatefulSet Template)

variable (new : StsSpec Template)

/-- After an apply, the current spec is the applied one with its defaults. -/
@[simp] theorem apply_spec [DecidableEq Template] : (o.apply new).spec = new.defaulted := by
  unfold apply
  split
  · assumption
  · exact o.push_spec _

@[simp] theorem apply_status [DecidableEq Template] : (o.apply new).status = o.status := by
  unfold apply
  split <;> rfl

theorem apply_specAt [DecidableEq Template] {g : ℕ} (hg : g ≤ o.generation) :
    (o.apply new).specAt g = o.specAt g := by
  unfold apply
  split
  · rfl
  · exact o.push_specAt _ hg

/-- Applying the spec that is there changes nothing; another one is a new generation. -/
theorem apply_cases [DecidableEq Template] :
    o.spec = new.defaulted ∧ o.apply new = o ∨
      o.spec ≠ new.defaulted ∧ o.apply new = o.push new.defaulted := by
  unfold apply
  split
  · exact .inl ⟨‹_›, rfl⟩
  · exact .inr ⟨‹_›, rfl⟩

theorem generation_le_apply [DecidableEq Template] : o.generation ≤ (o.apply new).generation := by
  unfold apply
  split
  · exact Nat.le_refl _
  · exact Nat.le_succ _

end StatefulSet

/-- The first ordinal that the controller may update; an unset partition is zero. -/
def StsSpec.updateFrom (spec : StsSpec Template) : ℕ := (spec.partition.getD 0).toNat

/-- The number of pods asked for; an unset count is one. -/
def StsSpec.size (spec : StsSpec Template) : ℕ := spec.replicas.getD 1

/-- A live pod created from the given template. -/
def podUpdated [DecidableEq Template] (template : Template) : Option (StsPod Template) → Bool
  | some pod => !pod.terminating && decide (pod.template = template)
  | none => false

/-- A live pod that the kubelet calls ready. -/
def podReady : Option (StsPod Template) → Bool
  | some pod => !pod.terminating && pod.ready
  | none => false

/-- Count the ordinals below a size whose pod has a property. -/
def countOrdinals (size : ℕ) (pods : ℕ → Option (StsPod Template))
    (test : Option (StsPod Template) → Bool) : ℕ :=
  ((List.range size).filter fun ordinal => test (pods ordinal)).length

/-- All ordinals are counted when each passes the test. -/
theorem countOrdinals_eq_size_iff (size : ℕ) (pods : ℕ → Option (StsPod Template))
    (test : Option (StsPod Template) → Bool) :
    countOrdinals size pods test = size ↔ ∀ ordinal < size, test (pods ordinal) = true := by
  have hlength := List.length_filter_eq_length_iff
    (p := fun ordinal => test (pods ordinal)) (l := List.range size)
  rw [List.length_range] at hlength
  rw [countOrdinals, hlength]
  simp

/-- What the StatefulSet controller can do in one step. -/
inductive ControllerAction where
  | sync (generation : ℕ)
  | delete (ordinal : ℕ)
  | remove (ordinal : ℕ)
  | fill (ordinal : ℕ)

/-- The status for a generation; the current revision moves once every replica is updated and ready. -/
def syncStatus [DecidableEq Template] (m : ManagedSet Template) (generation : ℕ) :
    StsStatus Template :=
  let spec := m.object.specAt generation
  let updated := countOrdinals spec.size m.pods (podUpdated spec.template)
  let ready := countOrdinals spec.size m.pods podReady
  let current := m.object.status.currentTemplate.getD spec.template
  { observedGeneration := generation
    updateTemplate := some spec.template
    currentTemplate :=
      if updated = spec.size ∧ ready = spec.size then some spec.template else some current
    updatedReplicas := updated
    readyReplicas := ready
    replicas := countOrdinals spec.size m.pods Option.isSome }

/-- Replace the pod of one ordinal. -/
def ManagedSet.setPod (m : ManagedSet Template) (ordinal : ℕ) (pod : Option (StsPod Template)) :
    ManagedSet Template :=
  { m with pods := update m.pods ordinal pod }

/-- The pod for an empty ordinal: not ready, and from the current revision below the partition. -/
def newPod (m : ManagedSet Template) (ordinal : ℕ) : Option (StsPod Template) :=
  let template :=
    if ordinal < m.object.observedSpec.updateFrom then m.object.status.currentTemplate
    else m.object.status.updateTemplate
  template.map fun template => ⟨template, false, false, none, false⟩

variable {m m' : ManagedSet Template} {ordinal : ℕ}

variable {pod : StsPod Template} {action : ControllerAction}

/-- Below the partition a pod has the current template, from there on the update template. -/
theorem newPod_template (h : newPod m ordinal = some pod) :
    ordinal < m.object.observedSpec.updateFrom ∧ m.object.status.currentTemplate = some pod.template ∨
      m.object.observedSpec.updateFrom ≤ ordinal ∧ m.object.status.updateTemplate = some pod.template := by
  obtain ⟨template, htemplate, rfl⟩ := Option.map_eq_some_iff.mp h
  split at htemplate
  · exact .inl ⟨‹_›, htemplate⟩
  · exact .inr ⟨Nat.not_lt.mp ‹_›, htemplate⟩

/-- One controller step; `none` when it is not enabled. -/
def controllerStep [DecidableEq Template] (m : ManagedSet Template) :
    ControllerAction → Option (ManagedSet Template)
  | .sync generation =>
    if m.object.status.observedGeneration ≤ generation ∧ 0 < generation ∧
        generation ≤ m.object.generation then
      some { m with object := { m.object with status := syncStatus m generation } }
    else none
  | .delete ordinal =>
    match m.pods ordinal with
    | none => none
    | some pod =>
      if m.object.observedSpec.updateFrom ≤ ordinal ∧ pod.terminating = false ∧
          some pod.template ≠ m.object.status.updateTemplate then
        some (m.setPod ordinal (some { pod with terminating := true }))
      else none
  | .remove ordinal =>
    match m.pods ordinal with
    | none => none
    | some pod => if pod.terminating then some (m.setPod ordinal none) else none
  | .fill ordinal =>
    match m.pods ordinal with
    | some _ => none
    | none =>
      if ordinal < m.object.observedSpec.size then
        (newPod m ordinal).map fun pod => m.setPod ordinal (some pod)
      else none

/-- The kubelet's report about one pod. -/
def kubeletReport (m : ManagedSet Template) (ordinal : ℕ) (ready containerReady : Bool)
    (readySince : Option ℤ) : Option (ManagedSet Template) :=
  (m.pods ordinal).map fun pod =>
    m.setPod ordinal (some { pod with
      ready := ready
      containerReady := containerReady
      readySince := readySince })

/-- A report changes the conditions of one pod. -/
theorem kubeletReport_cases {ready containerReady : Bool} {readySince : Option ℤ}
    (h : kubeletReport m ordinal ready containerReady readySince = some m') :
    ∃ pod, m.pods ordinal = some pod ∧ m' = m.setPod ordinal (some { pod with
        ready := ready, containerReady := containerReady, readySince := readySince }) := by
  obtain ⟨pod, hpod, rfl⟩ := Option.map_eq_some_iff.mp h
  exact ⟨pod, hpod, rfl⟩

/-- One ordinal is set. -/
theorem ManagedSet.setPod_pods (m : ManagedSet Template) (ordinal : ℕ)
    (pod : Option (StsPod Template)) (i : ℕ) :
    (m.setPod ordinal pod).pods i = if i = ordinal then pod else m.pods i := by
  by_cases h : i = ordinal <;> simp [ManagedSet.setPod, h]

/-- A pod afterwards is the one set or was there before. -/
theorem ManagedSet.pods_of_setPod {i : ℕ} {put : StsPod Template}
    (h : (m.setPod ordinal (some put)).pods i = some pod) :
    (i = ordinal ∧ pod = put) ∨ m.pods i = some pod := by
  rw [ManagedSet.setPod_pods] at h
  split at h
  · rename_i heq
    exact .inl ⟨heq, (Option.some.inj h).symm⟩
  · exact .inr h

@[simp] theorem ManagedSet.setPod_pods_self (m : ManagedSet Template) (ordinal : ℕ)
    (pod : Option (StsPod Template)) : (m.setPod ordinal pod).pods ordinal = pod := by
  simp [ManagedSet.setPod]

/-- Of two replacements of the same pod, the last one counts. -/
@[simp] theorem ManagedSet.setPod_setPod (m : ManagedSet Template) (ordinal : ℕ)
    (first last : Option (StsPod Template)) :
    (m.setPod ordinal first).setPod ordinal last = m.setPod ordinal last := by
  simp [ManagedSet.setPod]

/-- What ties a managed set's status and pods to the history of its specs. -/
structure ManagedSet.Coherent (m : ManagedSet Template) : Prop where
  observed_le : m.object.status.observedGeneration ≤ m.object.generation
  update_eq : m.object.status.updateTemplate =
    if m.object.status.observedGeneration = 0 then none
    else some m.object.observedSpec.template

/-- The update template is the observed one. -/
theorem ManagedSet.Coherent.eq_observed (hm : m.Coherent) {template : Template}
    (h : m.object.status.updateTemplate = some template) :
    template = m.object.observedSpec.template := by
  rw [hm.update_eq] at h
  split at h
  · cases h
  · exact (Option.some.inj h).symm

theorem ManagedSet.coherent_create (spec : StsSpec Template)
    (pods : ℕ → Option (StsPod Template)) : (ManagedSet.mk (.create spec) pods).Coherent :=
  ⟨Nat.zero_le _, rfl⟩

/-- Applying a spec keeps a set coherent: the observed generation's spec is not rewritten. -/
theorem ManagedSet.Coherent.apply [DecidableEq Template] (h : m.Coherent) (new : StsSpec Template) :
    ({ m with object := m.object.apply new } : ManagedSet Template).Coherent := by
  refine ⟨?_, ?_⟩
  · simpa using Nat.le_trans h.observed_le (m.object.generation_le_apply new)
  · have hobserved : (m.object.apply new).observedSpec = m.object.observedSpec := by
      unfold StatefulSet.observedSpec
      rw [StatefulSet.apply_status, m.object.apply_specAt new h.observed_le]
    simpa [hobserved] using h.update_eq

/-- What a controller step makes of a set. -/
inductive ControllerEffect [DecidableEq Template] (m : ManagedSet Template) :
    ManagedSet Template → Prop
  | sync {g : ℕ} (hlow : m.object.status.observedGeneration ≤ g) (hpos : 0 < g)
      (hhigh : g ≤ m.object.generation) :
      ControllerEffect m { m with object := { m.object with status := syncStatus m g } }
  | delete {ordinal : ℕ} {pod : StsPod Template} (hpod : m.pods ordinal = some pod)
      (hfrom : m.object.observedSpec.updateFrom ≤ ordinal) :
      ControllerEffect m (m.setPod ordinal (some { pod with terminating := true }))
  | remove {ordinal : ℕ} {pod : StsPod Template} (hpod : m.pods ordinal = some pod)
      (hterminating : pod.terminating = true) : ControllerEffect m (m.setPod ordinal none)
  | fill {ordinal : ℕ} {pod : StsPod Template} (hnew : newPod m ordinal = some pod)
      (hempty : m.pods ordinal = none) : ControllerEffect m (m.setPod ordinal (some pod))

/-- What a step of the controller can do. -/
theorem controllerStep_effect [DecidableEq Template] (h : controllerStep m action = some m') :
    ControllerEffect m m' := by
  cases action with
  | sync g =>
    simp only [controllerStep] at h
    split at h
    · rename_i hg
      cases h
      exact .sync hg.1 hg.2.1 hg.2.2
    · cases h
  | delete ordinal =>
    simp only [controllerStep] at h
    split at h
    · cases h
    split at h
    · rename_i pod hpod hdelete
      cases h
      exact .delete hpod hdelete.1
    · cases h
  | remove ordinal =>
    simp only [controllerStep] at h
    split at h
    · cases h
    split at h
    · rename_i pod hpod hterminating
      cases h
      exact .remove hpod hterminating
    · cases h
  | fill ordinal =>
    simp only [controllerStep] at h
    split at h
    · cases h
    rename_i hempty
    split at h
    · obtain ⟨pod, hnew, rfl⟩ := Option.map_eq_some_iff.mp h
      exact .fill hnew hempty
    · cases h

/-- Steps of the controller keep the object coherent. -/
theorem ManagedSet.Coherent.controllerStep [DecidableEq Template] (hm : m.Coherent)
    (h : Lib.controllerStep m action = some m') : m'.Coherent := by
  cases controllerStep_effect h with
  | sync hlow hpos hhigh =>
    refine ⟨hhigh, ?_⟩
    simp [syncStatus, StatefulSet.observedSpec, Nat.pos_iff_ne_zero.mp hpos]
  | delete | remove | fill => exact ⟨hm.observed_le, hm.update_eq⟩

end LittleRed.Lib
