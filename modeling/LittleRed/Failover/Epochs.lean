import LittleRed.Failover.Incarnation
import LittleRed.Failover.Issue

/-!
# The epochs of assignments over runs

The counter of the epochs is not stored: a pass takes the highest epoch on any pod, so it goes back when
those pods go. Over runs whose passes list the pods as they are the assignments stay coherent all the same:
an outstanding one is above what its own pod has and, if for a master, above all. That is so as long as
the counter does not come to the last 64-bit integer.
-/

namespace LittleRed.Failover

open Lib Replication List Function

def Pod.assignment (pod : Pod) : Option (String × ℤ) := pod.current.annotations.assignment

/-- The list shows the pods that exist, each as it is. -/
structure ListsPods (s : State) (podList : List PodObject) : Prop where
  nodup : (podList.map (·.name)).Nodup
  shown : ∀ p ∈ podList, ∃ pod, s.pods p.name = some pod ∧ p = pod.object p.name
  complete : ∀ name pod, s.pods name = some pod → pod.object name ∈ podList

/-- A new pod has a name, and passes list and read the pods as they are. -/
def ReadsCurrent (s : State) : Label → Prop
  | .create name => name ≠ ""
  | .bootstrap _ _ podList => ListsPods s podList
  | .assign _ podList _ _ _ => ListsPods s podList
  | .get (some read) => ∀ planned ∈ s.phase.outstanding.head?,
      (s.pods planned.stamp.podName).map (·.current.annotations) = some read
  | _ => True

/-- The pass finds an epoch after the highest one. -/
def EpochLeft (a : Label) : Prop :=
  (resolveFailoverIntent (buildFailoverPodViews a.podList none)).maxEpoch < 2 ^ 63 - 1

/-- No two masters at one epoch, no pod's epoch went down, the intent is the highest master, and
fresh assignments spare the intended, the live and terminating ones. -/
structure Coherent (s : State) : Prop where
  distinct : ∀ name pod name' pod' e, s.pods name = some pod → s.pods name' = some pod' →
    pod.assignment = some (roleMaster, e) → pod'.assignment = some (roleMaster, e) → name = name'
  monotone : ∀ name pod, s.pods name = some pod → pod.versions.Pairwise fun newer older =>
    ∀ role e, older.annotations.assignment = some (role, e) →
      ∃ role' e', newer.annotations.assignment = some (role', e') ∧ e ≤ e'
  intended : ∀ podList state name pod e, ListsPods s podList → s.pods name = some pod →
    pod.assignment = some (roleMaster, e) →
    (∀ name' pod' e', s.pods name' = some pod' → pod'.assignment = some (roleMaster, e') → e' ≤ e) →
      let intent := resolveFailoverIntent (buildFailoverPodViews podList state)
      intent.masterName = name ∧ intent.masterIP = pod.ip ∧
        ∀ name' pod' e', s.pods name' = some pod' → pod'.assignment = some (roleMaster, e') → e' < e →
          intent.masterName ≠ name'
  reauthorized : ∀ podList state liveMasterIP, ListsPods s podList →
    let views := buildFailoverPodViews podList state
    let intent := resolveFailoverIntent views
    ∀ planned ∈ planFailoverReauth views intent liveMasterIP,
      planned.stamp.podName ≠ intent.masterName ∧
        ∃ pod, s.pods planned.stamp.podName = some pod ∧ pod.terminating = false ∧ pod.ip ≠ liveMasterIP

theorem ListsPods.named {s : State} {podList : List PodObject} (h : ListsPods s podList)
    (hnamed : s.pods "" = none) : Named podList := by
  intro p hp hempty
  obtain ⟨pod, hpod, -⟩ := h.shown p hp
  rw [hempty, hnamed] at hpod
  cases hpod

/-- The assignment is not below that of its pod and, if for a master, above those of all masters. -/
structure Ahead (pods : String → Option Pod) (stamp : FailoverStamp) : Prop where
  own : ∀ pod, pods stamp.podName = some pod → ∀ role e, pod.assignment = some (role, e) → e ≤ stamp.epoch
  masters : stamp.role = roleMaster → ∀ name pod e, pods name = some pod →
    pod.assignment = some (roleMaster, e) → e < stamp.epoch

section Invariant

variable {pods pods' : String → Option Pod} {pod pod' : Pod} {name : String}

/-- No annotation is written: a pod has the ones that it had, or it is fresh. -/
def Quiet (pods pods' : String → Option Pod) : Prop :=
  ∀ name pod', pods' name = some pod' →
    pod'.versions = Pod.fresh.versions ∨ ∃ pod, pods name = some pod ∧ pod'.versions = pod.versions

theorem current_eq_of_versions (h : pod'.versions = pod.versions) : pod'.current = pod.current :=
  (List.cons.inj h).1

variable {assignment : String × ℤ}

/-- A quiet step writes no assignment. -/
theorem Quiet.assigned (h : Quiet pods pods') (hpod : pods' name = some pod')
    (hassigned : pod'.assignment = some assignment) :
    ∃ pod, pods name = some pod ∧ pod.assignment = some assignment := by
  rcases h name pod' hpod with hfresh | ⟨pod, hbefore, hsame⟩
  · rw [Pod.assignment, current_eq_of_versions hfresh] at hassigned
    cases hassigned
  · rw [Pod.assignment, current_eq_of_versions hsame] at hassigned
    exact ⟨pod, hbefore, hassigned⟩

/-- What holds of the assignments on the pods. -/
structure Kept (pods : String → Option Pod) : Prop where
  named : pods "" = none
  distinct : ∀ name pod name' pod' e, pods name = some pod → pods name' = some pod' →
    pod.assignment = some (roleMaster, e) → pod'.assignment = some (roleMaster, e) → name = name'
  monotone : ∀ name pod, pods name = some pod → pod.versions.Pairwise fun newer older =>
    ∀ role e, older.annotations.assignment = some (role, e) →
      ∃ role' e', newer.annotations.assignment = some (role', e') ∧ e ≤ e'

/-- A quiet step keeps the assignments coherent. -/
theorem Kept.quiet (h : Kept pods) (hquiet : Quiet pods pods') (hnamed : pods' "" = none) : Kept pods' := by
  refine ⟨hnamed, ?_, ?_⟩
  · intro name pod name' pod' e hpod hpod' hassigned hassigned'
    obtain ⟨before, hbefore, hassigned⟩ := hquiet.assigned hpod hassigned
    obtain ⟨before', hbefore', hassigned'⟩ := hquiet.assigned hpod' hassigned'
    exact h.distinct name before name' before' e hbefore hbefore' hassigned hassigned'
  · intro name pod hpod
    rcases hquiet name pod hpod with hfresh | ⟨before, hbefore, hsame⟩
    · rw [hfresh]
      exact pairwise_singleton _ _
    · rw [hsame]
      exact h.monotone name before hbefore

variable {stamp : FailoverStamp} {planned : PlannedStamp} {rest : List PlannedStamp} {failed bootstrap : Bool}
  {transition : Option ℤ} {read : Annotations}

/-- A quiet step keeps an assignment ahead. -/
theorem Ahead.quiet (h : Ahead pods stamp) (hquiet : Quiet pods pods') :
    Ahead pods' stamp := by
  refine ⟨fun pod hpod role e hassigned => ?_, fun hmaster name pod e hpod hassigned => ?_⟩
  · obtain ⟨before, hbefore, hassigned⟩ := hquiet.assigned hpod hassigned
    exact h.own before hbefore role e hassigned
  · obtain ⟨before, hbefore, hassigned⟩ := hquiet.assigned hpod hassigned
    exact h.masters hmaster name before e hbefore hassigned

/-- What a pass is about to write, and what it read of the pod for it. -/
def Phase.fetched : Phase → Option (PlannedStamp × Annotations)
  | .stamping ⟨planned :: _, some read, _, _, _⟩ => some (planned, read)
  | _ => none

/-- The outstanding assignments are ahead; the pod that was read is as it was, or was replaced. -/
structure Pending (pods : String → Option Pod) (phase : Phase) : Prop where
  apart : phase.outstanding.Pairwise Apart
  legible : ∀ planned ∈ phase.outstanding, Legible planned.stamp
  ahead : ∀ planned ∈ phase.outstanding, Ahead pods planned.stamp
  fetched : ∀ planned read, phase.fetched = some (planned, read) →
    ∀ pod, pods planned.stamp.podName = some pod →
      pod.current.annotations = read ∨ pod.current.annotations = {}

theorem pending_idle (pods : String → Option Pod) : Pending pods .idle :=
  ⟨.nil, forall_mem_nil _, forall_mem_nil _, fun _ _ h => by cases h⟩

/-- A quiet step keeps what is outstanding. -/
theorem Pending.quiet {phase : Phase} (h : Pending pods phase) (hquiet : Quiet pods pods') :
    Pending pods' phase := by
  refine ⟨h.apart, h.legible, fun planned hmem => (h.ahead planned hmem).quiet hquiet, ?_⟩
  intro planned read hfetched pod hpod
  rcases hquiet _ pod hpod with hfresh | ⟨before, hbefore, hsame⟩
  · rw [current_eq_of_versions hfresh]
    exact .inr rfl
  · rw [current_eq_of_versions hsame]
    exact h.fetched planned read hfetched before hbefore

/-- An assignment may be given up. -/
theorem Pending.next {fetched : Option Annotations} {failed' : Bool}
    (h : Pending pods (.stamping ⟨planned :: rest, fetched, failed, transition, bootstrap⟩)) :
    Pending pods (.stamping ⟨rest, none, failed', transition, bootstrap⟩) := by
  refine ⟨h.apart.of_cons, fun q hq => h.legible q (mem_cons_of_mem _ hq),
    fun q hq => h.ahead q (mem_cons_of_mem _ hq), fun q read hfetched => ?_⟩
  simp [Phase.fetched] at hfetched

/-- What a pass decides to write is ahead. -/
theorem Pending.start {s : State} {podList : List PodObject} {stamps : List PlannedStamp}
    (hkept : Kept s.pods) (hlists : ListsPods s podList)
    (hleft : (resolveFailoverIntent (buildFailoverPodViews podList none)).maxEpoch < 2 ^ 63 - 1)
    {state : Option ReplicationState} (hstamps : PassStamps podList state stamps)
    (transition : Option ℤ) (bootstrap : Bool) :
    Pending s.pods (.stamping ⟨stamps, none, false, transition, bootstrap⟩) := by
  have hnamed := hlists.named hkept.named
  have hissued := hstamps.issuedAt hnamed hlists.nodup hleft
  have hnonneg := maxEpoch_nonneg hnamed none
  have hassigned : ∀ name pod role e, s.pods name = some pod → pod.assignment = some (role, e) →
      e ≤ (resolveFailoverIntent (buildFailoverPodViews podList none)).maxEpoch := by
    intro name pod role e hpod ha
    exact epoch_le_maxEpoch hnamed none (hlists.complete name pod hpod) ha
  refine ⟨hissued.apart, hissued.legible hnonneg hleft, fun planned hmem => ⟨?_, ?_⟩,
    fun _ _ hfetched => ?_⟩
  · intro pod hpod role e ha
    exact (hassigned _ pod role e hpod ha).trans (hissued.above planned hmem).1
  · intro hmaster name pod e hpod ha
    exact (hassigned name pod roleMaster e hpod ha).trans_lt (hissued.master planned hmem hmaster)
  · simp [Phase.fetched] at hfetched

/-- A patch does not lower the epoch of the pod. -/
theorem versions_patched (hlegible : Legible stamp)
    (hread : pod.current.annotations = read ∨ pod.current.annotations = {})
    (hmonotone : pod.versions.Pairwise fun newer older => ∀ role e,
      older.annotations.assignment = some (role, e) →
        ∃ role' e', newer.annotations.assignment = some (role', e') ∧ e ≤ e')
    (hown : ∀ role e, pod.assignment = some (role, e) → e ≤ stamp.epoch) (now : ℕ) :
    (pod.annotate (stamp.patched read pod.current now)).versions.Pairwise fun newer older => ∀ role e,
      older.annotations.assignment = some (role, e) →
        ∃ role' e', newer.annotations.assignment = some (role', e') ∧ e ≤ e' := by
  refine pairwise_cons.mpr ⟨fun older holder role e hassigned => ?_, hmonotone⟩
  -- An older version with an assignment means that the pod has one now, so it is not a fresh one.
  have hcurrent : ∃ role' e', pod.assignment = some (role', e') ∧ e ≤ e' := by
    rcases mem_cons.mp holder with rfl | hformer
    · exact ⟨role, e, hassigned, le_refl e⟩
    · exact rel_of_pairwise_cons hmonotone hformer role e hassigned
  obtain ⟨role', e', hassigned', hle⟩ := hcurrent
  rcases hlegible.assignment_patched now hread with hnew | ⟨hempty, -⟩
  · exact ⟨stamp.role, stamp.epoch, hnew, hle.trans (hown role' e' hassigned')⟩
  · rw [Pod.assignment, hempty] at hassigned'
    cases hassigned'

/-- A patch that leaves an assignment leaves its own. -/
theorem assignment_annotate (hlegible : Legible stamp)
    (hread : pod.current.annotations = read ∨ pod.current.annotations = {}) (now : ℕ)
    (h : (pod.annotate (stamp.patched read pod.current now)).assignment = some assignment) :
    assignment = (stamp.role, stamp.epoch) := by
  rcases hlegible.assignment_patched now hread with hnew | ⟨-, hnone⟩
  · exact (Option.some.inj (hnew.symm.trans h)).symm
  · cases hnone.symm.trans h

/-- Writing an assignment that is ahead keeps them coherent. -/
theorem Kept.patch (hkept : Kept pods)
    (h : Pending pods (.stamping ⟨planned :: rest, some read, failed, transition, bootstrap⟩))
    (hpod : pods planned.stamp.podName = some pod) (now : ℕ) :
    Kept (update pods planned.stamp.podName
      (some (pod.annotate (planned.stamp.patched read pod.current now)))) := by
  have hlegible := h.legible planned mem_cons_self
  have hahead := h.ahead planned mem_cons_self
  have hread := h.fetched planned read rfl pod hpod
  -- A pod that is assigned the role of the master is the one that was written or has a lower epoch.
  have hmaster : ∀ name other e, update pods planned.stamp.podName
      (some (pod.annotate (planned.stamp.patched read pod.current now))) name = some other →
      other.assignment = some (roleMaster, e) →
        (name = planned.stamp.podName ∧ planned.stamp.role = roleMaster ∧ e = planned.stamp.epoch) ∨
          (name ≠ planned.stamp.podName ∧ pods name = some other) := by
    intro name other e hother hassigned
    by_cases hname : name = planned.stamp.podName
    · subst hname
      rw [update_self, Option.some.injEq] at hother
      subst hother
      obtain ⟨hrole, hepoch⟩ := Prod.mk.inj (assignment_annotate hlegible hread now hassigned)
      exact .inl ⟨rfl, hrole.symm, hepoch⟩
    · rw [update_of_ne hname] at hother
      exact .inr ⟨hname, hother⟩
  refine ⟨?_, fun name first name' second e hfirst hsecond hassigned hassigned' => ?_,
    fun name other hother => ?_⟩
  · have hne : "" ≠ planned.stamp.podName := by
      intro hempty
      rw [← hempty, hkept.named] at hpod
      cases hpod
    rw [update_of_ne hne]
    exact hkept.named
  · rcases hmaster name first e hfirst hassigned with ⟨hname, hrole, hepoch⟩ | ⟨hname, hbefore⟩
    · rcases hmaster name' second e hsecond hassigned' with ⟨hname', -⟩ | ⟨-, hbefore'⟩
      · rw [hname, hname']
      · have hlt := hahead.masters hrole name' second e hbefore' hassigned'
        omega
    · rcases hmaster name' second e hsecond hassigned' with ⟨-, hrole, hepoch⟩ | ⟨-, hbefore'⟩
      · have hlt := hahead.masters hrole name first e hbefore hassigned
        omega
      · exact hkept.distinct name first name' second e hbefore hbefore' hassigned hassigned'
  · by_cases hname : name = planned.stamp.podName
    · subst hname
      rw [update_self, Option.some.injEq] at hother
      subst hother
      exact versions_patched hlegible hread (hkept.monotone _ pod hpod) (hahead.own pod hpod) now
    · rw [update_of_ne hname] at hother
      exact hkept.monotone name other hother

/-- Writing one assignment keeps the others ahead. -/
theorem Pending.patch
    (h : Pending pods (.stamping ⟨planned :: rest, some read, failed, transition, bootstrap⟩))
    (hpod : pods planned.stamp.podName = some pod) (now : ℕ) :
    Pending (update pods planned.stamp.podName
        (some (pod.annotate (planned.stamp.patched read pod.current now))))
      (.stamping ⟨rest, none, failed, transition, bootstrap⟩) := by
  have hlegible := h.legible planned mem_cons_self
  have hread := h.fetched planned read rfl pod hpod
  have hnext : Pending pods (.stamping ⟨rest, none, failed, transition, bootstrap⟩) := h.next
  refine ⟨hnext.apart, hnext.legible, fun q hq => ?_, fun q read hfetched => ?_⟩
  · obtain ⟨hname, hmasters⟩ := rel_of_pairwise_cons h.apart hq
    have hahead := hnext.ahead q hq
    refine ⟨fun other hother => ?_, fun hmaster name other e hother hassigned => ?_⟩
    · rw [update_of_ne hname.symm] at hother
      exact hahead.own other hother
    · by_cases hsame : name = planned.stamp.podName
      · subst hsame
        rw [update_self, Option.some.injEq] at hother
        subst hother
        have hrole := (Prod.mk.inj (assignment_annotate hlegible hread now hassigned)).1
        exact absurd ⟨hrole.symm, hmaster⟩ hmasters
      · rw [update_of_ne hsame] at hother
        exact hahead.masters hmaster name other e hother hassigned
  · simp [Phase.fetched] at hfetched

end Invariant

section Step

variable {s s' : State} {a : Label}

theorem Quiet.refl (pods : String → Option Pod) : Quiet pods pods := fun _ pod hpod => .inr ⟨pod, hpod, rfl⟩

variable {name : String} {pod' : Pod} {inst : Instance}

/-- So is a change that keeps the versions. -/
theorem Quiet.update {pods : String → Option Pod} {pod : Pod} (hpod : pods name = some pod)
    (hsame : pod'.versions = pod.versions) :
    Quiet pods (update pods name (some pod')) := by
  intro other found hfound
  by_cases hname : other = name
  · subst hname
    rw [update_self, Option.some.injEq] at hfound
    exact .inr ⟨pod, hpod, hfound ▸ hsame⟩
  · rw [update_of_ne hname] at hfound
    exact .inr ⟨found, hfound, rfl⟩

/-- Every step but an accepted patch is quiet. -/
theorem quiet_of_effect (h : Effect s a s') (hne : a ≠ .patch true) : Quiet s.pods s'.pods := by
  cases h with
  | create hnew =>
    intro other found hfound
    simp only [State.setPod, update_apply] at hfound
    split at hfound
    · cases hfound
      exact .inl rfl
    · exact .inr ⟨found, hfound, rfl⟩
  | report hpod hreport => exact .update hpod hreport.versions
  | remove =>
    intro other found hfound
    simp only [State.setPod, update_apply] at hfound
    split at hfound
    · cases hfound
    · exact .inr ⟨found, hfound, rfl⟩
  | restart hpod | kill hpod | start hpod => exact .update hpod rfl
  | decide | proceed => exact .refl _
  | patch => exact absurd rfl hne

/-- Pods appear only by creation. -/
theorem exists_of_effect (h : Effect s a s') (hpod' : s'.pods name = some pod') :
    (∃ pod, s.pods name = some pod) ∨ a = .create name := by
  have hupdate : ∀ {other : String} {pod new : Pod}, s.pods other = some pod →
      update s.pods other (some new) name = some pod' → ∃ pod, s.pods name = some pod := by
    intro other pod new hpod hupdated
    rw [update_apply] at hupdated
    split at hupdated
    · rename_i hname
      exact ⟨pod, hname ▸ hpod⟩
    · exact ⟨pod', hupdated⟩
  cases h with
  | create hnew =>
    simp only [State.setPod, update_apply] at hpod'
    split at hpod'
    · rename_i hname
      exact .inr (by rw [hname])
    · exact .inl ⟨pod', hpod'⟩
  | remove =>
    simp only [State.setPod, update_apply] at hpod'
    split at hpod'
    · cases hpod'
    · exact .inl ⟨pod', hpod'⟩
  | report hpod | restart hpod | kill hpod | start hpod => exact .inl (hupdate hpod hpod')
  | decide | proceed => exact .inl ⟨pod', hpod'⟩
  | patch _ _ hpod => exact .inl (hupdate hpod hpod')

/-- Reading the pod before the patch. -/
theorem Pending.get {read : Option Annotations} (h : Pending s.pods s.phase)
    (hguard : ReadsCurrent s (.get read)) (hstep : operatorStep inst s (.get read) = some s') :
    s'.pods = s.pods ∧ Pending s.pods s'.phase := by
  simp only [operatorStep] at hstep
  split at hstep
  · rename_i planned rest failed transition bootstrap hphase
    rw [hphase] at h
    split at hstep
    · cases hstep
      exact ⟨rfl, h.next⟩
    · rename_i annotations
      split at hstep
      · cases hstep
        exact ⟨rfl, h.next⟩
      · cases hstep
        refine ⟨rfl, h.apart, h.legible, h.ahead, fun q read hfetched pod hpod => ?_⟩
        have hcurrent := hguard planned (by rw [hphase]; rfl)
        obtain ⟨rfl, rfl⟩ := Prod.mk.inj (Option.some.inj hfetched)
        rw [hpod, Option.map_some, Option.some.injEq] at hcurrent
        exact .inl hcurrent
  · cases hstep

variable (hkept : Kept s.pods)
include hkept

/-- The patch. -/
theorem Pending.write {accepted : Bool} (h : Pending s.pods s.phase)
    (hstep : operatorStep inst s (.patch accepted) = some s') :
    Kept s'.pods ∧ Pending s'.pods s'.phase := by
  simp only [operatorStep] at hstep
  split at hstep
  · rename_i planned rest annotations failed transition bootstrap hphase
    rw [hphase] at h
    split at hstep
    · rename_i pod hpod
      cases hstep
      exact ⟨hkept.patch h hpod _, h.patch hpod _⟩
    · cases hstep
      exact ⟨hkept, h.next⟩
  · cases hstep

/-- Steps of the pods. -/
theorem kept_podStep (hpending : Pending s.pods s.phase) (hcurrent : ReadsCurrent s a)
    (heffect : Effect s a s') (hpod : podStep s a = some s') :
    Kept s'.pods ∧ Pending s'.pods s'.phase := by
  obtain ⟨haside, hphase, -⟩ := podStep_aside hpod
  have hquiet : Quiet s.pods s'.pods := by
    refine quiet_of_effect heffect fun hpatch => ?_
    rw [hpatch] at haside
    cases haside
  have hnamed : s'.pods "" = none := by
    by_contra hsome
    obtain ⟨pod', hpod'⟩ := Option.ne_none_iff_exists'.mp hsome
    rcases exists_of_effect heffect hpod' with ⟨pod, hbefore⟩ | hcreate
    · rw [hkept.named] at hbefore
      cases hbefore
    · rw [hcreate] at hcurrent
      exact hcurrent rfl
  rw [hphase]
  exact ⟨hkept.quiet hquiet hnamed, hpending.quiet hquiet⟩

/-- Every step keeps the assignments coherent. -/
theorem kept_step (hpending : Pending s.pods s.phase) (hguard : ReadsCurrent s a ∧ EpochLeft a)
    (hstep : step inst s a = some s') : Kept s'.pods ∧ Pending s'.pods s'.phase := by
  obtain ⟨hcurrent, hleft⟩ := hguard
  have heffect := effect_of_step hstep
  rw [step, Option.or_eq_some_iff] at hstep
  rcases hstep with hpod | ⟨-, hoperator⟩
  · exact kept_podStep hkept hpending hcurrent heffect hpod
  cases a with
  | bootstrap cached pod0IP podList =>
    simp only [operatorStep] at hoperator
    split at hoperator
    · split at hoperator
      · cases hoperator
        exact ⟨hkept, .start hkept hcurrent hleft (.transition _ _ _) _ _⟩
      · cases hoperator
    · cases hoperator
  | assign cached podList gathered now marked =>
    simp only [operatorStep] at hoperator
    split at hoperator
    · cases hoperator
      exact ⟨hkept, .start hkept hcurrent hleft (passStamps_reconcile inst cached podList gathered now) _ _⟩
    · cases hoperator
  | get read =>
    obtain ⟨hpods, hpending⟩ := hpending.get hcurrent hoperator
    rw [hpods]
    exact ⟨hkept, hpending⟩
  | patch accepted => exact hpending.write hkept hoperator
  | finish now marked cleared =>
    simp only [operatorStep] at hoperator
    split at hoperator
    · cases hoperator
      exact ⟨hkept, pending_idle _⟩
    · cases hoperator
  | observeReady =>
    cases hoperator
    exact ⟨hkept, hpending⟩
  | abort =>
    cases hoperator
    exact ⟨hkept, pending_idle _⟩
  | create | schedule | terminate | remove | report | relabel | project | restart | kill | gate =>
    cases hoperator

end Step

section Coherence

variable {s : State} {podList : List PodObject}

/-- A master at the highest epoch is the intended one. -/
theorem intended_of_highest (hkept : Kept s.pods) (hlists : ListsPods s podList)
    (state : Option ReplicationState) {name : String} {pod : Pod} {e : ℤ} (hpod : s.pods name = some pod)
    (hassigned : pod.assignment = some (roleMaster, e))
    (hhighest : ∀ name' pod' e', s.pods name' = some pod' →
      pod'.assignment = some (roleMaster, e') → e' ≤ e) :
    IntendedMaster (buildFailoverPodViews podList state) (failoverPodView state (pod.object name)) e := by
  refine ⟨mem_map_of_mem (hlists.complete name pod hpod), ?_, ?_⟩
  · rw [assignment_failoverPodView]
    exact hassigned
  · intro view hview e' hmaster
    obtain ⟨p, hp, rfl⟩ := mem_map.mp hview
    obtain ⟨pod', hpod', hobject⟩ := hlists.shown p hp
    rw [assignment_failoverPodView, hobject] at hmaster
    rcases (hhighest p.name pod' e' hpod' hmaster).lt_or_eq with hlt | rfl
    · exact .inl hlt
    · have hsame := hkept.distinct name pod p.name pod' e' hpod hpod' hassigned hmaster
      rw [(failoverPodView_identity state p).1, (failoverPodView_identity state (pod.object name)).1, ← hsame]
      exact .inr ⟨rfl, String.le_refl _⟩

/-- The invariant gives coherence. -/
theorem Kept.coherent (hkept : Kept s.pods) : Coherent s := by
  refine ⟨hkept.distinct, hkept.monotone, ?_, ?_⟩
  · intro podList state name pod e hlists hpod hassigned hhighest
    have hnodup := hlists.nodup
    rw [← map_name_buildFailoverPodViews podList state] at hnodup
    obtain ⟨hname, hip⟩ := resolveFailoverIntent_of_intended ((hlists.named hkept.named).views state) hnodup
      (intended_of_highest hkept hlists state hpod hassigned hhighest)
    obtain ⟨hviewName, hviewIP⟩ := failoverPodView_identity state (pod.object name)
    refine ⟨hname.trans hviewName, hip.trans hviewIP, fun name' pod' e' hpod' hassigned' hlt hsame => ?_⟩
    have hother : name' = name := hsame.symm.trans (hname.trans hviewName)
    rw [hother, hpod, Option.some.injEq] at hpod'
    rw [← hpod', hassigned, Option.some.injEq, Prod.mk.injEq] at hassigned'
    omega
  · intro podList state liveMasterIP hlists views intent planned hplanned
    rw [planFailoverReauth, mem_insertionSort] at hplanned
    obtain ⟨view, hview, hstamp⟩ := mem_filterMap.mp hplanned
    have hstamp := reauthorizedTo_of_stamp hstamp
    obtain ⟨p, hp, rfl⟩ := mem_map.mp hview
    obtain ⟨pod, hpod, hobject⟩ := hlists.shown p hp
    obtain ⟨hname, hip⟩ := failoverPodView_identity state p
    refine ⟨hstamp.name ▸ hstamp.notIntended, pod, ?_, ?_, ?_⟩
    · rw [hstamp.name, hname, hpod]
    · have hstaying := hstamp.staying
      rwa [terminating_failoverPodView, hobject] at hstaying
    · have hnotLive := hstamp.notLive
      rwa [hip, hobject] at hnotLive

/-- In every run that reads the pods as they are and has an epoch left, the assignments are coherent. -/
theorem assignments_coherent (inst : Instance) (s : State)
    (h : (failoverSystem inst).Reachable (fun s a => ReadsCurrent s a ∧ EpochLeft a) s) : Coherent s := by
  have hkept : Kept s.pods ∧ Pending s.pods s.phase := by
    refine h.invariant (fun s => Kept s.pods ∧ Pending s.pods s.phase) ?_ ?_
    · rintro s rfl
      refine ⟨⟨rfl, ?_, ?_⟩, pending_idle _⟩
      · intro name pod name' pod' e hpod
        cases hpod
      · intro name pod hpod
        cases hpod
    · intro s a s' hs hguard hstep
      exact kept_step hs.1 hs.2 hguard hstep
  exact hkept.1.coherent

end Coherence

section Pair

def pairNames : List String := ["lr-redis-0", "lr-redis-1"]

/-- Only the pair is created, and passes list and read it as it is with an epoch left. -/
def pairGuard (s : State) : Label → Prop
  | .create name => name ∈ pairNames
  | .bootstrap _ _ podList => podList = pairPods s ∧
      (resolveFailoverIntent (buildFailoverPodViews podList none)).maxEpoch < 2 ^ 63 - 1
  | .assign _ podList _ _ _ => podList = pairPods s ∧
      (resolveFailoverIntent (buildFailoverPodViews podList none)).maxEpoch < 2 ^ 63 - 1
  | .get (some read) => ∀ planned ∈ s.phase.outstanding.head?,
      (s.pods planned.stamp.podName).map (·.current.annotations) = some read
  | _ => True

instance (s : State) : ∀ a, Decidable (pairGuard s a)
  | .create name => inferInstanceAs (Decidable (name ∈ pairNames))
  | .bootstrap .. | .assign .. => inferInstanceAs (Decidable (_ ∧ _))
  | .get (some _) => inferInstanceAs (Decidable (∀ planned ∈ s.phase.outstanding.head?, _))
  | .get none | .schedule .. | .terminate .. | .remove .. | .report .. | .relabel .. | .project ..
  | .restart .. | .kill .. | .gate .. | .patch .. | .finish .. | .observeReady | .abort => .isTrue trivial

def PairOnly (s : State) : Prop := ∀ name pod, s.pods name = some pod → name ∈ pairNames

/-- The pair is the list of all pods. -/
theorem PairOnly.listsPods {s : State} (h : PairOnly s) : ListsPods s (pairPods s) := by
  have hmem : ∀ p, p ∈ pairPods s ↔
      ∃ name ∈ pairNames, ∃ pod, s.pods name = some pod ∧ pod.object name = p := by
    intro p
    simp only [pairPods, pairNames, mem_filterMap, Option.map_eq_some_iff]
  refine ⟨?_, fun p hp => ?_, fun name pod hpod => ?_⟩
  · cases hfirst : s.pods "lr-redis-0" <;> cases hsecond : s.pods "lr-redis-1" <;>
      simp [pairPods, hfirst, hsecond, Pod.object]
  · obtain ⟨name, -, pod, hpod, rfl⟩ := (hmem p).mp hp
    exact ⟨pod, hpod, rfl⟩
  · exact (hmem _).mpr ⟨name, h name pod hpod, pod, hpod, rfl⟩

/-- Runs of the pair are runs with current reads. -/
theorem reachable_of_pairGuard {s : State} (h : (failoverSystem pairInstance).Reachable pairGuard s) :
    (failoverSystem pairInstance).Reachable (fun s a => ReadsCurrent s a ∧ EpochLeft a) s := by
  refine h.mono_of_invariant PairOnly ?_ ?_ ?_
  · rintro s rfl name pod hpod
    cases hpod
  · intro s a s' hs hguard hstep name pod' hpod'
    rcases exists_of_effect (effect_of_step hstep) hpod' with ⟨pod, hpod⟩ | rfl
    · exact hs name pod hpod
    · exact hguard
  · intro s a hs hguard
    have hleft : (resolveFailoverIntent (buildFailoverPodViews [] none)).maxEpoch < 2 ^ 63 - 1 := by decide
    cases a with
    | create name =>
      have hmem : name ∈ pairNames := hguard
      refine ⟨fun hempty => ?_, hleft⟩
      rw [hempty] at hmem
      exact absurd hmem (by decide)
    | bootstrap cached pod0IP podList =>
      obtain ⟨rfl, hepoch⟩ := hguard
      exact ⟨hs.listsPods, hepoch⟩
    | assign cached podList gathered now marked =>
      obtain ⟨rfl, hepoch⟩ := hguard
      exact ⟨hs.listsPods, hepoch⟩
    | get read =>
      cases read with
      | none => exact ⟨trivial, hleft⟩
      | some read => exact ⟨hguard, hleft⟩
    | schedule | terminate | remove | report | relabel | project | restart | kill | gate | patch | finish
      | observeReady | abort => exact ⟨trivial, hleft⟩

/-- The master goes after the bootstrap, and the other pod is assigned its role. -/
def replacedMaster : State :=
  ((failoverSystem pairInstance).driveIf pairGuard newInstance
    (bootstrappedPair true ++
      [fun _ => .terminate "lr-redis-0",
        fun s => .assign s.status (pairPods s) survivingReplica 20000 true] ++ writeStamp ++
      [fun _ => .finish 20000 true true])).get (by decide)

/-- Both pods carry the role of the master then, at different epochs, and the intent is the later one. -/
theorem replacedMaster_coherent :
    (replacedMaster.pods "lr-redis-0").bind Pod.assignment = some (roleMaster, 1) ∧
      (replacedMaster.pods "lr-redis-1").bind Pod.assignment = some (roleMaster, 2) ∧
      Coherent replacedMaster :=
  ⟨by decide, by decide,
    assignments_coherent pairInstance _ (reachable_of_pairGuard (.of_moves rfl (by decide)))⟩

end Pair

section LastEpoch

/-- The first pod is the only one, and no pass is under way. -/
structure Sole (s : State) (pod : Pod) : Prop where
  idle : s.phase = .idle
  pods : s.pods = update (fun _ => none) "lr-redis-0" (some pod)
  ip : pod.ip = "10.0.0.1"
  staying : pod.terminating = false

def masterAnnotations (epoch : ℤ) : Annotations := ⟨roleMaster, "", toString epoch, toString epoch⟩

variable {s : State} {pod : Pod} {epoch : ℤ}

/-- The pod is the list of all pods. -/
theorem Sole.listsPods (h : Sole s pod) : ListsPods s [pod.object "lr-redis-0"] := by
  refine ⟨nodup_singleton _, fun p hp => ?_, fun name other hother => ?_⟩
  · obtain rfl := mem_singleton.mp hp
    exact ⟨pod, by rw [h.pods]; exact update_self _ _ _, rfl⟩
  · rw [h.pods, update_apply] at hother
    split at hother
    · rename_i hname
      rw [hname, Option.some.inj hother]
      exact mem_singleton_self _
    · cases hother

/-- One more bootstrap takes the sole pod to the next epoch. -/
theorem Sole.bootstrap (h : Sole s pod) (hreach : (failoverSystem pairInstance).Reachable ReadsCurrent s)
    (epoch : ℤ) (hepoch : (resolveFailoverIntent
      (buildFailoverPodViews [pod.object "lr-redis-0"] none)).nextEpoch = epoch)
    (hnew : pod.current.annotations.assignmentEpoch ≠ toString epoch) :
    ∃ s' pod', (failoverSystem pairInstance).Reachable ReadsCurrent s' ∧ Sole s' pod' ∧
      pod'.former = pod.versions ∧ pod'.current.annotations = masterAnnotations epoch := by
  let planned : PlannedStamp := ⟨⟨"lr-redis-0", roleMaster, "", epoch, true⟩, "10.0.0.1"⟩
  let read := pod.current.annotations
  let pod' := pod.annotate (planned.stamp.patched read pod.current (s.clock + 1))
  have hpod : s.pods "lr-redis-0" = some pod := by
    rw [h.pods]
    exact update_self _ _ _
  have hpass : bootstrapFailover pairInstance "10.0.0.1" [pod.object "lr-redis-0"] =
      ⟨[planned], some epoch, .keep⟩ := by
    unfold bootstrapFailover
    rw [hepoch]
    simp [assignmentStamps, Pod.object, h.ip, h.staying, pairInstance, planned]
  have hcarried : planned.stamp.carriedBy read = false := by
    have hother : (read.assignmentEpoch == planned.stamp.epochText) = false := beq_eq_false_iff_ne.mpr hnew
    rw [FailoverStamp.carriedBy, hother, Bool.and_false, Bool.false_and]
  -- The pass is decided, the pod is read and patched, and the operator stops before it records the outcome.
  have hdecided : (failoverSystem pairInstance).Reachable ReadsCurrent
      { s with phase := .stamping ⟨[planned], none, false, some epoch, true⟩ } := by
    refine .step (a := .bootstrap ⟨true, none, none⟩ "10.0.0.1" [pod.object "lr-redis-0"]) hreach h.listsPods ?_
    simp [failoverSystem, step, podStep, operatorStep, h.idle, hpass]
  have hread : (failoverSystem pairInstance).Reachable ReadsCurrent
      { s with phase := .stamping ⟨[planned], some read, false, some epoch, true⟩ } := by
    refine .step (a := .get (some read)) hdecided ?_ ?_
    · intro next hnext
      cases hnext
      simp [hpod, planned, read]
    · simp [failoverSystem, step, podStep, operatorStep, hcarried]
  have hwritten : (failoverSystem pairInstance).Reachable ReadsCurrent
      { s.setPod "lr-redis-0" (some pod') with
        clock := s.clock + 1
        writes := ⟨planned.stamp, planned.listedIP, pod.ip⟩ :: s.writes
        phase := .stamping ⟨[], none, false, some epoch, true⟩ } := by
    refine .step (a := .patch true) hread trivial ?_
    simp [failoverSystem, step, podStep, operatorStep, hpod, planned, pod', State.setPod]
  refine ⟨_, pod', .step (a := .abort) hwritten trivial rfl, ⟨rfl, ?_, h.ip, h.staying⟩, rfl,
    annotations_patched_self planned.stamp pod.current _⟩
  show update s.pods "lr-redis-0" (some pod') = _
  rw [h.pods, update_idem]

/-- The epoch is read back. -/
theorem assignment_masterAnnotations (hnonneg : 0 ≤ epoch) (hlt : epoch < 2 ^ 63) :
    (masterAnnotations epoch).assignment = some (roleMaster, epoch) := by
  have hlegible : Legible ⟨"lr-redis-0", roleMaster, "", epoch, true⟩ :=
    ⟨show roleMaster ≠ "" by decide, hnonneg, hlt⟩
  exact hlegible.assignment_of_texts rfl rfl

/-- The pod's epoch is the highest. -/
theorem maxEpoch_sole {role : String} (hnonneg : 0 ≤ epoch) (h : pod.assignment = some (role, epoch)) :
    (resolveFailoverIntent (buildFailoverPodViews [pod.object "lr-redis-0"] none)).maxEpoch = epoch := by
  have hassigned : (failoverPodView none (pod.object "lr-redis-0")).assignment = some (role, epoch) := by
    rwa [assignment_failoverPodView]
  show (readIntent (⟨"", "", 0⟩, 0) (failoverPodView none (pod.object "lr-redis-0"))).1.maxEpoch = epoch
  rw [readIntent_of_some _ hassigned]
  split
  · exact max_eq_right hnonneg
  · exact max_eq_right hnonneg

/-- The sole pod can come to any epoch. -/
theorem exists_sole_at (n : ℕ) (hn : n + 1 < 2 ^ 63) :
    ∃ s pod, (failoverSystem pairInstance).Reachable ReadsCurrent s ∧ Sole s pod ∧
      pod.current.annotations = masterAnnotations (n + 1 : ℤ) := by
  induction n with
  | zero =>
    let pod : Pod := { Pod.fresh with ip := "10.0.0.1" }
    have hcreated : (failoverSystem pairInstance).Reachable ReadsCurrent
        (newInstance.setPod "lr-redis-0" (some .fresh)) :=
      .step (a := .create "lr-redis-0") (.initial rfl) (show "lr-redis-0" ≠ "" by decide) rfl
    have hscheduled : (failoverSystem pairInstance).Reachable ReadsCurrent
        ((newInstance.setPod "lr-redis-0" (some .fresh)).setPod "lr-redis-0" (some pod)) :=
      .step (a := .schedule "lr-redis-0" "10.0.0.1") hcreated trivial rfl
    have hsole : Sole ((newInstance.setPod "lr-redis-0" (some .fresh)).setPod "lr-redis-0" (some pod)) pod :=
      ⟨rfl, update_idem _ _ _, rfl, rfl⟩
    obtain ⟨s', pod', hreach', hsole', -, hannotations⟩ := hsole.bootstrap hscheduled 1 (by decide) (by decide)
    exact ⟨s', pod', hreach', hsole', hannotations⟩
  | succ n ih =>
    obtain ⟨s, pod, hreach, hsole, hannotations⟩ := ih (by omega)
    have hassigned : pod.assignment = some (roleMaster, (n + 1 : ℤ)) := by
      rw [Pod.assignment, hannotations]
      exact assignment_masterAnnotations (by omega) (by omega)
    have hmax := maxEpoch_sole (by omega) hassigned
    have hnext := nextEpoch_of_lt (by omega) (hmax.trans_lt (by omega))
    have hnew : pod.current.annotations.assignmentEpoch ≠ toString (n + 1 + 1 : ℤ) := by
      intro hsame
      have hread := assignment_masterAnnotations (show 0 ≤ (n + 1 + 1 : ℤ) by omega) (by omega)
      have hsameAssignment : pod.assignment = some (roleMaster, (n + 1 + 1 : ℤ)) := by
        rw [← hread, Pod.assignment, Annotations.assignment, hsame, hannotations]
        rfl
      rw [hassigned, Option.some.injEq, Prod.mk.injEq] at hsameAssignment
      omega
    obtain ⟨s', pod', hreach', hsole', -, hannotations'⟩ :=
      hsole.bootstrap hreach (n + 1 + 1) (hnext.trans (by rw [hmax])) hnew
    refine ⟨s', pod', hreach', hsole', ?_⟩
    rw [hannotations', Int.natCast_succ]

/-- After the last epoch comes the first one: the epoch of the only pod goes down. -/
theorem lastEpoch_incoherent :
    ∃ s, (failoverSystem pairInstance).Reachable ReadsCurrent s ∧ ¬Coherent s := by
  obtain ⟨s, pod, hreach, hsole, hannotations⟩ := exists_sole_at (2 ^ 63 - 2) (by decide)
  have hassigned : pod.assignment = some (roleMaster, (2 ^ 63 - 1 : ℤ)) := by
    rw [Pod.assignment, hannotations]
    exact assignment_masterAnnotations (by decide) (by decide)
  have hnext : (resolveFailoverIntent
      (buildFailoverPodViews [pod.object "lr-redis-0"] none)).nextEpoch = -2 ^ 63 := by
    rw [FailoverIntent.nextEpoch, maxEpoch_sole (by decide) hassigned]
    decide
  obtain ⟨s', pod', hreach', hsole', hformer, hannotations'⟩ :=
    hsole.bootstrap hreach (-2 ^ 63) hnext (by rw [hannotations]; decide)
  refine ⟨s', hreach', fun hcoherent => ?_⟩
  have hmonotone := hcoherent.monotone "lr-redis-0" pod' (by rw [hsole'.pods]; exact update_self _ _ _)
  have hformerMem : pod.current ∈ pod'.former := by
    rw [hformer]
    exact mem_cons_self
  obtain ⟨role, e, hwrapped, hle⟩ := rel_of_pairwise_cons hmonotone hformerMem roleMaster _ hassigned
  have hfirst : (masterAnnotations (-2 ^ 63)).assignment = some (roleMaster, -2 ^ 63) := by decide
  rw [hannotations', hfirst, Option.some.injEq, Prod.mk.injEq] at hwrapped
  omega

end LastEpoch

end LittleRed.Failover
