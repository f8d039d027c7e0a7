import LittleRed.Cluster.WipeRecovery

/-!
# Deletions along a run

While the marker is set, the pods that match the signature are among those that matched at the
last pass, and so at every pass since the marker was set. A pod that is deleted after the cooldown
has therefore matched for all of it.
-/

namespace LittleRed.Cluster

open Lib List

/-- The health of a pod has its name. -/
theorem podHealth_name (name : String) (pod : Option ClusterPod) : (podHealth name pod).name = name := by
  cases pod with
  | none => rfl
  | some pod =>
    have hfold : ∀ (statuses : List ContainerStatus) (h : ClusterPodHealth), h.name = name →
        (statuses.foldl ClusterPodHealth.report h).name = name := by
      intro statuses
      induction statuses with
      | nil => exact fun _ hname => hname
      | cons cs rest ih =>
        intro h hname
        refine ih _ ?_
        unfold ClusterPodHealth.report
        split
        · exact hname
        · exact hname
    exact hfold pod.containerStatuses _ rfl

/-- A recyclable pod exists and is not ready. -/
theorem exists_of_recyclable {name : String} {pod : Option ClusterPod}
    (h : (podHealth name pod).recyclable = true) :
    ∃ found, pod = some found ∧ (podHealth name (some found)).redisReady = false := by
  cases pod with
  | none => cases h
  | some found =>
    simp only [ClusterPodHealth.recyclable, Bool.and_eq_true, Bool.not_eq_true'] at h
    exact ⟨found, rfl, h.1.1⟩

/-- Pods are recycled after the cooldown only. -/
theorem planClusterWipeRecovery_recycle {spec : SlotSpec} {reads : String → Option ClusterPod}
    {since : Option ℤ} {now cooldown : ℤ} {names : List String}
    (h : planClusterWipeRecovery (gatherClusterPodHealth spec reads) since now cooldown = .recycle names) :
    (∃ t, since = some t ∧ ¬ now - t < cooldown) ∧ ∀ name ∈ names,
      name ∈ clusterPodNames spec ∧ (podHealth name (reads name)).recyclable = true := by
  unfold planClusterWipeRecovery at h
  dsimp only at h
  split at h
  · cases h
  split at h
  · cases h
  rename_i t
  split at h
  · cases h
  rename_i hover
  obtain rfl := ClusterWipePlan.recycle.inj h
  refine ⟨⟨t, rfl, hover⟩, fun name hname => ?_⟩
  obtain ⟨health, hhealth, rfl⟩ := mem_map.mp hname
  obtain ⟨hgathered, hrecyclable⟩ := mem_filter.mp hhealth
  obtain ⟨podName, hpodName, rfl⟩ := mem_map.mp hgathered
  rw [podHealth_name]
  exact ⟨hpodName, hrecyclable⟩

namespace Wipe

section Armed

variable (spec : SlotSpec)

/-- Since the given time, a pod that matched at the last pass matched at every pass. -/
def Armed (t : ℤ) (log : List (ℤ × Snapshot)) : Prop :=
  ∀ name ∈ clusterPodNames spec, ∀ uid, lastMatched log name uid = true →
    ∀ o ∈ log, t ≤ o.1 → matched name uid o.2 = true

/-- What holds along every run whose steps are undisturbed. -/
structure Guarded (s : State) : Prop where
  clock : ∀ o ∈ s.log, o.1 ≤ s.clock
  armed : ∀ t, s.marker = some t → Armed spec t s.log
  written : ∀ pending marker base now, s.phase = .acting pending marker base now →
    ∀ t, marker = some t → Armed spec t s.log
  doomed : ∀ pending marker base now, s.phase = .acting pending marker base now →
    ∀ name ∈ pending, ∃ pod, s.pods name = some pod ∧ Deletion.Justified ⟨name, pod, now, s.log⟩
  deletions : DeletesStuckPods s

end Armed

variable {spec : SlotSpec} {time : StoredTime} {s s' : State}

/-- A pod that matches exists and is recyclable. -/
theorem exists_of_matched {name : String} {uid : ℕ} {pods : Snapshot} (h : matched name uid pods = true) :
    ∃ pod, pods name = some pod ∧ pod.uid = uid ∧ (podHealth name (some pod)).recyclable = true := by
  unfold matched at h
  split at h
  · cases h
  rename_i pod hpod
  rw [Bool.and_eq_true, beq_iff_eq] at h
  exact ⟨pod, hpod, h.1, h.2⟩

/-- A pass keeps what the marker stands for. -/
theorem Armed.logPass {t : ℤ} (h : Armed spec t s.log) (hnew : NoneNew spec s)
    (hmarker : s.marker = some t) (now : ℤ) : Armed spec t (s.logPass now).log := by
  intro name hname uid hlast o ho ht
  rcases mem_cons.mp ho with rfl | hearlier
  · exact hlast
  · obtain ⟨pod, hpod, rfl, hrecyclable⟩ := exists_of_matched hlast
    have hbefore := hnew (by rw [hmarker]; rfl) name hname pod hpod hrecyclable
    exact h name hname pod.uid hbefore o hearlier ht

/-- A new marker stands for nothing yet. -/
theorem armed_now (hclock : ∀ o ∈ s.log, o.1 ≤ s.clock) {now : ℤ} (hnow : s.clock < now) :
    Armed spec now (s.logPass now).log := by
  intro name _ uid hlast o ho ht
  rcases mem_cons.mp ho with rfl | hearlier
  · exact hlast
  · have hle := hclock o hearlier
    omega

namespace Guarded

variable (h : Guarded spec s)
include h

/-- A pod changes that is not about to be deleted. -/
theorem setPod {name : String} (hname : name ∉ s.phase.pending) (pod : Option ClusterPod) :
    Guarded spec (s.setPod name pod) := by
  refine ⟨h.clock, h.armed, h.written, ?_, h.deletions⟩
  intro pending marker base now hphase other hother
  obtain ⟨found, hfound, hjustified⟩ := h.doomed pending marker base now hphase other hother
  have hne : other ≠ name := by
    rintro rfl
    have hphase : s.phase = .acting pending marker base now := hphase
    rw [hphase] at hname
    exact hname hother
  exact ⟨found, (Function.update_of_ne hne _ _).trans hfound, hjustified⟩

variable {now : ℤ}

/-- A pass finds all pods ready. -/
theorem readyPass (hidle : s.phase = .idle) (hnew : NoneNew spec s) (hnow : s.clock < now) :
    Guarded spec (s.logPass now) := by
  refine ⟨?_, fun t ht => (h.armed t ht).logPass hnew ht now, ?_, ?_, h.deletions⟩
  · refine forall_mem_cons.mpr ⟨Int.le_refl _, fun o ho => ?_⟩
    exact Int.le_trans (h.clock o ho) (Int.le_of_lt hnow)
  · intro pending marker base now' hphase
    rw [State.logPass, hidle] at hphase
    cases hphase
  · intro pending marker base now' hphase
    rw [State.logPass, hidle] at hphase
    cases hphase

/-- A pass goes on. -/
theorem enter (phase : Phase)
    (hwritten : ∀ pending marker base now, phase = .acting pending marker base now → ∀ t, marker = some
      t → Armed spec t s.log)
    (hdoomed : ∀ pending marker base now, phase = .acting pending marker base now → ∀ name ∈ pending, ∃
      pod, s.pods name = some pod ∧ Deletion.Justified ⟨name, pod, now, s.log⟩) :
    Guarded spec { s with phase := phase } :=
  ⟨h.clock, h.armed, hwritten, hdoomed, h.deletions⟩

/-- A pod that is recycled was down for the cooldown. -/
theorem justified (hnew : NoneNew spec s) {t : ℤ} (hmarker : s.marker = some t)
    (hover : ¬ now - t < clusterWipeRecoveryCooldown) {name : String} (hname : name ∈ clusterPodNames spec)
    (hrecyclable : (podHealth name (s.pods name)).recyclable = true) :
    ∃ pod, s.pods name = some pod ∧ Deletion.Justified ⟨name, pod, now, (s.logPass now).log⟩ := by
  obtain ⟨pod, hpod, hdown⟩ := exists_of_recyclable hrecyclable
  refine ⟨pod, hpod, hdown, fun o ho hwindow => ?_⟩
  have hlast : lastMatched (s.logPass now).log name pod.uid = true := by
    rw [hpod] at hrecyclable
    simp [lastMatched, State.logPass, matched, hpod, hrecyclable]
  refine (h.armed t hmarker).logPass hnew hmarker now name hname pod.uid hlast o ho ?_
  dsimp only at hwindow
  omega

/-- A pass reads the pods. -/
theorem observe (hidle : s.phase = .idle) (hnew : NoneNew spec s)
    {reads : String → Option ClusterPod} (hnow : s.clock < now)
    (hreads : ∀ name ∈ clusterPodNames spec, reads name = s.pods name)
    (hrounds : roundsSafely time s now = true) (base : ℕ) :
    Guarded spec { s.logPass now with
      phase := ClusterWipePlan.phase (planClusterWipeRecovery (gatherClusterPodHealth spec reads)
        (s.marker.map time.stored) now clusterWipeRecoveryCooldown) s.marker base now } := by
  refine (h.readyPass hidle hnew hnow).enter _ ?_ ?_
  · intro pending marker base' now' hphase t ht
    subst ht
    generalize planClusterWipeRecovery (gatherClusterPodHealth spec reads) (s.marker.map time.stored)
      now clusterWipeRecoveryCooldown = plan at hphase
    cases plan with
    | clearMarker => cases hphase
    | startCooldown =>
      obtain ⟨-, hmarker, -, rfl⟩ := Phase.acting.inj hphase
      cases hmarker
      exact armed_now h.clock hnow
    | wait =>
      obtain ⟨-, hmarker, -, rfl⟩ := Phase.acting.inj hphase
      exact (h.armed t hmarker).logPass hnew hmarker now
    | recycle names => cases hphase
  · intro pending marker base' now' hphase name hname
    cases hplan : planClusterWipeRecovery (gatherClusterPodHealth spec reads)
      (s.marker.map time.stored) now clusterWipeRecoveryCooldown with
    | clearMarker | startCooldown | wait =>
      rw [hplan] at hphase
      obtain ⟨rfl, -⟩ := Phase.acting.inj hphase
      cases hname
    | recycle names =>
      rw [hplan] at hphase
      obtain ⟨rfl, -, -, rfl⟩ := Phase.acting.inj hphase
      obtain ⟨⟨stored, hsince, hover⟩, hnames⟩ := planClusterWipeRecovery_recycle hplan
      obtain ⟨t, hmarker, rfl⟩ := Option.map_eq_some_iff.mp hsince
      obtain ⟨hpodName, hrecyclable⟩ := hnames name hname
      rw [hreads name hpodName] at hrecyclable
      refine h.justified hnew hmarker ?_ hpodName hrecyclable
      rw [roundsSafely, hmarker, beq_iff_eq, decide_eq_decide] at hrounds
      exact mt hrounds.mpr hover

/-- A pod is deleted. -/
theorem delete {name : String} {rest : List String} {marker : Option ℤ} {base : ℕ}
    (hphase : s.phase = .acting (name :: rest) marker base now) {pod : ClusterPod}
    (hpod : s.pods name = some pod) :
    Guarded spec { s with
      phase := .acting rest marker base now
      deletions := ⟨name, pod, now, s.log⟩ :: s.deletions } := by
  obtain ⟨found, hfound, hjustified⟩ := h.doomed _ _ _ _ hphase name mem_cons_self
  cases hfound.symm.trans hpod
  refine ⟨h.clock, h.armed, ?_, ?_, forall_mem_cons.mpr ⟨hjustified, h.deletions⟩⟩
  · intro pending marker' base' now' hacting t ht
    obtain ⟨-, rfl, -⟩ := Phase.acting.inj hacting
    exact h.written _ _ _ _ hphase t ht
  · intro pending marker' base' now' hacting other hother
    obtain ⟨rfl, -, -, rfl⟩ := Phase.acting.inj hacting
    exact h.doomed _ _ _ _ hphase other (mem_cons_of_mem _ hother)

theorem leave : Guarded spec { s with phase := .idle } :=
  h.enter .idle (by simp) (by simp)

/-- A pass writes the status. -/
theorem update {marker : Option ℤ} {base : ℕ} (hphase : s.phase = .acting [] marker base now)
    (accepted : Prop) [Decidable accepted] :
    Guarded spec { s with
      phase := .idle
      markers := if accepted then marker :: s.markers else s.markers } := by
  refine ⟨h.clock, ?_, by simp, by simp, h.deletions⟩
  intro t ht
  by_cases haccepted : accepted
  · rw [State.marker, if_pos haccepted] at ht
    exact h.written _ _ _ _ hphase t ht
  · rw [State.marker, if_neg haccepted] at ht
    exact h.armed t ht

end Guarded

/-- Every undisturbed step keeps the invariant. -/
theorem guarded_step {a : Label} (h : Guarded spec s) (hcalm : Undisturbed spec time s a)
    (hstep : (wipeSystem spec time).step s a = some s') : Guarded spec s' := by
  cases a with
  | create name =>
    simp only [wipeSystem, step] at hstep
    split at hstep
    · cases hstep
      have hset := h.setPod hcalm (some ⟨s.created, []⟩)
      exact ⟨hset.clock, hset.armed, hset.written, hset.doomed, hset.deletions⟩
    · cases hstep
  | remove name =>
    obtain ⟨pod, -, hset⟩ := Option.bind_eq_some_iff.mp hstep
    cases hset
    exact h.setPod hcalm none
  | report name containerStatuses =>
    obtain ⟨pod, -, hset⟩ := Option.bind_eq_some_iff.mp hstep
    cases hset
    exact h.setPod hcalm _
  | writeStatus =>
    cases hstep
    exact ⟨h.clock, h.armed, h.written, h.doomed, h.deletions⟩
  | readyPass now =>
    simp only [wipeSystem, step] at hstep
    split at hstep
    · rename_i hidle
      obtain ⟨hnow, rfl⟩ := of_ite_some hstep
      exact h.readyPass hidle hcalm hnow
    · cases hstep
  | observe age reads now =>
    obtain ⟨hnew, hreads, hcurrent, hrounds⟩ := hcalm
    simp only [wipeSystem, step] at hstep
    split at hstep
    · rename_i since hidle hsince
      have hmarker : s.marker = since := by rw [State.marker, ← hcurrent, hsince, Option.join_some]
      obtain ⟨henabled, rfl⟩ := of_ite_some hstep
      rw [← hmarker]
      exact h.observe hidle hnew henabled.1 hreads hrounds _
    · cases hstep
  | delete failed =>
    simp only [wipeSystem, step] at hstep
    split at hstep
    · rename_i name rest marker base now hphase
      split at hstep
      · cases hstep
        exact h.leave
      · obtain ⟨pod, hpod, -⟩ := h.doomed _ _ _ _ hphase name mem_cons_self
        rw [hpod] at hstep
        cases hstep
        exact h.delete hphase hpod
    · cases hstep
  | update accepted =>
    simp only [wipeSystem, step] at hstep
    split at hstep
    · rename_i marker base now hphase
      cases hstep
      exact h.update hphase _
    · cases hstep
  | abort =>
    cases hstep
    exact h.leave

/-- In undisturbed runs every deleted pod is down and has matched the signature at every pass of the
cooldown. -/
theorem deletesStuckPods_of_undisturbed
    (h : (wipeSystem spec time).Reachable (Undisturbed spec time) s) : DeletesStuckPods s := by
  refine (h.invariant (Guarded spec) ?_ fun _ _ _ hinv hcalm hstep =>
    guarded_step hinv hcalm hstep).deletions
  rintro t ⟨clock, rfl⟩
  exact ⟨by simp, by simp [State.marker], by simp, by simp, by simp [DeletesStuckPods]⟩

section Examples

def soloSpec : SlotSpec := ⟨⟨1, 15, 15000⟩, "lr", some 0⟩

def soloStart : State := ⟨fun _ => none, fun _ => [none], 0, [none], .idle, 0, [], []⟩

theorem soloStart_initial : (wipeSystem soloSpec .wholeSeconds).initial soloStart := ⟨0, rfl⟩

/-- The server reports. -/
def reportServer (ready : Bool) (restartCount : ℕ) : State → Label :=
  fun _ => .report "lr-shard-0-0" [⟨"redis", ready, restartCount, some "Error"⟩]

def observeAt (seconds : ℤ) : State → Label := fun s => .observe 0 s.pods (seconds * 1000000000)

def stuckPod : State :=
  ((wipeSystem soloSpec .wholeSeconds).driveIf (Undisturbed soloSpec .wholeSeconds) soloStart
    [fun _ => .create "lr-shard-0-0", reportServer false 1, observeAt 1, fun _ => .update true,
      observeAt 61, fun _ => .update true, observeAt 121, fun _ => .delete false]).get (by decide)

/-- It is deleted, as it should be. -/
theorem stuckPod_deleted :
    DeletesStuckPods stuckPod ∧ stuckPod.deletions.map Deletion.name = ["lr-shard-0-0"] :=
  ⟨deletesStuckPods_of_undisturbed (.of_moves soloStart_initial (by decide)), by decide⟩

/-- The pod recovers, fails again, and is deleted at once. -/
def recoveredPod : State :=
  ((wipeSystem soloSpec .wholeSeconds).driveIf System.anyStep soloStart
    [fun _ => .create "lr-shard-0-0", reportServer false 1, observeAt 1, fun _ => .update true,
      reportServer true 1, fun _ => .readyPass (500 * 1000000000), reportServer false 2,
      observeAt 501, fun _ => .delete false]).get (by decide)

/-- It is deleted at once, although it had been up a second before. -/
theorem recoveredPod_deleted :
    (wipeSystem soloSpec .wholeSeconds).Reachable System.anyStep recoveredPod ∧
      ¬ DeletesStuckPods recoveredPod := by
  refine ⟨.of_moves soloStart_initial (by decide), fun h => ?_⟩
  have hall : ∀ d ∈ recoveredPod.deletions, ∀ o ∈ d.log,
      d.now - clusterWipeRecoveryCooldown ≤ o.1 → matched d.name d.pod.uid o.2 = true :=
    fun d hd => (h d hd).2
  exact absurd hall (by decide)

end Examples

end Wipe

end LittleRed.Cluster
