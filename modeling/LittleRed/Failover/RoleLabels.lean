import LittleRed.Failover.Intent

/-!
# The role labels

The master Service selects the pods that carry the role label of the master. `applyRoleLabels`
brings the labels in line with the master that is known, one pod after the other in the order
of the list, and ends with the first update that fails.
-/

namespace LittleRed.Failover

open Lib Replication List

/-- A list of pods as the API server gives it: no two have the same name. -/
structure PodList where
  items : List PodObject
  nodup : (items.map (·.name)).Nodup

/-- The label that a pod should have. Without a known master only the master's label is taken away. -/
def expectedRole (masterPodName : String) (pod : PodObject) : String :=
  if masterPodName ≠ "" then
    if pod.name = masterPodName then roleMaster else roleReplica
  else if pod.roleLabel = roleMaster then roleReplica
  else pod.roleLabel

/-- The pods after each update that was made; any update may fail. -/
def labelPods (accepted : ℕ → Bool) (masterPodName : String) :
    ℕ → List PodObject → List (List PodObject)
  | _, [] => [[]]
  | n, pod :: rest =>
    let expected := expectedRole masterPodName pod
    if pod.roleLabel ≠ expected then
      (pod :: rest) ::
        if accepted n then
          (labelPods accepted masterPodName (n + 1) rest).map ({ pod with roleLabel := expected } :: ·)
        else []
    else (labelPods accepted masterPodName n rest).map (pod :: ·)

/-- Bring the labels in line with the master that is known. -/
def applyRoleLabels (accepted : ℕ → Bool) (podList : PodList) (masterPodName : String) :
    List (List PodObject) :=
  labelPods accepted masterPodName 0 podList.items

/-- The labels follow the observed intended master, if no pod is about to go. -/
def updateFailoverMasterLabel (accepted : ℕ → Bool) (podList : PodList)
    (masterPodName : Option String) : List (List PodObject) :=
  if podList.items.any (·.terminating) then [podList.items]
  else applyRoleLabels accepted podList (masterPodName.getD "")

/-- At most one pod has the label of the master. -/
def AtMostOneMaster (pods : List PodObject) : Prop :=
  pods.Pairwise fun p q => ¬(p.roleLabel = roleMaster ∧ q.roleLabel = roleMaster)

/-- The pod of the known master stands before one that carries the label. -/
def PromotesFirst (pods : List PodObject) (masterPodName : String) : Prop :=
  masterPodName ≠ "" ∧ ∃ before pod after, pods = before ++ pod :: after ∧ pod.name = masterPodName ∧
    ∃ p ∈ after, p.roleLabel = roleMaster

/-- A pod with the label that it should have. -/
def relabelled (masterPodName : String) (pod : PodObject) : PodObject :=
  { pod with roleLabel := expectedRole masterPodName pod }

theorem relabelled_of_eq {masterPodName : String} {pod : PodObject}
    (h : ¬pod.roleLabel ≠ expectedRole masterPodName pod) : relabelled masterPodName pod = pod := by
  rw [relabelled, ← not_ne_iff.mp h]

/-- At each point a first part of the list is relabelled. -/
theorem exists_split_of_mem_labelPods {accepted : ℕ → Bool} {masterPodName : String} {n : ℕ}
    {items pods : List PodObject} (h : pods ∈ labelPods accepted masterPodName n items) :
    ∃ before after, items = before ++ after ∧ pods = before.map (relabelled masterPodName) ++ after := by
  induction items generalizing n pods with
  | nil => exact ⟨[], [], rfl, mem_singleton.mp h⟩
  | cons pod rest ih =>
    rw [labelPods] at h
    split at h
    · rcases mem_cons.mp h with rfl | h
      · exact ⟨[], pod :: rest, rfl, rfl⟩
      · split at h
        · obtain ⟨later, hlater, rfl⟩ := mem_map.mp h
          obtain ⟨before, after, rfl, rfl⟩ := ih hlater
          exact ⟨pod :: before, after, rfl, rfl⟩
        · cases h
    · rename_i hkept
      obtain ⟨later, hlater, rfl⟩ := mem_map.mp h
      obtain ⟨before, after, rfl, rfl⟩ := ih hlater
      exact ⟨pod :: before, after, rfl, by rw [map_cons, relabelled_of_eq hkept, cons_append]⟩

/-- Before the first update no pod is. -/
theorem self_mem_labelPods (accepted : ℕ → Bool) (masterPodName : String) (n : ℕ)
    (items : List PodObject) : items ∈ labelPods accepted masterPodName n items := by
  induction items generalizing n with
  | nil => exact mem_singleton_self _
  | cons pod rest ih =>
    rw [labelPods]
    split
    · exact mem_cons_self
    · exact mem_map.mpr ⟨rest, ih n, rfl⟩

/-- Every such point is reached when all updates succeed. -/
theorem mem_labelPods_of_split (masterPodName : String) (n : ℕ) (before after : List PodObject) :
    before.map (relabelled masterPodName) ++ after ∈
      labelPods (fun _ => true) masterPodName n (before ++ after) := by
  induction before generalizing n with
  | nil => exact self_mem_labelPods _ _ _ _
  | cons pod before ih =>
    rw [map_cons, cons_append, cons_append, labelPods]
    split
    · exact mem_cons_of_mem _ (mem_map.mpr ⟨_, ih (n + 1), rfl⟩)
    rename_i hkept
    rw [relabelled_of_eq hkept]
    exact mem_map.mpr ⟨_, ih n, rfl⟩

/-- Only the known master gets the label. -/
theorem relabelled_master_iff (masterPodName : String) (pod : PodObject) :
    (relabelled masterPodName pod).roleLabel = roleMaster ↔
      masterPodName ≠ "" ∧ pod.name = masterPodName := by
  have hroles : roleReplica ≠ roleMaster := by decide
  unfold relabelled expectedRole
  dsimp only
  by_cases hnone : masterPodName = ""
  · by_cases hlabel : pod.roleLabel = roleMaster <;> simp [hnone, hlabel, hroles]
  · by_cases hname : pod.name = masterPodName <;> simp [hnone, hname, hroles]

/-- Whichever updates fail, there is always at most one label exactly when the known master does not
stand before another pod with it. -/
theorem applyRoleLabels_atMostOneMaster_iff (podList : PodList) (masterPodName : String)
    (hone : AtMostOneMaster podList.items) :
    (∀ accepted, ∀ pods ∈ applyRoleLabels accepted podList masterPodName, AtMostOneMaster pods) ↔
      ¬PromotesFirst podList.items masterPodName := by
  constructor
  · rintro hkeeps ⟨hknown, before, pod, after, hitems, hname, p, hp, hlabel⟩
    have hmem := mem_labelPods_of_split masterPodName 0 (before ++ [pod]) after
    rw [append_assoc, singleton_append, ← hitems] at hmem
    have hpair := (pairwise_append.mp (hkeeps _ _ hmem)).2.2
    refine hpair (relabelled masterPodName pod) (mem_map_of_mem ?_) p hp ⟨?_, hlabel⟩
    · exact mem_append_right _ mem_cons_self
    · exact (relabelled_master_iff masterPodName pod).mpr ⟨hknown, hname⟩
  · intro hfirst accepted pods hpods
    obtain ⟨before, after, hitems, rfl⟩ := exists_split_of_mem_labelPods hpods
    unfold AtMostOneMaster at hone ⊢
    rw [hitems, pairwise_append] at hone
    have hnodup := podList.nodup
    rw [hitems, map_append, nodup_append] at hnodup
    rw [pairwise_append, pairwise_map]
    refine ⟨?_, hone.2.1, ?_⟩
    · refine (pairwise_map.mp hnodup.1).imp fun {p q} hnames hboth => hnames ?_
      rw [relabelled_master_iff, relabelled_master_iff] at hboth
      exact hboth.1.2.trans hboth.2.2.symm
    · rintro relabelledPod hmem q hq ⟨hmaster, hlabel⟩
      obtain ⟨pod, hpod, rfl⟩ := mem_map.mp hmem
      obtain ⟨hknown, hname⟩ := (relabelled_master_iff masterPodName pod).mp hmaster
      obtain ⟨first, later, rfl⟩ := append_of_mem hpod
      refine hfirst ⟨hknown, first, pod, later ++ after, ?_, hname, q, ?_, hlabel⟩
      · rw [hitems, append_assoc, cons_append]
      · exact mem_append_right _ hq

def labelledPod (name ip role : String) : PodObject := ⟨name, ip, false, true, false, role, {}⟩

/-- Two pods with labels. -/
def labelledPair (first second : String) : PodList where
  items := [labelledPod "lr-redis-0" "10.0.0.1" first, labelledPod "lr-redis-1" "10.0.0.2" second]
  nodup := by simp [labelledPod]

/-- The mastership moves to the second pod: the label never stands on both. -/
theorem labelledPair_moves_up :
    AtMostOneMaster (labelledPair roleMaster roleReplica).items ∧ ∀ accepted, ∀ pods ∈
        applyRoleLabels accepted (labelledPair roleMaster roleReplica) "lr-redis-1",
        AtMostOneMaster pods := by
  have hone : AtMostOneMaster (labelledPair roleMaster roleReplica).items := by
    unfold AtMostOneMaster
    decide
  refine ⟨hone, (applyRoleLabels_atMostOneMaster_iff _ _ hone).mpr ?_⟩
  rintro ⟨-, before, pod, after, hitems, hname, p, hp, hlabel⟩
  match before, hitems with
  | [], hitems =>
    obtain ⟨rfl, -⟩ := List.cons.inj hitems
    exact absurd hname (by decide)
  | [_], hitems =>
    obtain ⟨-, hitems⟩ := List.cons.inj hitems
    obtain ⟨-, rfl⟩ := List.cons.inj hitems
    cases hp
  | _ :: _ :: _, hitems => simp [labelledPair] at hitems

/-- When the mastership moves to the first pod, both have the label for a while, or for good if the
update fails. -/
theorem labelledPair_moves_down :
    let podList := labelledPair roleReplica roleMaster
    let twoMasters := (labelledPair roleMaster roleMaster).items
    AtMostOneMaster podList.items ∧
      twoMasters ∈ updateFailoverMasterLabel (fun n => n == 0) podList (some "lr-redis-0") ∧
      ¬AtMostOneMaster twoMasters := by
  unfold AtMostOneMaster
  decide

end LittleRed.Failover
