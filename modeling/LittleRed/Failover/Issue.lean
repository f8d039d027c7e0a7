import LittleRed.Failover.Assignment
import LittleRed.Failover.Timed

/-!
# What a pass issues

A pass writes nothing, makes one pod the master and all others its replicas, or gives fresh assignments to
replicas. No pod gets two assignments, at most one is for a master, and none is below the highest epoch.
-/

namespace LittleRed.Failover

open Lib Replication List

variable {podList : List PodObject}

/-- Two assignments of one pass are for different pods, and at most one of them is for a master. -/
def Apart (p q : PlannedStamp) : Prop :=
  p.stamp.podName ≠ q.stamp.podName ∧ ¬(p.stamp.role = roleMaster ∧ q.stamp.role = roleMaster)

/-- What the assignments of a pass are like, given the epoch that the pass found. -/
structure IssuedAt (maxEpoch : ℤ) (stamps : List PlannedStamp) : Prop where
  apart : stamps.Pairwise Apart
  role : ∀ planned ∈ stamps, planned.stamp.role ≠ ""
  above : ∀ planned ∈ stamps, maxEpoch ≤ planned.stamp.epoch ∧ planned.stamp.epoch ≤ max (maxEpoch + 1) 1
  master : ∀ planned ∈ stamps, planned.stamp.role = roleMaster → maxEpoch < planned.stamp.epoch

theorem issuedAt_nil (maxEpoch : ℤ) : IssuedAt maxEpoch [] :=
  ⟨.nil, forall_mem_nil _, forall_mem_nil _, forall_mem_nil _⟩

variable {stamps : List PlannedStamp}

/-- The epochs that are written can be read. -/
theorem IssuedAt.legible {maxEpoch : ℤ} (h : IssuedAt maxEpoch stamps) (hnonneg : 0 ≤ maxEpoch)
    (hleft : maxEpoch < 2 ^ 63 - 1) :
    ∀ planned ∈ stamps, Legible planned.stamp := by
  intro planned hplanned
  have habove := h.above planned hplanned
  exact ⟨h.role planned hplanned, by omega, by omega⟩

/-- A new master is assigned with all its replicas. -/
theorem issuedAt_assignmentStamps (hnodup : (podList.map (·.name)).Nodup) (masterName masterIP : String)
    (maxEpoch : ℤ) (authorize : Bool) :
    IssuedAt maxEpoch (assignmentStamps podList masterName masterIP (maxEpoch + 1) authorize) := by
  have hmem : ∀ planned ∈ assignmentStamps podList masterName masterIP (maxEpoch + 1) authorize,
      ∃ p, AssignedTo masterName masterIP (maxEpoch + 1) authorize p planned := by
    intro planned hplanned
    obtain ⟨p, -, hstamp⟩ := mem_filterMap.mp hplanned
    exact ⟨p, assignedTo_of_stamp hstamp⟩
  refine ⟨?_, fun planned hplanned => ?_, fun planned hplanned => ?_, fun planned hplanned _ => ?_⟩
  · refine pairwise_filterMap.mpr ((pairwise_map.mp hnodup).imp ?_)
    intro p q hne planned hplanned planned' hplanned'
    obtain ⟨hname, -, hrole⟩ := (assignedTo_of_stamp hplanned).spec
    obtain ⟨hname', -, hrole'⟩ := (assignedTo_of_stamp hplanned').spec
    refine ⟨by rwa [hname, hname'], fun ⟨hmaster, hmaster'⟩ => ?_⟩
    rcases hrole with ⟨-, hp⟩ | ⟨hreplica, -⟩
    · rcases hrole' with ⟨-, hq⟩ | ⟨hreplica, -⟩
      · exact hne (hp.trans hq.symm)
      · exact absurd (hmaster'.symm.trans hreplica) (by decide)
    · exact absurd (hmaster.symm.trans hreplica) (by decide)
  · obtain ⟨p, hp⟩ := hmem planned hplanned
    rcases hp.spec.2.2 with ⟨hrole, -⟩ | ⟨hrole, -⟩
    · rw [hrole]
      decide
    · rw [hrole]
      decide
  · obtain ⟨p, hp⟩ := hmem planned hplanned
    have hepoch := hp.spec.2.1
    omega
  · obtain ⟨p, hp⟩ := hmem planned hplanned
    have hepoch := hp.spec.2.1
    omega

/-- Fresh assignments are for replicas. -/
theorem issuedAt_planFailoverReauth (hnodup : (podList.map (·.name)).Nodup)
    (state : Option ReplicationState) {intent : FailoverIntent}
    (hnext : intent.nextEpoch = intent.maxEpoch + 1) (liveMasterIP : String) :
    IssuedAt intent.maxEpoch
      (planFailoverReauth (buildFailoverPodViews podList state) intent liveMasterIP) := by
  have hmem : ∀ planned ∈ planFailoverReauth (buildFailoverPodViews podList state) intent liveMasterIP,
      ∃ p, ReauthorizedTo intent liveMasterIP p planned := by
    intro planned hplanned
    rw [planFailoverReauth, mem_insertionSort] at hplanned
    obtain ⟨p, -, hstamp⟩ := mem_filterMap.mp hplanned
    exact ⟨p, reauthorizedTo_of_stamp hstamp⟩
  have hreplica : ∀ planned ∈ planFailoverReauth (buildFailoverPodViews podList state) intent liveMasterIP,
      planned.stamp.role = roleReplica := fun planned hplanned => by
    obtain ⟨p, hp⟩ := hmem planned hplanned
    exact hp.role
  refine ⟨?_, fun planned hplanned => ?_, fun planned hplanned => ?_, fun planned hplanned hmaster => ?_⟩
  · have hsymm : ∀ {p q}, Apart p q → Apart q p := fun h => ⟨h.1.symm, fun hboth => h.2 hboth.symm⟩
    refine ((perm_insertionSort _ _).pairwise_iff hsymm).mpr ?_
    rw [← map_name_buildFailoverPodViews podList state] at hnodup
    refine pairwise_filterMap.mpr ((pairwise_map.mp hnodup).imp ?_)
    intro p q hne planned hplanned planned' hplanned'
    have hp := reauthorizedTo_of_stamp hplanned
    have hq := reauthorizedTo_of_stamp hplanned'
    refine ⟨by rwa [hp.name, hq.name], fun hboth => ?_⟩
    exact absurd (hboth.1.symm.trans hp.role) (by decide)
  · rw [hreplica planned hplanned]
    decide
  · obtain ⟨p, hp⟩ := hmem planned hplanned
    rcases hp.epoch with hepoch | hepoch <;> omega
  · exact absurd (hmaster.symm.trans (hreplica planned hplanned)) (by decide)

/-- What a pass has to write. -/
inductive PassStamps (podList : List PodObject) (state : Option ReplicationState) :
    List PlannedStamp → Prop
  | nothing : PassStamps podList state []
  | transition (masterName masterIP : String) (authorize : Bool) :
      PassStamps podList state (assignmentStamps podList masterName masterIP
        (resolveFailoverIntent (buildFailoverPodViews podList state)).nextEpoch authorize)
  | reauthorization (liveMasterIP : String) :
      PassStamps podList state (planFailoverReauth (buildFailoverPodViews podList state)
        (resolveFailoverIntent (buildFailoverPodViews podList state)) liveMasterIP)

/-- A pass writes one of the three. -/
theorem passStamps_reconcile (inst : Instance) (status : FailoverStatus) (podList : List PodObject)
    (state : ReplicationState) (now : ℤ) :
    PassStamps podList (some state) (reconcileFailoverAssignments inst status podList state now).stamps := by
  simp only [reconcileFailoverAssignments]
  split
  · exact .nothing
  split
  · exact .nothing
  split
  · rw [executeFailoverPlan_eq]
    split
    · exact .transition _ _ _
    · exact .nothing
  split
  · exact .nothing
  split
  · exact .reauthorization _
  · exact .nothing

/-- Whichever it is, the assignments are issued properly. -/
theorem PassStamps.issuedAt {state : Option ReplicationState} (h : PassStamps podList state stamps)
    (hnamed : Named podList) (hnodup : (podList.map (·.name)).Nodup)
    (hleft : (resolveFailoverIntent (buildFailoverPodViews podList none)).maxEpoch < 2 ^ 63 - 1) :
    IssuedAt (resolveFailoverIntent (buildFailoverPodViews podList none)).maxEpoch stamps := by
  have hnext := nextEpoch_of_lt (maxEpoch_nonneg hnamed none) hleft
  rw [← resolveFailoverIntent_gathered podList state] at hnext ⊢
  cases h with
  | nothing => exact issuedAt_nil _
  | transition masterName masterIP authorize =>
    rw [hnext]
    exact issuedAt_assignmentStamps hnodup masterName masterIP _ authorize
  | reauthorization liveMasterIP => exact issuedAt_planFailoverReauth hnodup state hnext liveMasterIP

/-- A pass without a transition writes fresh assignments only. -/
theorem reauthorizedTo_of_no_transition {inst : Instance} {status : FailoverStatus}
    {state : ReplicationState} {now : ℤ}
    (h : (reconcileFailoverAssignments inst status podList state now).transition = none)
    {planned : PlannedStamp}
    (hplanned : planned ∈ (reconcileFailoverAssignments inst status podList state now).stamps) :
    let views := buildFailoverPodViews podList (some state)
    ∃ view ∈ views, ∃ liveMasterIP,
      ReauthorizedTo (resolveFailoverIntent views) liveMasterIP view planned := by
  simp only [reconcileFailoverAssignments] at h hplanned
  split at hplanned
  · cases hplanned
  split at hplanned
  · cases hplanned
  split at hplanned
  · rename_i hbootstrap hresume hdecides
    rw [if_neg hbootstrap, if_neg hresume, if_pos hdecides] at h
    rw [executeFailoverPlan_eq] at h hplanned
    split at hplanned
    · rename_i hassigns
      rw [if_pos hassigns] at h
      cases h
    · cases hplanned
  split at hplanned
  · cases hplanned
  split at hplanned
  · rw [planFailoverReauth, mem_insertionSort] at hplanned
    obtain ⟨view, hview, hstamp⟩ := mem_filterMap.mp hplanned
    exact ⟨view, hview, _, reauthorizedTo_of_stamp hstamp⟩
  · cases hplanned

end LittleRed.Failover
