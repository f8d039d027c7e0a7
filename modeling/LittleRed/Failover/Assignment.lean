import LittleRed.Failover.Steps
import Mathlib.Data.List.Induction

/-!
# What the annotations say

An assignment is a role together with an epoch. The intent is the pod that is assigned the role of the
master at the highest epoch, and the next epoch is above all that were assigned, as long as 64 bits
suffice. A patch of another pod than the one that was read may leave a part of the assignment.
-/

namespace LittleRed.Failover

open Lib Replication List

/-- Role and epoch, if both are there and the epoch is a number. -/
def Annotations.assignment (a : Annotations) : Option (String × ℤ) :=
  if a.assignedRole ≠ "" ∧ a.assignmentEpoch ≠ "" then (atoi a.assignmentEpoch).map (a.assignedRole, ·)
  else none

/-- The assignment as the view has it. -/
def FailoverPodView.assignment (p : FailoverPodView) : Option (String × ℤ) :=
  if p.hasAssignment then some (p.assignedRole, p.epoch) else none

variable (state : Option ReplicationState) (p : PodObject)

/-- A view has the assignment of its pod. -/
theorem assignment_failoverPodView :
    (failoverPodView state p).assignment = p.annotations.assignment := by
  unfold failoverPodView Annotations.assignment
  dsimp only
  split
  · cases atoi p.annotations.assignmentEpoch <;> rfl
  · rfl

/-- It terminates with its pod. -/
theorem terminating_failoverPodView : (failoverPodView state p).terminating = p.terminating := by
  unfold failoverPodView
  dsimp only
  split
  · split <;> rfl
  · rfl

section Intent

variable {pods : List FailoverPodView} {acc : FailoverIntent × ℤ} {p q : FailoverPodView} {epoch : ℤ}

/-- A master at the highest epoch, with the smallest name there. -/
structure IntendedMaster (pods : List FailoverPodView) (p : FailoverPodView) (epoch : ℤ) : Prop where
  mem : p ∈ pods
  assigned : p.assignment = some (roleMaster, epoch)
  prevails : ∀ q ∈ pods, ∀ e, q.assignment = some (roleMaster, e) →
    e < epoch ∨ (e = epoch ∧ p.name ≤ q.name)

/-- What reading the pods has come to: the highest epoch, and the intended master if there is one. -/
structure ReadFrom (pods : List FailoverPodView) (acc : FailoverIntent × ℤ) : Prop where
  nonneg : 0 ≤ acc.1.maxEpoch
  bounds : ∀ p ∈ pods, ∀ role e, p.assignment = some (role, e) → e ≤ acc.1.maxEpoch
  unaddressed : acc.1.masterName = "" → acc.1.masterIP = ""
  unnamed : acc.1.masterName = "" → ∀ p ∈ pods, ∀ e, p.assignment ≠ some (roleMaster, e)
  named : acc.1.masterName ≠ "" →
    ∃ p, IntendedMaster pods p acc.2 ∧ p.name = acc.1.masterName ∧ p.ip = acc.1.masterIP

/-- A pod that does not prevail changes nothing. -/
theorem IntendedMaster.snoc (h : IntendedMaster pods p epoch)
    (hq : ∀ e, q.assignment = some (roleMaster, e) → e < epoch ∨ (e = epoch ∧ p.name ≤ q.name)) :
    IntendedMaster (pods ++ [q]) p epoch := by
  refine ⟨mem_append_left _ h.mem, h.assigned, fun r hr => ?_⟩
  rcases mem_append.mp hr with hr | hr
  · exact h.prevails r hr
  · rwa [mem_singleton.mp hr]

/-- A pod without an assignment is skipped. -/
theorem readIntent_of_none (acc : FailoverIntent × ℤ) (h : p.assignment = none) : readIntent acc p = acc := by
  cases hassigned : p.hasAssignment with
  | true => simp [FailoverPodView.assignment, hassigned] at h
  | false => simp [readIntent, hassigned]

/-- A master at a higher epoch, or with a smaller name, takes over. -/
theorem readIntent_of_some (acc : FailoverIntent × ℤ) {role : String} (h : p.assignment = some (role, epoch)) :
    readIntent acc p = if role = roleMaster ∧ (acc.1.masterName = "" ∨ acc.2 < epoch ∨
          (epoch = acc.2 ∧ p.name < acc.1.masterName)) then (⟨p.name, p.ip, max acc.1.maxEpoch epoch⟩, epoch)
      else ({ acc.1 with maxEpoch := max acc.1.maxEpoch epoch }, acc.2) := by
  cases hassigned : p.hasAssignment with
  | false => simp [FailoverPodView.assignment, hassigned] at h
  | true =>
    simp only [FailoverPodView.assignment, hassigned, if_true, Option.some.injEq, Prod.mk.injEq] at h
    obtain ⟨rfl, rfl⟩ := h
    by_cases hrole : p.assignedRole = roleMaster
    · simp [readIntent, hassigned, hrole]
    · simp [readIntent, hassigned, hrole]

/-- A pod has one assignment. -/
theorem assignment_unique {role role' : String} {e : ℤ} (h : p.assignment = some (role, epoch))
    (h' : p.assignment = some (role', e)) : role' = role ∧ e = epoch := by
  rw [h, Option.some.injEq, Prod.mk.injEq] at h'
  exact ⟨h'.1.symm, h'.2.symm⟩

namespace ReadFrom

variable (h : ReadFrom pods acc)
include h

/-- The highest epoch stays a bound. -/
theorem bounds_snoc {role : String} (hassigned : p.assignment = some (role, epoch)) :
    ∀ q ∈ pods ++ [p], ∀ role e, q.assignment = some (role, e) → e ≤ max acc.1.maxEpoch epoch := by
  simp only [forall_mem_append, forall_mem_singleton]
  constructor
  · intro q hq role e hsome
    have hle := h.bounds q hq role e hsome
    omega
  · intro role e hsome
    have heq := (assignment_unique hassigned hsome).2
    omega

/-- The loop skips a pod without an assignment. -/
theorem skip (hassigned : p.assignment = none) : ReadFrom (pods ++ [p]) acc := by
  have hnone : ∀ role e, p.assignment ≠ some (role, e) := fun role e hsome => by simp [hassigned] at hsome
  refine ⟨h.nonneg, ?_, h.unaddressed, ?_, ?_⟩
  · simp only [forall_mem_append, forall_mem_singleton]
    exact ⟨h.bounds, fun role e hsome => absurd hsome (hnone role e)⟩
  · simp only [forall_mem_append, forall_mem_singleton]
    exact fun hempty => ⟨h.unnamed hempty, hnone roleMaster⟩
  · intro hnamed
    obtain ⟨q, hq, hident⟩ := h.named hnamed
    exact ⟨q, hq.snoc fun e hsome => absurd hsome (hnone roleMaster e), hident⟩

/-- The loop takes a master that prevails. -/
theorem win (hname : p.name ≠ "") (hassigned : p.assignment = some (roleMaster, epoch))
    (hwins : acc.1.masterName = "" ∨ acc.2 < epoch ∨ (epoch = acc.2 ∧ p.name < acc.1.masterName)) :
    ReadFrom (pods ++ [p]) (⟨p.name, p.ip, max acc.1.maxEpoch epoch⟩, epoch) := by
  have hnonneg : 0 ≤ max acc.1.maxEpoch epoch := by
    have hle := h.nonneg
    omega
  refine ⟨hnonneg, h.bounds_snoc hassigned, fun hempty => absurd hempty hname,
    fun hempty => absurd hempty hname, fun _ =>
    ⟨p, ⟨mem_append_right _ (mem_singleton_self p), hassigned, ?_⟩, rfl, rfl⟩⟩
  simp only [forall_mem_append, forall_mem_singleton]
  refine ⟨fun q hq e hmaster => ?_,
    fun e hmaster => .inr ⟨(assignment_unique hassigned hmaster).2, String.le_refl _⟩⟩
  by_cases hempty : acc.1.masterName = ""
  · exact absurd hmaster (h.unnamed hempty q hq e)
  obtain ⟨r, hr, hrname, -⟩ := h.named hempty
  have hbelow := hr.prevails q hq e hmaster
  rcases hwins with hnone | hhigher | ⟨heq, hsmaller⟩
  · exact absurd hnone hempty
  · exact .inl (by omega)
  · rcases hbelow with hlt | ⟨heq', hle⟩
    · exact .inl (by omega)
    · have hsmaller : p.name ≤ r.name := String.not_lt.mp (String.lt_asymm (hrname ▸ hsmaller))
      exact .inr ⟨by omega, String.le_trans hsmaller hle⟩

/-- The loop keeps the intent when the pod does not prevail. -/
theorem lose {role : String} (hassigned : p.assignment = some (role, epoch))
    (hloses : ¬(role = roleMaster ∧ (acc.1.masterName = "" ∨ acc.2 < epoch ∨ (epoch = acc.2 ∧ p.name <
      acc.1.masterName)))) :
    ReadFrom (pods ++ [p]) ({ acc.1 with maxEpoch := max acc.1.maxEpoch epoch }, acc.2) := by
  have hnonneg : 0 ≤ max acc.1.maxEpoch epoch := by
    have hle := h.nonneg
    omega
  refine ⟨hnonneg, h.bounds_snoc hassigned, h.unaddressed, ?_, fun hnamed => ?_⟩
  · simp only [forall_mem_append, forall_mem_singleton]
    intro hempty
    refine ⟨h.unnamed hempty, fun e hmaster => hloses ⟨?_, .inl hempty⟩⟩
    exact (assignment_unique hassigned hmaster).1.symm
  · obtain ⟨q, hq, hqname, hqip⟩ := h.named hnamed
    refine ⟨q, hq.snoc fun e hmaster => ?_, hqname, hqip⟩
    obtain ⟨hrole, rfl⟩ := assignment_unique hassigned hmaster
    have hle : ¬acc.2 < e := fun hlt => hloses ⟨hrole.symm, .inr (.inl hlt)⟩
    by_cases heq : e = acc.2
    · refine .inr ⟨heq, String.not_lt.mp fun hlt => hloses ⟨hrole.symm, .inr (.inr ⟨heq, ?_⟩)⟩⟩
      rwa [← hqname]
    · exact .inl (by omega)

/-- One turn of the loop. -/
theorem snoc (hname : p.name ≠ "") : ReadFrom (pods ++ [p]) (readIntent acc p) := by
  cases hassigned : p.assignment with
  | none =>
    rw [readIntent_of_none acc hassigned]
    exact h.skip hassigned
  | some assignment =>
    obtain ⟨role, epoch⟩ := assignment
    rw [readIntent_of_some acc hassigned]
    split
    · rename_i hwins
      obtain ⟨rfl, hwins⟩ := hwins
      exact h.win hname hassigned hwins
    · rename_i hloses
      exact h.lose hassigned hloses

end ReadFrom

/-- The loop finds the intent and the highest epoch. -/
theorem readFrom_resolveFailoverIntent (hnames : ∀ p ∈ pods, p.name ≠ "") :
    ∃ epoch, ReadFrom pods (resolveFailoverIntent pods, epoch) := by
  suffices h : ReadFrom pods (pods.foldl readIntent (⟨"", "", 0⟩, 0)) from ⟨_, h⟩
  induction pods using List.reverseRecOn with
  | nil =>
    exact ⟨le_refl _, forall_mem_nil _, fun _ => rfl, fun _ => forall_mem_nil _, fun h => absurd rfl h⟩
  | append_singleton pods p ih =>
    rw [foldl_append]
    exact (ih fun q hq => hnames q (mem_append_left _ hq)).snoc
      (hnames p (mem_append_right _ (mem_singleton_self p)))

/-- The highest epoch is on some pod, unless it is zero. -/
theorem maxEpoch_attained (pods : List FailoverPodView) :
    (resolveFailoverIntent pods).maxEpoch = 0 ∨
      ∃ p ∈ pods, ∃ role, p.assignment = some (role, (resolveFailoverIntent pods).maxEpoch) := by
  unfold resolveFailoverIntent
  induction pods using List.reverseRecOn with
  | nil => exact .inl rfl
  | append_singleton pods p ih =>
    rw [foldl_append, foldl_cons, foldl_nil]
    generalize pods.foldl readIntent (⟨"", "", 0⟩, 0) = acc at ih ⊢
    have hkept : acc.1.maxEpoch = 0 ∨ ∃ q ∈ pods ++ [p], ∃ role,
        q.assignment = some (role, acc.1.maxEpoch) :=
      ih.imp_right fun ⟨q, hq, hassigned⟩ => ⟨q, mem_append_left _ hq, hassigned⟩
    cases hassigned : p.assignment with
    | none => rwa [readIntent_of_none acc hassigned]
    | some assignment =>
      have hmax : (readIntent acc p).1.maxEpoch = max acc.1.maxEpoch assignment.2 := by
        rw [readIntent_of_some acc hassigned]
        split <;> rfl
      rw [hmax]
      rcases le_total assignment.2 acc.1.maxEpoch with hle | hle
      · rwa [max_eq_left hle]
      · rw [max_eq_right hle]
        exact .inr ⟨p, mem_append_right _ (mem_singleton_self p), assignment.1, hassigned⟩

/-- The intended master is found. -/
theorem resolveFailoverIntent_of_intended (hnames : ∀ p ∈ pods, p.name ≠ "")
    (hnodup : (pods.map (·.name)).Nodup) (h : IntendedMaster pods p epoch) :
    (resolveFailoverIntent pods).masterName = p.name ∧ (resolveFailoverIntent pods).masterIP = p.ip := by
  obtain ⟨epoch', hread⟩ := readFrom_resolveFailoverIntent hnames
  have hnamed : (resolveFailoverIntent pods).masterName ≠ "" :=
    fun hempty => hread.unnamed hempty p h.mem epoch h.assigned
  obtain ⟨q, hq, hname, hip⟩ := hread.named hnamed
  have hsame : p = q := by
    refine inj_on_of_nodup_map hnodup h.mem hq.mem (String.le_antisymm ?_ ?_)
    · rcases h.prevails q hq.mem epoch' hq.assigned with hlt | ⟨-, hle⟩
      · rcases hq.prevails p h.mem epoch h.assigned with hlt' | ⟨heq, -⟩ <;> omega
      · exact hle
    · rcases hq.prevails p h.mem epoch h.assigned with hlt | ⟨-, hle⟩
      · rcases h.prevails q hq.mem epoch' hq.assigned with hlt' | ⟨heq, -⟩ <;> omega
      · exact hle
  rw [hsame]
  exact ⟨hname.symm, hip.symm⟩

end Intent

section Views

variable {podList : List PodObject}

/-- The views have the names of the pods. -/
theorem map_name_buildFailoverPodViews (podList : List PodObject) (state : Option ReplicationState) :
    (buildFailoverPodViews podList state).map (·.name) = podList.map (·.name) := by
  rw [buildFailoverPodViews, map_map]
  exact map_congr_left fun p _ => (failoverPodView_identity state p).1

/-- The intent does not depend on what the pods answer. -/
theorem resolveFailoverIntent_gathered (podList : List PodObject) (state : Option ReplicationState) :
    resolveFailoverIntent (buildFailoverPodViews podList state) =
      resolveFailoverIntent (buildFailoverPodViews podList none) := by
  have hread : ∀ acc p, readIntent acc (failoverPodView state p) = readIntent acc (failoverPodView none p) := by
    intro acc p
    obtain ⟨hname, hip⟩ := failoverPodView_identity state p
    obtain ⟨hname', hip'⟩ := failoverPodView_identity none p
    have hsame : (failoverPodView state p).assignment = (failoverPodView none p).assignment := by
      rw [assignment_failoverPodView, assignment_failoverPodView]
    cases hassigned : (failoverPodView none p).assignment with
    | none => rw [readIntent_of_none acc hassigned, readIntent_of_none acc (hsame.trans hassigned)]
    | some assignment =>
      rw [readIntent_of_some acc hassigned, readIntent_of_some acc (hsame.trans hassigned), hname, hip,
        hname', hip']
  unfold resolveFailoverIntent buildFailoverPodViews
  rw [foldl_map, foldl_map]
  simp only [hread]

/-- Every pod has a name. -/
def Named (podList : List PodObject) : Prop := ∀ p ∈ podList, p.name ≠ ""

instance (podList : List PodObject) : Decidable (Named podList) :=
  inferInstanceAs (Decidable (∀ p ∈ podList, _))

/-- So has every view. -/
theorem Named.views (h : Named podList) (state : Option ReplicationState) :
    ∀ view ∈ buildFailoverPodViews podList state, view.name ≠ "" := by
  intro view hview
  obtain ⟨p, hp, rfl⟩ := mem_map.mp hview
  rw [(failoverPodView_identity state p).1]
  exact h p hp

/-- No pod has a higher epoch. -/
theorem epoch_le_maxEpoch (h : Named podList) (state : Option ReplicationState) {p : PodObject}
    (hp : p ∈ podList) {role : String} {e : ℤ} (hassigned : p.annotations.assignment = some (role, e)) :
    e ≤ (resolveFailoverIntent (buildFailoverPodViews podList state)).maxEpoch := by
  obtain ⟨epoch, hread⟩ := readFrom_resolveFailoverIntent (h.views state)
  refine hread.bounds _ (mem_map_of_mem hp) role e ?_
  rwa [assignment_failoverPodView]

/-- The highest epoch is not negative. -/
theorem maxEpoch_nonneg (h : Named podList) (state : Option ReplicationState) :
    0 ≤ (resolveFailoverIntent (buildFailoverPodViews podList state)).maxEpoch := by
  obtain ⟨epoch, hread⟩ := readFrom_resolveFailoverIntent (h.views state)
  exact hread.nonneg

/-- The next epoch is one above, as long as 64 bits suffice. -/
theorem nextEpoch_of_lt {intent : FailoverIntent} (hnonneg : 0 ≤ intent.maxEpoch)
    (hlt : intent.maxEpoch < 2 ^ 63 - 1) : intent.nextEpoch = intent.maxEpoch + 1 := by
  refine Int.bmod_eq_of_le ?_ ?_ <;> omega

end Views

section Stamps

variable {podList : List PodObject} {masterName masterIP : String} {epoch : ℤ} {authorize : Bool}
  {planned : PlannedStamp}

/-- What a pass that makes a pod the master assigns to a pod. -/
structure AssignedTo (masterName masterIP : String) (epoch : ℤ) (authorize : Bool) (p : PodObject)
    (planned : PlannedStamp) : Prop where
  address : p.ip ≠ ""
  staying : p.terminating = false
  stamp : planned.stamp =
    if p.name = masterName then ⟨p.name, roleMaster, "", epoch, authorize⟩
    else ⟨p.name, roleReplica, masterIP, epoch, false⟩

/-- An assignment is for the pod it was made from. -/
theorem assignedTo_of_stamp {p : PodObject} (h : (if p.ip = "" ∨ p.terminating then none
      else if p.name = masterName then
        some (⟨⟨p.name, roleMaster, "", epoch, authorize⟩, p.ip⟩ : PlannedStamp)
      else some ⟨⟨p.name, roleReplica, masterIP, epoch, false⟩, p.ip⟩) = some planned) :
    AssignedTo masterName masterIP epoch authorize p planned := by
  split at h
  · cases h
  rename_i hkept
  rw [not_or, Bool.not_eq_true] at hkept
  split at h
  · rename_i hname
    cases h
    exact ⟨hkept.1, hkept.2, (if_pos hname).symm⟩
  · rename_i hname
    cases h
    exact ⟨hkept.1, hkept.2, (if_neg hname).symm⟩

/-- It has the pod's name, the epoch and one of the two roles. -/
theorem AssignedTo.spec {p : PodObject} (h : AssignedTo masterName masterIP epoch authorize p planned) :
    planned.stamp.podName = p.name ∧ planned.stamp.epoch = epoch ∧
      ((planned.stamp.role = roleMaster ∧ p.name = masterName) ∨
        (planned.stamp.role = roleReplica ∧ p.name ≠ masterName)) := by
  rw [h.stamp]
  split
  · rename_i hname
    exact ⟨rfl, rfl, .inl ⟨rfl, hname⟩⟩
  · rename_i hname
    exact ⟨rfl, rfl, .inr ⟨rfl, hname⟩⟩

/-- A fresh assignment is for a pod that stays and is neither the intended nor the live master. -/
structure ReauthorizedTo (intent : FailoverIntent) (liveMasterIP : String) (p : FailoverPodView)
    (planned : PlannedStamp) : Prop where
  name : planned.stamp.podName = p.name
  role : planned.stamp.role = roleReplica
  authorizes : planned.stamp.authorizeMasterStart = false
  staying : p.terminating = false
  notIntended : p.name ≠ intent.masterName
  notLive : p.ip ≠ liveMasterIP
  epoch : planned.stamp.epoch = max intent.maxEpoch 1 ∨ planned.stamp.epoch = intent.nextEpoch

/-- Fresh assignments are for such pods only. -/
theorem reauthorizedTo_of_stamp {intent : FailoverIntent} {liveMasterIP : String} {p : FailoverPodView}
    (h : reauthStamp intent liveMasterIP p = some planned) :
    ReauthorizedTo intent liveMasterIP p planned := by
  rw [reauthStamp] at h
  split at h
  · cases h
  rename_i hkept
  rw [not_or, not_or, not_or, Bool.not_eq_true] at hkept
  obtain ⟨-, hstaying, hname, hip⟩ := hkept
  split at h
  · cases h
    exact ⟨rfl, rfl, rfl, hstaying, hname, hip, .inl rfl⟩
  · split at h
    · cases h
      exact ⟨rfl, rfl, rfl, hstaying, hname, hip, .inr rfl⟩
    · cases h

end Stamps

section Patch

variable {stamp : FailoverStamp}

/-- An assignment that reads back as it is written. -/
structure Legible (stamp : FailoverStamp) : Prop where
  role : stamp.role ≠ ""
  nonneg : 0 ≤ stamp.epoch
  lt : stamp.epoch < 2 ^ 63

/-- A legible epoch is read back. -/
theorem Legible.atoi_epochText (h : Legible stamp) : atoi stamp.epochText = some stamp.epoch := by
  obtain ⟨n, hn⟩ := Int.eq_ofNat_of_zero_le h.nonneg
  have hlt := h.lt
  rw [FailoverStamp.epochText, hn]
  exact atoi_toString (by omega)

/-- It is not empty. -/
theorem Legible.epochText_ne_empty (h : Legible stamp) : stamp.epochText ≠ "" := by
  intro hempty
  have hread := h.atoi_epochText
  rw [hempty] at hread
  cases hread

/-- A key that nobody else changed gets what is desired. -/
theorem mergeKey_self (read desired : String) : mergeKey read desired read = desired := by
  unfold mergeKey
  split
  · assumption
  · rfl

/-- A patch of the pod that was read writes the whole assignment. -/
theorem annotations_patched_self (stamp : FailoverStamp) (target : Version) (now : ℕ) :
    (stamp.patched target.annotations target now).annotations =
      ⟨stamp.role, stamp.masterIP, stamp.epochText, if stamp.authorizeMasterStart then stamp.epochText
        else target.annotations.masterStartAuthorizedEpoch⟩ := by
  simp only [FailoverStamp.patched, mergeKey_self, Annotations.mk.injEq, true_and]
  cases stamp.authorizeMasterStart with
  | false => rfl
  | true =>
    by_cases hsame : target.annotations.masterStartAuthorizedEpoch = stamp.epochText
    · simp [hsame]
    · simp [hsame]

/-- A patch of an empty value writes it or leaves it empty. -/
theorem mergeKey_empty (read desired : String) :
    mergeKey read desired "" = desired ∨ mergeKey read desired "" = "" := by
  unfold mergeKey
  split
  · exact .inr rfl
  · exact .inl rfl

/-- Role and epoch make the assignment. -/
theorem Legible.assignment_of_texts (h : Legible stamp) {a : Annotations}
    (hrole : a.assignedRole = stamp.role) (hepoch : a.assignmentEpoch = stamp.epochText) :
    a.assignment = some (stamp.role, stamp.epoch) := by
  rw [Annotations.assignment, hrole, hepoch, if_pos ⟨h.role, h.epochText_ne_empty⟩, h.atoi_epochText]
  rfl

/-- A pod that carries the assignment has it. -/
theorem Legible.assignment_of_carriedBy (h : Legible stamp) {a : Annotations}
    (hcarried : stamp.carriedBy a = true) : a.assignment = some (stamp.role, stamp.epoch) := by
  simp only [FailoverStamp.carriedBy, Bool.and_eq_true, beq_iff_eq] at hcarried
  exact h.assignment_of_texts hcarried.1.1.1 hcarried.1.2

/-- A patch gives the assignment, or none on a pod that was replaced. -/
theorem Legible.assignment_patched (h : Legible stamp) {read : Annotations} {target : Version} (now : ℕ)
    (htarget : target.annotations = read ∨ target.annotations = {}) :
    (stamp.patched read target now).annotations.assignment = some (stamp.role, stamp.epoch) ∨
      (target.annotations = {} ∧ (stamp.patched read target now).annotations.assignment = none) := by
  rcases htarget with hread | hempty
  · refine .inl (h.assignment_of_texts ?_ ?_)
    · exact hread ▸ mergeKey_self _ _
    · exact hread ▸ mergeKey_self _ _
  · have hroleKey : (stamp.patched read target now).annotations.assignedRole =
        mergeKey read.assignedRole stamp.role "" := by simp only [FailoverStamp.patched, hempty]
    have hepochKey : (stamp.patched read target now).annotations.assignmentEpoch =
        mergeKey read.assignmentEpoch stamp.epochText "" := by simp only [FailoverStamp.patched, hempty]
    rcases mergeKey_empty read.assignedRole stamp.role with hr | hr
    · rcases mergeKey_empty read.assignmentEpoch stamp.epochText with he | he
      · exact .inl (h.assignment_of_texts (hroleKey.trans hr) (hepochKey.trans he))
      · refine .inr ⟨hempty, ?_⟩
        rw [Annotations.assignment, hepochKey, he, if_neg fun hboth => hboth.2 rfl]
    · refine .inr ⟨hempty, ?_⟩
      rw [Annotations.assignment, hroleKey, hr, if_neg fun hboth => hboth.1 rfl]

end Patch

end LittleRed.Failover
