import LittleRed.Cluster.Migration.Execution
import LittleRed.Cluster.Migration.Start
import LittleRed.Lib.Progress
import Mathlib.Algebra.GroupWithZero.Nat
import Mathlib.Algebra.Order.BigOperators.Group.List
import Mathlib.Algebra.Order.Group.Nat

/-!
# The migration ends

Until the old pods are deleted, each pass lowers the first that it changes of these: whether the new pods
were created, the pods that have not joined, the time until they are up, the new pods not attached, the
ranges on old pods, and the time until the replicas are in sync.
-/

namespace LittleRed.Cluster.Migration

open Lib List

variable {setup : Setup} {s s' : State} {plan : MigrationPlan}

section Kept

/-- Attaching keeps slots, membership and boot. -/
theorem Attaches.kept {f : Member → NodeState} (h : Attaches setup s.mesh f) {m : Member}
    (hm : m ∈ s.mesh.members) : (f m).slots = m.slots ∧ (f m).met = m.met ∧ (f m).boot = m.boot := by
  cases hunattached : m.unattached setup with
  | false =>
    rw [h.same m hm hunattached]
    exact ⟨rfl, rfl, rfl⟩
  | true =>
    obtain ⟨_, -, -, _, -, -, _, hfollow⟩ := h.follow m hm hunattached
    rw [hfollow]
    exact ⟨rfl, rfl, rfl⟩

section

variable (heffect : Effect setup s plan s')
include heffect

/-- A pass keeps one owner for every range. -/
theorem Effect.sound (h : Sound setup s.mesh) : Sound setup s'.mesh := by
  cases heffect with
  | complete | standup => exact h
  | meet f hmeet =>
    refine h.update (fun m hm => ?_) (fun m hm hmet => ?_) (fun m hm hmet => ?_)
      fun m hm k hpod hreplica o ho howns => ?_
    · rw [hmeet m hm]
      split <;> rfl
    · rw [hmeet m hm]
      split
      · rfl
      · exact hmet
    · rw [hmeet m hm] at hmet ⊢
      split
      · rename_i hboot
        exact hboot
      · rename_i hboot
        rw [if_neg hboot] at hmet
        exact h.met m hm hmet
    · have hsame : (f m).replica = m.replica ∧ (f m).masterNodeID = m.masterNodeID := by
        rw [hmeet m hm]
        split <;> exact ⟨rfl, rfl⟩
      rw [hsame.2]
      exact h.following m hm k hpod (hsame.1 ▸ hreplica) o ho howns
  | replicate hall f hattach =>
    refine h.update (fun m hm => (hattach.kept hm).1) (fun m hm hmet => (hattach.kept hm).2.1.trans hmet)
      (fun m hm _ => (hattach.kept hm).2.2.trans (h.met m hm (hall m hm)))
      fun m hm k hpod hreplica o ho howns => ?_
    cases hunattached : m.unattached setup with
    | false =>
      rw [hattach.same m hm hunattached] at hreplica ⊢
      exact h.following m hm k hpod hreplica o ho howns
    | true =>
      obtain ⟨j, hj, hpod', o', ho', howns', delay, hfollow⟩ := hattach.follow m hm hunattached
      obtain rfl := shard_of_newPods hpod hpod'
      rw [hfollow, h.owner_unique hj ho ho' howns howns']
      rfl
  | failover hall k hk r o hr ho hname hempty howns delay =>
    exact h.takeOver hk hr ho hname (hall r hr) hempty howns delay
  | decommission hall hempty mesh hmem => exact h.dropOld hempty (fun m hm _ => hall m hm) hmem

/-- Once all have joined, no pass falls back. -/
theorem Effect.allMet (h : ∀ m ∈ s.mesh.members, m.met = true) :
    (∀ m ∈ s'.mesh.members, m.met = true) ∧
      (plan.phase = .replicate ∨ plan.phase = .failover ∨ plan.phase = .decommission ∨
        plan.phase = .complete) := by
  cases heffect with
  | complete _ hphase => exact ⟨h, .inr (.inr (.inr hphase))⟩
  | standup hwait =>
    obtain ⟨m, hm, hunmet, -⟩ := hwait
    exact absurd (hunmet.symm.trans (h m hm)) Bool.false_ne_true
  | meet f _ hwork =>
    obtain ⟨m, hm, hunmet, -⟩ := hwork
    exact absurd (hunmet.symm.trans (h m hm)) Bool.false_ne_true
  | replicate _ f hattach _ hphase =>
    refine ⟨forall_mem_map.mpr fun m hm => ?_, .inl hphase⟩
    exact (hattach.kept hm).2.1.trans (h m hm)
  | failover _ _ _ _ _ _ _ _ _ _ _ hphase =>
    refine ⟨forall_mem_map.mpr fun m hm => ?_, .inr (.inl hphase)⟩
    exact Sound.takeOver_kept.1.trans (h m hm)
  | decommission _ _ mesh hmem hphase =>
    exact ⟨fun m hm => h m ((hmem m).mp hm).1, .inr (.inr (.inl hphase))⟩

/-- Old pods stay until they are deleted. -/
theorem Effect.exists_old (hdelete : plan.deleteLegacy = false)
    (h : ∃ m ∈ s.mesh.members, m.old setup = true) : ∃ m ∈ s'.mesh.members, m.old setup = true := by
  obtain ⟨m, hm, hold⟩ := h
  cases heffect with
  | complete | standup => exact ⟨m, hm, hold⟩
  | meet | replicate | failover => exact ⟨_, mem_map_of_mem hm, hold⟩
  | decommission _ _ _ _ _ hdelete' => exact absurd (hdelete.symm.trans hdelete') Bool.false_ne_true

/-- A pass that sets the flag is in the decommission phase, and no old pod is left after it. -/
theorem Effect.decommissions (hdelete : plan.deleteLegacy = true) :
    plan.phase = .decommission ∧ ∀ m ∈ s'.tick.mesh.members, m.old setup = false := by
  cases heffect with
  | complete _ _ hkept | standup _ _ hkept | meet _ _ _ _ hkept | replicate _ _ _ _ _ hkept
  | failover _ _ _ _ _ _ _ _ _ _ _ _ hkept => exact absurd (hkept.symm.trans hdelete) Bool.false_ne_true
  | decommission _ _ _ hmem hphase =>
    exact ⟨hphase, forall_mem_map.mpr fun m hm => ((hmem m).mp hm).2⟩

end

/-- Time passes. -/
theorem Sound.tick (h : Sound setup s.mesh) : Sound setup s.tick.mesh := by
  refine h.update (fun _ _ => rfl) (fun _ _ hmet => hmet) (fun m hm hmet => ?_)
    fun m hm k hpod hreplica o ho howns => h.following m hm k hpod hreplica o ho howns
  have hboot := h.met m hm hmet
  change (if s.created = true then m.boot - 1 else m.boot) = 0
  split <;> omega

end Kept

section Ranks

def total (weight : Member → ℕ) (s : State) : ℕ := (s.mesh.members.map weight).sum

variable {f : Member → NodeState}

variable {weight : Member → ℕ} {created : Bool} {r o : Member}

theorem total_update_le (h : ∀ m ∈ s.mesh.members, weight (m.set (f m)) ≤ weight m) :
    total weight ⟨s.mesh.update f, created⟩ ≤ total weight s := by
  change ((s.mesh.members.map _).map weight).sum ≤ _
  rw [map_map]
  exact sum_le_sum h

theorem total_update_lt (h : ∀ m ∈ s.mesh.members, weight (m.set (f m)) ≤ weight m)
    (hlower : ∃ m ∈ s.mesh.members, weight (m.set (f m)) < weight m) :
    total weight ⟨s.mesh.update f, created⟩ < total weight s := by
  change ((s.mesh.members.map _).map weight).sum < _
  rw [map_map]
  exact sum_lt_sum _ _ h hlower

def unmetWeight (m : Member) : ℕ := (!m.met).toNat

def bootWeight (m : Member) : ℕ := m.boot

def unattachedWeight (setup : Setup) (m : Member) : ℕ := (m.unattached setup).toNat

def unmovedWeight (setup : Setup) (m : Member) : ℕ := (m.old setup && !m.slots.isEmpty).toNat

def linkWeight (m : Member) : ℕ := m.link

/-- What a pass lowers. -/
def ranks (setup : Setup) : List (State → ℕ) :=
  [fun s => (!s.created).toNat, total unmetWeight, total bootWeight, total (unattachedWeight setup),
    total (unmovedWeight setup), total linkWeight]

/-- Time lowers or keeps all but the links. -/
theorem total_tick_le (setup : Setup) (s : State) :
    ∀ weight ∈ [unmetWeight, bootWeight, unattachedWeight setup, unmovedWeight setup],
      total weight s.tick ≤ total weight s := by
  intro weight hweight
  refine total_update_le fun m hm => ?_
  simp only [mem_cons, not_mem_nil, or_false] at hweight
  rcases hweight with rfl | rfl | rfl | rfl
  · exact le_rfl
  · change (if s.created = true then m.boot - 1 else m.boot) ≤ m.boot
    split <;> omega
  · exact le_rfl
  · exact le_rfl

theorem total_bootWeight_tick_lt (hcreated : s.created = true) (h : ∃ m ∈ s.mesh.members, 0 < m.boot) :
    total bootWeight s.tick < total bootWeight s := by
  have hboot : ∀ m : Member, (if s.created = true then m.boot - 1 else m.boot) = m.boot - 1 :=
    fun m => if_pos hcreated
  obtain ⟨m, hm, hpos⟩ := h
  refine total_update_lt (fun m _ => ?_) ⟨m, hm, ?_⟩
  · exact (hboot m).le.trans (Nat.sub_le _ _)
  · exact (hboot m).trans_lt (Nat.sub_lt hpos Nat.one_pos)

theorem total_linkWeight_tick_lt (h : ∃ m ∈ s.mesh.members, 0 < m.link) :
    total linkWeight s.tick < total linkWeight s := by
  obtain ⟨m, hm, hpos⟩ := h
  exact total_update_lt (fun m _ => Nat.sub_le _ _) ⟨m, hm, Nat.sub_lt hpos Nat.one_pos⟩

/-- A promotion detaches nobody. -/
theorem unattached_of_takeOver {m : Member} (howner : o.slots ≠ []) {delay : String → ℕ}
    (h : (m.set (Mesh.takeOver r o m delay)).unattached setup = true) : m.unattached setup = true := by
  change (!m.old setup && !(Mesh.takeOver r o m delay).replica &&
    (Mesh.takeOver r o m delay).slots.isEmpty) = true at h
  unfold Mesh.takeOver at h
  split at h
  · rw [Bool.and_eq_true, List.isEmpty_iff] at h
    exact absurd h.2 howner
  split at h
  · simp [Mesh.follow] at h
  split at h
  · simp [Mesh.follow] at h
  · exact h

/-- Attaching or waiting lowers the ranks. -/
theorem lowers_replicate (hattach : Attaches setup s.mesh f)
    (hwork : ∃ m ∈ s.mesh.members, m.unattached setup = true ∨ 0 < m.link) :
    Lowers (ranks setup) s (State.tick { s with mesh := s.mesh.update f }) := by
  by_cases hnew : ∃ m ∈ s.mesh.members, m.unattached setup = true
  · have htick := total_tick_le setup { s with mesh := s.mesh.update f }
    have hafter : ∀ m ∈ s.mesh.members, (m.set (f m)).unattached setup = false := by
      intro m hm
      cases hunattached : m.unattached setup with
      | false =>
        rwa [hattach.same m hm hunattached]
      | true =>
        obtain ⟨_, -, -, _, -, -, _, hfollow⟩ := hattach.follow m hm hunattached
        rw [hfollow, Member.unattached, Bool.and_eq_false_iff, Bool.and_eq_false_iff]
        exact .inl (.inr rfl)
    have hweight : ∀ m ∈ s.mesh.members, unattachedWeight setup (m.set (f m)) = 0 :=
      fun m hm => congrArg Bool.toNat (hafter m hm)
    refine .later le_rfl (.later ((htick _ (by simp)).trans (total_update_le fun m hm => ?_))
      (.later ((htick _ (by simp)).trans (total_update_le fun m hm => ?_))
        (.first ((htick _ (by simp)).trans_lt (total_update_lt (fun m hm => ?_) ?_)))))
    · exact (congrArg (fun met => (!met).toNat) (hattach.kept hm).2.1).le
    · exact (hattach.kept hm).2.2.le
    · rw [hweight m hm]
      exact Nat.zero_le _
    · obtain ⟨m, hm, hunattached⟩ := hnew
      refine ⟨m, hm, ?_⟩
      rw [hweight m hm, unattachedWeight, hunattached]
      exact Nat.one_pos
  · -- Nobody is attached, so only time passes.
    push Not at hnew
    have hid : s.mesh.update f = s.mesh := (Mesh.update_congr fun m hm =>
      hattach.same m hm (Bool.not_eq_true _ ▸ hnew m hm)).trans Mesh.update_toNodeState
    have htick := total_tick_le setup s
    obtain ⟨m, hm, hwork⟩ := hwork
    rw [hid]
    exact .later le_rfl (.later (htick _ (by simp)) (.later (htick _ (by simp)) (.later (htick _ (by simp))
      (.later (htick _ (by simp))
        (.first (total_linkWeight_tick_lt ⟨m, hm, hwork.resolve_left (hnew m hm)⟩))))))

theorem lowers_failover (ho : o ∈ s.mesh.members) (hrold : r.old setup = false) (hr : r ∈ s.mesh.members)
    (hoold : o.old setup = true) (howner : o.slots ≠ []) (delay : String → ℕ) :
    Lowers (ranks setup) s
      (State.tick { s with mesh := s.mesh.update fun m => Mesh.takeOver r o m delay }) := by
  have htick := total_tick_le setup { s with mesh := s.mesh.update fun m => Mesh.takeOver r o m delay }
  have hne : o.nodeID ≠ r.nodeID := by
    intro hid
    rw [Mesh.eq_of_nodeID ho hr hid, hrold] at hoold
    cases hoold
  have hunmoved : ∀ m : Member, unmovedWeight setup (m.set (Mesh.takeOver r o m delay)) =
      (m.old setup && !(if m.nodeID = r.nodeID then o.slots else if m.nodeID = o.nodeID then [] else
        m.slots).isEmpty).toNat := by
    intro m
    rw [unmovedWeight, Sound.slots_takeOver]
    rfl
  refine .later le_rfl (.later ((htick _ (by simp)).trans (total_update_le fun m hm => ?_))
    (.later ((htick _ (by simp)).trans (total_update_le fun m hm => ?_))
      (.later ((htick _ (by simp)).trans (total_update_le fun m hm => ?_))
        (.first ((htick _ (by simp)).trans_lt (total_update_lt (fun m hm => ?_) ⟨o, ho, ?_⟩))))))
  · exact (congrArg (fun met => (!met).toNat) Sound.takeOver_kept.1).le
  · exact Sound.takeOver_kept.2.le
  · exact Bool.toNat_le_toNat (unattached_of_takeOver howner)
  · rw [hunmoved]
    split
    · rename_i hid
      rw [Mesh.eq_of_nodeID hm hr hid, hrold]
      exact Nat.zero_le _
    split
    · rw [isEmpty_nil, Bool.not_true, Bool.and_false]
      exact Nat.zero_le _
    · exact le_rfl
  · rw [hunmoved, if_neg hne, if_pos rfl, unmovedWeight, hoold]
    cases hslots : o.slots with
    | nil => exact absurd hslots howner
    | cons slotText rest => exact Nat.one_pos

/-- So does every pass until the old pods are deleted. -/
theorem Effect.lowers (heffect : Effect setup s plan s') (h : Sound setup s.mesh)
    (hdelete : plan.deleteLegacy = false) (hold : ∃ m ∈ s.mesh.members, m.old setup = true) :
    Lowers (ranks setup) s s'.tick := by
  have htick := total_tick_le setup s'
  cases heffect with
  | complete hgone =>
    obtain ⟨m, hm, hold⟩ := hold
    exact absurd ((hgone m hm).symm.trans hold) Bool.false_ne_true
  | standup hwait =>
    obtain ⟨m, hm, -, hpos⟩ := hwait
    cases hcreated : s.created with
    | false =>
      refine .first ?_
      rw [hcreated]
      exact Nat.one_pos
    | true =>
      refine .later ?_ (.later (htick _ (by simp)) (.first (total_bootWeight_tick_lt rfl ⟨m, hm, hpos⟩)))
      exact Nat.zero_le _
  | meet f hmeet hwork =>
    refine .later le_rfl (.first ((htick _ (by simp)).trans_lt (total_update_lt (fun m hm => ?_) ?_)))
    · rw [hmeet m hm]
      split
      · exact Nat.zero_le _
      · exact le_rfl
    · obtain ⟨m, hm, hmet, hboot⟩ := hwork
      refine ⟨m, hm, ?_⟩
      change (!(f m).met).toNat < (!m.met).toNat
      rw [hmeet m hm, if_pos hboot, hmet]
      exact Nat.one_pos
  | replicate _ f hattach hwork => exact lowers_replicate hattach hwork
  | failover _ k hk r o hr ho hname hempty howns delay =>
    have hrold : r.old setup = false := by
      rw [Member.old, hname, newMasterPodName, isLegacyClusterPod_clusterShardPodName]
    exact lowers_failover ho hrold hr (h.old_of_owns hk hr ho hname hempty howns) howns.slots_ne_nil delay
  | decommission _ _ _ _ _ hdelete' => exact absurd (hdelete.symm.trans hdelete') Bool.false_ne_true

end Ranks

section Runs

namespace LegacyStart

variable (hstart : LegacyStart setup s) (envs : ℕ → PassEnv)
include hstart

theorem sound_run (n : ℕ) : Sound setup (run setup envs s n).mesh := by
  induction n with
  | zero => exact hstart.sound
  | succ n ih => exact ((ih.effect hstart.exists_old.1 (envs n)).sound ih).tick

/-- What each pass of a run does. -/
theorem effect_run (n : ℕ) :
    Effect setup (run setup envs s n) ((run setup envs s n).plan setup (envs n).orders)
      (executeMigrationPhase setup (envs n) (run setup envs s n)
        ((run setup envs s n).plan setup (envs n).orders)) :=
  (hstart.sound_run envs n).effect hstart.exists_old.1 (envs n)

/-- Who has joined stays. -/
theorem met_run {i j : ℕ} (hij : i ≤ j) (h : ∀ m ∈ (run setup envs s i).mesh.members, m.met = true) :
    ∀ m ∈ (run setup envs s j).mesh.members, m.met = true := by
  induction hij with
  | refl => exact h
  | step _ ih => exact forall_mem_map.mpr ((hstart.effect_run envs _).allMet ih).1

/-- Old pods stay until a pass deletes them. -/
theorem old_run {n : ℕ} (h : ∀ i < n, ((run setup envs s i).plan setup (envs i).orders).deleteLegacy ≠ true) :
    ∃ m ∈ (run setup envs s n).mesh.members, m.old setup = true := by
  induction n with
  | zero => exact hstart.exists_old.2
  | succ n ih =>
    obtain ⟨m, hm, hold⟩ := (hstart.effect_run envs n).exists_old
      (Bool.not_eq_true _ ▸ h n (Nat.lt_succ_self n)) (ih fun i hi => h i (Nat.lt_succ_of_lt hi))
    exact ⟨_, mem_map_of_mem hm, hold⟩

end LegacyStart

/-- From a cluster of the right shape, whatever the delays: once all new pods joined no pass falls back,
every range always has one owner, and some pass deletes and leaves no old pod. -/
theorem migration_progress (hstart : LegacyStart setup s) (envs : ℕ → PassEnv) :
    (∀ i j, i ≤ j →
      allNewPodsMet ((run setup envs s i).view setup).1 setup.name setup.shards setup.replicasPerShard =
        true → ((run setup envs s j).plan setup (envs j).orders).phase ∈
        [.replicate, .failover, .decommission, .complete]) ∧
      (∀ n, ∀ k < setup.shards, ∃! o, o ∈ (run setup envs s n).mesh.members ∧ o.Owns setup k) ∧
      ∃ n, ((run setup envs s n).plan setup (envs n).orders).deleteLegacy = true ∧
        ((run setup envs s n).plan setup (envs n).orders).phase = .decommission ∧
        ∀ m ∈ (run setup envs s (n + 1)).mesh.members, m.old setup = false := by
  have hdeletes : ∃ n, ((run setup envs s n).plan setup (envs n).orders).deleteLegacy = true :=
    exists_goal (ranks setup) (run setup envs s) fun n hgoal => (hstart.effect_run envs n).lowers
      (hstart.sound_run envs n) (Bool.not_eq_true _ ▸ hgoal n le_rfl)
      (hstart.old_run envs fun i hi => hgoal i hi.le)
  refine ⟨fun i j hij hmet => ?_, fun n k hk => ?_, ?_⟩
  · have hall := hstart.met_run envs hij ((hstart.sound_run envs i).allNewPodsMet_iff.mp hmet)
    simpa using ((hstart.effect_run envs j).allMet hall).2
  · obtain ⟨o, ho, howns, hunique⟩ := (hstart.sound_run envs n).owner k hk
    exact ⟨o, ⟨ho, howns⟩, fun other hother => hunique other hother.1 hother.2⟩
  · obtain ⟨n, hdelete⟩ := hdeletes
    exact ⟨n, hdelete, (hstart.effect_run envs n).decommissions hdelete⟩

def smallSetup : Setup := ⟨"lr", 1, 1, by decide, by decide⟩

def smallStart : State where
  mesh :=
    { members :=
        [⟨⟨"lr-cluster-0", "10.0.0.1", "1a"⟩, ⟨0, true, false, "-", ["0-16383"], 0⟩⟩,
          ⟨⟨"lr-cluster-1", "10.0.0.2", "2b"⟩, ⟨0, true, true, "1a", [], 0⟩⟩,
          ⟨⟨"lr-shard-0-0", "10.0.0.3", "3c"⟩, ⟨2, false, false, "-", [], 0⟩⟩,
          ⟨⟨"lr-shard-0-1", "10.0.0.4", "4d"⟩, ⟨2, false, false, "-", [], 0⟩⟩]
      podName_nodup := by decide
      ip_nodup := by decide
      nodeID_nodup := by decide
      ip_ne := by decide
      ip_plain := by decide
      nodeID_ne := by decide }
  created := false

/-- Loops run in the order given, and a link takes one pass. -/
def promptEnv : PassEnv := ⟨⟨fun _ => .asGiven, fun _ => .asGiven⟩, fun _ => 1⟩

/-- The old pods of the small cluster are deleted in the end. -/
theorem smallStart_deletes : ∃ n,
    ((run smallSetup (fun _ => promptEnv) smallStart n).plan smallSetup promptEnv.orders).deleteLegacy = true ∧
    ((run smallSetup (fun _ => promptEnv) smallStart n).plan smallSetup promptEnv.orders).phase =
      .decommission ∧
    ∀ m ∈ (run smallSetup (fun _ => promptEnv) smallStart (n + 1)).mesh.members, m.old smallSetup = false :=
  (migration_progress ⟨by decide +kernel, by decide +kernel, by decide +kernel, by decide +kernel⟩ _).2.2

end Runs

end LittleRed.Cluster.Migration
