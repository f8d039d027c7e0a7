import LittleRed.Cluster.SlotRepair
import LittleRed.Lib.Counting

/-!
# Attaching empty masters

Step 4 of a repair pass makes masters without slots the replicas of masters that lack one. With the nodes
that the cluster is set up with and an owner for every shard there is such a master. Each pass attaches one
node, so that as many passes as there are empty masters attach them all.
-/

namespace LittleRed.Cluster

open Lib List

/-- A master with slots. -/
def ClusterNodeState.ownsSlots (node : ClusterNodeState) : Bool :=
  node.role == .master && !node.slots.isEmpty

namespace ClusterGroundTruth

def slotOwners (gt : ClusterGroundTruth) : List ClusterNodeState := gt.nodes.values.filter (·.ownsSlots)

/-- The number of gathered replicas that follow a node. -/
def followers (gt : ClusterGroundTruth) (nodeID : String) : ℕ :=
  gt.nodes.values.countP fun node => node.role == .replica && node.masterNodeID == nodeID

/-- All pods are there with IDs of their own, every shard has its owner, and the others are empty masters
or follow an owner. -/
structure Accounted (gt : ClusterGroundTruth) (shards replicasPerShard : ℕ) : Prop where
  size : gt.nodes.values.length = shards * (1 + replicasPerShard)
  distinct : (gt.nodes.values.map (·.nodeID)).Nodup
  owners : gt.slotOwners.length = shards
  others : ∀ node ∈ gt.nodes.values, node.role = .master ∨
    (node.role = .replica ∧ ∃ owner ∈ gt.slotOwners, node.masterNodeID = owner.nodeID)

/-- All nodes know each other. -/
def KnowEachOther (gt : ClusterGroundTruth) : Prop :=
  ∀ a ∈ gt.nodes.values, ∀ b ∈ gt.nodes.values, a ≠ b → gt.nodeKnows a.nodeID b.nodeID = true

def OwnersNamed (gt : ClusterGroundTruth) : Prop := ∀ owner ∈ gt.slotOwners, owner.nodeID ≠ "-"

/-- The nodes after one of them became a replica. -/
def attach (gt : ClusterGroundTruth) (em target : ClusterNodeState) : ClusterGroundTruth :=
  { gt with nodes := gt.nodes.mapValues fun _ node =>
      if node.nodeID = em.nodeID then { node with role := .replica, masterNodeID := target.nodeID }
      else node }

end ClusterGroundTruth

/-- The attachment that ends step 4: the first one that is not deferred and succeeds. -/
def attachment (env : SlotEnv) (gt : ClusterGroundTruth) (expectedReplicas : ℕ)
    (emptyMasters : List ClusterNodeState) : Option (ClusterNodeState × ClusterNodeState) :=
  emptyMasters.findSome? fun em =>
    (chooseReattachTarget em.podName gt expectedReplicas).bind fun target =>
      if gt.nodeKnows em.nodeID target.nodeID && env.replicate em then some (em, target) else none

/-- The pass ends with the attachment. -/
theorem reattach_eq_attachment (env : SlotEnv) (gt : ClusterGroundTruth) (expectedReplicas : ℕ)
    (emptyMasters : List ClusterNodeState) :
    (reattach env gt expectedReplicas emptyMasters).2 =
        (attachment env gt expectedReplicas emptyMasters).isSome ∧
      ∀ em target, attachment env gt expectedReplicas emptyMasters = some (em, target) →
        (reattach env gt expectedReplicas emptyMasters).1.getLast? =
          some (.replicate em.podIP target.nodeID) := by
  induction emptyMasters with
  | nil =>
    refine ⟨rfl, fun em target hfound => ?_⟩
    cases hfound
  | cons em rest ih =>
    rw [attachment, List.findSome?_cons, ← attachment, reattach]
    cases chooseReattachTarget em.podName gt expectedReplicas with
    | none => exact ih
    | some target =>
      cases hknows : gt.nodeKnows em.nodeID target.nodeID with
      | false => simpa [hknows] using ih
      | true =>
        cases hreplicate : env.replicate em with
        | true => simp [hknows]
        | false =>
          simp only [hknows, Option.bind_some, Bool.and_false, Bool.false_eq_true, if_false, if_true]
          refine ⟨ih.1, fun em' target' hfound => ?_⟩
          have hlast := ih.2 em' target' hfound
          rw [List.getLast?_cons, hlast]
          rfl

/-- What one pass of step 4 depends on: the orders in which its loops run, and how its calls end. -/
structure ReattachPass where
  order : RangeOrder (Σ _ : String, ClusterNodeState)
  emptyOrder : RangeOrder ClusterNodeState
  env : SlotEnv

/-- One pass of step 4: the nodes are gathered, and one of them is attached if that succeeds. -/
def ReattachPass.run (pass : ReattachPass) (expectedReplicas : ℕ) (gt : ClusterGroundTruth) :
    ClusterGroundTruth :=
  let gathered := { gt with nodes := gt.nodes.reordered pass.order }
  match attachment pass.env gathered expectedReplicas (pass.emptyOrder.reorder gathered.getEmptyMasters) with
  | none => gathered
  | some (em, target) => gathered.attach em target

/-- The state after some passes. -/
def afterPasses (passes : ℕ → ReattachPass) (expectedReplicas : ℕ) (gt : ClusterGroundTruth) :
    ℕ → ClusterGroundTruth
  | 0 => gt
  | n + 1 => (passes n).run expectedReplicas (afterPasses passes expectedReplicas gt n)

section Target

variable {gt : ClusterGroundTruth} {shards replicas : ℕ}

/-- The candidates are the owners that lack a replica. -/
theorem mem_candidates {m : ClusterNodeState} :
    m ∈ ((gt.nodes.values.insertionSort (·.podName ≤ ·.podName)).filter fun m =>
        m.role == .master && !m.slots.isEmpty && decide (gt.replicaCount m.nodeID < replicas)) ↔
      m ∈ gt.slotOwners ∧ gt.replicaCount m.nodeID < replicas := by
  rw [mem_filter, mem_insertionSort, Bool.and_eq_true, decide_eq_true_iff,
    ClusterGroundTruth.slotOwners, mem_filter, ClusterNodeState.ownsSlots, and_assoc]

/-- The target is one of them. -/
theorem chooseReattachTarget_spec {podName : String} {target : ClusterNodeState}
    (h : chooseReattachTarget podName gt replicas = some target) :
    target ∈ gt.slotOwners ∧ gt.replicaCount target.nodeID < replicas := by
  rw [chooseReattachTarget, Option.or_eq_some_iff] at h
  rcases h with hfound | ⟨-, hfirst⟩
  · exact mem_candidates.mp (mem_of_find?_eq_some hfound)
  · exact mem_candidates.mp (mem_of_head? hfirst)

/-- With a candidate there is a target. -/
theorem chooseReattachTarget_isSome {owner : ClusterNodeState} (howner : owner ∈ gt.slotOwners)
    (hlacks : gt.replicaCount owner.nodeID < replicas) (podName : String) :
    (chooseReattachTarget podName gt replicas).isSome := by
  rw [chooseReattachTarget, Option.isSome_or, Bool.or_eq_true]
  exact .inr (isSome_head?.mpr (ne_nil_of_mem (mem_candidates.mpr ⟨howner, hlacks⟩)))

/-- Replicas that are counted follow. -/
theorem replicaCount_le_followers (gt : ClusterGroundTruth) (nodeID : String) :
    gt.replicaCount nodeID ≤ gt.followers nodeID := by
  refine countP_mono_left fun node _ hnode => ?_
  rw [Bool.and_eq_true, Bool.and_eq_true] at hnode
  rw [Bool.and_eq_true]
  exact ⟨hnode.1.1, hnode.2⟩

/-- Those of a proper owner are all counted. -/
theorem replicaCount_eq_followers (gt : ClusterGroundTruth) {nodeID : String} (hnamed : nodeID ≠ "-") :
    gt.replicaCount nodeID = gt.followers nodeID := by
  refine countP_congr fun node _ => ?_
  simp only [Bool.and_eq_true, bne_iff_ne, beq_iff_eq, and_assoc, and_congr_right_iff, and_iff_right_iff_imp]
  rintro - rfl
  exact hnamed

namespace ClusterGroundTruth.Accounted

variable (h : gt.Accounted shards replicas)
include h

/-- The nodes are owners, empty masters and replicas. -/
theorem length_eq :
    shards * (1 + replicas) =
      shards + gt.getEmptyMasters.length + gt.nodes.values.countP (·.role == .replica) := by
  have hsplit : ∀ nodes : List ClusterNodeState,
      (∀ node ∈ nodes, node.role = .master ∨ node.role = .replica) →
      nodes.length = (nodes.filter (·.ownsSlots)).length +
        (nodes.filter fun node => node.role == .master && node.slots.isEmpty).length +
        nodes.countP (·.role == .replica) := by
    intro nodes
    induction nodes with
    | nil => intro _; rfl
    | cons node rest ih =>
      intro hroles
      rw [forall_mem_cons] at hroles
      have hrest := ih hroles.2
      rcases hroles.1 with hrole | hrole
      · cases hslots : node.slots.isEmpty <;>
          simp [ClusterNodeState.ownsSlots, hrole, hslots] at hrest ⊢ <;> omega
      · simp [ClusterNodeState.ownsSlots, hrole] at hrest ⊢
        omega
  have hlength := hsplit gt.nodes.values fun node hnode => (h.others node hnode).imp_right And.left
  rw [h.size] at hlength
  rw [hlength, ← h.owners]
  rfl

theorem ownerIDs : (gt.slotOwners.map (·.nodeID)).Nodup :=
  h.distinct.sublist (filter_sublist.map _)

/-- Every replica follows an owner. -/
theorem sum_followers :
    (gt.slotOwners.map fun owner => gt.followers owner.nodeID).sum =
      gt.nodes.values.countP (·.role == .replica) := by
  have hsum := sum_countP_key (fun node => node.masterNodeID) h.ownerIDs (·.role == .replica) gt.nodes.values
  rw [map_map] at hsum
  refine hsum.trans (countP_congr fun node hnode => ?_)
  rw [Bool.and_eq_true, contains_iff_mem, and_iff_left_iff_imp]
  intro hrole
  rcases h.others node hnode with hmaster | ⟨-, owner, howner, hfollows⟩
  · rw [hmaster] at hrole
    cases hrole
  · exact hfollows ▸ mem_map_of_mem howner

/-- With an empty master some owner lacks a replica. -/
theorem exists_lacking (hempty : gt.getEmptyMasters ≠ []) :
    ∃ owner ∈ gt.slotOwners, gt.replicaCount owner.nodeID < replicas := by
  have hless : (gt.slotOwners.map fun owner => gt.followers owner.nodeID).sum <
      gt.slotOwners.length * replicas := by
    have hlength := h.length_eq
    have hpos := length_pos_of_ne_nil hempty
    rw [h.sum_followers, h.owners]
    rw [Nat.mul_add] at hlength
    omega
  obtain ⟨owner, howner, hlacks⟩ := exists_lt_of_sum_lt_mul hless
  exact ⟨owner, howner, Nat.lt_of_le_of_lt (replicaCount_le_followers gt owner.nodeID) hlacks⟩

/-- Without any, all owners have theirs. -/
theorem followers_eq (hnone : gt.getEmptyMasters = [])
    (hle : ∀ owner ∈ gt.slotOwners, gt.followers owner.nodeID ≤ replicas) {owner : ClusterNodeState}
    (howner : owner ∈ gt.slotOwners) : gt.followers owner.nodeID = replicas := by
  refine eq_of_sum_eq_mul hle ?_ howner
  have hlength := h.length_eq
  rw [hnone, length_nil, Nat.mul_add] at hlength
  rw [h.sum_followers, h.owners]
  omega

end ClusterGroundTruth.Accounted

end Target

/-- A node without slots follows an owner that lacked a replica, and all else is as it was. -/
structure OneAttached (replicas : ℕ) (gt gt' : ClusterGroundTruth) : Prop where
  owner : ∃ owner ∈ gt.slotOwners, gt.replicaCount owner.nodeID < replicas ∧
    ∀ nodeID, gt'.followers nodeID = gt.followers nodeID + if owner.nodeID = nodeID then 1 else 0
  owners : gt'.slotOwners.Perm gt.slotOwners
  emptyMasters : gt'.getEmptyMasters.length + 1 = gt.getEmptyMasters.length

section Step

variable {gt gt' : ClusterGroundTruth} {shards replicas : ℕ}

/-- The order does not matter. -/
theorem ClusterGroundTruth.Accounted.of_perm (h : gt.Accounted shards replicas)
    (hperm : gt'.nodes.values.Perm gt.nodes.values) : gt'.Accounted shards replicas := by
  have howners : gt'.slotOwners.Perm gt.slotOwners := hperm.filter _
  refine ⟨hperm.length_eq.trans h.size, (hperm.map _).nodup_iff.mpr h.distinct,
    howners.length_eq.trans h.owners, fun node hnode => ?_⟩
  refine (h.others node (hperm.mem_iff.mp hnode)).imp_right fun ⟨hrole, owner, howner, hfollows⟩ => ?_
  exact ⟨hrole, owner, howners.mem_iff.mpr howner, hfollows⟩

/-- One node changes. -/
theorem exists_rest_of_attach (h : gt.Accounted shards replicas) {em : ClusterNodeState}
    (hem : em ∈ gt.getEmptyMasters) (target : ClusterNodeState) :
    ∃ rest, gt.nodes.values.Perm (em :: rest) ∧ (gt.attach em target).nodes.values.Perm
      ({ em with role := .replica, masterNodeID := target.nodeID } :: rest) := by
  obtain ⟨rest, hbefore, hafter⟩ := exists_perm_map_update (fun node => node.nodeID) h.distinct
    (mem_filter.mp hem).1 fun node => { node with role := .replica, masterNodeID := target.nodeID }
  refine ⟨rest, hbefore, ?_⟩
  rw [ClusterGroundTruth.attach, GoMap.values_mapValues]
  exact hafter

/-- An attachment keeps the account. -/
theorem oneAttached_attach (h : gt.Accounted shards replicas) {em target : ClusterNodeState}
    (hem : em ∈ gt.getEmptyMasters) (htarget : target ∈ gt.slotOwners)
    (hlacks : gt.replicaCount target.nodeID < replicas) :
    OneAttached replicas gt (gt.attach em target) ∧ (gt.attach em target).Accounted shards replicas := by
  obtain ⟨rest, hbefore, hafter⟩ := exists_rest_of_attach h hem target
  obtain ⟨-, hempty⟩ := mem_filter.mp hem
  rw [Bool.and_eq_true, beq_iff_eq] at hempty
  have hnotOwner : em.ownsSlots = false := by simp [ClusterNodeState.ownsSlots, hempty.2]
  have howners : (gt.attach em target).slotOwners.Perm gt.slotOwners := by
    have hleft := hafter.filter (·.ownsSlots)
    have hright := hbefore.filter (·.ownsSlots)
    rw [filter_cons_of_neg (by simp [hnotOwner])] at hright
    exact hleft.trans hright.symm
  have hempties : (gt.attach em target).getEmptyMasters.length + 1 = gt.getEmptyMasters.length := by
    have hleft := (hafter.filter fun node => node.role == .master && node.slots.isEmpty).length_eq
    have hright := (hbefore.filter fun node => node.role == .master && node.slots.isEmpty).length_eq
    rw [filter_cons_of_pos (by simp [hempty])] at hright
    exact (congrArg (· + 1) hleft).trans hright.symm
  have hfollowers : ∀ nodeID, (gt.attach em target).followers nodeID =
      gt.followers nodeID + if target.nodeID = nodeID then 1 else 0 := by
    intro nodeID
    rw [ClusterGroundTruth.followers, ClusterGroundTruth.followers, hafter.countP_eq, hbefore.countP_eq,
      countP_cons, countP_cons]
    simp [hempty.1]
  refine ⟨⟨⟨target, htarget, hlacks, hfollowers⟩, howners, hempties⟩, ?_⟩
  refine ⟨?_, ?_, howners.length_eq.trans h.owners, fun node hnode => ?_⟩
  · rw [hafter.length_eq, ← h.size, hbefore.length_eq, length_cons, length_cons]
  · rw [(hafter.map _).nodup_iff]
    exact (hbefore.map _).nodup_iff.mp h.distinct
  · rcases mem_cons.mp (hafter.mem_iff.mp hnode) with rfl | hrest
    · exact .inr ⟨rfl, target, howners.mem_iff.mpr htarget, rfl⟩
    · refine (h.others node (hbefore.mem_iff.mpr (mem_cons_of_mem _ hrest))).imp_right ?_
      rintro ⟨hrole, owner, howner, hfollows⟩
      exact ⟨hrole, owner, howners.mem_iff.mpr howner, hfollows⟩

theorem KnowEachOther.attach (hknow : gt.KnowEachOther) (em target : ClusterNodeState) :
    (gt.attach em target).KnowEachOther := by
  intro a ha b hb hne
  rw [ClusterGroundTruth.attach, GoMap.values_mapValues] at ha hb
  obtain ⟨a', ha', rfl⟩ := mem_map.mp ha
  obtain ⟨b', hb', rfl⟩ := mem_map.mp hb
  have hID : ∀ node : ClusterNodeState, (if node.nodeID = em.nodeID then
      { node with role := Role.replica, masterNodeID := target.nodeID } else node).nodeID = node.nodeID := by
    intro node
    split <;> rfl
  rw [hID, hID]
  exact hknow a' ha' b' hb' (fun heq => hne (by rw [heq]))

/-- With a call that succeeds something is attached. -/
theorem exists_attachment (h : gt.Accounted shards replicas) (hknow : gt.KnowEachOther) {env : SlotEnv}
    {emptyMasters : List ClusterNodeState} (hperm : emptyMasters.Perm gt.getEmptyMasters)
    (hcall : ∃ em ∈ gt.getEmptyMasters, env.replicate em = true) :
    ∃ em ∈ gt.getEmptyMasters, ∃ target ∈ gt.slotOwners, gt.replicaCount target.nodeID < replicas ∧
      attachment env gt replicas emptyMasters = some (em, target) := by
  cases hfound : attachment env gt replicas emptyMasters with
  | some found =>
    obtain ⟨em, hem, hchosen⟩ := exists_of_findSome?_eq_some hfound
    obtain ⟨target, htarget, hattached⟩ := Option.bind_eq_some_iff.mp hchosen
    obtain ⟨howner, hlacks⟩ := chooseReattachTarget_spec htarget
    split at hattached
    · exact ⟨em, hperm.mem_iff.mp hem, target, howner, hlacks, hattached.symm⟩
    · cases hattached
  | none =>
    obtain ⟨em, hem, hreplicate⟩ := hcall
    obtain ⟨owner, howner, hlacks⟩ := h.exists_lacking (ne_nil_of_mem hem)
    obtain ⟨target, htarget⟩ := Option.isSome_iff_exists.mp
      (chooseReattachTarget_isSome howner hlacks em.podName)
    have hne : em ≠ target := by
      rintro rfl
      have howns := (mem_filter.mp (chooseReattachTarget_spec htarget).1).2
      have hempty := (mem_filter.mp hem).2
      rw [Bool.and_eq_true] at hempty
      rw [ClusterNodeState.ownsSlots, hempty.2, Bool.not_true, Bool.and_false] at howns
      cases howns
    have hknows := hknow em (mem_filter.mp hem).1 target
      (mem_filter.mp (chooseReattachTarget_spec htarget).1).1 hne
    have hturn := List.findSome?_eq_none_iff.mp hfound em (hperm.mem_iff.mpr hem)
    rw [htarget, Option.bind_some, hknows, hreplicate] at hturn
    cases hturn

/-- What a pass does. -/
theorem ReattachPass.run_spec (h : gt.Accounted shards replicas) (hknow : gt.KnowEachOther)
    (pass : ReattachPass) (hcall : ∃ em ∈ gt.getEmptyMasters, pass.env.replicate em = true) :
    OneAttached replicas gt (pass.run replicas gt) ∧ (pass.run replicas gt).Accounted shards replicas ∧
      (pass.run replicas gt).KnowEachOther := by
  generalize hgathered : ({ gt with nodes := gt.nodes.reordered pass.order } : ClusterGroundTruth) = gathered
  have hperm : gathered.nodes.values.Perm gt.nodes.values := by
    rw [← hgathered]
    exact gt.nodes.values_reordered pass.order
  have hknow' : gathered.KnowEachOther := by
    intro a ha b hb hne
    have hknows := hknow a (hperm.mem_iff.mp ha) b (hperm.mem_iff.mp hb) hne
    rw [← hgathered]
    exact hknows
  have hempties : gathered.getEmptyMasters.Perm gt.getEmptyMasters := hperm.filter _
  have howners : gathered.slotOwners.Perm gt.slotOwners := hperm.filter _
  have hcall' : ∃ em ∈ gathered.getEmptyMasters, pass.env.replicate em = true := by
    obtain ⟨em, hem, hreplicate⟩ := hcall
    exact ⟨em, hempties.mem_iff.mpr hem, hreplicate⟩
  obtain ⟨em, hem, target, htarget, hlacks, hfound⟩ :=
    exists_attachment (h.of_perm hperm) hknow' (pass.emptyOrder.perm _) hcall'
  have hrun : pass.run replicas gt = gathered.attach em target := by
    rw [ReattachPass.run, hgathered, hfound]
  obtain ⟨hattached, haccounted⟩ := oneAttached_attach (h.of_perm hperm) hem htarget hlacks
  obtain ⟨owner, howner, hlacked, hfollowers⟩ := hattached.owner
  rw [hrun]
  refine ⟨⟨⟨owner, howners.mem_iff.mp howner, ?_, fun nodeID => ?_⟩, hattached.owners.trans howners, ?_⟩,
    haccounted, KnowEachOther.attach hknow' em target⟩
  · rwa [ClusterGroundTruth.replicaCount, ← hperm.countP_eq]
  · rw [hfollowers, ClusterGroundTruth.followers, hperm.countP_eq]
    rfl
  · rw [hattached.emptyMasters, hempties.length_eq]

/-- No owner gets too many replicas. -/
theorem OneAttached.followers_le (h : OneAttached replicas gt gt') (hnamed : gt.OwnersNamed) {nodeID : String}
    (hle : gt.followers nodeID ≤ replicas) : gt'.followers nodeID ≤ replicas := by
  obtain ⟨owner, howner, hlacked, hfollowers⟩ := h.owner
  rw [hfollowers nodeID]
  split
  · rename_i heq
    rwa [replicaCount_eq_followers gt (hnamed owner howner), heq] at hlacked
  · exact hle

end Step

section Drain

variable {gt : ClusterGroundTruth} {shards replicas : ℕ} {passes : ℕ → ReattachPass}

/-- In every pass that finds empty masters, one of the calls succeeds. -/
def CallsSucceed (passes : ℕ → ReattachPass) (replicas : ℕ) (gt : ClusterGroundTruth) : Prop :=
  ∀ n, (afterPasses passes replicas gt n).getEmptyMasters ≠ [] →
    ∃ em ∈ (afterPasses passes replicas gt n).getEmptyMasters, (passes n).env.replicate em = true

/-- What some passes do. -/
theorem afterPasses_spec (h : gt.Accounted shards replicas) (hknow : gt.KnowEachOther)
    (hnamed : gt.OwnersNamed) (hcalls : CallsSucceed passes replicas gt) {n : ℕ}
    (hn : n ≤ gt.getEmptyMasters.length) :
    (afterPasses passes replicas gt n).getEmptyMasters.length + n = gt.getEmptyMasters.length ∧
      (afterPasses passes replicas gt n).Accounted shards replicas ∧
      (afterPasses passes replicas gt n).KnowEachOther ∧
      (afterPasses passes replicas gt n).slotOwners.Perm gt.slotOwners ∧
      ∀ nodeID, gt.followers nodeID ≤ replicas →
        (afterPasses passes replicas gt n).followers nodeID ≤ replicas := by
  induction n with
  | zero => exact ⟨rfl, h, hknow, .refl _, fun _ hle => hle⟩
  | succ n ih =>
    obtain ⟨hlength, haccounted, hknown, howners, hfollowers⟩ := ih (Nat.le_of_succ_le hn)
    have hsome : (afterPasses passes replicas gt n).getEmptyMasters ≠ [] := by
      rw [← length_pos_iff]
      omega
    obtain ⟨hattached, haccounted', hknown'⟩ := (passes n).run_spec haccounted hknown (hcalls n hsome)
    have hnamed' : (afterPasses passes replicas gt n).OwnersNamed := fun owner howner =>
      hnamed owner (howners.mem_iff.mp howner)
    refine ⟨?_, haccounted', hknown', hattached.owners.trans howners, fun nodeID hle => ?_⟩
    · have hone := hattached.emptyMasters
      rw [afterPasses]
      omega
    · exact hattached.followers_le hnamed' (hfollowers nodeID hle)

/-- Every empty master has a target; where all nodes know each other and owners have proper IDs, exactly
as many passes as there are empty masters attach all, and no owner gets too many replicas. -/
theorem reattach_drains (gt : ClusterGroundTruth) (shards replicas : ℕ) (h : gt.Accounted shards replicas) :
    (∀ em ∈ gt.getEmptyMasters, (chooseReattachTarget em.podName gt replicas).isSome) ∧
      (gt.KnowEachOther → gt.OwnersNamed → ∀ passes, CallsSucceed passes replicas gt →
        let state := afterPasses passes replicas gt
        let final := state gt.getEmptyMasters.length
        (∀ n < gt.getEmptyMasters.length, (state n).getEmptyMasters ≠ []) ∧ final.getEmptyMasters = [] ∧
          final.slotOwners.Perm gt.slotOwners ∧
          (∀ owner ∈ gt.slotOwners, gt.followers owner.nodeID ≤ replicas →
            final.followers owner.nodeID ≤ replicas) ∧
          ((∀ owner ∈ gt.slotOwners, gt.followers owner.nodeID ≤ replicas) →
            ∀ owner ∈ gt.slotOwners, final.followers owner.nodeID = replicas)) := by
  constructor
  · intro em hem
    obtain ⟨owner, howner, hlacks⟩ := h.exists_lacking (ne_nil_of_mem hem)
    exact chooseReattachTarget_isSome howner hlacks em.podName
  · intro hknow hnamed passes hcalls state final
    obtain ⟨hlength, haccounted, -, howners, hfollowers⟩ :=
      afterPasses_spec h hknow hnamed hcalls (Nat.le_refl gt.getEmptyMasters.length)
    have hnone : final.getEmptyMasters = [] := by
      rw [← length_eq_zero_iff]
      exact Nat.add_eq_right.mp hlength
    refine ⟨fun n hn => ?_, hnone, howners, fun owner _ => hfollowers owner.nodeID,
      fun hle owner howner => ?_⟩
    · obtain ⟨hlength', -⟩ := afterPasses_spec h hknow hnamed hcalls (Nat.le_of_lt hn)
      rw [← length_pos_iff]
      change 0 < (afterPasses passes replicas gt n).getEmptyMasters.length
      omega
    · refine haccounted.followers_eq hnone (fun other hother => ?_) (howners.mem_iff.mpr howner)
      exact hfollowers other.nodeID (hle other (howners.mem_iff.mp hother))

end Drain

def everyCallSucceeds : ReattachPass where
  order := .asGiven
  emptyOrder := .asGiven
  env := {
    addSlots := fun _ => true
    replicate := fun _ => true
    bootstrapReady := false
    skipSlotAssignment := false
    podIP := id
    nodeID := id
    hasSlots := fun _ => false
    attached := fun _ => false }

theorem callsSucceed_everyCallSucceeds (replicas : ℕ) (gt : ClusterGroundTruth) :
    CallsSucceed (fun _ => everyCallSucceeds) replicas gt := by
  intro n hsome
  obtain ⟨em, hem⟩ := exists_mem_of_ne_nil _ hsome
  exact ⟨em, hem, rfl⟩

/-- A node of a pod. -/
def nodeAs (podName nodeID : String) (role : Role) (slots : List String) (masterNodeID : String) :
    ClusterNodeState :=
  ⟨podName, podName, nodeID, slots, role, masterNodeID, .up, true⟩

/-- Nodes that know each other. -/
def meshOf (nodes : List ClusterNodeState) : ClusterGroundTruth where
  nodes := GoMap.ofPairs (nodes.map fun node => (node.podName, node))
  partitions := [nodes.map (·.nodeID)]
  ghostNodes := []
  clusterState := "ok"
  totalSlots := 16384
  allNodeIDs := nodes.map (·.nodeID)
  knownNodes := GoMap.ofPairs (nodes.map fun node => (node.nodeID, nodes.map (·.nodeID)))

def bothReplaced : ClusterGroundTruth := meshOf
  [nodeAs "lr-shard-0-0" "a" .master ["0-8191"] "-", nodeAs "lr-shard-0-1" "b" .master [] "-",
    nodeAs "lr-shard-1-0" "c" .master ["8192-16383"] "-", nodeAs "lr-shard-1-1" "d" .master [] "-"]

/-- Two passes attach both. -/
theorem bothReplaced_drained :
    bothReplaced.getEmptyMasters.length = 2 ∧
      (afterPasses (fun _ => everyCallSucceeds) 1 bothReplaced 2).getEmptyMasters = [] ∧
      ∀ owner ∈ bothReplaced.slotOwners,
        (afterPasses (fun _ => everyCallSucceeds) 1 bothReplaced 2).followers owner.nodeID = 1 := by
  have haccounted : bothReplaced.Accounted 2 1 := ⟨by decide, by decide, by decide, by decide⟩
  have hknow : bothReplaced.KnowEachOther := by unfold ClusterGroundTruth.KnowEachOther; decide
  have hnamed : bothReplaced.OwnersNamed := by unfold ClusterGroundTruth.OwnersNamed; decide
  have htwo : bothReplaced.getEmptyMasters.length = 2 := by decide
  obtain ⟨-, hdrained⟩ := reattach_drains bothReplaced 2 1 haccounted
  obtain ⟨-, hnone, -, -, hall⟩ := hdrained hknow hnamed _ (callsSucceed_everyCallSucceeds 1 bothReplaced)
  exact ⟨htwo, hnone, hall (by decide)⟩

/-- An owner with the ID that stands for no master, whose replica is not counted. -/
def unnamedOwner : ClusterGroundTruth := meshOf
  [nodeAs "lr-shard-0-0" "-" .master ["0-8191"] "-", nodeAs "lr-shard-0-1" "e" .master [] "-",
    nodeAs "lr-shard-1-0" "m" .master ["8192-16383"] "-", nodeAs "lr-shard-1-1" "x" .replica [] "-"]

/-- Such an owner gets a second replica, and the other owner gets none. -/
theorem unnamedOwner_overfilled :
    unnamedOwner.Accounted 2 1 ∧ unnamedOwner.KnowEachOther ∧
      CallsSucceed (fun _ => everyCallSucceeds) 1 unnamedOwner ∧
      unnamedOwner.getEmptyMasters.length = 1 ∧ unnamedOwner.followers "-" = 1 ∧
      (afterPasses (fun _ => everyCallSucceeds) 1 unnamedOwner 1).followers "-" = 2 ∧
      (afterPasses (fun _ => everyCallSucceeds) 1 unnamedOwner 1).followers "m" = 0 := by
  refine ⟨⟨by decide, by decide, by decide, by decide⟩, ?_, callsSucceed_everyCallSucceeds 1 unnamedOwner,
    by decide, by decide, by decide +kernel, by decide +kernel⟩
  unfold ClusterGroundTruth.KnowEachOther
  decide

end LittleRed.Cluster
