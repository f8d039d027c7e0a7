import LittleRed.Cluster.Migration.Passes

/-!
# Carrying a plan out

The commands of a plan reach the pods they are meant for: each is changed as its command says, and the
others are left alone. `Effect` lists what a pass can do to a mesh in which every range has one owner.
-/

namespace LittleRed.Cluster.Migration

open Lib List Mesh

namespace Mesh

variable {mesh : Mesh}

theorem update_update (f g : Member → NodeState) :
    (mesh.update f).update g = mesh.update fun m => g (m.set (f m)) := by
  ext1
  exact map_map

theorem update_congr {f g : Member → NodeState} (h : ∀ m ∈ mesh.members, f m = g m) :
    mesh.update f = mesh.update g := by
  ext1
  exact map_congr_left fun m hm => congrArg m.set (h m hm)

theorem update_toNodeState : (mesh.update fun m => m.toNodeState) = mesh := by
  ext1
  exact map_id _

section Commands

variable {Command : Type*} (execute : Mesh → Command → Mesh) (key : Command → String)
  (act : Member → Command → NodeState)

/-- The node is as it was, or as a command for its address leaves it. -/
def Commanded (commands : List Command) (m : Member) (node : NodeState) : Prop :=
  (node = m.toNodeState ∧ ∀ command ∈ commands, addrOf m.ip ≠ key command) ∨
    ∃ command ∈ commands, addrOf m.ip = key command ∧ node = act m command

/-- Commands for different addresses are one update. -/
theorem exists_foldl_update (mesh : Mesh) (commands : List Command)
    (hexecute : ∀ command ∈ commands, ∀ f : Member → NodeState,
      (∀ m ∈ mesh.members, f m = m.toNodeState ∨ ∃ command, f m = act m command) →
      execute (mesh.update f) command =
        mesh.update fun m => if addrOf m.ip = key command then act m command else f m) :
    ∃ f, commands.foldl execute mesh = mesh.update f ∧
      ∀ m ∈ mesh.members, Commanded key act commands m (f m) := by
  induction commands using List.reverseRecOn with
  | nil => exact ⟨_, update_toNodeState.symm, fun m _ => .inl ⟨rfl, forall_mem_nil _⟩⟩
  | append_singleton commands last ih =>
    obtain ⟨f, hfold, hf⟩ := ih fun command hcommand => hexecute command (mem_append_left _ hcommand)
    have hlast := hexecute last mem_concat_self f fun m hm =>
      (hf m hm).imp And.left fun ⟨command, _, _, hact⟩ => ⟨command, hact⟩
    refine ⟨_, by rw [foldl_append, hfold, foldl_cons, foldl_nil, hlast], fun m hm => ?_⟩
    split
    · rename_i hkey
      exact .inr ⟨last, mem_concat_self, hkey, rfl⟩
    · rename_i hkey
      rcases hf m hm with ⟨hsame, hnone⟩ | ⟨command, hcommand, hact⟩
      · refine .inl ⟨hsame, fun command hcommand => ?_⟩
        rcases mem_append.mp hcommand with hcommand | hcommand
        · exact hnone command hcommand
        · rwa [mem_singleton.mp hcommand]
      · exact .inr ⟨command, mem_append_left _ hcommand, hact⟩

end Commands

end Mesh

section Meets

/-- The host of an address. -/
theorem hostOf_addrOf {ip : String} (h : ':' ∉ ip.toList) : hostOf (addrOf ip) = ip := by
  have haddr : addrOf ip = ip ++ String.singleton ':' ++ "6379" := by
    rw [String.append_assoc]
    rfl
  rw [hostOf, haddr, splitText_append h, splitText_singleton (by decide)]

/-- An identified pod with a view is admissible. -/
theorem admissible_of_identified {candidate : MeetCandidate} (hip : candidate.podIP ≠ "")
    (hid : candidate.nodeID ≠ "") (hidentified : candidate.identified = true)
    (hview : candidate.viewKnown = true) (ourIDs : List String) :
    (attributeMeetTarget candidate ourIDs).admissibleWhenConfirmed = true := by
  unfold attributeMeetTarget
  rw [if_neg hip, if_neg (by simp [hidentified, hid]), if_neg (by simp [hview])]
  dsimp only
  split
  · rfl
  split <;> rfl

variable {mesh : Mesh} {m : Member}

/-- A pod lists itself. -/
theorem find_myself (hm : m ∈ mesh.upMembers) :
    (((mesh.clusterNodes m).find? fun line => line.flags.contains "myself").map
      ClusterNodeInfo.nodeID).getD "" = m.nodeID := by
  have hflags : ∀ other : Member, (m.lineOf other).flags.contains "myself" = true ↔
      other.nodeID = m.nodeID := by
    intro other
    by_cases hid : other.nodeID = m.nodeID <;> cases hreplica : other.replica <;>
      simp [Member.lineOf, hid, hreplica]
  cases hfound : (mesh.clusterNodes m).find? fun line => line.flags.contains "myself" with
  | none =>
    have hown : m.lineOf m ∈ mesh.clusterNodes m := (mem_clusterNodes hm).mpr ⟨m, hm, rfl, .inl rfl⟩
    exact absurd ((hflags m).mpr rfl) (List.find?_eq_none.mp hfound _ hown)
  | some line =>
    obtain ⟨other, -, rfl, -⟩ := (mem_clusterNodes hm).mp (mem_of_find?_eq_some hfound)
    have hmyself := List.find?_some hfound
    exact (hflags other).mp hmyself

/-- An introduction is carried out. -/
theorem executeMeet_eq {gt : ClusterGroundTruth} {facts : LegacyFacts} (hm : m ∈ mesh.upMembers)
    (hname : m.podName ≠ "")
    (hlookup : (GoMap.ofPairs (facts.newPodAddrs.entries.map fun entry => (entry.2, entry.1))).lookup
      (addrOf m.ip) = some m.podName) :
    executeMeet gt facts mesh (addrOf m.ip) = mesh.meet m.ip := by
  have hmem := (mem_upMembers.mp hm).1
  have hconfirm : confirmPodIP mesh m.podName m.ip = true := by
    simp only [confirmPodIP, Bool.and_eq_true, bne_iff_ne, any_eq_true, beq_iff_eq]
    exact ⟨⟨hname, mesh.ip_ne m hmem⟩, m, hm, rfl, rfl⟩
  have hidentified : (m.nodeID != "") = true := bne_iff_ne.mpr (mesh.nodeID_ne m hmem)
  unfold executeMeet
  dsimp only
  rw [hlookup, hostOf_addrOf (mesh.ip_plain m hmem), replies_eq hm]
  refine (if_pos hconfirm).trans (if_pos ?_)
  unfold meetCandidateFromNodes
  dsimp only
  rw [find_myself hm]
  exact admissible_of_identified (mesh.ip_ne m hmem) (mesh.nodeID_ne m hmem) hidentified hidentified _

end Meets

section Replicates

variable {mesh : Mesh}

/-- An attachment is carried out. -/
theorem replicate_eq {m o : Member} (hm : m ∈ mesh.upMembers) (hmet : m.met = true)
    (hempty : m.slots = []) (ho : o ∈ mesh.upMembers) (hmet' : o.met = true) (delay : String → ℕ) :
    mesh.replicate (addrOf m.ip) o.nodeID delay = mesh.update fun x =>
      if addrOf x.ip = addrOf m.ip then follow x.toNodeState o.nodeID (delay x.nodeID)
      else x.toNodeState := by
  refine update_congr fun x hx => ?_
  by_cases haddr : addrOf x.ip = addrOf m.ip
  · obtain rfl : x = m := eq_of_ip hx (mem_upMembers.mp hm).1 (addrOf_inj haddr)
    have hknown : (mesh.clusterNodes x).any (·.nodeID == o.nodeID) = true := by
      obtain ⟨line, hline, hid⟩ := mem_map.mp ((mem_known hm ho).mpr (.inr ⟨hmet, hmet'⟩))
      exact any_eq_true.mpr ⟨line, hline, beq_iff_eq.mpr hid⟩
    have hup : x.up = true := beq_iff_eq.mpr (mem_upMembers.mp hm).2
    rw [if_pos haddr, if_pos ⟨haddr, hup, hempty, hknown⟩]
  · rw [if_neg haddr, if_neg fun h => haddr h.1]

/-- A promotion is carried out. -/
theorem failover_eq {r o : Member} (hr : r ∈ mesh.upMembers) (ho : o ∈ mesh.upMembers)
    (hreplica : r.replica = true) (hlink : r.link = 0) (hmaster : r.masterNodeID = o.nodeID) (force : Bool)
    (delay : String → ℕ) :
    mesh.failover (addrOf r.ip) force delay = mesh.update fun m => takeOver r o m delay := by
  have haddr : (mesh.upMembers.map fun m => addrOf m.ip).Nodup := by
    have hnodup := (mesh.ip_nodup.sublist (filter_sublist (p := Member.up).map fun m => m.ip)).map
      (f := addrOf) fun _ _ => addrOf_inj
    rwa [map_map] at hnodup
  obtain ⟨homem, hup⟩ := mem_upMembers.mp ho
  unfold Mesh.failover
  rw [find?_key haddr hr]
  dsimp only
  rw [hmaster, find?_key mesh.nodeID_nodup homem]
  exact if_pos ⟨hreplica, .inr ⟨beq_iff_eq.mpr hup, hlink⟩⟩

end Replicates

section Effects

variable (setup : Setup)

def Member.unattached (m : Member) : Bool := !m.old setup && !m.replica && m.slots.isEmpty

/-- New pods yet to be attached follow the owners of their ranges, and the others are left alone. -/
structure Attaches (mesh : Mesh) (f : Member → NodeState) : Prop where
  same : ∀ m ∈ mesh.members, m.unattached setup = false → f m = m.toNodeState
  follow : ∀ m ∈ mesh.members, m.unattached setup = true → ∃ k < setup.shards,
    (k, m.podName) ∈ newPods setup.name setup.shards setup.replicasPerShard ∧
    ∃ o ∈ mesh.members, o.Owns setup k ∧ ∃ delay, f m = Mesh.follow m.toNodeState o.nodeID delay

/-- What a pass can do before time passes. -/
inductive Effect (s : State) (plan : MigrationPlan) : State → Prop
  | complete (hgone : ∀ m ∈ s.mesh.members, m.old setup = false) (hphase : plan.phase = .complete)
      (hdelete : plan.deleteLegacy = false) : Effect s plan s
  | standup (hwait : ∃ m ∈ s.mesh.members, m.met = false ∧ 0 < m.boot) (hphase : plan.phase = .standup)
      (hdelete : plan.deleteLegacy = false) : Effect s plan { s with created := true }
  | meet (f : Member → NodeState)
      (hmeet : ∀ m ∈ s.mesh.members,
        f m = if m.boot = 0 then { m.toNodeState with met := true } else m.toNodeState)
      (hwork : ∃ m ∈ s.mesh.members, m.met = false ∧ m.boot = 0) (hphase : plan.phase = .meet)
      (hdelete : plan.deleteLegacy = false) : Effect s plan { s with mesh := s.mesh.update f }
  | replicate (hmet : ∀ m ∈ s.mesh.members, m.met = true) (f : Member → NodeState)
      (hattach : Attaches setup s.mesh f)
      (hwork : ∃ m ∈ s.mesh.members, m.unattached setup = true ∨ 0 < m.link)
      (hphase : plan.phase = .replicate) (hdelete : plan.deleteLegacy = false) :
      Effect s plan { s with mesh := s.mesh.update f }
  | failover (hmet : ∀ m ∈ s.mesh.members, m.met = true) (k : ℕ) (hk : k < setup.shards) (r o : Member)
      (hr : r ∈ s.mesh.members) (ho : o ∈ s.mesh.members)
      (hname : r.podName = newMasterPodName setup.name k) (hempty : r.slots = [])
      (howns : o.Owns setup k) (delay : String → ℕ) (hphase : plan.phase = .failover)
      (hdelete : plan.deleteLegacy = false) :
      Effect s plan { s with mesh := s.mesh.update fun m => Mesh.takeOver r o m delay }
  | decommission (hmet : ∀ m ∈ s.mesh.members, m.met = true)
      (hempty : ∀ m ∈ s.mesh.members, m.old setup = true → m.slots = []) (mesh : Mesh)
      (hmem : ∀ m, m ∈ mesh.members ↔ m ∈ s.mesh.members ∧ m.old setup = false)
      (hphase : plan.phase = .decommission) (hdelete : plan.deleteLegacy = true) :
      Effect s plan { s with mesh := mesh }

variable {setup} {s : State}

/-- Pods have names. -/
theorem podName_ne {podName : String}
    (h : podName ∈ expectedNewPods setup.name setup.shards setup.replicasPerShard) : podName ≠ "" := by
  rintro rfl
  have hnew := (isNewShardPod_of_mem h).1
  rw [isNewShardPod, cutFront_eq_none] at hnew
  · cases hnew
  · rw [String.toList_append]
    intro hfront
    exact absurd (append_eq_nil_iff.mp (prefix_nil.mp hfront)).2 (by decide)

variable {m : Member}

section

variable (h : Sound setup s.mesh)
include h

/-- The pod at an address is found. -/
theorem Sound.lookup_podNameOfAddr (hm : m ∈ s.mesh.upMembers) (hold : m.old setup = false) :
    (GoMap.ofPairs ((s.view setup).2.newPodAddrs.entries.map fun entry => (entry.2, entry.1))).lookup
      (addrOf m.ip) = some m.podName := by
  have hentry : ∀ podName addr,
      (addr, podName) ∈ ((s.view setup).2.newPodAddrs.entries.map fun entry => (entry.2, entry.1)) ↔
        ∃ m ∈ s.mesh.upMembers, m.old setup = false ∧ m.podName = podName ∧ addrOf m.ip = addr := by
    intro podName addr
    refine Iff.trans ?_ h.toJoined.lookup_newPodAddrs
    rw [mem_map]
    constructor
    · rintro ⟨entry, hentry, hpair⟩
      obtain ⟨rfl, rfl⟩ := Prod.mk.inj hpair
      exact AList.mem_lookup_iff.mpr hentry
    · intro hlookup
      exact ⟨⟨podName, addr⟩, AList.mem_lookup_iff.mp hlookup, rfl⟩
  refine GoMap.lookup_ofPairs_of_agree ((hentry ..).mpr ⟨m, hm, hold, rfl, rfl⟩) fun podName hpair => ?_
  obtain ⟨m', hm', -, rfl, haddr⟩ := (hentry ..).mp hpair
  rw [eq_of_ip (mem_upMembers.mp hm').1 (mem_upMembers.mp hm).1 (addrOf_inj haddr)]

theorem Sound.lookup_selfID (hm : m ∈ s.mesh.members) (hmet : m.met = true) :
    (GoMap.ofPairs (((s.view setup).1.nodes.values.filter fun node => node.podIP != "").map
      fun node => (addrOf node.podIP, node.nodeID))).lookup (addrOf m.ip) = some m.nodeID := by
  refine GoMap.lookup_ofPairs_of_agree ?_ fun nodeID hpair => ?_
  · refine mem_map.mpr ⟨m.view, mem_filter.mpr ⟨h.mem_view.mpr ⟨m, hm, hmet, rfl⟩, ?_⟩, rfl⟩
    exact bne_iff_ne.mpr (s.mesh.ip_ne m hm)
  · obtain ⟨node, hnode, hpair⟩ := mem_map.mp hpair
    obtain ⟨m', hm', -, rfl⟩ := h.mem_view.mp (mem_of_mem_filter hnode)
    obtain ⟨haddr, rfl⟩ := Prod.mk.inj hpair
    exact congrArg (fun m : Member => m.nodeID) (eq_of_ip hm' hm (addrOf_inj haddr))

variable {k : ℕ} {f : Member → NodeState}

/-- A new pod that does not own its range has no slots. -/
theorem Sound.slots_eq_nil (hm : m ∈ s.mesh.members)
    (hpod : (k, m.podName) ∈ newPods setup.name setup.shards setup.replicasPerShard)
    (hnot : ¬ m.Owns setup k) : m.slots = [] := by
  by_contra hslots
  obtain ⟨j, hj, howns⟩ := h.exists_owns hm hslots
  have hname := h.place m hm (not_old_of_newPods hpod) j hj howns
  have hpod' : (j, m.podName) ∈ newPods setup.name setup.shards setup.replicasPerShard := by
    rw [mem_newPods, hname]
    exact ⟨hj, mem_cons_self⟩
  exact hnot (shard_of_newPods hpod' hpod ▸ howns)

/-- An introduction after others. -/
theorem Sound.executeMeet_update {addr : String}
    (haddr : addr ∈ missingNewPodMeets (s.view setup).1 setup.name setup.shards setup.replicasPerShard
      (s.view setup).2)
    (hf : ∀ m ∈ s.mesh.members, { f m with met := true } = { m.toNodeState with met := true }) :
    executeMeet (s.view setup).1 (s.view setup).2 (s.mesh.update f) addr =
      s.mesh.update fun m => if addrOf m.ip = addr then { m.toNodeState with met := true } else f m := by
  obtain ⟨m, hm, hmet, hboot, rfl⟩ := h.mem_missingNewPodMeets.mp haddr
  have hold : m.old setup = false := by
    by_contra hold
    rw [h.old m hm (Bool.not_eq_false _ ▸ hold)] at hmet
    cases hmet
  have hup : m.set (f m) ∈ (s.mesh.update f).upMembers := by
    refine mem_upMembers.mpr ⟨mem_map_of_mem hm, ?_⟩
    exact (congrArg NodeState.boot (hf m hm)).trans hboot
  have hlookup := h.lookup_podNameOfAddr (mem_upMembers.mpr ⟨hm, hboot⟩) hold
  refine (executeMeet_eq hup (podName_ne (h.new m hm hold)) hlookup).trans ?_
  refine (update_update ..).trans (update_congr fun x hx => ?_)
  change (if x.ip = m.ip then { f x with met := true } else f x) = _
  by_cases hip : x.ip = m.ip
  · rw [if_pos hip, if_pos (congrArg addrOf hip), hf x hx]
  · rw [if_neg hip, if_neg fun haddr => hip (addrOf_inj haddr)]

/-- All introductions. -/
theorem Sound.foldl_executeMeet :
    ∃ f, (missingNewPodMeets (s.view setup).1 setup.name setup.shards setup.replicasPerShard
        (s.view setup).2).foldl (executeMeet (s.view setup).1 (s.view setup).2) s.mesh = s.mesh.update f ∧
      ∀ m ∈ s.mesh.members,
        f m = if m.boot = 0 then { m.toNodeState with met := true } else m.toNodeState := by
  obtain ⟨f, hfold, hf⟩ := exists_foldl_update (executeMeet (s.view setup).1 (s.view setup).2) id
    (fun m _ => { m.toNodeState with met := true }) s.mesh _ fun addr haddr f hf =>
      h.executeMeet_update haddr fun m hm => by
        rcases hf m hm with hsame | ⟨_, hact⟩
        · rw [hsame]
        · rw [hact]
  refine ⟨f, hfold, fun m hm => ?_⟩
  rcases hf m hm with ⟨hsame, hnone⟩ | ⟨addr, haddr, hkey, hact⟩
  · rw [hsame]
    split
    · rename_i hboot
      -- A pod that is up and not introduced is a member already.
      cases hmet : m.met with
      | true => rw [← hmet]
      | false => exact absurd rfl (hnone _ (h.mem_missingNewPodMeets.mpr ⟨m, hm, hmet, hboot, rfl⟩))
    · rfl
  · obtain ⟨m', hm', -, hboot, haddr'⟩ := h.mem_missingNewPodMeets.mp haddr
    obtain rfl := eq_of_ip hm' hm (addrOf_inj (haddr'.trans hkey.symm))
    rw [hact, if_pos hboot]

variable (orders : ℕ → RangeOrder ClusterNodeState)

section

variable (hmet : ∀ m ∈ s.mesh.members, m.met = true)
include hmet

/-- Each new pod yet to be attached is to follow the owner of its range. -/
theorem Sound.mem_replicates {attach : ReplicaAttach} :
    attach ∈ (planReplicates orders (s.view setup).1 setup.name setup.shards setup.replicasPerShard
        (generateSlotRanges setup.shards) (s.view setup).2).replicates ↔
      ∃ m ∈ s.mesh.members, m.unattached setup = true ∧ ∃ k < setup.shards,
        (k, m.podName) ∈ newPods setup.name setup.shards setup.replicasPerShard ∧
        ∃ o ∈ s.mesh.members, o.Owns setup k ∧ attach = ⟨addrOf m.ip, o.nodeID⟩ := by
  rw [planReplicates_replicates, mem_filterMap]
  constructor
  · rintro ⟨⟨k, podName⟩, hpod, hattach⟩
    obtain ⟨hk, hshard⟩ := (mem_newPods ..).mp hpod
    obtain ⟨m, hm, rfl⟩ := h.present podName (mem_flatMap.mpr ⟨k, mem_range.mpr hk, hshard⟩)
    obtain ⟨o, ho, howns, -⟩ := h.owner k hk
    obtain ⟨hnot, hreplica, rfl⟩ := (h.attachOf_eq (orders k) hm (hmet m hm) hpod ho howns).mp hattach
    refine ⟨m, hm, ?_, k, hk, hpod, o, ho, howns, rfl⟩
    rw [Member.unattached, not_old_of_newPods hpod, hreplica, h.slots_eq_nil hm hpod hnot]
    rfl
  · rintro ⟨m, hm, hunattached, k, hk, hpod, o, ho, howns, rfl⟩
    simp only [Member.unattached, Bool.and_eq_true, Bool.not_eq_true', List.isEmpty_iff] at hunattached
    refine ⟨(k, m.podName), hpod, (h.attachOf_eq (orders k) hm (hmet m hm) hpod ho howns).mpr ?_⟩
    exact ⟨fun howns => howns.slots_ne_nil hunattached.2, hunattached.1.2, rfl⟩

/-- An attachment after others. -/
theorem Sound.executeReplicate_update {o : Member} (hm : m ∈ s.mesh.members)
    (hunattached : m.unattached setup = true) (ho : o ∈ s.mesh.members) (howns : o.slots ≠ [])
    (delay : String → ℕ)
    (hf : ∀ m ∈ s.mesh.members, ∀ masterID, (f m).met = m.met ∧ (f m).boot = m.boot ∧ (f m).slots =
      m.slots ∧ Mesh.follow (f m) masterID = Mesh.follow m.toNodeState masterID) :
    executeReplicate (s.view setup).1 delay (s.mesh.update f) ⟨addrOf m.ip, o.nodeID⟩ =
      s.mesh.update fun x => if addrOf x.ip = addrOf m.ip then
        Mesh.follow x.toNodeState o.nodeID (delay x.nodeID) else f x := by
  simp only [Member.unattached, Bool.and_eq_true, List.isEmpty_iff] at hunattached
  have hself : m.nodeID ≠ o.nodeID := by
    intro hid
    exact howns (eq_of_nodeID hm ho hid ▸ hunattached.2)
  have hup : ∀ x ∈ s.mesh.members, x.set (f x) ∈ (s.mesh.update f).upMembers := by
    intro x hx
    refine mem_upMembers.mpr ⟨List.mem_map_of_mem hx, ?_⟩
    exact (hf x hx "").2.1.trans (h.met x hx (hmet x hx))
  have hmet' : ∀ x ∈ s.mesh.members, (x.set (f x)).met = true :=
    fun x hx => (hf x hx "").1.trans (hmet x hx)
  unfold executeReplicate
  rw [if_neg (addrOf_ne m.ip), h.lookup_selfID hm (hmet m hm), Option.getD_some, if_neg hself]
  refine (replicate_eq (hup m hm) (hmet' m hm) ((hf m hm "").2.2.1.trans hunattached.2) (hup o ho)
    (hmet' o ho) delay).trans ?_
  refine (update_update ..).trans (update_congr fun x hx => ?_)
  change (if addrOf x.ip = addrOf m.ip then Mesh.follow (f x) o.nodeID (delay x.nodeID) else f x) = _
  rw [(hf x hx o.nodeID).2.2.2]

/-- All attachments. -/
theorem Sound.foldl_executeReplicate (delay : String → ℕ) :
    ∃ f, (planReplicates orders (s.view setup).1 setup.name setup.shards setup.replicasPerShard
        (generateSlotRanges setup.shards) (s.view setup).2).replicates.foldl
          (executeReplicate (s.view setup).1 delay) s.mesh = s.mesh.update f ∧ Attaches setup s.mesh f := by
  obtain ⟨f, hfold, hf⟩ := exists_foldl_update (executeReplicate (s.view setup).1 delay)
    ReplicaAttach.replicaAddr
    (fun m attach => Mesh.follow m.toNodeState attach.masterID (delay m.nodeID)) s.mesh _
    fun attach hattach f hf => by
      obtain ⟨m, hm, hunattached, k, -, -, o, ho, howns, rfl⟩ := (h.mem_replicates orders hmet).mp hattach
      refine h.executeReplicate_update hmet hm hunattached ho howns.slots_ne_nil delay fun m hm masterID => ?_
      rcases hf m hm with hsame | ⟨_, hact⟩
      · rw [hsame]
        exact ⟨rfl, rfl, rfl, rfl⟩
      · rw [hact]
        exact ⟨rfl, rfl, rfl, rfl⟩
  refine ⟨f, hfold, ⟨fun m hm hattached => ?_, fun m hm hunattached => ?_⟩⟩
  · rcases hf m hm with ⟨hsame, -⟩ | ⟨attach, hattach, hkey, -⟩
    · exact hsame
    · obtain ⟨m', hm', hunattached, -, -, -, o, -, -, rfl⟩ := (h.mem_replicates orders hmet).mp hattach
      obtain rfl := eq_of_ip hm hm' (addrOf_inj hkey)
      rw [hattached] at hunattached
      cases hunattached
  · have hold : m.old setup = false := by
      simp only [Member.unattached, Bool.and_eq_true, Bool.not_eq_true'] at hunattached
      exact hunattached.1.1
    obtain ⟨k, hpod⟩ := exists_shard (h.new m hm hold)
    have hk := ((mem_newPods ..).mp hpod).1
    obtain ⟨o, ho, howns, -⟩ := h.owner k hk
    rcases hf m hm with ⟨-, hnone⟩ | ⟨attach, hattach, hkey, hact⟩
    · have hattach := (h.mem_replicates orders hmet).mpr
        ⟨m, hm, hunattached, k, hk, hpod, o, ho, howns, rfl⟩
      exact absurd rfl (hnone _ hattach)
    · obtain ⟨m', hm', -, k, hk, hpod, o, ho, howns, rfl⟩ := (h.mem_replicates orders hmet).mp hattach
      obtain rfl := eq_of_ip hm hm' (addrOf_inj hkey)
      exact ⟨k, hk, hpod, o, ho, howns, _, hact⟩

end

/-- The promotion moves a range to its new master. -/
theorem Sound.executeFailover_eq (orders : PlanOrders) (hmet : ∀ m ∈ s.mesh.members, m.met = true)
    (hsynced : (planReplicates orders.replicates (s.view setup).1 setup.name setup.shards
      setup.replicasPerShard (generateSlotRanges setup.shards) (s.view setup).2).unsynced = false)
    {action : FailoverAction} (hnext : nextFailover orders.failovers (s.view setup).1 setup.name setup.shards
      (generateSlotRanges setup.shards) (s.view setup).2 = some (action, k)) (delay : String → ℕ) :
    k < setup.shards ∧ ∃ r ∈ s.mesh.members, ∃ o ∈ s.mesh.members,
      r.podName = newMasterPodName setup.name k ∧ r.slots = [] ∧ o.Owns setup k ∧
      executeFailover delay s.mesh action = s.mesh.update fun m => Mesh.takeOver r o m delay := by
  obtain ⟨hk, haddr, hnot, -⟩ := nextFailover_some _ _ _ _ _ hnext
  have hshard : newMasterPodName setup.name k ∈ shardNewPods setup.name k setup.replicasPerShard :=
    mem_cons_self
  obtain ⟨r, hr, hname⟩ := h.present _ (mem_flatMap.mpr ⟨k, mem_range.mpr hk, hshard⟩)
  have hpod : (k, r.podName) ∈ newPods setup.name setup.shards setup.replicasPerShard :=
    (mem_newPods ..).mpr ⟨hk, hname ▸ hshard⟩
  have hup : ∀ m ∈ s.mesh.members, m ∈ s.mesh.upMembers :=
    fun m hm => mem_upMembers.mpr ⟨hm, h.met m hm (hmet m hm)⟩
  have hnot : ¬ r.Owns setup k := by
    rw [← hname, h.lookup_view.mpr ⟨r, hr, hmet r hr, rfl, rfl⟩] at hnot
    exact Bool.eq_false_iff.mp hnot
  have hsettled := (planReplicates_synced_iff ..).mp hsynced k hk r.podName (hname ▸ hshard)
  obtain ⟨hreplica, hlink⟩ := ((h.settled_iff _ hr (hmet r hr) hpod).mp hsettled).resolve_left hnot
  obtain ⟨o, ho, howns, -⟩ := h.owner k hk
  refine ⟨hk, r, hr, o, ho, hname, h.slots_eq_nil hr hpod hnot, howns, ?_⟩
  have haddr : action.addr = addrOf r.ip := by
    rw [haddr, ← hname]
    exact (h.toJoined.addr_eq hr (not_old_of_newPods hpod)).trans (if_pos (h.met r hr (hmet r hr)))
  rw [executeFailover, haddr, if_neg (addrOf_ne r.ip)]
  have hmaster := h.following r hr k hpod hreplica o ho howns
  exact failover_eq (hup r hr) (hup o ho) hreplica hlink hmaster _ _

/-- When no promotion is left old pods have no slots. -/
theorem Sound.old_slots_eq_nil (hnext : nextFailover orders (s.view setup).1 setup.name setup.shards
      (generateSlotRanges setup.shards) (s.view setup).2 = none) (hm : m ∈ s.mesh.members) (hold : m.old setup = true) : m.slots = [] := by
  by_contra hslots
  obtain ⟨k, hk, howns⟩ := h.exists_owns hm hslots
  obtain ⟨node, hnode, howns'⟩ := (Option.any_eq_true _ _).mp (nextFailover_none _ _ _ _ _ hnext hk)
  obtain ⟨r, hr, -, hname, rfl⟩ := h.lookup_view.mp hnode
  rw [h.owner_unique hk hm hr howns howns', Member.old, hname, newMasterPodName,
    isLegacyClusterPod_clusterShardPodName] at hold
  cases hold

/-- The old pods are forgotten. -/
theorem Sound.contains_forgets (hm : m ∈ s.mesh.members) :
    (presentLegacyIDsSorted (s.view setup).1 (s.view setup).2.legacyNodeIDs).contains m.nodeID =
      m.old setup := by
  have hids : ∀ id, id ∈ (s.view setup).2.legacyNodeIDs ↔
      ∃ m ∈ s.mesh.members, m.old setup = true ∧ m.nodeID = id := fun id => h.toJoined.mem_legacyNodeIDs
  rw [Bool.eq_iff_iff, contains_iff_mem, presentLegacyIDsSorted, mem_insertionSort, mem_map]
  constructor
  · rintro ⟨node, hnode, hid⟩
    obtain ⟨-, hlegacy⟩ := mem_filter.mp hnode
    obtain ⟨m', hm', hold, hid'⟩ := (hids _).mp (contains_iff_mem.mp hlegacy)
    rwa [← eq_of_nodeID hm' hm (hid'.trans hid)]
  · intro hold
    refine ⟨m.view, mem_filter.mpr ⟨h.mem_view.mpr ⟨m, hm, h.old m hm hold, rfl⟩, ?_⟩, rfl⟩
    exact contains_iff_mem.mpr ((hids _).mpr ⟨m, hm, hold, rfl⟩)

end

/-- The old pods are dropped. -/
theorem mem_dropped {forgets : List String}
    (hforgets : ∀ m ∈ s.mesh.members, forgets.contains m.nodeID = m.old setup) (m : Member) :
    m ∈ ((s.mesh.update fun m => if forgets.contains m.nodeID then { m.toNodeState with met := false }
        else m.toNodeState).keep fun m => !isLegacyClusterPod m.podName setup.name).members ↔
      m ∈ s.mesh.members ∧ m.old setup = false := by
  refine mem_filter.trans ?_
  rw [mem_update, Bool.not_eq_true']
  constructor
  · rintro ⟨⟨m', hm', rfl⟩, hnew⟩
    have hnew : m'.old setup = false := hnew
    rw [hforgets m' hm', hnew]
    exact ⟨hm', hnew⟩
  · rintro ⟨hm, hnew⟩
    refine ⟨⟨m, hm, ?_⟩, hnew⟩
    rw [hforgets m hm, hnew]
    rfl

variable (h : Sound setup s.mesh)
include h

/-- Some pod has not joined. -/
theorem Sound.exists_unmet
    (hmet : allNewPodsMet (s.view setup).1 setup.name setup.shards setup.replicasPerShard = false) :
    ∃ m ∈ s.mesh.members, m.met = false := by
  by_contra hall
  push Not at hall
  rw [h.allNewPodsMet_iff.mpr fun m hm => Bool.not_eq_false _ ▸ hall m hm] at hmet
  cases hmet

/-- A pod that is not introduced is not up. -/
theorem Sound.boot_pos (hlegacy : presentLegacyNodes (s.view setup).1 (s.view setup).2.legacyNodeIDs ≠ [])
    (hmeets : missingNewPodMeets (s.view setup).1 setup.name setup.shards setup.replicasPerShard
      (s.view setup).2 = [] ∨ (s.view setup).2.seedAddrs = [])
    (hm : m ∈ s.mesh.members) (hmet : m.met = false) : 0 < m.boot := by
  refine Nat.pos_of_ne_zero fun hboot => ?_
  rcases hmeets with hnone | hseeds
  · have hmeet := h.mem_missingNewPodMeets.mpr ⟨m, hm, hmet, hboot, rfl⟩
    rw [hnone] at hmeet
    cases hmeet
  · refine hlegacy (h.presentLegacyNodes_eq_nil.mpr fun m hm => ?_)
    by_contra hold
    exact h.toJoined.seedAddrs_ne_nil hm (Bool.not_eq_false _ ▸ hold) hseeds

/-- Some pod is not attached or not in sync. -/
theorem Sound.exists_unsynced (orders : ℕ → RangeOrder ClusterNodeState)
    (hmet : ∀ m ∈ s.mesh.members, m.met = true)
    (hunsynced : (planReplicates orders (s.view setup).1 setup.name setup.shards setup.replicasPerShard
      (generateSlotRanges setup.shards) (s.view setup).2).unsynced = true) :
    ∃ m ∈ s.mesh.members, m.unattached setup = true ∨ 0 < m.link := by
  by_contra hnone
  push Not at hnone
  refine Bool.false_ne_true (Eq.trans (Eq.symm ?_) hunsynced)
  refine (planReplicates_synced_iff ..).mpr fun k hk podName hshard => ?_
  obtain ⟨m, hm, rfl⟩ := h.present podName (mem_flatMap.mpr ⟨k, mem_range.mpr hk, hshard⟩)
  have hpod := (mem_newPods ..).mpr ⟨hk, hshard⟩
  obtain ⟨hattached, hlink⟩ := hnone m hm
  refine (h.settled_iff _ hm (hmet m hm) hpod).mpr ?_
  by_cases howns : m.Owns setup k
  · exact .inl howns
  · refine .inr ⟨?_, Nat.le_zero.mp hlink⟩
    rw [Member.unattached, not_old_of_newPods hpod, h.slots_eq_nil hm hpod howns] at hattached
    simpa using hattached

/-- Without slots on old pods the plan sees none. -/
theorem Sound.anyLegacyOwnsSlots_eq_false (hempty : ∀ m ∈ s.mesh.members, m.old setup = true → m.slots = []) :
    anyLegacyOwnsSlots (s.view setup).1 (s.view setup).2.legacyNodeIDs = false := by
  rw [anyLegacyOwnsSlots, any_eq_false]
  intro node hnode
  obtain ⟨hnode, hlegacy⟩ := mem_filter.mp hnode
  obtain ⟨m, hm, -, rfl⟩ := h.mem_view.mp hnode
  obtain ⟨m', hm', hold, hid⟩ := h.toJoined.mem_legacyNodeIDs.mp (contains_iff_mem.mp hlegacy)
  obtain rfl := eq_of_nodeID hm' hm hid
  have hslots : m'.view.slots = [] := hempty m' hm' hold
  rw [hslots]
  decide

/-- What a pass does to the mesh. -/
theorem Sound.effect (hshards : 0 < setup.shards) (env : PassEnv) :
    Effect setup s (s.plan setup env.orders)
      (executeMigrationPhase setup env s (s.plan setup env.orders)) := by
  have hplanned : Planned env.orders (s.view setup).1 setup.shards setup.replicasPerShard setup.name
    (s.view setup).2 (s.plan setup env.orders) := planned_planClusterMigration ..
  unfold executeMigrationPhase
  cases hplanned with
  | unset hnone => omega
  | complete _ hlegacy hactions =>
    obtain ⟨hphase, -, -, -, hdelete⟩ := hactions
    rw [hphase]
    exact .complete (h.presentLegacyNodes_eq_nil.mp hlegacy) hphase hdelete
  | standup _ hlegacy hmet hmeets hactions =>
    obtain ⟨hphase, -, -, -, hdelete⟩ := hactions
    rw [hphase]
    obtain ⟨m, hm, hmet⟩ := h.exists_unmet hmet
    exact .standup ⟨m, hm, hmet, h.boot_pos hlegacy hmeets hm hmet⟩ hphase hdelete
  | meet _ _ _ hactions hmeets =>
    obtain ⟨hphase, hplan, -, -, hdelete⟩ := hactions
    rw [hphase, hplan]
    obtain ⟨f, hfold, hf⟩ := h.foldl_executeMeet
    obtain ⟨addr, haddr⟩ := exists_mem_of_ne_nil _ hmeets
    obtain ⟨m, hm, hmet, hboot, -⟩ := h.mem_missingNewPodMeets.mp haddr
    rw [hfold]
    exact .meet f hf ⟨m, hm, hmet, hboot⟩ hphase hdelete
  | replicate _ _ hmet hunsynced hactions =>
    obtain ⟨hphase, -, hplan, -, hdelete⟩ := hactions
    rw [hphase, hplan]
    have hmet := h.allNewPodsMet_iff.mp hmet
    obtain ⟨f, hfold, hattach⟩ := h.foldl_executeReplicate env.orders.replicates hmet env.delay
    rw [hfold]
    exact .replicate hmet f hattach (h.exists_unsynced _ hmet hunsynced) hphase hdelete
  | failover _ _ hmet hsynced action k hnext hactions =>
    obtain ⟨hphase, -, -, hplan, hdelete⟩ := hactions
    rw [hphase, hplan]
    have hmet := h.allNewPodsMet_iff.mp hmet
    obtain ⟨hk, r, hr, o, ho, hname, hempty, howns, hexecute⟩ :=
      h.executeFailover_eq env.orders hmet hsynced hnext env.delay
    rw [foldl_cons, hexecute]
    exact .failover hmet k hk r o hr ho hname hempty howns env.delay hphase hdelete
  | decommission _ _ hmet _ hnext hforgets hactions =>
    obtain ⟨hphase, -, -, -, hdelete⟩ := hactions
    have hempty := fun m hm hold => h.old_slots_eq_nil (m := m) env.orders.failovers hnext hm hold
    rw [h.anyLegacyOwnsSlots_eq_false hempty] at hdelete
    rw [hphase, hdelete]
    refine .decommission (h.allNewPodsMet_iff.mp hmet) hempty _ (fun m => mem_dropped ?_ m) hphase hdelete
    rw [hforgets]
    exact fun m hm => h.contains_forgets hm

end Effects

end LittleRed.Cluster.Migration
