import LittleRed.Lrctl.Authority

/-!
# An instance without findings is left alone

When lrctl finds nothing, a pass of the operator over the same pods writes no assignment and sends no
command: the intended master is live, every pod is assigned and answers, and every pod follows the master.
This needs that lrctl reads what the operator reads: an empty role, an epoch that does not fit 64 bits and a
master known by host name count for lrctl only.
-/

namespace LittleRed.Lrctl

open Lib Replication Failover List Option

section Findings

variable {views : List PodView} {state : ReplicationState} {intent : Intent} {anyAssignment : Bool}
  {authority : Authority} {p : PodView}

/-- The record names a master. -/
theorem recorded_of_checkAssignmentRecord (h : checkAssignmentRecord intent views anyAssignment = []) :
    anyAssignment = true ∧ intent.masterName ≠ "" := by
  have hmissing := (append_eq_nil_iff.mp (append_eq_nil_iff.mp h).1).1
  split at hmissing
  · cases hmissing
  rename_i hany
  split at hmissing
  · cases hmissing
  rename_i hnamed
  rw [Bool.not_eq_true, Bool.not_eq_false'] at hany
  exact ⟨hany, hnamed⟩

/-- The authority is the intended master. -/
theorem live_of_computeAuthority (hnamed : intent.masterName ≠ "")
    (h : (computeAuthority intent state true).2 = []) :
    intent.masterIP ≠ "" ∧ (computeAuthority intent state true).1.ip = intent.masterIP := by
  unfold computeAuthority at h ⊢
  by_cases hlive : intent.masterIP ≠ "" ∧ ((state.redisNodes.lookup intent.masterIP).any fun rn =>
      rn.reachable && rn.role == roleMaster) = true
  · rw [if_pos hlive]
    exact ⟨hlive.1, rfl⟩
  · rw [if_neg hlive, if_neg (by simpa using hnamed)] at h
    cases h

/-- The pod follows the authority. -/
theorem follows_of_checkObserved {rn : RedisNodeState} (h : checkObserved authority p rn = [])
    (hother : p.ip ≠ authority.ip) : rn.role ≠ roleMaster ∧ rn.masterHost = authority.ip := by
  have hfollowing := (append_eq_nil_iff.mp h).1
  rw [if_neg hother] at hfollowing
  split at hfollowing
  · cases hfollowing
  rename_i hrole
  split at hfollowing
  · cases hfollowing
  · rename_i hhost
    exact ⟨hrole, not_not.mp hhost⟩

/-- A pod that is there to stay, is assigned and answers, as the authority or as one that follows it. -/
structure InPlace (authority : Authority) (state : ReplicationState) (p : PodView) : Prop where
  assigned : p.hasAssignment = true
  answers : ∃ rn, state.redisNodes.lookup p.ip = some rn ∧ rn.reachable = true ∧
    (p.ip ≠ authority.ip → rn.role ≠ roleMaster ∧ rn.masterHost = authority.ip)

/-- A pod about which nothing is found is in place. -/
theorem inPlace_of_checkPod (hauthority : authority.ip ≠ "") (hstaying : p.terminating = false)
    (hip : p.ip ≠ "") (h : (checkPod authority state true p).findings = []) :
    InPlace authority state p := by
  unfold checkPod at h
  rw [if_neg (by simp [hstaying, hip])] at h
  dsimp only at h
  split at h
  · cases h
  split at h
  · cases h
  rename_i hassigned
  have hassigned : p.hasAssignment = true := by simpa using hassigned
  split at h
  · cases h
  rename_i rn hanswer
  obtain ⟨hlookup, hreachable⟩ := filter_eq_some_iff.mp hanswer
  exact ⟨hassigned, rn, hlookup, hreachable, follows_of_checkObserved h⟩

/-- The authority is the intended master, and all pods that stay are in place. -/
theorem inPlace_of_no_findings (h : (analyze views state).findings = []) :
    (analyze views state).authority.ip = (resolveIntent views).masterIP ∧
      (analyze views state).authority.ip ≠ "" ∧
      ∀ p ∈ views, p.terminating = false → p.ip ≠ "" → InPlace (analyze views state).authority state p := by
  unfold analyze at h ⊢
  obtain ⟨⟨⟨hrecord, hauthority⟩, hpods⟩, -⟩ :=
    (And.imp_left (And.imp_left append_eq_nil_iff.mp ∘ append_eq_nil_iff.mp)
      (append_eq_nil_iff.mp h))
  obtain ⟨hany, hnamed⟩ := recorded_of_checkAssignmentRecord hrecord
  rw [hany] at hauthority hpods ⊢
  obtain ⟨hip, heq⟩ := live_of_computeAuthority hnamed hauthority
  rw [← heq] at hip
  refine ⟨heq, hip, fun p hp hstaying haddress => ?_⟩
  exact inPlace_of_checkPod hip hstaying haddress (flatMap_eq_nil_iff.mp hpods p hp)

end Findings

section Pass

variable {podList : List PodObject} {state : ReplicationState}

/-- The intended master is live, all that answer follow it, and all pods are assigned and answer. -/
structure Converged (podList : List PodObject) (state : ReplicationState) : Prop where
  live : determineFailoverLiveMaster state (passIntent podList state).masterIP ≠ ""
  followed : ∀ entry ∈ state.redisNodes.entries, entry.2.reachable = true →
    entry.1 ≠ (passIntent podList state).masterIP →
      entry.2.role ≠ roleMaster ∧ entry.2.masterHost = (passIntent podList state).masterIP
  assigned : ∀ view ∈ buildFailoverPodViews podList (some state), view.ip ≠ "" →
    view.hasAssignment = true ∧ view.reachable = true

namespace Converged

variable (h : Converged podList state)
include h

theorem live_eq :
    determineFailoverLiveMaster state (passIntent podList state).masterIP =
      (passIntent podList state).masterIP :=
  (liveMaster_eq_or state _).resolve_left h.live

theorem needsPromotion_eq : needsPromotion state (passIntent podList state).masterIP = false := by
  have hlive := h.live
  unfold determineFailoverLiveMaster at hlive
  split at hlive
  · exact absurd rfl hlive
  split at hlive
  · rename_i hanswers
    unfold needsPromotion
    cases hlookup : state.redisNodes.lookup (passIntent podList state).masterIP with
    | none => rfl
    | some rn =>
      rw [hlookup, any_some, Bool.and_eq_true, beq_iff_eq] at hanswers
      simp [hanswers.2]
  · exact absurd rfl hlive

variable (inst : Instance) (status : FailoverStatus) (now : ℤ)

theorem failoverDecision_eq : (failoverDecision inst status podList state now).action = .none := by
  unfold failoverDecision planFailover
  rw [if_pos h.live]

/-- No fresh assignment is given. -/
theorem planFailoverReauth_eq (intent : FailoverIntent) (liveMasterIP : String) :
    planFailoverReauth (buildFailoverPodViews podList (some state)) intent liveMasterIP = [] := by
  have hnone : (buildFailoverPodViews podList (some state)).filterMap
    (reauthStamp intent liveMasterIP) = [] := by
    apply filterMap_eq_nil_iff.mpr
    intro view hview
    unfold reauthStamp
    split
    · rfl
    rename_i hkept
    rw [not_or] at hkept
    obtain ⟨hassigned, hreachable⟩ := h.assigned view hview hkept.1
    simp [hassigned, hreachable]
  rw [planFailoverReauth, hnone, insertionSort_nil]

/-- Nobody is repointed. -/
theorem planFailoverRepoints_eq :
    planFailoverRepoints state (passIntent podList state).masterIP = [] := by
  have hnone : (state.redisNodes.entries.filterMap fun entry =>
      if !entry.2.reachable || entry.1 == (passIntent podList state).masterIP then none
      else if entry.2.role == roleMaster || entry.2.masterHost != (passIntent podList state).masterIP then
        some entry.1
      else none) = [] := by
    apply filterMap_eq_nil_iff.mpr
    intro entry hentry
    split
    · rfl
    rename_i hasked
    rw [Bool.or_eq_true, not_or, Bool.not_eq_true, Bool.not_eq_false', beq_iff_eq] at hasked
    obtain ⟨hrole, hhost⟩ := h.followed entry hentry hasked.1 hasked.2
    simp [hrole, hhost]
  rw [planFailoverRepoints, hnone, insertionSort_nil]

/-- Nothing is written. -/
theorem stamps_eq : (reconcileFailoverAssignments inst status podList state now).stamps = [] := by
  have hcases := reconcile_cases inst status podList state now
  split at hcases
  · rw [hcases, executeFailoverPlan, h.failoverDecision_eq]
  unfold reconcileFailoverAssignments
  dsimp only
  split
  · rfl
  split
  · rfl
  split
  · have hdecision := h.failoverDecision_eq inst status now
    unfold failoverDecision passIntent at hdecision
    rw [executeFailoverPlan, hdecision]
  · split
    · rfl
    · split
      · exact h.planFailoverReauth_eq _ _
      · rfl

/-- The pass changes nothing and sends nothing. -/
theorem actuate_eq (calls : Calls) :
    actuate inst status podList state now calls .reconcile = ⟨podList, []⟩ := by
  have hpods : (stampFailoverAssignments calls podList
      (reconcileFailoverAssignments inst status podList state now).stamps).pods = podList := by
    rw [h.stamps_eq]
    rfl
  unfold actuate
  dsimp only
  rw [hpods, h.needsPromotion_eq, h.live_eq, h.planFailoverRepoints_eq, planCommands, h.failoverDecision_eq]
  simp

end Converged

end Pass

section Gathered

variable {pods : DataPods} {probes : Probes} {ip : String}

variable {redisPods sentinelPods : GoMap String String} {masterName : String} {ownedIPs : List String}
  {orders : ConsensusOrders} {p : DataPod}

/-- What is gathered is what was answered. -/
theorem answer_of_gathered {rn : RedisNodeState}
    (h : (gatherReplicationState probes redisPods sentinelPods masterName ownedIPs orders).redisNodes.lookup
      ip = some rn) (hreachable : rn.reachable = true) :
    ip ∈ redisPods ∧ ∃ snap, probes.redis ip = .ok snap ∧ rn.role = snap.role ∧
      rn.masterHost = snap.masterHost := by
  rw [lookup_gatherReplicationState] at h
  obtain ⟨name, hname, rfl⟩ := map_eq_some_iff.mp h
  refine ⟨AList.lookup_isSome.mp (by rw [hname]; rfl), ?_⟩
  unfold Probes.getRedisState at hreachable ⊢
  cases hprobe : probes.redis ip with
  | error probeFailure =>
    rw [hprobe] at hreachable
    cases hreachable
  | ok snap => exact ⟨snap, rfl, rfl, rfl⟩

/-- A pod that answers is reachable. -/
theorem reachable_of_answer {snap : ReplicationInfo} (hasked : ip ∈ redisPods)
    (h : probes.redis ip = .ok snap) :
    ((gatherReplicationState probes redisPods sentinelPods masterName ownedIPs orders).redisNodes.lookup
      ip).any (·.reachable) = true := by
  rw [lookup_gatherReplicationState]
  obtain ⟨name, hname⟩ := isSome_iff_exists.mp (AList.lookup_isSome.mpr hasked)
  rw [hname, map_some, any_some, Probes.getRedisState, h]

/-- No assignment, or a role that is not empty and an epoch that is a 64-bit number. -/
def RecordedFully (p : DataPod) : Prop :=
  (p.annotations.lookup annotationAssignedRole = none ∧ p.annotations.lookup annotationAssignmentEpoch = none) ∨
    ∃ role epoch, p.annotations.lookup annotationAssignedRole = some role ∧ role ≠ "" ∧
      p.annotations.lookup annotationAssignmentEpoch = some epoch ∧ (atoi epoch).isSome = true

/-- The pods that answer name their master by an address, not by the host name of a pod. -/
def MastersByAddress (pods : List DataPod) (probes : Probes) : Prop :=
  ∀ p ∈ pods, p.ip ≠ "" → ∀ snap, probes.redis p.ip = .ok snap →
    resolveIdentityToIP pods snap.masterHost = snap.masterHost

/-- Each pod answers a command that runs in it as it answers at its address. -/
def execReplies (pods : List DataPod) (probes : Probes) (podName : String) :
    Except ProbeFailure ReplicationInfo :=
  match pods.find? fun p => p.name == podName with
  | none => .error .unknown
  | some p => probes.redis p.ip

/-- So the pod that lrctl asks gives the answer at the address that it asks it for. -/
theorem execReplies_of_lookup {name : String} (h : (redisMap pods.items).lookup ip = some name) :
    execReplies pods.items probes name = probes.redis ip := by
  obtain ⟨-, p, hp, rfl, rfl⟩ := exists_pod_of_lookup h
  rw [execReplies, find?_key pods.distinct hp]

theorem RecordedFully.assigned_eq_claimed (h : RecordedFully p) : p.assigned = p.claimed := by
  rcases h with ⟨hrole, -⟩ | ⟨role, text, hrole, hblank, htext, hparsed⟩
  · have hnone : p.claimed = none := by rw [DataPod.claimed, hrole]; rfl
    rw [hnone]
    cases hassigned : p.assigned with
    | none => rfl
    | some assignment =>
      have hsome := (DataPod.assigned_eq_some_iff.mp hassigned).1
      rw [hrole] at hsome
      cases hsome
  · obtain ⟨epoch, hepoch⟩ := isSome_iff_exists.mp hparsed
    have hannotation : p.annotation annotationAssignmentEpoch = text := by
      rw [DataPod.annotation, htext, getD_some]
    have hassigned : p.assigned = some (role, epoch) :=
      DataPod.assigned_eq_some_iff.mpr ⟨hrole, hblank, hannotation.symm ▸ hepoch⟩
    rw [hassigned, DataPod.claimed_of_assigned hassigned]

/-- No assignment lacks a number. -/
theorem unnumberedBeaten_of_recorded (hrecorded : ∀ p ∈ pods.items, RecordedFully p) :
    UnnumberedBeaten pods.items := by
  intro p hp hrole hparsed
  have hclaimed : p.claimed = some (roleMaster, 0) := by rw [DataPod.claimed, hrole, hparsed]; rfl
  rw [← (hrecorded p hp).assigned_eq_claimed] at hclaimed
  have hnumber := (DataPod.assigned_eq_some_iff.mp hclaimed).2.2
  rw [hparsed] at hnumber
  cases hnumber

/-- What lrctl sees of a pod. -/
theorem podView_fields (p : DataPod) :
    (podView p).hasAssignment = p.claimed.isSome ∧ (podView p).terminating = p.terminating ∧
      (podView p).ip = p.ip := by
  unfold podView DataPod.claimed
  cases p.annotations.lookup annotationAssignedRole with
  | none | some => exact ⟨rfl, rfl, rfl⟩

/-- What the operator sees of it. -/
theorem failoverPodView_fields (state : ReplicationState) (p : DataPod) :
    (failoverPodView (some state) p.object).hasAssignment = p.assigned.isSome ∧
      (failoverPodView (some state) p.object).reachable =
        (p.ip != "" && (state.redisNodes.lookup p.ip).any (·.reachable)) := by
  have hassignment := assignment_failoverPodView (some state) p.object
  constructor
  · rw [DataPod.assigned, ← hassignment, FailoverPodView.assignment]
    cases (failoverPodView (some state) p.object).hasAssignment <;> rfl
  · unfold failoverPodView
    dsimp only
    split
    · split <;> rfl
    · rfl

variable (pods probes) (order operatorOrder : RangeOrder (Σ _ : String, String)) (ownedIPs : List String)
  (orders operatorOrders : ConsensusOrders)

/-- A pod in place answers as the master or follows it. -/
theorem InPlace.answer {authority : Authority} (hp : p ∈ pods.items) (hip : p.ip ≠ "")
    (hhosts : MastersByAddress pods.items probes)
    (h : InPlace authority (gatherFailover (execReplies pods.items probes) pods.items order orders)
      (podView p)) :
    ∃ snap, probes.redis p.ip = .ok snap ∧
      (p.ip ≠ authority.ip → snap.role ≠ roleMaster ∧ snap.masterHost = authority.ip) := by
  obtain ⟨rn, hlookup, hreachable, hfollows⟩ := h.answers
  rw [(podView_fields p).2.2] at hlookup hfollows
  obtain ⟨-, resolved, hresolved, hrole, hhost⟩ := answer_of_gathered hlookup hreachable
  obtain ⟨name, hname⟩ := exists_lookup hp hip
  simp only [execProbes, hname, execReplies_of_lookup hname] at hresolved
  cases hprobe : probes.redis p.ip with
  | error probeFailure =>
    rw [hprobe] at hresolved
    cases hresolved
  | ok snap =>
    rw [hprobe] at hresolved
    cases hresolved
    refine ⟨snap, rfl, fun hother => ?_⟩
    have hhost : rn.masterHost = snap.masterHost := hhost.trans (hhosts p hp hip snap hprobe)
    rw [← hrole, ← hhost]
    exact hfollows hother

/-- Every pod with an address has a role for lrctl, answers, and is or follows the master. -/
def PodsFollow (masterIP : String) : Prop :=
  ∀ p ∈ pods.items, p.ip ≠ "" → p.claimed.isSome = true ∧ ∃ snap, probes.redis p.ip = .ok snap ∧
    (p.ip ≠ masterIP → snap.role ≠ roleMaster ∧ snap.masterHost = masterIP)

section Staying

variable {pods probes} (hstaying : ∀ p ∈ pods.items, p.terminating = false)

include hstaying

/-- Without findings the pods follow. -/
theorem podsFollow_of_no_findings (hhosts : MastersByAddress pods.items probes)
    (hnone : (analyze (failoverPodViews pods.items)
      (gatherFailover (execReplies pods.items probes) pods.items order orders)).findings = []) :
    PodsFollow pods probes (analyze (failoverPodViews pods.items)
      (gatherFailover (execReplies pods.items probes) pods.items order orders)).authority.ip := by
  intro p hp hip
  obtain ⟨hassigned, hterminating, haddress⟩ := podView_fields p
  have hplaced := (inPlace_of_no_findings hnone).2.2 _ (mem_failoverPodViews_iff.mpr ⟨p, hp, rfl⟩)
    (hterminating.trans (hstaying p hp)) (haddress.symm ▸ hip)
  exact ⟨hassigned.symm.trans hplaced.assigned, InPlace.answer pods probes order orders hp hip hhosts hplaced⟩

/-- Where all pods stay the operator asks all. -/
theorem mem_operatorMap_of_staying :
    ip ∈ (Failover.redisMap pods.objects).reordered operatorOrder ↔ ip ≠ "" ∧ ∃ p ∈ pods.items, p.ip = ip := by
  rw [GoMap.mem_reordered, mem_operatorMap_iff]
  constructor
  · rintro ⟨hip, p, hp, hpip, -⟩
    exact ⟨hip, p, hp, hpip⟩
  · rintro ⟨hip, p, hp, hpip⟩
    exact ⟨hip, p, hp, hpip, hstaying p hp⟩

variable {masterIP : String}

/-- The master is live for the operator too. -/
theorem operatorLive_of_intended {state : ReplicationState}
    (hgathered : Failover.gatherFailover probes pods.objects operatorOrder ownedIPs operatorOrders = state)
    (hmaster : (passIntent pods.objects state).masterIP = masterIP) (hip : masterIP ≠ "")
    (hlive : determineFailoverLiveMaster (gatherFailover (execReplies pods.items probes) pods.items
      order orders) masterIP ≠ "") :
    determineFailoverLiveMaster state masterIP ≠ "" := by
  have hintent : IntentOf DataPod.assigned pods.items (passIntent pods.objects state) :=
    intentOf_operator pods (some state)
  have hnamed : (passIntent pods.objects state).masterName ≠ "" :=
    fun hempty => hip (hmaster.symm.trans (hintent.unaddressed hempty))
  obtain ⟨p, epoch, hp, -, hpip⟩ := hintent.named hnamed
  have haddress : p.ip ≠ "" := by rwa [hpip, hmaster]
  obtain ⟨name, hname⟩ := exists_lookup hp.mem haddress
  have hagrees := (@liveMasters_agree_iff pods probes (execReplies pods.items probes) p.ip name hname order
    operatorOrder ownedIPs orders operatorOrders).mpr (by
      rw [execReplies_of_lookup hname, and_iff_right ⟨p, hp.mem, rfl, hstaying p hp.mem⟩])
  rw [hpip, hmaster, hgathered] at hagrees
  rwa [← hagrees]

/-- What the operator gathers follows the master. -/
theorem followed_of_podsFollow (hfollow : PodsFollow pods probes masterIP)
    {entry : Σ _ : String, RedisNodeState}
    (hentry : entry ∈ (Failover.gatherFailover probes pods.objects operatorOrder ownedIPs
      operatorOrders).redisNodes.entries) (hreachable : entry.2.reachable = true)
    (hother : entry.1 ≠ masterIP) : entry.2.role ≠ roleMaster ∧ entry.2.masterHost = masterIP := by
  obtain ⟨hmem, snap, hprobe, hrole, hhost⟩ :=
    answer_of_gathered (AList.mem_lookup_iff.mpr hentry) hreachable
  obtain ⟨hip, p, hp, hpip⟩ := (mem_operatorMap_of_staying operatorOrder hstaying).mp hmem
  rw [← hpip] at hip hprobe hother
  obtain ⟨-, snap', hprobe', hfollows⟩ := hfollow p hp hip
  obtain rfl := Except.ok.inj (hprobe.symm.trans hprobe')
  rw [hrole, hhost]
  exact hfollows hother

/-- Every pod is assigned and answers. -/
theorem assigned_of_podsFollow (hfollow : PodsFollow pods probes masterIP)
    (hrecorded : ∀ p ∈ pods.items, RecordedFully p) {view : FailoverPodView}
    (hview : view ∈ buildFailoverPodViews pods.objects (some
      (Failover.gatherFailover probes pods.objects operatorOrder ownedIPs operatorOrders)))
    (hip : view.ip ≠ "") : view.hasAssignment = true ∧ view.reachable = true := by
  obtain ⟨object, hobject, rfl⟩ := mem_map.mp hview
  obtain ⟨p, hp, rfl⟩ := mem_map.mp hobject
  have hip : p.ip ≠ "" := by rwa [(failoverPodView_identity _ p.object).2] at hip
  obtain ⟨hclaimed, snap, hprobe, -⟩ := hfollow p hp hip
  have hasked := (mem_operatorMap_of_staying operatorOrder hstaying).mpr ⟨hip, p, hp, rfl⟩
  obtain ⟨hassigned, hreachable⟩ := failoverPodView_fields
    (Failover.gatherFailover probes pods.objects operatorOrder ownedIPs operatorOrders) p
  rw [hassigned, hreachable, (hrecorded p hp).assigned_eq_claimed, Failover.gatherFailover,
    reachable_of_answer hasked hprobe, Bool.and_true]
  exact ⟨hclaimed, bne_iff_ne.mpr hip⟩

/-- Without findings the operator has nothing to do. -/
theorem converged_of_no_findings (hrecorded : ∀ p ∈ pods.items, RecordedFully p)
    (hhosts : MastersByAddress pods.items probes) (hnone : (analyze (failoverPodViews pods.items)
      (gatherFailover (execReplies pods.items probes) pods.items order orders)).findings = []) :
    Converged pods.objects
      (Failover.gatherFailover probes pods.objects operatorOrder ownedIPs operatorOrders) := by
  have hauthority := authority_eq_liveMaster (failoverPodViews pods.items)
    (gatherFailover (execReplies pods.items probes) pods.items order orders)
  have hfollow := podsFollow_of_no_findings order orders hstaying hhosts hnone
  obtain ⟨hmaster, hip, -⟩ := inPlace_of_no_findings hnone
  have hlive := hip
  rw [hauthority] at hlive
  -- the annotations are read alike, so the authority is the master that the operator intends
  have hsame : (passIntent pods.objects (Failover.gatherFailover probes pods.objects operatorOrder ownedIPs
      operatorOrders)).masterIP = (resolveIntent (failoverPodViews pods.items)).masterIP :=
    ((masters_agree_iff (intentOf_lrctl pods) (intentOf_operator pods (some _))).mpr
      (unnumberedBeaten_of_recorded hrecorded)).2.symm
  rw [hmaster] at hip hfollow
  refine ⟨?_, ?_, ?_⟩
  · rw [hsame]
    exact operatorLive_of_intended order operatorOrder ownedIPs orders operatorOrders hstaying rfl hsame hip
      hlive
  · rw [hsame]
    intro entry hentry
    exact followed_of_podsFollow operatorOrder ownedIPs operatorOrders hstaying hfollow hentry
  · intro view hview
    exact assigned_of_podsFollow operatorOrder ownedIPs operatorOrders hstaying hfollow hrecorded hview

end Staying

/-- When lrctl finds nothing, a pass over the same pods writes no assignment and sends no command. -/
theorem quiescent_of_no_findings (hstaying : ∀ p ∈ pods.items, p.terminating = false)
    (hrecorded : ∀ p ∈ pods.items, RecordedFully p) (hhosts : MastersByAddress pods.items probes)
    (inst : Instance) (status : FailoverStatus) (now : ℤ) (calls : Calls)
    (hnone : (analyze (failoverPodViews pods.items)
      (gatherFailover (execReplies pods.items probes) pods.items order orders)).findings = []) :
    let state := Failover.gatherFailover probes pods.objects operatorOrder ownedIPs operatorOrders
    (reconcileFailoverAssignments inst status pods.objects state now).stamps = [] ∧
      actuate inst status pods.objects state now calls .reconcile = ⟨pods.objects, []⟩ := by
  have hconverged := converged_of_no_findings order operatorOrder ownedIPs orders operatorOrders hstaying
    hrecorded hhosts hnone
  exact ⟨hconverged.stamps_eq inst status now, hconverged.actuate_eq inst status now calls⟩

end Gathered

/-- A master beside a pod with the given assignment. -/
def masterBeside (role epoch : String) : DataPods where
  items := [annotatedPod "lr-redis-0" "10.0.0.1" "master" "3" false,
    annotatedPod "lr-redis-1" "10.0.0.2" role epoch false]
  named := by simp [annotatedPod]
  distinct := by simp [annotatedPod]

def pairInstance : Instance := ⟨"lr-redis-0", 30000, false⟩

def goodCalls : Calls := ⟨fun _ => true, fun _ => .done, true⟩

/-- A master and its replica: nothing is found, and the pass does nothing. -/
theorem masterBeside_quiescent :
    let pods := masterBeside "replica" "3"
    let state := Failover.gatherFailover pairProbes pods.objects .asGiven [] .asGiven
    (analyze (failoverPodViews pods.items)
      (gatherFailover (execReplies pods.items pairProbes) pods.items .asGiven .asGiven)).findings = [] ∧
    (reconcileFailoverAssignments pairInstance ⟨false, none, none⟩ pods.objects state 0).stamps = [] ∧
      actuate pairInstance ⟨false, none, none⟩ pods.objects state 0 goodCalls .reconcile =
        ⟨pods.objects, []⟩ := by
  have hnone : (analyze (failoverPodViews (masterBeside "replica" "3").items)
      (gatherFailover (execReplies (masterBeside "replica" "3").items pairProbes)
        (masterBeside "replica" "3").items .asGiven .asGiven)).findings = [] := by
    decide
  refine ⟨hnone, quiescent_of_no_findings (masterBeside "replica" "3") pairProbes .asGiven .asGiven []
    .asGiven .asGiven (by decide) ?_ ?_ pairInstance ⟨false, none, none⟩ 0 goodCalls hnone⟩
  · intro p hp
    simp only [masterBeside, mem_cons, not_mem_nil, or_false] at hp
    rcases hp with rfl | rfl
    · exact .inr ⟨"master", "3", rfl, by decide, rfl, by decide⟩
    · exact .inr ⟨"replica", "3", rfl, by decide, rfl, by decide⟩
  · intro p hp _ snap hsnap
    simp only [masterBeside, mem_cons, not_mem_nil, or_false] at hp
    rcases hp with rfl | rfl
    · obtain rfl := Except.ok.inj hsnap
      decide
    · obtain rfl := Except.ok.inj hsnap
      decide

/-- The replica knows its master by host name. -/
def hostProbes : Probes where
  redis ip :=
    if ip = "10.0.0.1" then .ok ⟨"master", "", "", 90, 4, "7a", ""⟩
    else .ok ⟨"slave", "lr-redis-0.lr-headless", "up", 90, 4, "7a", ""⟩
  sentinel _ := none

/-- lrctl finds nothing about an empty role, a large epoch or a master known by host name, but a pass acts. -/
theorem masterBeside_disturbed :
    let findings := fun (pods : DataPods) (probes : Probes) =>
      (analyze (failoverPodViews pods.items)
        (gatherFailover (execReplies pods.items probes) pods.items .asGiven .asGiven)).findings
    let stamped := fun (pods : DataPods) (probes : Probes) =>
      (reconcileFailoverAssignments pairInstance ⟨false, none, none⟩ pods.objects
        (Failover.gatherFailover probes pods.objects .asGiven [] .asGiven) 0).stamps.map (·.stamp.podName)
    let sent := fun (pods : DataPods) (probes : Probes) =>
      (actuate pairInstance ⟨false, none, none⟩ pods.objects
        (Failover.gatherFailover probes pods.objects .asGiven [] .asGiven) 0 goodCalls .reconcile).commands
    (findings (masterBeside "" "3") pairProbes = [] ∧
      stamped (masterBeside "" "3") pairProbes = ["lr-redis-1"]) ∧
    (findings (masterBeside "replica" "9223372036854775808") pairProbes = [] ∧
      stamped (masterBeside "replica" "9223372036854775808") pairProbes = ["lr-redis-1"]) ∧
    (findings (masterBeside "replica" "3") hostProbes = [] ∧
      sent (masterBeside "replica" "3") hostProbes = [.slaveOf "10.0.0.2" "10.0.0.1"]) := by
  decide

end LittleRed.Lrctl
