import LittleRed.Failover.Issue
import LittleRed.Failover.RoleLabels
import LittleRed.Replication.Lossless

/-!
# What a pass sends

A pass of failover mode writes its assignments onto the pods and sends commands to Redis, by address and
from what it gathered before. They agree with the intent that is on the pods afterwards, whatever calls
fail: a promotion is sent only after every assignment was written, and fresh assignments leave the intended
master alone. But an elected pod is found by its address, which a terminating pod may share.
-/

namespace LittleRed.Failover

open Lib Replication List

/-- The commands that a pass sends: to become a master, and to follow one. -/
inductive RedisCommand where
  | replicaOfNoOne (ip : String)
  | slaveOf (ip masterIP : String)
  deriving DecidableEq

/-- How a write ends. One whose answer is lost has its effect, but counts as failed. -/
inductive WriteOutcome where
  | done
  | lost
  | failed

/-- How the calls of a pass end: the read and the patch of each pod, by name, and the promotion. -/
structure Calls where
  get : String → Bool
  patch : String → WriteOutcome
  promotion : Bool

/-- Write an assignment onto a pod that does not carry it, and tell whether that succeeded. -/
def stampFailoverPod (calls : Calls) (stamp : FailoverStamp) (p : PodObject) : PodObject × Bool :=
  let written : PodObject :=
    { p with annotations := (stamp.patched p.annotations ⟨p.annotations, 0⟩ 0).annotations }
  if !calls.get p.name then (p, false)
  else if stamp.carriedBy p.annotations then (p, true)
  else
    match calls.patch p.name with
    | .done => (written, true)
    | .lost => (written, false)
    | .failed => (p, false)

/-- The pods after some assignments, and whether all of them succeeded. -/
structure Stamped where
  pods : List PodObject
  succeeded : Bool

/-- The next assignment is written onto the pod of its name. -/
def stampByName (calls : Calls) (acc : Stamped) (planned : PlannedStamp) : Stamped where
  pods := acc.pods.map fun p =>
    if p.name = planned.stamp.podName then (stampFailoverPod calls planned.stamp p).1 else p
  succeeded := acc.succeeded && acc.pods.any fun p =>
    p.name == planned.stamp.podName && (stampFailoverPod calls planned.stamp p).2

/-- Write the assignments one after the other. -/
def stampFailoverAssignments (calls : Calls) (podList : List PodObject) (stamps : List PlannedStamp) :
    Stamped :=
  stamps.foldl (stampByName calls) ⟨podList, true⟩

/-- Promote a pod that is not yet a master. -/
def promoteFailoverMaster (state : ReplicationState) (masterIP : String) : List RedisCommand :=
  if needsPromotion state masterIP then [.replicaOfNoOne masterIP] else []

/-- The address of the outgoing master, which is made to follow the new one if some pod has it. -/
def planFailoverFence (views : List FailoverPodView) (outgoingIP newMasterIP : String) : String :=
  if outgoingIP = "" ∨ outgoingIP = newMasterIP then ""
  else if views.any (·.ip == outgoingIP) then outgoingIP
  else ""

/-- The addresses of the pods that answer and do not follow the live master. -/
def planFailoverRepoints (state : ReplicationState) (liveMasterIP : String) : List String :=
  (state.redisNodes.entries.filterMap fun entry =>
    if !entry.2.reachable || entry.1 == liveMasterIP then none
    else if entry.2.role == roleMaster || entry.2.masterHost != liveMasterIP then some entry.1
    else none).insertionSort (· ≤ ·)

/-- The commands that make a pod the master: the promotion, then the fence. -/
def promotionCommands (calls : Calls) (podList : List PodObject) (state : ReplicationState)
    (intent : FailoverIntent) (masterIP : String) : List RedisCommand :=
  let promotion := promoteFailoverMaster state masterIP
  if !promotion.isEmpty && !calls.promotion then promotion
  else
    let fenceIP := planFailoverFence (buildFailoverPodViews podList none) intent.masterIP masterIP
    promotion ++ if fenceIP = "" then [] else [.slaveOf fenceIP masterIP]

/-- The commands of a decision, none unless all assignments were written. -/
def planCommands (calls : Calls) (podList : List PodObject) (state : ReplicationState)
    (intent : FailoverIntent) (plan : FailoverPlan) (succeeded : Bool) : List RedisCommand :=
  match plan.action with
  | .promote | .unsafeElect =>
    if succeeded then promotionCommands calls podList state intent plan.masterIP else []
  | .none | .wait | .seed | .refuse | .refuseUnverified => []

structure Actuation where
  pods : List PodObject
  commands : List RedisCommand

/-- The passes: the first assignments of an instance, and those after it. -/
inductive PassKind where
  | bootstrap (pod0IP : String)
  | reconcile

/-- What a pass writes and sends, from the pods that it listed and the state that it gathered. -/
def actuate (inst : Instance) (status : FailoverStatus) (podList : List PodObject)
    (state : ReplicationState) (now : ℤ) (calls : Calls) : PassKind → Actuation
  | .bootstrap pod0IP =>
    ⟨(stampFailoverAssignments calls podList (bootstrapFailover inst pod0IP podList).stamps).pods, []⟩
  | .reconcile =>
    let intent := passIntent podList state
    let liveMasterIP := determineFailoverLiveMaster state intent.masterIP
    let stamped := stampFailoverAssignments calls podList
      (reconcileFailoverAssignments inst status podList state now).stamps
    { pods := stamped.pods
      commands :=
        if status.bootstrapRequired then []
        else if intent.masterIP ≠ "" ∧ needsPromotion state intent.masterIP then
          promoteFailoverMaster state intent.masterIP
        else if decidesMaster inst status podList state now then
          planCommands calls podList state intent (failoverDecision inst status podList state now)
            stamped.succeeded
        else if liveMasterIP = "" then []
        else (planFailoverRepoints state liveMasterIP).map (.slaveOf · liveMasterIP) }

/-- The address is that of the pod that the intent names after the pass. -/
def Actuation.Intends (pass : Actuation) (ip : String) : Prop :=
  let intent := resolveFailoverIntent (buildFailoverPodViews pass.pods none)
  intent.masterIP = ip ∧ ∃ p ∈ pass.pods, p.name = intent.masterName ∧ p.ip = ip

instance (pass : Actuation) (ip : String) : Decidable (pass.Intends ip) :=
  inferInstanceAs (Decidable (_ ∧ ∃ p ∈ pass.pods, _))

/-- Only the intended master is promoted, and others only follow it. -/
structure FollowsIntent (pass : Actuation) : Prop where
  promotes : ∀ ip, .replicaOfNoOne ip ∈ pass.commands → pass.Intends ip
  follows : ∀ ip masterIP, .slaveOf ip masterIP ∈ pass.commands → pass.Intends masterIP ∧ ip ≠ masterIP

/-- The pass starts from a pod because none that answered holds keys or refused the credential. -/
structure Seeds (inst : Instance) (status : FailoverStatus) (podList : List PodObject)
    (state : ReplicationState) (now : ℤ) : Prop where
  decides : decidesMaster inst status podList state now = true
  seed : (failoverDecision inst status podList state now).action = .seed
  noKeys : ∀ rn ∈ state.redisNodes.values, rn.reachable = true → rn.keys ≤ 0
  noneRefused : NoneRefused state

/-- No pod comes in the list after a terminating one with its address, but a terminating one. -/
def NoneShadowed (podList : List PodObject) : Prop :=
  podList.Pairwise fun p q => p.terminating = true → p.ip = q.ip → q.terminating = true

instance (podList : List PodObject) : Decidable (NoneShadowed podList) :=
  inferInstanceAs (Decidable (podList.Pairwise _))

/-- What the pods of a list answer when a pass gathers in failover mode, which has no Sentinels. -/
def gatherFailover (probes : Probes) (podList : List PodObject)
    (order : RangeOrder (Σ _ : String, String)) (ownedIPs : List String) (orders : ConsensusOrders) :
    ReplicationState :=
  gatherReplicationState probes ((redisMap podList).reordered order) ∅ "" ownedIPs orders

section Stamping

variable {calls : Calls} {planned : PlannedStamp} {p p' : PodObject} {stamps : List PlannedStamp}
  {podList : List PodObject}

/-- The pod has the assignment it had or the one for it, the latter if all succeeded. -/
structure Restamped (stamps : List PlannedStamp) (succeeded : Bool) (p p' : PodObject) : Prop where
  name : p'.name = p.name
  ip : p'.ip = p.ip
  terminating : p'.terminating = p.terminating
  assigned : p'.annotations.assignment = p.annotations.assignment ∨
    ∃ planned ∈ stamps, planned.stamp.podName = p.name ∧
      p'.annotations.assignment = some (planned.stamp.role, planned.stamp.epoch)
  permitted : p'.annotations.masterStartAuthorizedEpoch = p.annotations.masterStartAuthorizedEpoch ∨
    ∃ planned ∈ stamps, planned.stamp.authorizeMasterStart = true
  complete : succeeded = true → ∀ planned ∈ stamps, planned.stamp.podName = p.name →
    p'.annotations.assignment = some (planned.stamp.role, planned.stamp.epoch)

/-- A pod is left alone, or patched from itself. -/
theorem stampFailoverPod_cases (calls : Calls) (stamp : FailoverStamp) (p : PodObject) :
    ((stampFailoverPod calls stamp p).1 = p ∧
        ((stampFailoverPod calls stamp p).2 = true → stamp.carriedBy p.annotations = true)) ∨
      (stampFailoverPod calls stamp p).1 =
        { p with annotations := (stamp.patched p.annotations ⟨p.annotations, 0⟩ 0).annotations } := by
  unfold stampFailoverPod
  split
  · exact .inl ⟨rfl, fun h => absurd h Bool.false_ne_true⟩
  split
  · rename_i hcarried
    exact .inl ⟨rfl, fun _ => hcarried⟩
  · split
    · exact .inr rfl
    · exact .inr rfl
    · exact .inl ⟨rfl, fun h => absurd h Bool.false_ne_true⟩

/-- One assignment is written or not. -/
theorem Legible.restamped (h : Legible planned.stamp) (calls : Calls)
    (hname : planned.stamp.podName = p.name) :
    Restamped [planned] (stampFailoverPod calls planned.stamp p).2 p
      (stampFailoverPod calls planned.stamp p).1 := by
  rcases stampFailoverPod_cases calls planned.stamp p with ⟨hsame, hcarried⟩ | hwritten
  · rw [hsame]
    refine ⟨rfl, rfl, rfl, .inl rfl, .inl rfl, fun hok q hq _ => ?_⟩
    rw [mem_singleton.mp hq]
    exact h.assignment_of_carriedBy (hcarried hok)
  · have hannotations := annotations_patched_self planned.stamp ⟨p.annotations, 0⟩ 0
    have hassigned : (planned.stamp.patched p.annotations ⟨p.annotations, 0⟩ 0).annotations.assignment =
        some (planned.stamp.role, planned.stamp.epoch) := by
      rw [hannotations]
      exact h.assignment_of_texts rfl rfl
    rw [hwritten]
    refine ⟨rfl, rfl, rfl, .inr ⟨planned, mem_singleton_self _, hname, hassigned⟩, ?_,
      fun _ q hq _ => ?_⟩
    · cases hauthorize : planned.stamp.authorizeMasterStart with
      | true => exact .inr ⟨planned, mem_singleton_self _, hauthorize⟩
      | false =>
        rw [hannotations, hauthorize]
        exact .inl rfl
    · rwa [mem_singleton.mp hq]

/-- An assignment for another pod changes nothing. -/
theorem Restamped.skip {ok ok' : Bool} (h : Restamped stamps ok p p')
    (hother : planned.stamp.podName ≠ p.name) (hok : ok' = true → ok = true) :
    Restamped (stamps ++ [planned]) ok' p p' := by
  have hmem : ∀ {q}, q ∈ stamps → q ∈ stamps ++ [planned] := fun hq => mem_append_left _ hq
  refine ⟨h.name, h.ip, h.terminating, ?_, ?_, fun hdone q hq hname => ?_⟩
  · exact h.assigned.imp_right fun ⟨q, hq, hassigned⟩ => ⟨q, hmem hq, hassigned⟩
  · exact h.permitted.imp_right fun ⟨q, hq, hpermitted⟩ => ⟨q, hmem hq, hpermitted⟩
  · rcases mem_append.mp hq with hq | hq
    · exact h.complete (hok hdone) q hq hname
    · rw [mem_singleton.mp hq] at hname
      exact absurd hname hother

/-- At most one of several assignments is for the pod. -/
theorem Restamped.snoc {p'' : PodObject} {ok ok' ok'' : Bool} (h : Restamped stamps ok p p')
    (hnext : Restamped [planned] ok' p' p'') (hapart : ∀ q ∈ stamps, q.stamp.podName ≠ planned.stamp.podName)
    (hname : planned.stamp.podName = p.name) (hok : ok'' = true → ok' = true) :
    Restamped (stamps ++ [planned]) ok'' p p'' := by
  have hlast : planned ∈ stamps ++ [planned] := mem_append_right _ (mem_singleton_self _)
  refine ⟨hnext.name.trans h.name, hnext.ip.trans h.ip, hnext.terminating.trans h.terminating, ?_, ?_,
    fun hdone q hq hqname => ?_⟩
  · rcases hnext.assigned with hsame | ⟨q, hq, -, hassigned⟩
    · rw [hsame]
      exact h.assigned.imp_right fun ⟨q, hq, hassigned⟩ => ⟨q, mem_append_left _ hq, hassigned⟩
    · rw [mem_singleton.mp hq] at hassigned
      exact .inr ⟨planned, hlast, hname, hassigned⟩
  · rcases hnext.permitted with hsame | ⟨q, hq, hpermitted⟩
    · rw [hsame]
      exact h.permitted.imp_right fun ⟨q, hq, hpermitted⟩ => ⟨q, mem_append_left _ hq, hpermitted⟩
    · rw [mem_singleton.mp hq] at hpermitted
      exact .inr ⟨planned, hlast, hpermitted⟩
  · rcases mem_append.mp hq with hq | hq
    · exact absurd (hqname.trans hname.symm) (hapart q hq)
    · rw [mem_singleton.mp hq]
      exact hnext.complete (hok hdone) planned (mem_singleton_self _) (hname.trans h.name.symm)

/-- The pods after some assignments are the same pods with these. -/
structure StampedFrom (podList : List PodObject) (stamps : List PlannedStamp) (acc : Stamped) : Prop where
  names : acc.pods.map (·.name) = podList.map (·.name)
  restamped : ∀ p' ∈ acc.pods, ∃ p ∈ podList, Restamped stamps acc.succeeded p p'

/-- One more assignment keeps the list of pods. -/
theorem StampedFrom.snoc {acc : Stamped} (h : StampedFrom podList stamps acc)
    (hnodup : (podList.map (·.name)).Nodup) (hlegible : Legible planned.stamp)
    (hapart : ∀ q ∈ stamps, q.stamp.podName ≠ planned.stamp.podName) (calls : Calls) :
    StampedFrom podList (stamps ++ [planned]) (stampByName calls acc planned) := by
  refine ⟨?_, fun p'' hp'' => ?_⟩
  · rw [← h.names]
    simp only [stampByName, map_map]
    refine map_congr_left fun p _ => ?_
    dsimp only [Function.comp_apply]
    split
    · rename_i hname
      exact (hlegible.restamped calls hname.symm).name
    · rfl
  · obtain ⟨p', hp', rfl⟩ := mem_map.mp hp''
    obtain ⟨p, hp, hrestamped⟩ := h.restamped p' hp'
    refine ⟨p, hp, ?_⟩
    have hok : (stampByName calls acc planned).succeeded = true → acc.succeeded = true ∧
        ∃ r ∈ acc.pods, r.name = planned.stamp.podName ∧
          (stampFailoverPod calls planned.stamp r).2 = true := by
      intro hdone
      simpa only [stampByName, Bool.and_eq_true, any_eq_true, beq_iff_eq] using hdone
    split
    · rename_i hname
      refine hrestamped.snoc (hlegible.restamped calls hname.symm) hapart
        (hname.symm.trans hrestamped.name) fun hdone => ?_
      obtain ⟨-, r, hr, hrname, hrok⟩ := hok hdone
      have hnodup' : (acc.pods.map (·.name)).Nodup := h.names ▸ hnodup
      rwa [inj_on_of_nodup_map hnodup' hp' hr (hname.trans hrname.symm)]
    · rename_i hname
      exact hrestamped.skip (fun hsame => hname (hrestamped.name.trans hsame.symm)) fun hdone => (hok hdone).1

/-- The loop leaves each pod with what was written for it. -/
theorem stampedFrom_stampFailoverAssignments (calls : Calls) (hnodup : (podList.map (·.name)).Nodup)
    (hlegible : ∀ planned ∈ stamps, Legible planned.stamp) (hapart : stamps.Pairwise Apart) :
    StampedFrom podList stamps (stampFailoverAssignments calls podList stamps) := by
  induction stamps using List.reverseRecOn with
  | nil =>
    exact ⟨rfl, fun p hp => ⟨p, hp, rfl, rfl, rfl, .inl rfl, .inl rfl, fun _ => forall_mem_nil _⟩⟩
  | append_singleton stamps planned ih =>
    rw [pairwise_append] at hapart
    rw [forall_mem_append] at hlegible
    have hbefore := ih hlegible.1 hapart.1
    rw [stampFailoverAssignments, foldl_append]
    refine hbefore.snoc hnodup (hlegible.2 planned (mem_singleton_self _)) ?_ calls
    exact fun q hq => (hapart.2.2 q hq planned (mem_singleton_self _)).1

end Stamping

section Election

variable {state : ReplicationState} {liveMasterIP bootstrapMasterIP : String}
  {allowUnsafe unsettled : Bool} {since : Option ℤ} {now cooldown : ℤ} {plan : FailoverPlan}

/-- A plan that assigns comes from the election, and no pod refused the credential. -/
theorem electByHolders_of_assigns
    (hplan : planFailover state liveMasterIP allowUnsafe bootstrapMasterIP unsettled since now cooldown = plan)
    (h : assigns plan.action = true) :
    NoneRefused state ∧ electByHolders FailoverAction.wait .seed .promote .refuse .unsafeElect state
      allowUnsafe bootstrapMasterIP = plan := by
  rw [planFailover] at hplan
  split at hplan
  · subst hplan
    cases h
  split at hplan
  · subst hplan
    cases h
  split at hplan
  · subst hplan
    cases h
  split at hplan
  · subst hplan
    cases h
  · rename_i hrefused
    exact ⟨(authFailedRedisNodes_length_eq_zero state).mp (Nat.eq_zero_of_not_pos hrefused), hplan⟩

/-- The elected pod answered, unless nothing holds keys. -/
theorem electByHolders_master
    (hplan : electByHolders FailoverAction.wait .seed .promote .refuse .unsafeElect state allowUnsafe
      bootstrapMasterIP = plan) (h : assigns plan.action = true) :
    if plan.action = .seed then state.dataHolders = []
    else ∃ rn ∈ state.redisNodes.values, rn.ip = plan.masterIP := by
  have hholder : ∀ {best : RedisNodeState} {flags : Bool × Bool}, state.bestDataHolder = (some best, flags) →
      best ∈ state.redisNodes.values := fun hbest => (mem_filter.mp (mem_of_bestDataHolder hbest)).1
  unfold electByHolders at hplan
  dsimp only at hplan
  split at hplan
  · rename_i hnone
    split at hplan
    · subst hplan
      cases h
    · subst hplan
      exact length_eq_zero_iff.mp hnone
  · split at hplan
    · subst hplan
      cases h
    · rename_i best diverged forked hbest
      split at hplan
      · split at hplan
        · subst hplan
          cases h
        · subst hplan
          exact ⟨best, hholder hbest, rfl⟩
      · subst hplan
        exact ⟨best, hholder hbest, rfl⟩

end Election

/-- What was gathered is about pods of the list that have an address and are not terminating. -/
def GatheredFrom (podList : List PodObject) (state : ReplicationState) : Prop :=
  ∀ rn ∈ state.redisNodes.values, ∃ p ∈ podList, p.ip = rn.ip ∧ p.terminating = false ∧ p.ip ≠ ""

/-- The pass asks the pods with an address that stay. -/
theorem mem_redisMap_iff {podList : List PodObject} {ip : String} :
    ip ∈ redisMap podList ↔ ip ≠ "" ∧ ∃ p ∈ podList, p.ip = ip ∧ p.terminating = false := by
  rw [redisMap, GoMap.mem_ofPairs]
  constructor
  · rintro ⟨name, hpair⟩
    obtain ⟨p, hp, hsome⟩ := mem_filterMap.mp hpair
    split at hsome
    · cases hsome
    rename_i hkept
    rw [not_or, Bool.not_eq_true] at hkept
    obtain ⟨rfl, -⟩ := Prod.mk.inj (Option.some.inj hsome)
    exact ⟨hkept.2, p, hp, rfl, hkept.1⟩
  · rintro ⟨hip, p, hp, rfl, hstaying⟩
    refine ⟨p.name, mem_filterMap.mpr ⟨p, hp, if_neg ?_⟩⟩
    rw [not_or, Bool.not_eq_true]
    exact ⟨hstaying, hip⟩

/-- Every answer is of a pod that stays. -/
theorem gatheredFrom_gatherFailover (probes : Probes) (podList : List PodObject)
    (order : RangeOrder (Σ _ : String, String)) (ownedIPs : List String) (orders : ConsensusOrders) :
    GatheredFrom podList (gatherFailover probes podList order ownedIPs orders) := by
  intro rn h
  rw [gatherFailover, gatherReplicationState, (determineRealMaster_nodes orders).1] at h
  have hkey := gatheredNodes_redis_ip h
  rw [GoMap.mem_reordered, mem_redisMap_iff] at hkey
  obtain ⟨hip, p, hp, hpip, hstaying⟩ := hkey
  exact ⟨p, hp, hpip, hstaying, hpip.symm ▸ hip⟩

section Intent

variable {podList : List PodObject} {stamps : List PlannedStamp} {acc : Stamped} {pass : Actuation}
  {p : PodObject} {epoch : ℤ}

/-- The assignment of a master that prevails is the intent. -/
theorem intends_of_prevails (hnamed : Named pass.pods) (hnodup : (pass.pods.map (·.name)).Nodup)
    (hp : p ∈ pass.pods) (hassigned : p.annotations.assignment = some (roleMaster, epoch))
    (hprevails : ∀ q ∈ pass.pods, ∀ e, q.annotations.assignment = some (roleMaster, e) →
      e < epoch ∨ (e = epoch ∧ p.name ≤ q.name)) : pass.Intends p.ip := by
  have hidentity := failoverPodView_identity none p
  have hintended : IntendedMaster (buildFailoverPodViews pass.pods none) (failoverPodView none p) epoch := by
    refine ⟨mem_map_of_mem hp, (assignment_failoverPodView none p).trans hassigned, ?_⟩
    intro view hview e hmaster
    obtain ⟨q, hq, rfl⟩ := mem_map.mp hview
    rw [hidentity.1, (failoverPodView_identity none q).1]
    exact hprevails q hq e ((assignment_failoverPodView none q).symm.trans hmaster)
  have hviews : ((buildFailoverPodViews pass.pods none).map (·.name)).Nodup := by
    rwa [map_name_buildFailoverPodViews]
  obtain ⟨hname, hip⟩ := resolveFailoverIntent_of_intended (hnamed.views none) hviews hintended
  exact ⟨hip.trans hidentity.2, p, hp, hidentity.1.symm.trans hname.symm, rfl⟩

variable (hnamed : Named podList) (hnodup : (podList.map (·.name)).Nodup)
include hnodup

/-- Every pod is still in the list. -/
theorem StampedFrom.exists_restamped (h : StampedFrom podList stamps acc) (hp : p ∈ podList) :
    ∃ p' ∈ acc.pods, Restamped stamps acc.succeeded p p' := by
  have hname : p.name ∈ acc.pods.map (·.name) := h.names ▸ mem_map_of_mem hp
  obtain ⟨p', hp', hsame⟩ := mem_map.mp hname
  obtain ⟨q, hq, hrestamped⟩ := h.restamped p' hp'
  obtain rfl := inj_on_of_nodup_map hnodup hp hq (hsame.symm.trans hrestamped.name)
  exact ⟨p', hp', hrestamped⟩

variable (hpods : pass.pods = acc.pods)
include hnamed hpods

/-- A pod is intended afterwards if its assignment prevails over what the others then have. -/
theorem StampedFrom.intends (h : StampedFrom podList stamps acc) {p' : PodObject} (hp' : p' ∈ acc.pods)
    (hrestamped : Restamped stamps acc.succeeded p p')
    (hassigned : p'.annotations.assignment = some (roleMaster, epoch))
    (hprevails : ∀ q ∈ podList, ∀ q', Restamped stamps acc.succeeded q q' → ∀ e,
      q'.annotations.assignment = some (roleMaster, e) → e < epoch ∨ (e = epoch ∧ p.name ≤ q.name)) :
    pass.Intends p.ip := by
  have hnamed' : Named acc.pods := fun q' hq' => by
    obtain ⟨q, hq, hsame⟩ := h.restamped q' hq'
    exact hsame.name ▸ hnamed q hq
  have hnodup' : (acc.pods.map (·.name)).Nodup := h.names ▸ hnodup
  rw [← hpods] at hp' hnamed' hnodup'
  rw [← hrestamped.ip]
  refine intends_of_prevails hnamed' hnodup' hp' hassigned fun q' hq' e hmaster => ?_
  obtain ⟨q, hq, hsame⟩ := h.restamped q' (hpods ▸ hq')
  rw [hrestamped.name, hsame.name]
  exact hprevails q hq q' hsame e hmaster

/-- Fresh assignments for replicas keep the intended master. -/
theorem StampedFrom.intends_kept (h : StampedFrom podList stamps acc)
    (haddressed : (resolveFailoverIntent (buildFailoverPodViews podList none)).masterIP ≠ "")
    (hreplicas : ∀ planned ∈ stamps, planned.stamp.role = roleReplica ∧
      planned.stamp.podName ≠ (resolveFailoverIntent (buildFailoverPodViews podList none)).masterName) :
    pass.Intends (resolveFailoverIntent (buildFailoverPodViews podList none)).masterIP := by
  obtain ⟨epoch, hread⟩ := readFrom_resolveFailoverIntent (hnamed.views none)
  obtain ⟨view, hintended, hname, hip⟩ := hread.named fun hempty => haddressed (hread.unaddressed hempty)
  obtain ⟨p, hp, rfl⟩ := mem_map.mp hintended.mem
  obtain ⟨hpname, hpip⟩ := failoverPodView_identity none p
  obtain ⟨p', hp', hrestamped⟩ := h.exists_restamped hnodup hp
  have hassigned : p'.annotations.assignment = some (roleMaster, epoch) := by
    rcases hrestamped.assigned with hsame | ⟨planned, hplanned, hfor, -⟩
    · rw [hsame, ← assignment_failoverPodView none]
      exact hintended.assigned
    · exact absurd (hfor.trans (hpname.symm.trans hname)) (hreplicas planned hplanned).2
  rw [← hip, hpip]
  refine h.intends hnamed hnodup hpods hp' hrestamped hassigned fun q hq q' hafter e hmaster => ?_
  -- a master after the pass was one before, since only replicas are assigned
  rcases hafter.assigned with hsame | ⟨planned, hplanned, -, hassigned'⟩
  · have hbefore := hintended.prevails (failoverPodView none q) (mem_map_of_mem hq) e
      ((assignment_failoverPodView none q).trans (hsame.symm.trans hmaster))
    rwa [hpname, (failoverPodView_identity none q).1] at hbefore
  · rw [hassigned', Option.some.injEq, Prod.mk.injEq, (hreplicas planned hplanned).1] at hmaster
    exact absurd hmaster.1 (by decide)

/-- An elected pod is the intended master once everything is written. -/
theorem StampedFrom.intends_elected {maxEpoch : ℤ} {masterIP : String} {authorize : Bool}
    (h : StampedFrom podList (assignmentStamps podList p.name masterIP (maxEpoch + 1) authorize) acc)
    (hbounds : ∀ q ∈ podList, ∀ role e, q.annotations.assignment = some (role, e) → e ≤ maxEpoch)
    (hdone : acc.succeeded = true) (hp : p ∈ podList) (hip : p.ip ≠ "") (hstaying : p.terminating = false) :
    pass.Intends p.ip := by
  obtain ⟨p', hp', hrestamped⟩ := h.exists_restamped hnodup hp
  have hissued : ⟨⟨p.name, roleMaster, "", maxEpoch + 1, authorize⟩, p.ip⟩ ∈
      assignmentStamps podList p.name masterIP (maxEpoch + 1) authorize := by
    refine mem_filterMap.mpr ⟨p, hp, ?_⟩
    rw [if_neg (not_or.mpr ⟨hip, by simp [hstaying]⟩), if_pos rfl]
  have hassigned : p'.annotations.assignment = some (roleMaster, maxEpoch + 1) :=
    hrestamped.complete hdone _ hissued rfl
  refine h.intends hnamed hnodup hpods hp' hrestamped hassigned fun q hq q' hafter e hmaster => ?_
  rcases hafter.assigned with hsame | ⟨planned, hplanned, hfor, hassigned'⟩
  · exact .inl (Int.lt_add_one_of_le (hbounds q hq roleMaster e (hsame.symm.trans hmaster)))
  -- among the new assignments only that of the pod itself is for a master
  obtain ⟨r, -, hstamp⟩ := mem_filterMap.mp hplanned
  obtain ⟨hname, hepoch, hrole⟩ := (assignedTo_of_stamp hstamp).spec
  rw [hassigned', Option.some.injEq, Prod.mk.injEq] at hmaster
  rcases hrole with ⟨-, hr⟩ | ⟨hreplica, -⟩
  · have hself : p.name = q.name := hr.symm.trans (hname.symm.trans hfor)
    exact .inr ⟨hmaster.2.symm.trans hepoch, hself ▸ String.le_refl _⟩
  · exact absurd (hmaster.1.symm.trans hreplica) (by decide)

end Intent

section Commands

variable {calls : Calls} {podList : List PodObject} {state : ReplicationState} {intent : FailoverIntent}
  {plan : FailoverPlan} {succeeded : Bool} {masterIP : String} {command : RedisCommand}

/-- The command promotes the pod at the address, or makes another one follow it. -/
def RedisCommand.Serves (masterIP : String) : RedisCommand → Prop
  | .replicaOfNoOne ip => ip = masterIP
  | .slaveOf ip target => target = masterIP ∧ ip ≠ masterIP

theorem serves_of_promotion (h : command ∈ promoteFailoverMaster state masterIP) :
    command.Serves masterIP := by
  unfold promoteFailoverMaster at h
  split at h
  · rw [mem_singleton.mp h]
    rfl
  · cases h

/-- The fence is not for the new master. -/
theorem planFailoverFence_ne (views : List FailoverPodView) (outgoingIP newMasterIP : String)
    (h : planFailoverFence views outgoingIP newMasterIP ≠ "") :
    planFailoverFence views outgoingIP newMasterIP ≠ newMasterIP := by
  unfold planFailoverFence at h ⊢
  split at h
  · exact absurd rfl h
  rename_i hother
  rw [if_neg hother]
  split at h
  · rename_i hpresent
    rw [if_pos hpresent]
    exact fun hsame => hother (.inr hsame)
  · exact absurd rfl h

/-- Promotion and fence serve the new master. -/
theorem serves_of_promotionCommands
    (h : command ∈ promotionCommands calls podList state intent masterIP) : command.Serves masterIP := by
  unfold promotionCommands at h
  dsimp only at h
  split at h
  · exact serves_of_promotion h
  rcases mem_append.mp h with hpromotion | hfenced
  · exact serves_of_promotion hpromotion
  split at hfenced
  · cases hfenced
  · rename_i hfence
    rw [mem_singleton.mp hfenced]
    exact ⟨rfl, planFailoverFence_ne _ _ _ hfence⟩

/-- A decision sends commands for its master only, after all assignments were written. -/
theorem serves_of_planCommands (h : command ∈ planCommands calls podList state intent plan succeeded) :
    command.Serves plan.masterIP ∧ succeeded = true ∧
      (plan.action = .promote ∨ plan.action = .unsafeElect) := by
  unfold planCommands at h
  split at h
  case h_1 haction | h_2 haction =>
    split at h
    · rename_i hdone
      exact ⟨serves_of_promotionCommands h, hdone, by simp [haction]⟩
    · cases h
  all_goals cases h

/-- A replica is pointed at the master. -/
theorem serves_of_repoint
    (h : command ∈ (planFailoverRepoints state masterIP).map (RedisCommand.slaveOf · masterIP)) :
    command.Serves masterIP := by
  obtain ⟨ip, hip, rfl⟩ := mem_map.mp h
  rw [planFailoverRepoints, mem_insertionSort] at hip
  obtain ⟨entry, -, hsome⟩ := mem_filterMap.mp hip
  refine ⟨rfl, fun hsame => ?_⟩
  split at hsome
  · cases hsome
  rename_i hkept
  obtain ⟨-, rfl⟩ := of_ite_some hsome
  exact hkept (by simp [hsame])

end Commands

section Pass

variable {inst : Instance} {status : FailoverStatus} {podList : List PodObject} {state : ReplicationState}
  {now : ℤ} {stamps : List PlannedStamp}

/-- The address of a pod that stays leads to one that stays. -/
theorem NoneShadowed.podNameForIP (h : NoneShadowed podList) {p : PodObject} (hp : p ∈ podList)
    (hstaying : p.terminating = false) :
    ∃ q ∈ podList, q.ip = p.ip ∧ q.terminating = false ∧ podNameForIP podList p.ip = q.name := by
  cases hfind : podList.find? (·.ip == p.ip) with
  | none => exact absurd (beq_self_eq_true p.ip) (List.find?_eq_none.mp hfind p hp)
  | some q =>
    obtain ⟨hq, before, after, rfl, hbefore⟩ := List.find?_eq_some_iff_append.mp hfind
    have hip : q.ip = p.ip := eq_of_beq hq
    refine ⟨q, mem_append_right _ mem_cons_self, hip, ?_, by rw [Failover.podNameForIP, hfind]; rfl⟩
    rcases mem_append.mp hp with hp | hp
    · simpa using hbefore p hp
    rcases mem_cons.mp hp with rfl | hp
    · exact hstaying
    · refine Bool.eq_false_iff.mpr fun hterminating => ?_
      have hlater := (pairwise_cons.mp (pairwise_append.mp h).2.1).1 p hp hterminating hip
      rw [hstaying] at hlater
      cases hlater

/-- A decided master answered, unless nothing holds keys, and no pod refused the credential. -/
theorem failoverDecision_master (h : assigns (failoverDecision inst status podList state now).action = true) :
    NoneRefused state ∧
      if (failoverDecision inst status podList state now).action = .seed then state.dataHolders = []
      else ∃ rn ∈ state.redisNodes.values,
        rn.ip = (failoverDecision inst status podList state now).masterIP := by
  obtain ⟨hrefused, helects⟩ :=
    electByHolders_of_assigns (rfl : _ = failoverDecision inst status podList state now) h
  exact ⟨hrefused, electByHolders_master helects h⟩

/-- What a decision about the master writes. -/
theorem stamps_of_decides (hdecides : decidesMaster inst status podList state now = true)
    {plan : FailoverPlan} (hplan : failoverDecision inst status podList state now = plan) :
    (reconcileFailoverAssignments inst status podList state now).stamps = if assigns plan.action then
        assignmentStamps podList (podNameForIP podList plan.masterIP) plan.masterIP
          (passIntent podList state).nextEpoch (masterStartAuthorizedFor plan.action) else [] := by
  have hcases := reconcile_cases inst status podList state now
  rw [hdecides, hplan] at hcases
  rw [hcases, executeFailoverPlan_eq, apply_ite EnginePass.stamps]

/-- Permission to start as a master is given only when the pass seeds. -/
theorem seeds_of_authorizes {planned : PlannedStamp}
    (hplanned : planned ∈ (reconcileFailoverAssignments inst status podList state now).stamps)
    (hauthorizes : planned.stamp.authorizeMasterStart = true) : Seeds inst status podList state now := by
  cases hdecides : decidesMaster inst status podList state now with
  | false =>
    have hcases := reconcile_cases inst status podList state now
    rw [hdecides] at hcases
    obtain ⟨view, -, liveMasterIP, hfresh⟩ := reauthorizedTo_of_no_transition hcases.1 hplanned
    rw [hfresh.authorizes] at hauthorizes
    cases hauthorizes
  | true =>
    rw [stamps_of_decides hdecides rfl] at hplanned
    have hseed : (failoverDecision inst status podList state now).action = .seed := by
      split at hplanned
      · obtain ⟨p, -, hstamp⟩ := mem_filterMap.mp hplanned
        rw [(assignedTo_of_stamp hstamp).stamp] at hauthorizes
        split at hauthorizes
        · exact eq_of_beq hauthorizes
        · cases hauthorizes
      · cases hplanned
    have hassigns : assigns (failoverDecision inst status podList state now).action = true := by
      rw [hseed]
      rfl
    obtain ⟨hrefused, hholders⟩ := failoverDecision_master hassigns
    rw [if_pos hseed] at hholders
    refine ⟨hdecides, hseed, fun rn hrn hreachable => ?_, hrefused⟩
    have hnone := filter_eq_nil_iff.mp hholders rn hrn
    simpa [hreachable] using hnone

/-- A promotion that is resumed is no new decision. -/
theorem decidesMaster_of_resumes (now : ℤ) (h : (passIntent podList state).masterIP ≠ "" ∧
      needsPromotion state (passIntent podList state).masterIP = true) :
    decidesMaster inst status podList state now = false := by
  simp [decidesMaster, reachesDetection, h]

/-- The live master is the intended one. -/
theorem determineFailoverLiveMaster_eq {masterIP : String}
    (h : determineFailoverLiveMaster state masterIP ≠ "") :
    determineFailoverLiveMaster state masterIP = masterIP := by
  unfold determineFailoverLiveMaster at h ⊢
  split at h
  · exact absurd rfl h
  rename_i haddressed
  split at h
  · rename_i hlive
    rw [if_neg haddressed, if_pos hlive]
  · exact absurd rfl h

variable (hnamed : Named podList) (hnodup : (podList.map (·.name)).Nodup)
  (hleft : (resolveFailoverIntent (buildFailoverPodViews podList none)).maxEpoch < 2 ^ 63 - 1)
include hnamed hnodup hleft

/-- What a pass decides to write can be written. -/
theorem PassStamps.stampedFrom {gathered : Option ReplicationState} (h : PassStamps podList gathered stamps)
    (calls : Calls) : StampedFrom podList stamps (stampFailoverAssignments calls podList stamps) := by
  have hissued := h.issuedAt hnamed hnodup hleft
  exact stampedFrom_stampFailoverAssignments calls hnodup
    (hissued.legible (maxEpoch_nonneg hnamed none) hleft) hissued.apart

/-- A pass that decides nothing about the master keeps the intended one. -/
theorem intends_of_not_decides (calls : Calls) (hdecides : decidesMaster inst status podList state now = false)
    (haddressed : (passIntent podList state).masterIP ≠ "") :
    (actuate inst status podList state now calls .reconcile).Intends (passIntent podList state).masterIP := by
  have hcases := reconcile_cases inst status podList state now
  rw [hdecides] at hcases
  rw [passIntent, resolveFailoverIntent_gathered] at haddressed ⊢
  refine ((passStamps_reconcile inst status podList state now).stampedFrom hnamed hnodup hleft
    calls).intends_kept hnamed hnodup rfl haddressed fun planned hplanned => ?_
  obtain ⟨view, -, liveMasterIP, hfresh⟩ := reauthorizedTo_of_no_transition hcases.1 hplanned
  rw [resolveFailoverIntent_gathered] at hfresh
  exact ⟨hfresh.role, hfresh.name ▸ hfresh.notIntended⟩

variable (hshadowed : NoneShadowed podList) (hgathered : GatheredFrom podList state)
include hshadowed hgathered

/-- A promoted pod is the intended master once everything is written. -/
theorem intends_of_promotes (calls : Calls) (hdecides : decidesMaster inst status podList state now = true)
    (haction : (failoverDecision inst status podList state now).action = .promote ∨
      (failoverDecision inst status podList state now).action = .unsafeElect)
    (hdone : (stampFailoverAssignments calls podList
      (reconcileFailoverAssignments inst status podList state now).stamps).succeeded = true) :
    (actuate inst status podList state now calls .reconcile).Intends
      (failoverDecision inst status podList state now).masterIP := by
  have hassigns : assigns (failoverDecision inst status podList state now).action = true ∧
      (failoverDecision inst status podList state now).action ≠ .seed := by
    rcases haction with haction | haction
    · rw [haction]
      decide
    · rw [haction]
      decide
  -- the elected pod answered, so it is a pod of the list that is not terminating
  have helected := (failoverDecision_master hassigns.1).2
  rw [if_neg hassigns.2] at helected
  obtain ⟨rn, hrn, hip⟩ := helected
  obtain ⟨p, hp, hpip, hstaying, haddressed⟩ := hgathered rn hrn
  obtain ⟨q, hq, hqip, hqstaying, hname⟩ := hshadowed.podNameForIP hp hstaying
  rw [← hip, ← hpip, ← hqip]
  rw [← hqip] at haddressed hname
  have hstamps := stamps_of_decides hdecides rfl
  rw [if_pos hassigns.1, passIntent, resolveFailoverIntent_gathered,
    nextEpoch_of_lt (maxEpoch_nonneg hnamed none) hleft, ← hip, ← hpip, ← hqip, hname] at hstamps
  have hstamped := (passStamps_reconcile inst status podList state now).stampedFrom hnamed hnodup hleft calls
  rw [hstamps] at hstamped hdone
  refine hstamped.intends_elected hnamed hnodup ?_ ?_ hdone hq haddressed hqstaying
  · rw [← hstamps]
    rfl
  · exact fun r hr role e => epoch_le_maxEpoch hnamed none hr

/-- Every command of a pass serves the master that is intended afterwards. -/
theorem serves_of_actuate {calls : Calls} {command : RedisCommand}
    (hcommand : command ∈ (actuate inst status podList state now calls .reconcile).commands) :
    ∃ masterIP, command.Serves masterIP ∧
      (actuate inst status podList state now calls .reconcile).Intends masterIP := by
  simp only [actuate] at hcommand
  split at hcommand
  · cases hcommand
  split at hcommand
  · rename_i hresumes
    exact ⟨_, serves_of_promotion hcommand, intends_of_not_decides hnamed hnodup hleft calls
      (decidesMaster_of_resumes now hresumes) hresumes.1⟩
  split at hcommand
  · rename_i hdecides
    obtain ⟨hserves, hdone, haction⟩ := serves_of_planCommands hcommand
    exact ⟨_, hserves,
      intends_of_promotes hnamed hnodup hleft hshadowed hgathered calls hdecides haction hdone⟩
  split at hcommand
  · cases hcommand
  rename_i hdecides hlive
  have hsame := determineFailoverLiveMaster_eq hlive
  rw [hsame] at hcommand hlive
  rw [Bool.not_eq_true] at hdecides
  exact ⟨_, serves_of_repoint hcommand, intends_of_not_decides hnamed hnodup hleft calls hdecides hlive⟩

end Pass

/-- Commands that serve the intended master follow the intent. -/
theorem followsIntent_of_serves {pass : Actuation}
    (h : ∀ command ∈ pass.commands, ∃ masterIP, command.Serves masterIP ∧ pass.Intends masterIP) :
    FollowsIntent pass := by
  refine ⟨fun ip hcommand => ?_, fun ip target hcommand => ?_⟩
  · obtain ⟨masterIP, hserves, hintends⟩ := h _ hcommand
    rwa [hserves]
  · obtain ⟨masterIP, ⟨htarget, hother⟩, hintends⟩ := h _ hcommand
    rw [htarget]
    exact ⟨hintends, hother⟩

/-- Whatever calls fail, a pass promotes only the pod that is intended afterwards, makes others
follow only it, and permits a start as a master only when it bootstraps or seeds. -/
theorem actuation_follows_intent (inst : Instance) (status : FailoverStatus) (podList : PodList)
    (probes : Probes) (order : RangeOrder (Σ _ : String, String)) (ownedIPs : List String)
    (orders : ConsensusOrders) (now : ℤ) (calls : Calls) (kind : PassKind)
    (hnamed : Named podList.items) (hshadowed : NoneShadowed podList.items)
    (hleft : (resolveFailoverIntent (buildFailoverPodViews podList.items none)).maxEpoch < 2 ^ 63 - 1) :
    let state := gatherFailover probes podList.items order ownedIPs orders
    let pass := actuate inst status podList.items state now calls kind
    FollowsIntent pass ∧
      ∀ p ∈ podList.items, ∀ p' ∈ pass.pods, p'.name = p.name →
        p'.annotations.masterStartAuthorizedEpoch ≠ p.annotations.masterStartAuthorizedEpoch →
        (∃ pod0IP, kind = .bootstrap pod0IP) ∨ Seeds inst status podList.items state now := by
  intro state pass
  cases kind with
  | bootstrap pod0IP => exact ⟨⟨nofun, nofun⟩, fun _ _ _ _ _ _ => .inl ⟨pod0IP, rfl⟩⟩
  | reconcile =>
    have hgathered := gatheredFrom_gatherFailover probes podList.items order ownedIPs orders
    refine ⟨followsIntent_of_serves fun command =>
      serves_of_actuate hnamed podList.nodup hleft hshadowed hgathered, ?_⟩
    intro p hp p' hp' hname hpermitted
    have hstamped := (passStamps_reconcile inst status podList.items state now).stampedFrom hnamed
      podList.nodup hleft calls
    obtain ⟨q, hq, hrestamped⟩ := hstamped.restamped p' hp'
    obtain rfl := inj_on_of_nodup_map podList.nodup hp hq (hname.symm.trans hrestamped.name)
    rcases hrestamped.permitted with hsame | ⟨planned, hplanned, hauthorizes⟩
    · exact absurd hsame hpermitted
    · exact .inr (seeds_of_authorizes hplanned hauthorizes)

def Calls.succeeding : Calls := ⟨fun _ => true, fun _ => .done, true⟩

def bootstrapped : FailoverStatus := ⟨false, none, none⟩

/-- Only the second pod answers, a replica with data. -/
def onlyReplicaAnswers : Probes where
  redis ip :=
    if ip = "10.0.0.2" then .ok ⟨"slave", "10.0.0.1", "down", 80, 3, "7a", ""⟩ else .error .timedOut
  sentinel _ := none

/-- The assigned master is terminating, at the given epoch. -/
def masterDeleted (epoch : String) : PodList where
  items :=
    [⟨"lr-redis-0", "10.0.0.1", true, true, false, "master", ⟨"master", "", epoch, ""⟩⟩,
      ⟨"lr-redis-1", "10.0.0.2", false, true, false, "replica", ⟨"replica", "10.0.0.1", epoch, ""⟩⟩]
  nodup := show ["lr-redis-0", "lr-redis-1"].Nodup by decide

/-- The replica is promoted, and the master that is being deleted is fenced. -/
theorem masterDeleted_follows_intent :
    let state := gatherFailover onlyReplicaAnswers (masterDeleted "1").items .asGiven [] .asGiven
    let pass := actuate ⟨"lr-redis-0", 5000, false⟩ bootstrapped (masterDeleted "1").items state 0
      .succeeding .reconcile
    pass.commands = [.replicaOfNoOne "10.0.0.2", .slaveOf "10.0.0.1" "10.0.0.2"] ∧ FollowsIntent pass :=
  ⟨by decide, (actuation_follows_intent ⟨"lr-redis-0", 5000, false⟩ bootstrapped (masterDeleted "1")
    onlyReplicaAnswers .asGiven [] .asGiven 0 .succeeding .reconcile (by decide) (by decide) (by decide)).1⟩

/-- A pod has the address of a terminating one that comes before it. -/
def addressReused : PodList where
  items :=
    [⟨"lr-redis-0", "10.0.0.2", true, false, false, "replica", ⟨"replica", "10.0.0.1", "1", ""⟩⟩,
      ⟨"lr-redis-1", "10.0.0.1", false, false, false, "master", ⟨"master", "", "1", ""⟩⟩,
      ⟨"lr-redis-2", "10.0.0.2", false, true, false, "replica", ⟨"replica", "10.0.0.1", "1", ""⟩⟩]
  nodup := by decide

/-- A reused address or the last epoch leaves the promoted pod without the intent. -/
theorem promoted_against_intent :
    let reused := actuate ⟨"lr-redis-0", 5000, false⟩ bootstrapped addressReused.items
      (gatherFailover onlyReplicaAnswers addressReused.items .asGiven [] .asGiven) 0 .succeeding .reconcile
    let wrapped := actuate ⟨"lr-redis-0", 5000, false⟩ bootstrapped
      (masterDeleted "9223372036854775807").items
      (gatherFailover onlyReplicaAnswers (masterDeleted "9223372036854775807").items .asGiven [] .asGiven)
      0 .succeeding .reconcile
    (.replicaOfNoOne "10.0.0.2" ∈ reused.commands ∧ ¬reused.Intends "10.0.0.2" ∧ ¬FollowsIntent reused) ∧
      .replicaOfNoOne "10.0.0.2" ∈ wrapped.commands ∧ wrapped.Intends "10.0.0.1" ∧
      ¬FollowsIntent wrapped := by
  refine ⟨⟨by decide, by decide, fun h => ?_⟩, by decide, by decide, fun h => ?_⟩
  · exact absurd (h.promotes "10.0.0.2" (by decide)) (by decide)
  · exact absurd (h.promotes "10.0.0.2" (by decide)) (by decide)

end LittleRed.Failover
