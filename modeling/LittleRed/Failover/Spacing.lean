import LittleRed.Failover.Assignment
import LittleRed.Failover.Timed

/-!
# Promotions are spaced

The cooldown between transitions counts from a time in the status that a pass writes after its assignments.
A pass that has assigned a master may end without recording it, and then the next cooldown is skipped.
After every other pass the next mastership waits.
-/

namespace LittleRed.Failover

open Lib Replication List

/-- Any two masterships of different pods were written by passes that are the cooldown apart. -/
def PromotionsSpaced (t : TimedState) : Prop :=
  ∀ a ∈ t.elections, ∀ b ∈ t.elections, a.2 ≠ b.2 →
    failoverTransitionCooldown ≤ a.1 - b.1 ∨ failoverTransitionCooldown ≤ b.1 - a.1

/-- The status that a pass reads. -/
def Label.readStatus : Label → Option FailoverStatus
  | .assign cached _ _ _ _ => some cached
  | _ => none

section Guard

variable (time : StoredTime)

/-- The cooldown lies between masterships of different pods unless the earlier was not recorded. -/
def RecordedPromotionsSpaced (t : TimedState) : Prop :=
  ∀ a ∈ t.elections, ∀ b ∈ t.elections, a.2 ≠ b.2 → a.1 ≤ b.1 →
    failoverTransitionCooldown ≤ b.1 - time.stored a.1 ∨ a.1 ∈ t.unrecorded

/-- The condition on a step: a pass reads the time of the last transition as the status keeps it. -/
def ReadsTransition (t : TimedState) (a : Label) : Prop :=
  ∀ cached ∈ a.readStatus, cached.transitionSince = t.core.status.transitionSince.map time.stored

instance (t : TimedState) (a : Label) : Decidable (ReadsTransition time t a) :=
  inferInstanceAs (Decidable (∀ cached ∈ a.readStatus, _))

end Guard

variable {state : ReplicationState} {now : ℤ} {podList : List PodObject}

/-- A plan that assigns comes after the cooldown. -/
theorem cooled_of_assigns {liveMasterIP bootstrapMasterIP : String} {allowUnsafe unsettled : Bool}
    {transitionSince : Option ℤ} {cooldown : ℤ}
    (h : assigns (planFailover state liveMasterIP allowUnsafe bootstrapMasterIP unsettled
      transitionSince now cooldown).action = true) :
    ∀ since, transitionSince = some since → ¬ now - since < cooldown := by
  rintro since rfl hyoung
  unfold planFailover at h
  split at h
  · cases h
  split at h
  · cases h
  · rw [if_pos (by simpa using hyoung)] at h
    cases h

/-- Only the pod of that name is assigned as a master. -/
theorem assignmentStamps_master {masterName masterIP : String} {epoch : ℤ} {authorize : Bool}
    {planned : PlannedStamp} (hmem : planned ∈ assignmentStamps podList masterName masterIP epoch authorize)
    (hrole : planned.stamp.role = roleMaster) : planned.stamp.podName = masterName := by
  obtain ⟨p, -, hstamp⟩ := mem_filterMap.mp hmem
  obtain ⟨hname, -, hassigned⟩ := (assignedTo_of_stamp hstamp).spec
  rcases hassigned with ⟨-, hmaster⟩ | ⟨hreplica, -⟩
  · exact hname.trans hmaster
  · exact absurd (hrole.symm.trans hreplica) (by decide)

/-- A transition assigns one master. -/
theorem reconcile_master {inst : Instance} {status : FailoverStatus}
    (h : (reconcileFailoverAssignments inst status podList state now).transition.isSome = true) :
    ∃ master, ∀ planned ∈ (reconcileFailoverAssignments inst status podList state now).stamps,
      planned.stamp.role = roleMaster → planned.stamp.podName = master := by
  have hcases := reconcile_cases inst status podList state now
  rw [reconcile_transition, Bool.and_eq_true] at h
  rw [h.1] at hcases
  rw [hcases]
  refine ⟨podNameForIP podList (failoverDecision inst status podList state now).masterIP, ?_⟩
  intro planned hplanned
  rw [executeFailoverPlan_eq, if_pos h.2] at hplanned
  exact assignmentStamps_master hplanned

/-- What holds along every run whose passes read the time of the last transition. -/
structure Spaced (time : StoredTime) (t : TimedState) : Prop where
  passes : ∀ now, t.passTime = some now → now ≤ t.time
  clock : ∀ e ∈ t.elections, e.1 ≤ t.time
  recorded : ∀ e ∈ t.elections,
    (∃ since, t.core.status.transitionSince = some since ∧ e.1 ≤ since) ∨
      (t.core.phase.electing = true ∧ t.passTime = some e.1) ∨ e.1 ∈ t.unrecorded
  apart : t.core.phase.electing = true → ∀ now, t.passTime = some now → ∀ e ∈ t.elections,
    e.1 = now ∨ e.1 < now ∧ (failoverTransitionCooldown ≤ now - time.stored e.1 ∨ e.1 ∈ t.unrecorded)
  oneMaster : t.core.phase.electing = true → ∃ master,
    (∀ planned ∈ t.core.phase.outstanding,
      planned.stamp.role = roleMaster → planned.stamp.podName = master) ∧
    ∀ e ∈ t.elections, t.passTime = some e.1 → e.2 = master
  spaced : RecordedPromotionsSpaced time t

namespace Spaced

variable {inst : Instance} {time : StoredTime} {t : TimedState}

variable (h : Spaced time t)
include h

/-- Before the pass assigns a master, all masterships are recorded or lost. -/
theorem recorded_of_not_hasPromoted (hnot : t.hasPromoted = false) :
    ∀ e ∈ t.elections, (∃ since, t.core.status.transitionSince = some since ∧ e.1 ≤ since) ∨
      e.1 ∈ t.unrecorded := by
  intro e he
  rcases h.recorded e he with hrecorded | ⟨helecting, hcurrent⟩ | hlost
  · exact .inl hrecorded
  · rw [TimedState.hasPromoted, helecting, Bool.true_and, any_eq_false] at hnot
    exact absurd (beq_iff_eq.mpr hcurrent) (hnot e he)
  · exact .inr hlost

/-- After the pass ends, all masterships are recorded or lost. -/
theorem recorded_after :
    ∀ e ∈ t.elections, (∃ since, t.core.status.transitionSince = some since ∧ e.1 ≤ since) ∨
      e.1 ∈ t.unrecordedAfter false := by
  intro e he
  unfold TimedState.unrecordedAfter
  cases hpromoted : t.hasPromoted with
  | false => exact h.recorded_of_not_hasPromoted hpromoted e he
  | true =>
    rcases h.recorded e he with hrecorded | ⟨-, hcurrent⟩ | hlost
    · exact .inl hrecorded
    · exact .inr (mem_append_left _ (by simp [hcurrent]))
    · exact .inr (mem_append_right _ hlost)

/-- The invariant after a step that elects nobody. -/
theorem of_recorded {t' : TimedState} (helections : t'.elections = t.elections)
    (hlost : ∀ at' ∈ t.unrecorded, at' ∈ t'.unrecorded)
    (hpasses : ∀ now, t'.passTime = some now → now ≤ t'.time) (htime : t.time ≤ t'.time)
    (hphase : t'.core.phase.electing = false)
    (hrecorded : ∀ e ∈ t.elections, (∃ since, t'.core.status.transitionSince = some since ∧ e.1 ≤
      since) ∨ e.1 ∈ t'.unrecorded) :
    Spaced time t' := by
  refine ⟨hpasses, fun e he => ?_, fun e he => ?_, by simp [hphase], by simp [hphase], ?_⟩
  · rw [helections] at he
    exact Int.le_trans (h.clock e he) htime
  · rw [helections] at he
    exact (hrecorded e he).imp_right .inr
  · unfold RecordedPromotionsSpaced
    rw [helections]
    exact fun a ha b hb hne hle => (h.spaced a ha b hb hne hle).imp_right (hlost a.1)

/-- A step that writes no mastership. -/
theorem proceed {core : State} (htransition : core.status.transitionSince = t.core.status.transitionSince)
    (hphase : core.phase.electing = t.core.phase.electing)
    (houtstanding : ∀ planned ∈ core.phase.outstanding, planned ∈ t.core.phase.outstanding) :
    Spaced time { t with core := core } := by
  refine ⟨h.passes, h.clock, fun e he => ?_, fun helecting => h.apart (hphase ▸ helecting), ?_, h.spaced⟩
  · rw [htransition, hphase]
    exact h.recorded e he
  · intro helecting
    obtain ⟨master, hstamps, hcurrent⟩ := h.oneMaster (hphase ▸ helecting)
    exact ⟨master, fun planned hplanned => hstamps planned (houtstanding planned hplanned), hcurrent⟩

variable {now : ℤ}

/-- A mastership is written. -/
theorem elect (helecting : t.core.phase.electing = true) (hnow : t.passTime = some now)
    {planned : PlannedStamp} (hplanned : planned ∈ t.core.phase.outstanding)
    (hrole : planned.stamp.role = roleMaster) :
    Spaced time { t with elections := (now, planned.stamp.podName) :: t.elections } := by
  obtain ⟨master, hstamps, hcurrent⟩ := h.oneMaster helecting
  have hmaster : planned.stamp.podName = master := hstamps planned hplanned hrole
  have hnew : ∀ e ∈ t.elections, e.2 ≠ planned.stamp.podName → e.1 < now ∧
      (failoverTransitionCooldown ≤ now - time.stored e.1 ∨ e.1 ∈ t.unrecorded) := by
    intro e he hne
    rcases h.apart helecting now hnow e he with hsame | hapart
    · exact absurd ((hcurrent e he (by rw [hnow, hsame])).trans hmaster.symm) hne
    · exact hapart
  refine ⟨h.passes, ?_, ?_, ?_, ?_, ?_⟩
  · exact forall_mem_cons.mpr ⟨h.passes now hnow, h.clock⟩
  · exact forall_mem_cons.mpr ⟨.inr (.inl ⟨helecting, hnow⟩), h.recorded⟩
  · intro _ now' hnow'
    cases hnow.symm.trans hnow'
    exact forall_mem_cons.mpr ⟨.inl rfl, h.apart helecting now hnow⟩
  · exact fun _ => ⟨master, hstamps, forall_mem_cons.mpr ⟨fun _ => hmaster, hcurrent⟩⟩
  · intro a ha b hb hne hle
    rcases mem_cons.mp ha with rfl | ha
    · rcases mem_cons.mp hb with rfl | hb
      · exact absurd rfl hne
      · exact absurd (Int.lt_of_le_of_lt hle (hnew b hb hne.symm).1) (Int.lt_irrefl _)
    · rcases mem_cons.mp hb with rfl | hb
      · exact (hnew a ha hne).2
      · exact h.spaced a ha b hb hne hle

/-- An assignment is written. -/
theorem patch {core : State} {pass pass' : Stamping} (hphase : t.core.phase = .stamping pass)
    (hphase' : core.phase = .stamping pass') (hstatus : core.status = t.core.status)
    (htransition : pass'.transition = pass.transition) (hbootstrap : pass'.bootstrap = pass.bootstrap)
    (houtstanding : ∀ planned ∈ pass'.outstanding, planned ∈ pass.outstanding)
    (hwrites : ∀ w, newWrite t.core core = some w → ∃ planned ∈ pass.outstanding, w.stamp = planned.stamp) :
    Spaced time { t with core := core, elections := (t.election core).toList ++ t.elections } := by
  have hproceed : ∀ {t' : TimedState}, Spaced time t' → t'.core = t.core →
      Spaced time { t' with core := core } := by
    intro t' h' hcore
    refine h'.proceed (by rw [hstatus, hcore]) ?_ fun planned hplanned => ?_
    · simp [hcore, hphase, hphase', Phase.electing, htransition, hbootstrap]
    · rw [hphase'] at hplanned
      rw [hcore, hphase]
      exact houtstanding planned hplanned
  cases helection : t.election core with
  | none => exact hproceed h rfl
  | some e =>
    obtain ⟨now, hnow, helection⟩ := Option.bind_eq_some_iff.mp helection
    obtain ⟨w, hw, helection⟩ := Option.bind_eq_some_iff.mp helection
    obtain ⟨hmaster, rfl⟩ := of_ite_some helection
    rw [Bool.and_eq_true, beq_iff_eq] at hmaster
    obtain ⟨planned, hplanned, hstamp⟩ := hwrites w hw
    rw [hstamp] at hmaster ⊢
    refine hproceed (h.elect hmaster.1 hnow ?_ hmaster.2) rfl
    rwa [hphase]

/-- A pass begins. -/
theorem assign (hidle : t.core.phase = .idle) {cached : FailoverStatus}
    {gathered : ReplicationState} {marked : Bool}
    (hread : ReadsTransition time t (.assign cached podList gathered now marked))
    (hnow : t.time < now) {pass : EnginePass}
    (hpass : reconcileFailoverAssignments inst cached podList gathered now = pass)
    (probeDeaths : List ProbeDeath) :
    Spaced time { t with
      core := { t.core with
        status := if marked then t.core.status.mark now pass.downMarker else t.core.status
        phase := .stamping ⟨pass.stamps, none, false, pass.transition, false⟩ }
      time := now
      log := (now, sighting podList gathered) :: t.log
      probeDeaths := probeDeaths } := by
  have hall := h.recorded_of_not_hasPromoted (by simp [TimedState.hasPromoted, hidle, Phase.electing])
  have hstatus : (if marked then t.core.status.mark now pass.downMarker
      else t.core.status).transitionSince = t.core.status.transitionSince := by
    split
    · cases pass.downMarker <;> rfl
    · rfl
  have hbefore : ∀ e ∈ t.elections, e.1 < now := fun e he => Int.lt_of_le_of_lt (h.clock e he) hnow
  refine ⟨?_, fun e he => Int.le_of_lt (hbefore e he), fun e he => ?_, ?_, ?_, h.spaced⟩
  · intro now' hnow'
    cases hnow'
    exact Int.le_refl _
  · rcases hall e he with ⟨since, hsince, hle⟩ | hlost
    · exact .inl ⟨since, hstatus.trans hsince, hle⟩
    · exact .inr (.inr hlost)
  · intro helecting now' hnow' e he
    cases hnow'
    refine .inr ⟨hbefore e he, (hall e he).imp_left ?_⟩
    rintro ⟨since, hsince, hle⟩
    have htransition : pass.transition.isSome = true := by simpa [Phase.electing] using helecting
    rw [← hpass, reconcile_transition, Bool.and_eq_true] at htransition
    have hstored : cached.transitionSince = some (time.stored since) := by
      rw [hread cached rfl, hsince, Option.map_some]
    have hcooled := cooled_of_assigns htransition.2 (time.stored since) hstored
    have hkept := time.stored_mono e.1 since hle
    omega
  · intro helecting
    have htransition : pass.transition.isSome = true := by simpa [Phase.electing] using helecting
    subst hpass
    obtain ⟨master, hmaster⟩ := reconcile_master htransition
    refine ⟨master, hmaster, fun e he hcurrent => ?_⟩
    have hlt := hbefore e he
    have heq : now = e.1 := Option.some.inj hcurrent
    omega

/-- A pass ends. -/
theorem finish {marked cleared failed bootstrap : Bool} {transition : Option ℤ}
    (hphase : t.core.phase = .stamping ⟨[], none, failed, transition, bootstrap⟩) (hnow : t.time ≤ now) :
    Spaced time { t with
      core := { t.core with
        phase := .idle
        status := if transition.isSome && !failed && marked then
            t.core.status.recordTransition now bootstrap cleared
          else t.core.status }
      time := now
      unrecorded := t.unrecordedAfter (!t.core.phase.failed && marked) } := by
  refine h.of_recorded rfl (fun _ hlost => mem_append_right _ hlost)
    (fun now' hnow' => Int.le_trans (h.passes now' hnow') hnow) hnow rfl ?_
  intro e he
  rw [hphase]
  change _ ∨ e.1 ∈ t.unrecordedAfter (!failed && marked)
  cases hrecords : !failed && marked with
  | false =>
    rw [Bool.and_assoc, hrecords, Bool.and_false]
    exact h.recorded_after e he
  | true =>
    rw [Bool.and_assoc, hrecords, Bool.and_true]
    split
    · exact .inl ⟨now, rfl, Int.le_trans (h.clock e he) hnow⟩
    rename_i hnone
    refine (h.recorded_of_not_hasPromoted ?_ e he).imp_right (mem_append_right _)
    simp [TimedState.hasPromoted, hphase, Phase.electing, hnone]

end Spaced

/-- Every step keeps the invariant. -/
theorem spaced_step {inst : Instance} {time : StoredTime} {t t' : TimedState} {a : Label}
    (h : Spaced time t) (hreads : ReadsTransition time t a)
    (hstep : (timedSystem inst).step t a = some t') : Spaced time t' := by
  obtain ⟨core, hcore, hadvance⟩ := Option.bind_eq_some_iff.mp hstep
  cases passEffect_of_step hcore with
  | aside haside hphase _ htransition =>
    rw [t.advance_aside inst core haside] at hadvance
    cases hadvance
    exact h.proceed htransition (by rw [hphase]) fun planned hplanned => by rwa [hphase] at hplanned
  | bootstrap hidle =>
    cases hadvance
    refine h.of_recorded rfl (fun _ hlost => hlost) h.passes (Int.le_refl _) (by simp [Phase.electing]) ?_
    exact h.recorded_of_not_hasPromoted (by simp [TimedState.hasPromoted, hidle, Phase.electing])
  | assign hidle hpass =>
    obtain ⟨hnow, rfl⟩ := of_ite_some hadvance
    exact h.assign hidle hreads hnow hpass _
  | get hphase htransition hbootstrap houtstanding =>
    cases hadvance
    refine h.proceed rfl (by simp [hphase, Phase.electing, htransition, hbootstrap]) ?_
    rwa [hphase]
  | patch hphase hphase' hstatus htransition hbootstrap houtstanding hwrites =>
    cases hadvance
    exact h.patch hphase hphase' hstatus htransition hbootstrap houtstanding hwrites
  | finish hphase =>
    obtain ⟨hnow, rfl⟩ := of_ite_some hadvance
    exact h.finish hphase hnow
  | abort =>
    cases hadvance
    exact h.of_recorded rfl (fun _ hlost => mem_append_right _ hlost) h.passes (Int.le_refl _) rfl
      h.recorded_after

/-- If passes read the last transition, promotions after recorded ones are spaced. -/
theorem promotionsSpaced_of_recorded (inst : Instance) (time : StoredTime) {t : TimedState}
    (h : (timedSystem inst).Reachable (ReadsTransition time) t) : RecordedPromotionsSpaced time t := by
  refine (h.invariant (Spaced time) ?_ fun _ _ _ hinv hreads hstep =>
    spaced_step hinv hreads hstep).spaced
  rintro t ⟨hcore, hlog, -, helections, -⟩
  have hidle : t.core.phase = .idle := by rw [hcore]
  refine ⟨by simp [TimedState.passTime, hlog], ?_, ?_, ?_, ?_, ?_⟩
  · simp [helections]
  · simp [helections]
  · simp [helections]
  · simp [hidle, Phase.electing]
  · simp [RecordedPromotionsSpaced, helections]

def secondSilent : ReplicationState where
  redisNodes := GoMap.ofPairs
    [("10.0.0.1", ⟨"lr-redis-0", "10.0.0.1", "slave", "10.0.0.2", "down", 120, 3, "8f", "", true, .ok⟩),
      ("10.0.0.2", silentNode "lr-redis-1" "10.0.0.2" .timedOut)]
  sentinelNodes := ∅
  liveTopologyIPs := ["10.0.0.1", "10.0.0.2"]

/-- A pass assigns both roles; its status write succeeds or fails. -/
def promotionPass (now : ℤ) (gathered : ReplicationState) (marked : Bool) :
    List (TimedState → Label) :=
  [assignAt now gathered] ++ inTime (writeStamp ++ writeStamp) ++ [fun _ => .finish now marked marked]

def promotedTwice : TimedState :=
  ((timedSystem pairInstance).driveIf (ReadsTransition secondsKept) newTimed
    (inTime (bootstrappedPair true) ++ promotionPass 20000 masterSilent true ++
      promotionPass 31000 secondSilent true)).get (by decide)

/-- Both transitions are recorded, so the two promotions are spaced. -/
theorem promotedTwice_spaced :
    RecordedPromotionsSpaced secondsKept promotedTwice ∧
      promotedTwice.elections = [(31000, "lr-redis-0"), (20000, "lr-redis-1")] ∧
      promotedTwice.unrecorded = [] :=
  ⟨promotionsSpaced_of_recorded pairInstance secondsKept
    (.of_moves (newTimed_initial pairInstance) (by decide)), by decide⟩

/-- The first promotion is not recorded, and the other pod is promoted two seconds later. -/
def promotedInHaste : TimedState :=
  ((timedSystem pairInstance).driveIf (ReadsTransition secondsKept) newTimed
    (inTime (bootstrappedPair true) ++ promotionPass 20000 masterSilent false ++
      promotionPass 22000 secondSilent true)).get (by decide)

/-- After a failed status write nothing holds the second promotion back. -/
theorem promotedInHaste_not_spaced :
    (timedSystem pairInstance).Reachable (ReadsTransition secondsKept) promotedInHaste ∧
      ¬ PromotionsSpaced promotedInHaste := by
  refine ⟨.of_moves (newTimed_initial pairInstance) (by decide), fun h => ?_⟩
  unfold PromotionsSpaced at h
  exact absurd h (by decide)

end LittleRed.Failover
